import LittleMonkey.Swarm.Turns

/-! # The dispatch loop makes moves

The loop handles the nodes in the order of the specification.  A node that has a
job already is attached to it, a node of a clustered graph first gets its
intent, and only a node with neither is enqueued.
-/

namespace LittleMonkey.Swarm.Resident

open Durable Primitives Relation List

variable {sha : Bytes → String} {t : Turn} {id : String}

/-! ## Node states -/

namespace NodeState

theorem isOpen_dispatched (state : NodeState) : state.dispatched.isOpen = false := by
  cases state <;> rfl

theorem ready_eq_self {state : NodeState} {clustered} (hOpen : state.isOpen = true)
    (h : state.isPending = !clustered) : state.ready clustered = state := by
  cases clustered <;> cases state <;> first | rfl | (cases hOpen; done) | (cases h; done)

theorem matches_of_isOpen {state : NodeState} (hOpen : state.isOpen = true) :
    (if state.isFallback then state == .pendingFallback || state == .preparingFallback
      else state == .pending || state == .preparing) = true := by
  cases state <;> first | rfl | cases hOpen

end NodeState

theorem Graph.stage_intended (g : Graph) (node : String) (state : NodeState) :
    g.stage node state.intended = g.stage node state := by
  cases state <;> rfl

/-! ## Between two nodes -/

namespace Midway

variable {base s s' : Service} {start g g' : Graph} {active active' : Nat}
  {before rest : List ResidentSwarmNode} {node : ResidentSwarmNode}

section

variable (h : Midway sha t id base start active before (node :: rest) s g)

include h

theorem node_ne {other} (hOther : other ∈ before ∨ other ∈ rest) : other.id ≠ node.id := by
  have hNodup := h.nodup
  rw [ResidentSwarmSpec.nodeIds, h.nodes, map_append, map_cons] at hNodup
  have hMiddle := nodup_middle.mp hNodup
  intro hEq
  refine (nodup_cons.mp hMiddle).1 ?_
  rw [← hEq, mem_append]
  exact hOther.imp mem_map_of_mem mem_map_of_mem

theorem advance (hGraph : s'.graphs.lookup id = some g') (hSpec : g'.spec = g.spec)
    (hState : g'.state = g.state) (hAttempts : ∀ other, g'.attempts other = g.attempts other)
    (hOthers : ∀ other, other ≠ node.id → g'.row other = g.row other)
    (hKept : ∀ row, start.row node.id = some row → row.state.isOpen = false → g'.row node.id = some row)
    (hGrown : ∀ jobId, (s.jobs.lookup jobId).isSome = true → (s'.jobs.lookup jobId).isSome = true)
    (hJobs : ∀ jobId, s'.jobs.lookup jobId = s.jobs.lookup jobId ∨
      ((∃ row, start.row node.id = some row ∧ row.state.isOpen = true) ∧
        (∀ row, g'.row node.id = some row → row.state.isOpen = false) ∧
        ∃ state, jobId = stableJobId sha ⟨id, node.id, start.stage node.id state⟩))
    (hCleared : ∀ row, g'.row node.id = some row → row.state.isOpen = true →
      (base.stageJob sha id start node.id row.state).isSome = true → Skipped t id start node)
    (hActive : if g'.row node.id = start.row node.id then active ≤ active' else active + 1 ≤ active') :
    Midway sha t id base start active' (before ++ [node]) rest s' g' where
  graphAt := hGraph
  specEq := hSpec.trans h.specEq
  running := hState.trans h.running
  plain := h.plain
  nodes := by rw [h.nodes, append_assoc, singleton_append]
  nodup := h.nodup
  attempts other := (hAttempts other).trans (h.attempts other)
  kept other row hRow hClosed := by
    by_cases hOther : other = node.id
    · subst hOther
      exact hKept row hRow hClosed
    · rw [hOthers other hOther]
      exact h.kept other row hRow hClosed
  ahead other hOther := by
    rw [hOthers other.id (h.node_ne (.inr hOther))]
    exact h.ahead other (mem_cons_of_mem _ hOther)
  grown jobId hBase := hGrown jobId (h.grown jobId hBase)
  jobs jobId := by
    rcases hJobs jobId with hSame | hNew
    · rcases h.jobs jobId with hBase | ⟨other, hOther, hOpen, hClosed, hKey⟩
      · exact .inl (hSame.trans hBase)
      · refine .inr ⟨other, mem_append_left _ hOther, hOpen, ?_, hKey⟩
        rwa [hOthers other.id (h.node_ne (.inl hOther))]
    · exact .inr ⟨node, mem_append_right _ (mem_singleton_self node), hNew⟩
  cleared other hOther row hRow hOpen hJob := by
    rcases mem_append.mp hOther with hBefore | hNode
    · rw [hOthers other.id (h.node_ne (.inl hBefore))] at hRow
      exact h.cleared other hBefore row hRow hOpen hJob
    · obtain rfl := mem_singleton.mp hNode
      exact hCleared row hRow hOpen hJob
  room := by
    obtain ⟨counted, hCard, hCounted⟩ := h.room
    by_cases hSame : g'.row node.id = start.row node.id
    · rw [if_pos hSame] at hActive
      refine ⟨counted, hCard.trans hActive, fun other hWhy => ?_⟩
      by_cases hOther : other = node.id
      · subst hOther
        exact hCounted node.id (hWhy.imp_right fun hNe => absurd hSame hNe)
      · rw [hOthers other hOther] at hWhy
        exact hCounted other hWhy
    · rw [if_neg hSame] at hActive
      refine ⟨insert node.id counted, ?_, fun other hWhy => ?_⟩
      · have := Finset.card_insert_le node.id counted
        omega
      · by_cases hOther : other = node.id
        · subst hOther
          exact Finset.mem_insert_self _ _
        · rw [hOthers other hOther] at hWhy
          exact Finset.mem_insert_of_mem (hCounted other hWhy)

theorem pass (hCleared : ∀ row, start.row node.id = some row → row.state.isOpen = true →
      (base.stageJob sha id start node.id row.state).isSome = true → Skipped t id start node) :
    Midway sha t id base start active (before ++ [node]) rest s g := by
  have hRow := h.ahead node mem_cons_self
  refine h.advance h.graphAt rfl rfl (fun _ => rfl) (fun _ _ => rfl)
    (fun row hStart _ => hRow.trans hStart) (fun _ hJob => hJob) (fun _ => .inl rfl)
    (fun row hNow hOpen hJob => hCleared row (hRow.symm.trans hNow) hOpen hJob) ?_
  rw [if_pos hRow]

end

theorem stage_eq (h : Midway sha t id base start active before rest s g) (node : String)
    (state : NodeState) : g.stage node state = start.stage node state := by
  simp [Graph.stage, h.attempts]

end Midway

/-! ## One node -/

section

variable {base s : Service} {start g : Graph} {active : Nat}
  {before rest : List ResidentSwarmNode} {node : ResidentSwarmNode} {row : NodeRow}

abbrev Path (sha : Bytes → String) (t : Turn) (id : String) (base : Service) (start : Graph) :
    Service → Prop :=
  ReflTransGen (Dispatch sha t id base start) base

abbrev Cutoff (sha : Bytes → String) (t : Turn) (id : String) (base : Service) (start : Graph) :
    Stop String → Service → Prop :=
  Cut (Path sha t id base start) t.Mortal False

def Handled (sha : Bytes → String) (t : Turn) (id : String) (base : Service) (start : Graph)
    (active : Nat) (before rest : List ResidentSwarmNode) (node : ResidentSwarmNode) : Flow → Service → Prop
  | .next started, s => Path sha t id base start s ∧
    ∃ g, Midway sha t id base start (active + started.toNat) (before ++ [node]) rest s g
  | .leave, s => Path sha t id base start s

section

variable (h : Midway sha t id base start active before (node :: rest) s g)

include h

theorem Midway.setNode
    (hRow : start.row node.id = some row) (hOpen : row.state.isOpen = true) (next : NodeRow)
    (hNext : next.state.isOpen = false ∨ (base.stageJob sha id start node.id next.state).isSome = false) :
    Midway sha t id base start (active + 1) (before ++ [node]) rest
      (s.setGraph id (g.setNode node.id next)) (g.setNode node.id next) := by
  refine h.advance (s.lookup_setGraph id _) rfl rfl (fun _ => rfl)
    (fun _ hNe => g.row_setNode_of_ne _ hNe) ?_ (fun _ hJob => hJob) (fun _ => .inl rfl) ?_ ?_
  · intro other hOther hClosed
    cases hOther.symm.trans hRow
    rw [hOpen] at hClosed
    cases hClosed
  · intro other hOther hNextOpen hJob
    rw [g.row_setNode] at hOther
    cases hOther
    rcases hNext with hClosed | hNone
    · rw [hNextOpen] at hClosed
      cases hClosed
    · rw [hJob] at hNone
      cases hNone
  · split <;> omega

theorem reattach_spec (hPath : Path sha t id base start s) (hRow : start.row node.id = some row)
    (hOpen : row.state.isOpen = true) : Triple (· = s) (reattachDurableJobStage t id node.id
        (stableJobId sha ⟨id, node.id, g.stage node.id row.state⟩) row.state.isFallback)
      (fun done s' =>
        if done then Handled sha t id base start active before rest node (.next true) s'
        else s' = s ∧ s.stageJob sha id g node.id row.state = none)
      (Cutoff sha t id base start) := by
  have hNow := (h.ahead node mem_cons_self).trans hRow
  unfold reattachDurableJobStage getJob
  refine .read_bind ?_
  cases hJob : s.jobs.lookup (stableJobId sha ⟨id, node.id, g.stage node.id row.state⟩) with
  | none =>
    exact .pureAt ⟨rfl, hJob⟩
  | some job =>
    have hSome : (s.stageJob sha id g node.id row.state).isSome = true := by
      simp [Service.stageJob, hJob]
    have hMove := hPath.tail (.attach h.graphAt hNow hOpen hSome)
    refine updateNode_bind h.graphAt hNow (NodeState.matches_of_isOpen hOpen) (.crashed hMove) ?_
    exact .pureAt ⟨hMove, _, h.setNode hRow hOpen _ (.inl row.state.isOpen_dispatched)⟩

theorem Midway.fresh {state} (hNone : s.stageJob sha id g node.id state = none) :
    (base.stageJob sha id start node.id state).isSome = false := by
  cases hBase : (base.stageJob sha id start node.id state).isSome with
  | false => rfl
  | true =>
    have hGrown := h.grown _ hBase
    rw [← h.stage_eq] at hGrown
    unfold Service.stageJob at hNone
    rw [hNone] at hGrown
    cases hGrown

theorem intend_spec (hPath : Path sha t id base start s) (hRow : start.row node.id = some row)
    (hPending : row.state.isPending = true) (hClustered : start.spec.clusterId.isSome = true) :
    Triple (· = s) (intend sha t id node.id row.state (g.stage node.id row.state))
      (Handled sha t id base start active before rest node)
      (Cutoff sha t id base start) := by
  have hNow := (h.ahead node mem_cons_self).trans hRow
  have hOpen : row.state.isOpen = true := by
    cases hState : row.state <;> rw [hState] at hPending <;> first | rfl | cases hPending
  unfold intend
  refine (reattach_spec h hPath hRow hOpen).bind fun done => ?_
  cases done with
  | true => exact .pure fun _ hNext => hNext
  | false =>
    refine .of_forall ?_
    rintro _ ⟨rfl, hNone⟩
    have hMove := hPath.tail (.intend h.graphAt hNow hPending (h.specEq ▸ hClustered) hNone)
    have hFresh := h.fresh hNone
    rw [Service.stageJob, ← Graph.stage_intended] at hFresh
    refine updateNode_bind h.graphAt hNow (by simp) (.crashed hMove) ?_
    exact .pureAt ⟨hMove, _, h.setNode hRow hOpen _ (.inr hFresh)⟩

end

theorem failNode_spec (hPath : Path sha t id base start s)
    (hGraph : s.graphs.lookup id = some g) (hRow : g.row node.id = some row) (hOpen : row.state.isOpen = true)
    (hDead : s.live (stableJobId sha ⟨id, node.id, g.stage node.id row.state⟩) = false) :
    Triple (· = s) (failNode t id node.id) (Handled sha t id base start active before rest node)
      (Cutoff sha t id base start) := by
  have hFailed := hPath.tail (.fail hGraph hRow hOpen hDead)
  unfold failNode
  refine updateNode_bind hGraph hRow rfl (.crashed hFailed) ?_
  have hFailing := hFailed.tail (.failing (s.lookup_setGraph id _))
  exact .bind (setState_spec (Q := fun _ s' => Path sha t id base start s')
    (s.lookup_setGraph id _) hFailing (.crashed hFailing)) fun _ => .pure fun _ hNext => hNext

def Service.inserted (s : Service) (id : String) (g : Graph) (node : String) (stage : Stage)
    (jobId : String) : Service :=
  (s.setJob jobId ⟨.preparing, false, none⟩).setGraph id
    { g with dispatched := g.dispatched ++ [(node, stage)] }

def Refused (sha : Bytes → String) (t : Turn) (id : String) (base : Service) (start : Graph)
    (node : String) (row : NodeRow) : Stop String → Service → Prop
  | .crashed, s => Path sha t id base start s ∧ t.Mortal
  | .failed _, s => Path sha t id base start s ∧ ∃ g, s.graphs.lookup id = some g ∧
    g.row node = some row ∧ s.live (stableJobId sha ⟨id, node, g.stage node row.state⟩) = false

theorem enqueue_spec (input : String) (hPath : Path sha t id base start s)
    (h : Insertion sha t id base start s g node row) :
    Triple (· = s) (enqueue sha t id node (g.stage node.id row.state) input)
      (fun queued s' => queued = stableJobId sha ⟨id, node.id, g.stage node.id row.state⟩ ∧
        Path sha t id base start s' ∧ ∃ runId, s' = (s.inserted id g node.id
          (g.stage node.id row.state) queued).setJob queued ⟨.queued, false, some runId⟩)
      (Refused sha t id base start node.id row) := by
  obtain ⟨_, _, _, hMidway, _⟩ := h.midway
  have hGraph := hMidway.graphAt
  have hFresh : s.jobs.lookup (stableJobId sha ⟨id, node.id, g.stage node.id row.state⟩) = none := h.fresh
  have hRefused : ∀ message, Refused sha t id base start node.id row (.failed message) s := by
    intro message
    exact ⟨hPath, g, hGraph, h.rowAt, by simp [Service.live, hFresh]⟩
  have hInserted : Path sha t id base start (s.inserted id g node.id
      (g.stage node.id row.state) (stableJobId sha ⟨id, node.id, g.stage node.id row.state⟩)) :=
    hPath.tail (.insert h)
  have hJob (next : SwarmJob) : Path sha t id base start ((s.inserted id g node.id
      (g.stage node.id row.state)
      (stableJobId sha ⟨id, node.id, g.stage node.id row.state⟩)).setJob
      (stableJobId sha ⟨id, node.id, g.stage node.id row.state⟩) next) := by
    refine hInserted.tail (@Dispatch.prepare sha t id base start _
      { g with dispatched := g.dispatched ++ [(node.id, g.stage node.id row.state)] }
      node.id row ⟨.preparing, false, none⟩ next (Service.lookup_setGraph _ id _) h.rowAt ?_ rfl)
    exact Service.lookup_setJob s _ ⟨.preparing, false, none⟩
  have hAbandoned : ∀ message, Refused sha t id base start node.id row (.failed message)
      ((s.inserted id g node.id (g.stage node.id row.state)
        (stableJobId sha ⟨id, node.id, g.stage node.id row.state⟩)).setJob
        (stableJobId sha ⟨id, node.id, g.stage node.id row.state⟩) ⟨.failed, false, none⟩) := by
    intro message
    refine ⟨hJob _, _, Service.lookup_setGraph _ id _, h.rowAt, ?_⟩
    exact congrArg _ (Service.lookup_setJob _ _ _)
  unfold enqueue getJob
  generalize g.stage node.id row.state = stage at *
  generalize stableJobId sha ⟨id, node.id, stage⟩ = jobId at *
  dsimp only
  split
  · exact .failAt (hRefused _)
  cases t.refusal id node.id with
  | some refusal =>
    exact .failAt (hRefused _)
  | none =>
    refine .read_bind ?_
    rw [hFresh]
    cases t.prepare id node.id input with
    | error error =>
      exact .failAt (hRefused _)
    | ok _ =>
      have hWritten : (s.setJob jobId ⟨.preparing, false, none⟩).modify id
          (fun g => { g with dispatched := g.dispatched ++ [(node.id, stage)] }) =
          s.inserted id g node.id stage jobId := Service.modify_of_lookup (s := s.setJob jobId _) hGraph _
      refine .durable_bind (fun hDies => ?_) ?_
      · rw [hWritten]
        exact ⟨hInserted, _, _, hDies⟩
      rw [hWritten]
      cases t.snapshot id node.id with
      | error error =>
        exact .durable_bind (fun hDies => ⟨hJob _, _, _, hDies⟩) (.failAt (hAbandoned error))
      | ok runId =>
        exact .durable_bind (fun hDies => ⟨hJob _, _, _, hDies⟩) (.pureAt ⟨rfl, hJob _, runId, rfl⟩)

section

variable (h : Midway sha t id base start active before (node :: rest) s g)

include h

theorem record_spec (hRow : start.row node.id = some row) (hOpen : row.state.isOpen = true)
    (hPending : row.state.isPending = !start.spec.clusterId.isSome) {jobId runId : String}
    (hId : jobId = stableJobId sha ⟨id, node.id, g.stage node.id row.state⟩)
    (hPath : Path sha t id base start ((s.inserted id g node.id
      (g.stage node.id row.state) jobId).setJob jobId ⟨.queued, false, some runId⟩)) :
    Triple (· = (s.inserted id g node.id (g.stage node.id row.state) jobId).setJob jobId
        ⟨.queued, false, some runId⟩)
      (updateNode t id node.id (.record node.id)
        (·.state == row.state.ready start.spec.clusterId.isSome)
        fun _ => ⟨row.state.dispatched, some jobId⟩)
      (fun _ => Handled sha t id base start active before rest node (.next true))
      (Cutoff sha t id base start) := by
  have hNow := (h.ahead node mem_cons_self).trans hRow
  subst hId
  have hJob := Service.lookup_setJob (s.inserted id g node.id
    (g.stage node.id row.state)
    (stableJobId sha ⟨id, node.id, g.stage node.id row.state⟩))
    (stableJobId sha ⟨id, node.id, g.stage node.id row.state⟩) ⟨.queued, false, some runId⟩
  have hMove := hPath.tail (@Dispatch.attach sha t id base start _
    { g with dispatched := g.dispatched ++ [(node.id, g.stage node.id row.state)] }
    node.id row (Service.lookup_setGraph _ id _) hNow hOpen (congrArg Option.isSome hJob))
  refine updateNode_spec (g := { g with dispatched := g.dispatched ++ [(node.id, g.stage node.id row.state)] })
    ?_ hNow ?_ ?_ ?_
  · exact Service.lookup_setGraph _ id _
  · rw [NodeState.ready_eq_self hOpen hPending, beq_self_eq_true]
  · exact .crashed hMove
  refine ⟨hMove, _, h.advance (Service.lookup_setGraph _ id _) rfl rfl (fun _ => rfl)
    (fun _ hNe => Graph.row_setNode_of_ne _ _ hNe) ?_ ?_ ?_ ?_ ?_⟩
  · intro other hOther hClosed
    cases hOther.symm.trans hRow
    rw [hOpen] at hClosed
    cases hClosed
  · intro other hSome
    by_cases hOther : other = stableJobId sha ⟨id, node.id, g.stage node.id row.state⟩
    · rw [hOther]
      exact congrArg Option.isSome hJob
    · simpa [Service.inserted, Service.lookup_setJob_of_ne _ _ hOther] using hSome
  · intro other
    by_cases hOther : other = stableJobId sha ⟨id, node.id, g.stage node.id row.state⟩
    · refine .inr ⟨⟨row, hRow, hOpen⟩, ?_, row.state, by rw [hOther, h.stage_eq]⟩
      intro row' hRow'
      rw [Graph.row_setNode] at hRow'
      cases hRow'
      exact row.state.isOpen_dispatched
    · exact .inl (by simp [Service.inserted, Service.lookup_setJob_of_ne _ _ hOther])
  · intro row' hRow' hYes
    rw [Graph.row_setNode] at hRow'
    cases hRow'
    rw [row.state.isOpen_dispatched] at hYes
    cases hYes
  · split
    · exact Nat.le_succ _
    · exact Nat.le_refl _

theorem launch_spec (hPath : Path sha t id base start s) (hRoom : active < start.spec.maxParallel)
    (hRow : start.row node.id = some row) (hOpen : row.state.isOpen = true)
    (hPending : row.state.isPending = !start.spec.clusterId.isSome)
    (hDependencies : ∀ dep ∈ node.dependsOn, (start.row dep).map (·.state) = some .succeeded) : Triple (· = s)
      (launch sha t id start.spec start.tasks node row.state (g.stage node.id row.state))
      (Handled sha t id base start active before rest node)
      (Cutoff sha t id base start) := by
  have hNow := (h.ahead node mem_cons_self).trans hRow
  unfold launch
  refine (reattach_spec h hPath hRow hOpen).bind fun done => ?_
  cases done with
  | true => exact .pure fun _ hNext => hNext
  | false =>
    refine .of_forall ?_
    rintro s' ⟨hSame, hNone⟩
    subst s'
    refine .read_bind ?_
    cases taskInput t id node row.state.isFallback start.tasks s.jobs with
    | error error =>
      refine failNode_spec hPath h.graphAt hNow hOpen ?_
      unfold Service.stageJob at hNone
      simp [Service.live, hNone]
    | ok input =>
      refine .read_bind ?_
      rw [h.graphAt]
      cases hAllowed : start.spec.clusterId.isSome && !(t.ownsAtEnqueue id node.id &&
          (some g).any (t.majorityAtEnqueue id node.id)) with
      | true =>
        exact .pureAt hPath
      | false =>
        have hInsertion : Insertion sha t id base start s g node row :=
          { midway := ⟨active, before, rest, h, h.specEq ▸ hRoom⟩
            rowAt := hNow
            isOpen := hOpen
            fresh := hNone
            dependencies := hDependencies }
        refine .bind (.weaken (enqueue_spec input hPath hInsertion).attempt
          (fun _ hs => hs) (fun _ _ hs => hs) ?_) fun answer => ?_
        · rintro _ s' ⟨rfl, hStop⟩
          exact .crashed hStop.1 hStop.2
        · cases answer with
          | ok queued =>
            refine .of_forall ?_
            rintro _ ⟨hAnswer, _⟩
            obtain ⟨hId, hQueued, runId, rfl⟩ := hAnswer queued rfl
            exact (record_spec h hRow hOpen hPending hId hQueued).bind fun _ =>
              Triple.pure fun _ hNext => hNext
          | error message =>
            refine .of_forall ?_
            rintro s' ⟨_, hAnswer⟩
            obtain ⟨hPath', g', hGraph', hRow', hDead⟩ := hAnswer message rfl
            cases t.refusesAfter id node.id with
            | true =>
              exact .pureAt hPath'
            | false => exact failNode_spec hPath' hGraph' hRow' hOpen hDead

theorem dispatchNode_spec (hPath : Path sha t id base start s) (hRoom : active < start.spec.maxParallel) :
    Triple (· = s) (dispatchNode sha t id start.spec start.tasks node)
      (Handled sha t id base start active before rest node)
      (Cutoff sha t id base start) := by
  have hPass (hCleared : ∀ row, start.row node.id = some row → row.state.isOpen = true →
      (base.stageJob sha id start node.id row.state).isSome = true → Skipped t id start node) :
      Triple (· = s) (pure (.next false) : ServiceM Flow)
        (Handled sha t id base start active before rest node)
        (Cutoff sha t id base start) := by
    exact .pureAt ⟨hPath, g, h.pass hCleared⟩
  unfold dispatchNode
  rw [start.stateIn_tasks]
  cases hRow : start.row node.id with
  | none => exact hPass fun row hSome => by rw [hRow] at hSome; cases hSome
  | some row =>
    simp only [Option.map_some]
    cases hOpen : row.state.isOpen with
    | false =>
      refine hPass fun other hOther hYes => ?_
      cases hOther.symm.trans hRow
      rw [hOpen] at hYes
      cases hYes
    | true =>
      simp only [start.stateIn_tasks]
      cases hReady : node.dependsOn.all fun dep =>
          (start.row dep).map (·.state) == some .succeeded with
      | false =>
        obtain ⟨dep, hDep, hState⟩ := all_eq_false.mp hReady
        exact hPass fun _ _ _ _ => .inl ⟨dep, hDep, by simpa using hState⟩
      | true =>
        have hDependencies : ∀ dep ∈ node.dependsOn, (start.row dep).map (·.state) = some .succeeded := by
          simpa using hReady
        refine .read_bind ?_
        simp only [h.graphAt, Option.any_some]
        cases hClustered : start.spec.clusterId.isSome with
        | false =>
          have hPending := h.plain hClustered node.id row hRow hOpen
          exact launch_spec h hPath hRoom hRow hOpen (by rw [hPending, hClustered]; rfl) hDependencies
        | true =>
          cases hPending : row.state.isPending with
          | true => exact intend_spec h hPath hRow hPending hClustered
          | false =>
            cases hMajority : t.majority id node.id g with
            | false => exact hPass fun _ _ _ _ => .inr ⟨hClustered, g, hMajority⟩
            | true =>
              exact launch_spec h hPath hRoom hRow hOpen (by rw [hPending, hClustered]; rfl)
                hDependencies

end

theorem dispatchNodes_spec (rest : List ResidentSwarmNode) :
    ∀ active before s g, Midway sha t id base start active before rest s g → Path sha t id base start s →
      Triple (· = s) (dispatchNodes sha t id start.spec start.tasks active rest)
        (fun _ => Path sha t id base start) (Cutoff sha t id base start) := by
  induction rest with
  | nil =>
    intro active before s g _ hPath
    exact .pureAt hPath
  | cons node rest ih =>
    intro active before s g h hPath
    unfold dispatchNodes
    split
    · exact .pureAt hPath
    next hFull =>
      refine (dispatchNode_spec h hPath (Nat.lt_of_not_le hFull)).bind fun flow => ?_
      cases flow with
      | next started =>
        refine .of_forall ?_
        rintro s' ⟨hPath', g', h'⟩
        exact ih _ _ s' g' h' hPath'
      | leave => exact .skip

end

/-! ## A turn -/

def Service.Lacks (s : Service) (id : String) : Prop :=
  ∃ g, s.graphs.lookup id = some g ∧ ∃ task ∈ g.tasks, s.lacks task = true

theorem Settle.lacks_iff {s s'} (hMove : Settle sha id s s') : s'.Lacks id ↔ s.Lacks id := by
  obtain ⟨g, g', node, row, row', jobId, job, rfl, h⟩ := hMove.moved
  constructor
  · rintro ⟨_, hGraph, task, hTask, hLacks⟩
    rw [s.lookup_setGraph] at hGraph
    cases hGraph
    refine ⟨g, h.current.graphAt, task, Graph.mem_tasks.mpr ?_, hLacks⟩
    rw [← h.others task.1 ?_]
    · exact Graph.mem_tasks.mp hTask
    · intro hEq
      have hRow := h.rowAt.symm.trans (hEq ▸ Graph.mem_tasks.mp hTask)
      simp [Service.lacks, ← Option.some.inj hRow, h.notSubmitted] at hLacks
  · rintro ⟨_, hGraph, task, hTask, hLacks⟩
    cases hGraph.symm.trans h.current.graphAt
    refine ⟨g', s.lookup_setGraph id g', task, Graph.mem_tasks.mpr ?_, hLacks⟩
    rw [h.others task.1 ?_]
    · exact Graph.mem_tasks.mp hTask
    · intro hEq
      have hRow := h.current.rowAt.symm.trans (hEq ▸ Graph.mem_tasks.mp hTask)
      simp [Service.lacks, ← Option.some.inj hRow, h.current.recorded, h.current.jobAt] at hLacks

theorem lacks_iff_of_settled {s₀ s} (h : ReflTransGen (Settle sha id) s₀ s) : s.Lacks id ↔ s₀.Lacks id := by
  induction h with
  | refl => rfl
  | tail _ hMove ih => exact hMove.lacks_iff.trans ih

/-- The turn at the graph ends in an error: its specification is refused, or a job row is gone. -/
def Blocked (t : Turn) (s : Service) (id : String) (g : Graph) : Prop :=
  (∃ error, validate g.spec = .error error) ∨
    (g.state == .running && g.spec.clusterId.isSome && !t.ownsAtStart id) = false ∧ s.Lacks id

theorem tickGraph_spec {s₀ g} (hGraph : s₀.graphs.lookup id = some g)
    (hPlain : g.Plain) (hOpen : g.state.isTerminal = false) :
    Triple (· = s₀) (tickGraph sha t id g.spec g.state)
      (fun _ s => Turned sha t id s₀ s ∧ ¬ Blocked t s₀ id g)
      (Cut (Turned sha t id s₀) t.Mortal (t.now id ≤ 0 ∨ Blocked t s₀ id g)) := by
  unfold tickGraph
  cases hValid : validate g.spec with
  | error error =>
    exact .failAt ⟨.settled .refl, .inr (.inr (.inl ⟨error, hValid⟩))⟩
  | ok order =>
    have hValid' : ¬ ∃ error, validate g.spec = .error error := by simp [hValid]
    dsimp only
    split
    next hGated =>
      exact .pureAt ⟨.settled .refl, by simp [Blocked, hValid', hGated]⟩
    rename_i hGated
    refine .read_bind ?_
    simp only [hGraph]
    refine ((settle_spec hGraph hPlain).weaken (fun _ hs => hs) (fun _ _ hs => hs)
      fun _ _ hCut => ⟨.settled hCut.1, hCut.2.imp_right .inl⟩).bind fun tally => .of_forall ?_
    rintro s₁ ⟨g₁, h⟩
    refine .read_bind ?_
    simp only [h.graphAt]
    have hBlocked : Blocked t s₀ id g ↔ ∃ task ∈ g₁.tasks, s₁.lacks task = true := by
      rw [Blocked, ← lacks_iff_of_settled h.path]
      simp [hValid', hGated, Service.Lacks, h.graphAt]
    have hPresent (hKept : tally.failure ≠ true) : ¬ Blocked t s₀ id g := by
      rw [hBlocked]
      rintro ⟨task, hTask, hLacks⟩
      exact hKept ((h.lost task (Graph.mem_tasks.mp hTask) hLacks).resolve_left not_mem_nil)
    have hSettled (hKept : tally.failure ≠ true) : Triple (· = s₁) (pure () : ServiceM Unit)
        (fun _ s => Turned sha t id s₀ s ∧ ¬ Blocked t s₀ id g)
        (Cut (Turned sha t id s₀) t.Mortal (t.now id ≤ 0 ∨ Blocked t s₀ id g)) := by
      exact .pureAt ⟨.settled h.path, hPresent hKept⟩
    split
    next hWhy =>
      have hStopping : Stopping s₁ g₁ := by
        simp only [Bool.or_eq_true, beq_iff_eq, any_eq_true] at hWhy
        rcases hWhy with (hState | hState) | hFailure | ⟨task, hTask, hFailed⟩
        · exact .inl (h.stateEq.trans hState)
        · exact .inr (.inl (h.stateEq.trans hState))
        · exact h.failure hFailure
        · exact .inr (.inr ⟨task.1, task.2, Graph.mem_tasks.mp hTask, .inl hFailed⟩)
      refine (stopGraph_spec _ _ h.graphAt).weaken (fun _ hs => hs)
        (fun _ _ hStop => ⟨.stopped h.path h.graphAt hStopping hStop.1, ?_⟩)
        fun _ _ hStop => ⟨.stopped h.path h.graphAt hStopping hStop.1, ?_⟩
      · rw [hBlocked]
        rintro ⟨task, hTask, hLacks⟩
        rw [hStop.2 task hTask] at hLacks
        cases hLacks
      · exact hStop.2.imp_right fun hLacks => .inr (hBlocked.mpr hLacks)
    rename_i hGoesOn
    have hKept : tally.failure ≠ true := fun hFailure => hGoesOn (by simp [hFailure])
    split
    next hAll =>
      have hRows : ∀ node row, g₁.row node = some row → row.state = .succeeded := by
        intro node row hRow
        simpa using all_eq_true.mp hAll (node, row) (Graph.mem_tasks.mpr hRow)
      exact setState_spec h.graphAt ⟨.succeeded h.path h.graphAt hRows, hPresent hKept⟩
        (.crashed (.succeeded h.path h.graphAt hRows))
    split
    · exact hSettled hKept
    split
    · exact hSettled hKept
    have hNoFailed : ∀ node row, g₁.row node = some row → row.state ≠ .failed := by
      intro node row hRow hFailed
      refine hGoesOn ?_
      have hAny : g₁.tasks.any (·.2.state == .failed) = true :=
        any_eq_true.mpr ⟨(node, row), Graph.mem_tasks.mpr hRow, by simp [hFailed]⟩
      simp [hAny]
    have hRunning : g₁.state = .running := by
      rw [h.stateEq]
      cases hState : g.state <;> simp_all [GraphState.isTerminal]
    obtain ⟨counted, hCard, hCounted⟩ := h.counted
    have hMidway : Midway sha t id s₁ g₁ tally.active [] g.spec.nodes s₁ g₁ :=
      { graphAt := h.graphAt
        specEq := rfl
        running := hRunning
        plain := h.plain
        nodes := by rw [h.specEq, nil_append]
        nodup := h.specEq ▸ (sound_of_validate hValid).nodup
        attempts := fun _ => rfl
        kept := fun _ _ hRow _ => hRow
        ahead := fun _ _ => rfl
        grown := fun _ hJob => hJob
        jobs := fun _ => .inl rfl
        cleared := nofun
        room := ⟨counted, hCard, fun node hWhy =>
          (hCounted node (hWhy.resolve_right fun hNe => hNe rfl)).resolve_right not_mem_nil⟩ }
    rw [← h.specEq]
    exact (dispatchNodes_spec _ _ _ _ _ (h.specEq ▸ hMidway) .refl).weaken (fun _ hs => hs)
      (fun _ _ hPath => ⟨.dispatched h.path h.graphAt hNoFailed hPath, hPresent hKept⟩)
      fun _ _ hCut => ⟨.dispatched h.path h.graphAt hNoFailed hCut.1, hCut.2.imp_right False.elim⟩

end LittleMonkey.Swarm.Resident
