import LittleMonkey.Swarm.Orphans

/-! # The bound on parallel jobs

The dispatch loop counts the nodes it finds submitted and those it attaches or
starts.  A live job that its node is not attached to is not counted until the
loop reaches the node, so the bound holds in the runs where the loop reaches it
before any node it could start.
-/

namespace LittleMonkey.Swarm.Resident

open Daemon Durable Primitives Relation List Option

/-! ## The condition -/

def Service.liveJobs (s : Service) (sha : Bytes → String) (id : String) (g : Graph) :
    List (String × Stage) :=
  g.dispatched.filter fun entry => s.live (stableJobId sha ⟨id, entry.1, entry.2⟩)

def Service.recordedState (s : Service) (row : NodeRow) : Option JobState :=
  (row.jobId.bind s.jobs.lookup).map (·.state)

def Service.loose (s : Service) (sha : Bytes → String) (id : String) (g : Graph)
    (node : String) : Bool :=
  (g.row node).any (s.unattached sha id g node)

/-- The node has no job for its next attempt, or is about to get to an attempt
that has none. -/
def Service.jobless (s : Service) (sha : Bytes → String) (id : String) (g : Graph)
    (node : String) : Bool :=
  (g.row node).any fun row =>
    row.state.isOpen && (s.stageJob sha id g node row.state).isNone ||
      row.state.isSubmitted && s.recordedState row == some .failed

def Service.reached (s : Service) (g : Graph) (node : String) : Bool :=
  (g.row node).any fun row => row.state == .succeeded ||
    row.state.isSubmitted && s.recordedState row == some .succeeded

def Service.mayLaunch (s : Service) (sha : Bytes → String) (id : String) (g : Graph)
    (node : ResidentSwarmNode) : Bool :=
  s.jobless sha id g node.id && node.dependsOn.all (s.reached g)

/-- The loop reaches the unattached jobs before any node it may enqueue, and
attaches them. -/
structure Ordered (sha : Bytes → String) (t : Turn) (s : Service) (id : String) (g : Graph) :
    Prop where
  nodes : g.spec.nodes.Pairwise fun a b =>
    s.loose sha id g b.id = true → s.mayLaunch sha id g a = false
  majority : g.spec.clusterId.isSome = true → ∀ node, s.loose sha id g node = true →
    ∀ g', t.majority id node g' = true

def Action.attachesInOrder (sha : Bytes → String) : Action → Service → Prop
  | .tick t, s => ∀ entry ∈ openGraphs s, Ordered sha t s entry.1 entry.2
  | _, _ => True

section

variable {sha : Bytes → String} {keys : Set JobKey} {t : Turn} {s s' s₀ : Service} {id : String}
  {g g' : Graph}

theorem NodeState.intended_ne_cancelled (state : NodeState) : state.intended ≠ .cancelled := by
  cases state <;> simp [NodeState.intended, NodeState.isFallback]

theorem NodeState.dispatched_ne_cancelled (state : NodeState) : state.dispatched ≠ .cancelled := by
  cases state <;> simp [NodeState.dispatched, NodeState.isFallback]

/-! ## Settling keeps the order -/

theorem Ordered.mono (h : Ordered sha t s id g) (hSpec : g'.spec = g.spec)
    (hLoose : ∀ node, s'.loose sha id g' node = true → s.loose sha id g node = true)
    (hJobless : ∀ node, s'.jobless sha id g' node = true → s.jobless sha id g node = true)
    (hReached : ∀ node, s'.reached g' node = true → s.reached g node = true) : Ordered sha t s' id g' where
  nodes := by
    rw [hSpec]
    refine h.nodes.imp fun {a b} hab hYes => ?_
    have hBefore := hab (hLoose b.id hYes)
    cases hLaunch : s'.mayLaunch sha id g' a with
    | false => rfl
    | true =>
      simp only [Service.mayLaunch, Bool.and_eq_true, List.all_eq_true] at hLaunch
      have hWas : s.mayLaunch sha id g a = true := by
        simp only [Service.mayLaunch, Bool.and_eq_true, List.all_eq_true]
        exact ⟨hJobless a.id hLaunch.1, fun dep hDep => hReached dep (hLaunch.2 dep hDep)⟩
      rw [hBefore] at hWas
      cases hWas
  majority hClustered node hYes := h.majority (hSpec ▸ hClustered) node (hLoose node hYes)

theorem Ordered.settle (h : Ordered sha t s id g) {node jobId row row' job} (hMoved : Moved id s g g' node row row' jobId job)
    (hSound : Sound sha keys s) (hSound' : Sound sha keys (s.setGraph id g')) :
    Ordered sha t (s.setGraph id g') id g' := by
  have hCurrent := hMoved.current
  have hRecorded : s.recordedState row = some job.state := by
    simp [Service.recordedState, hCurrent.recorded, hCurrent.jobAt]
  have hStage (other : String) (hOther : other ≠ node) (state : NodeState) :
      g'.stage other state = g.stage other state := Graph.stage_congr (hMoved.attempts other hOther) rfl
  refine h.mono hMoved.spec (fun other hYes => ?_) (fun other hYes => ?_) fun other hYes => ?_
  · by_cases hOther : other = node
    · subst hOther
      simp [Service.loose, hMoved.rowAt, Service.unattached, hMoved.dead hSound hSound'] at hYes
    · have hSame : (s.setGraph id g').unattached sha id g' other = s.unattached sha id g other := by
        funext next
        simp only [Service.unattached, hStage other hOther, Service.live_setGraph]
      rw [Service.loose, hMoved.others other hOther, hSame] at hYes
      exact hYes
  · by_cases hOther : other = node
    · subst hOther
      simp only [Service.jobless, hMoved.rowAt, any_some, hMoved.notSubmitted,
        Bool.false_and, Bool.or_false, Bool.and_eq_true] at hYes
      simp [Service.jobless, hCurrent.rowAt, hCurrent.submitted, hRecorded, hMoved.reopened hYes.1]
    · have hSame (state : NodeState) : (s.setGraph id g').stageJob sha id g' other state =
          s.stageJob sha id g other state := by
        unfold Service.stageJob
        rw [hStage other hOther]
        rfl
      simp only [Service.jobless, hMoved.others other hOther, hSame] at hYes
      exact hYes
  · by_cases hOther : other = node
    · subst hOther
      simp only [Service.reached, hMoved.rowAt, any_some, hMoved.notSubmitted,
        Bool.false_and, Bool.or_false, beq_iff_eq] at hYes
      simp [Service.reached, hCurrent.rowAt, hCurrent.submitted, hRecorded, hMoved.succeeded hYes]
    · simpa [Service.reached, hMoved.others other hOther, Service.recordedState] using hYes

/-! ## The invariant -/

/-- The bound, and why a graph with cancelled nodes dispatches no more. -/
structure Bounded (sha : Bytes → String) (s : Service) (id : String) (g : Graph) : Prop where
  room : (s.liveJobs sha id g).length ≤ g.spec.maxParallel
  halted : ∀ node row, g.row node = some row → row.state = .cancelled →
    g.state ≠ .running ∨ ∃ other next, g.row other = some next ∧ next.state = .failed

theorem liveJobs_length_le (hDispatched : g'.dispatched = g.dispatched)
    (hLive : ∀ entry ∈ g.dispatched, s'.live (stableJobId sha ⟨id, entry.1, entry.2⟩) = true →
      s.live (stableJobId sha ⟨id, entry.1, entry.2⟩) = true) :
    (s'.liveJobs sha id g').length ≤ (s.liveJobs sha id g).length := by
  unfold Service.liveJobs
  rw [hDispatched, ← countP_eq_length_filter, ← countP_eq_length_filter]
  exact countP_mono_left hLive

theorem Bounded.later (h : Bounded sha s id g) (hSound : GraphSound sha s id g)
    (hLater : JobsLater s s') : Bounded sha s' id g where
  room := (liveJobs_length_le rfl fun entry hEntry hLive =>
    hLater.live (hSound.jobs entry.1 entry.2 hEntry) hLive).trans h.room
  halted := h.halted

theorem Bounded.settle (h : Bounded sha s id g) {node jobId row row' job} (hMoved : Moved id s g g' node row row' jobId job) :
    Bounded sha (s.setGraph id g') id g' where
  room := by
    rw [hMoved.spec]
    exact (liveJobs_length_le hMoved.dispatched fun _ _ hLive => hLive).trans h.room
  halted other next hNext hState := by
    by_cases hOther : other = node
    · subst hOther
      cases hNext.symm.trans hMoved.rowAt
      exact absurd hState hMoved.notCancelled
    · rw [hMoved.others other hOther] at hNext
      rw [hMoved.state]
      refine (h.halted other next hNext hState).imp_right fun hFailed => ?_
      obtain ⟨failed, failedRow, hRow, hWhy⟩ := hFailed
      have hNe : failed ≠ node := by
        rintro rfl
        cases hRow.symm.trans hMoved.current.rowAt
        have hSubmitted := hMoved.current.submitted
        rw [hWhy] at hSubmitted
        cases hSubmitted
      exact ⟨failed, failedRow, (hMoved.others failed hNe).trans hRow, hWhy⟩

/-! ## Room for one more -/

section

variable {base : Service} {start : Graph} {active : Nat} {before rest : List ResidentSwarmNode}
  {node : String} {row : NodeRow}
variable (hInj : Set.InjOn (stableJobId sha) keys) (hBase : Sound sha keys base)
  (hStart : base.graphs.lookup id = some start) (hSound : Sound sha keys s)

include hInj hBase hStart hSound

theorem Midway.job_eq (h : Midway sha t id base start active before rest s g) (hRow : g.row node = some row)
    (hKept : row.state.isOpen = true ∨ start.row node = some row) :
    s.stageJob sha id g node row.state = base.stageJob sha id start node row.state := by
  have hKey := hSound.mem_keys h.graphAt hRow
    (((hSound.graphs id g h.graphAt).nodes node row hRow).allowed_stage row.state)
  unfold Service.stageJob
  rw [← h.stage_eq]
  refine (h.jobs _).resolve_right ?_
  rintro ⟨other, _, ⟨was, hWas, hWasOpen⟩, hClosed, state, hId⟩
  have hOther := hBase.mem_keys hStart hWas
    (((hBase.graphs id start hStart).nodes other.id was hWas).allowed_stage state)
  obtain rfl : node = other.id := congrArg JobKey.node (hInj hKey hOther hId)
  have hNow := hClosed row hRow
  rcases hKept with hOpen | hSame
  · rw [hOpen] at hNow
    cases hNow
  · cases hSame.symm.trans hWas
    rw [hWasOpen] at hNow
    cases hNow

theorem Midway.loose_start (h : Midway sha t id base start active before rest s g)
    (hRow : g.row node = some row) (hOpen : row.state.isOpen = true)
    (hLive : s.live (stableJobId sha ⟨id, node, g.stage node row.state⟩) = true) :
    base.loose sha id start node = true ∧ (node, start.stage node row.state) ∈ start.dispatched := by
  have hJob := h.job_eq hInj hBase hStart hSound hRow (.inl hOpen)
  unfold Service.stageJob at hJob
  have hBaseLive : base.live (stableJobId sha ⟨id, node, start.stage node row.state⟩) = true := by
    rw [Service.live, ← hJob]
    exact hLive
  have hKey := hSound.mem_keys h.graphAt hRow
    (((hSound.graphs id g h.graphAt).nodes node row hRow).allowed_stage row.state)
  rw [h.stage_eq] at hKey
  obtain ⟨found, hFound, hStage⟩ := hBase.dispatched _ hKey (Service.isSome_of_live hBaseLive)
  cases hFound.symm.trans hStart
  have hStartSound := hBase.graphs id start hStart
  obtain ⟨was, hWas, hNode⟩ := hStartSound.nodeSound (Graph.mem_jobsOf.mpr hStage)
  have hWasOpen : was.state.isOpen = true := by
    cases hClosed : was.state.isOpen with
    | true => rfl
    | false =>
      cases hRow.symm.trans (h.kept node was hWas hClosed)
      rw [hOpen] at hClosed
      cases hClosed
  refine ⟨?_, hStage⟩
  have hSame : start.stage node row.state = start.stage node was.state :=
    hNode.current _ hStage hBaseLive (.inl hWasOpen)
  rw [hSame] at hBaseLive
  simp [Service.loose, hWas, Service.unattached, hWasOpen, hBaseLive]

theorem Insertion.no_loose {entry entryRow} (h : Insertion sha t id base start s g entry entryRow)
    (hOrdered : Ordered sha t base id start) (hRow : g.row node = some row) (hOpen : row.state.isOpen = true) :
    s.live (stableJobId sha ⟨id, node, g.stage node row.state⟩) = false := by
  cases hLive : s.live (stableJobId sha ⟨id, node, g.stage node row.state⟩) with
  | false => rfl
  | true =>
    exfalso
    obtain ⟨active, before, after, hMidway, _⟩ := h.midway
    obtain ⟨hLoose, hStage⟩ := hMidway.loose_start hInj hBase hStart hSound hRow hOpen hLive
    have hStartSound := hBase.graphs id start hStart
    obtain ⟨other, hOther, rfl⟩ := mem_map.mp (hStartSound.known _ _ hStage)
    have hPlace := hOther
    rw [hMidway.nodes] at hPlace
    rcases mem_append.mp hPlace with hBefore | hRest
    · -- The loop has been there: it would have attached the node.
      have hJob := hMidway.job_eq hInj hBase hStart hSound hRow (.inl hOpen)
      have hExists : (base.stageJob sha id start other.id row.state).isSome = true := by
        rw [← hJob]
        exact Service.isSome_of_live hLive
      rcases hMidway.cleared other hBefore row hRow hOpen hExists with
        ⟨dep, hDep, hState⟩ | ⟨hClustered, g', hMajority⟩
      · exact hState (hStartSound.dependencies other hOther _ hStage dep hDep)
      · rw [hOrdered.majority hClustered other.id hLoose g'] at hMajority
        cases hMajority
    · rcases mem_cons.mp hRest with rfl | hAfter
      · cases hRow.symm.trans h.rowAt
        have hFresh := h.fresh
        have hSome := Service.isSome_of_live hLive
        unfold Service.stageJob at hFresh
        rw [hFresh] at hSome
        cases hSome
      · -- The loop has yet to get there: the node it inserts may not come first.
        have hPairs := hOrdered.nodes
        rw [hMidway.nodes] at hPairs
        have hFirst := rel_of_pairwise_cons (pairwise_append.mp hPairs).2.1 hAfter hLoose
        have hEntry := (hMidway.ahead entry mem_cons_self).symm.trans h.rowAt
        have hFresh : base.stageJob sha id start entry.id entryRow.state = none := by
          simpa using hMidway.fresh h.fresh
        have hReached : entry.dependsOn.all (base.reached start) = true := by
          refine all_eq_true.mpr fun dep hDep => ?_
          obtain ⟨depRow, hDepRow, hState⟩ := map_eq_some_iff.mp (h.dependencies dep hDep)
          simp [Service.reached, hDepRow, hState]
        simp [Service.mayLaunch, Service.jobless, hEntry, h.isOpen, hFresh, hReached] at hFirst

theorem Insertion.liveJobs_lt {entry entryRow} (h : Insertion sha t id base start s g entry entryRow)
    (hOrdered : Ordered sha t base id start) (hRows : ∀ node row, g.row node = some row → row.state ≠ .cancelled) :
    (s.liveJobs sha id g).length < g.spec.maxParallel := by
  obtain ⟨active, before, after, hMidway, hRoom⟩ := h.midway
  obtain ⟨counted, hCard, hCounted⟩ := hMidway.room
  have hGraphSound := hSound.graphs id g hMidway.graphAt
  have hMem : ∀ entry ∈ s.liveJobs sha id g, entry.1 ∈ counted := by
    rintro ⟨node, stage⟩ hEntry
    obtain ⟨hStage, hLive⟩ := mem_filter.mp hEntry
    obtain ⟨row, hRow, hNode⟩ := hGraphSound.nodeSound (Graph.mem_jobsOf.mpr hStage)
    have hOver : ∀ hWhy : row.state = .succeeded ∨ row.state = .failed, node ∈ counted := by
      intro hWhy
      rw [hNode.ended hWhy stage hStage] at hLive
      cases hLive
    have hIsOpen : row.state.isOpen = true → node ∈ counted := by
      intro hOpen
      rw [hNode.current stage hStage hLive (.inl hOpen),
        h.no_loose hInj hBase hStart hSound hOrdered hRow hOpen] at hLive
      cases hLive
    have hIsSubmitted : row.state.isSubmitted = true → node ∈ counted := by
      intro hSubmitted
      refine hCounted node ?_
      by_cases hSame : g.row node = start.row node
      · refine .inl ?_
        have hWas := hSame.symm.trans hRow
        have hJob := hMidway.job_eq hInj hBase hStart hSound hRow (.inr hWas)
        rw [hNode.current stage hStage hLive (.inr hSubmitted)] at hLive
        have hBaseLive : base.live (stableJobId sha ⟨id, node, g.stage node row.state⟩) = true := by
          unfold Service.stageJob at hJob
          rw [← hMidway.stage_eq] at hJob
          rw [Service.live, ← hJob]
          exact hLive
        simp [Service.attached, hWas, hSubmitted, (hNode.recorded hSubmitted).1, hBaseLive]
      · exact .inr hSame
    cases hState : row.state with
    | succeeded => exact hOver (.inl hState)
    | failed => exact hOver (.inr hState)
    | cancelled => exact absurd hState (hRows node row hRow)
    | submitted | submittedFallback => exact hIsSubmitted (by rw [hState]; rfl)
    | pending | pendingFallback | preparing | preparingFallback =>
      exact hIsOpen (by rw [hState]; rfl)
  have hNodup : ((s.liveJobs sha id g).map Prod.fst).Nodup := by
    refine List.Nodup.map_on ?_ (hGraphSound.nodup.filter _)
    rintro ⟨node, stage⟩ hEntry ⟨node', stage'⟩ hEntry' (rfl : node = node')
    obtain ⟨hStage, hLive⟩ := mem_filter.mp hEntry
    obtain ⟨hStage', hLive'⟩ := mem_filter.mp hEntry'
    obtain ⟨row, _, hNode⟩ := hGraphSound.nodeSound (Graph.mem_jobsOf.mpr hStage)
    rw [hNode.unique stage stage' hStage hStage' hLive hLive']
  have hSubset : ((s.liveJobs sha id g).map Prod.fst).toFinset ⊆ counted := by
    intro node hNode
    obtain ⟨entry, hEntry, rfl⟩ := mem_map.mp (mem_toFinset.mp hNode)
    exact hMem entry hEntry
  calc (s.liveJobs sha id g).length
      = ((s.liveJobs sha id g).map Prod.fst).toFinset.card := by
        rw [toFinset_card_of_nodup hNodup, length_map]
    _ ≤ counted.card := Finset.card_le_card hSubset
    _ ≤ active := hCard
    _ < g.spec.maxParallel := hRoom

end

/-! ## Turns -/

def Halting (sha : Bytes → String) (s : Service) (id : String) (g : Graph) : Prop :=
  (s.liveJobs sha id g).length ≤ g.spec.maxParallel ∧
    (g.state ≠ .running ∨ ∃ node row, g.row node = some row ∧ row.state = .failed)

theorem Halting.bounded (h : Halting sha s id g) : Bounded sha s id g :=
  ⟨h.1, fun _ _ _ _ => h.2⟩

theorem Cancel.halting (hMove : Cancel id s s') (h : ∃ g, s.graphs.lookup id = some g ∧ Halting sha s id g) :
    ∃ g, s'.graphs.lookup id = some g ∧ Halting sha s' id g := by
  obtain ⟨g, hGraph, hRoom, hWhy⟩ := h
  cases hMove with
  | cancelJob hCurrent hLive =>
    rename_i jobId job
    have hSame := Service.live_setJob_of_state { job with cancelRequested := true } hCurrent.jobAt rfl
    refine ⟨g, hGraph, (liveJobs_length_le rfl fun entry _ hYes => ?_).trans hRoom, hWhy⟩
    rwa [hSame] at hYes
  | cancelNode hFound hRow hOpen =>
    rename_i node row
    cases hFound.symm.trans hGraph
    refine ⟨_, s.lookup_setGraph id _, hRoom, hWhy.imp_right ?_⟩
    rintro ⟨failed, failedRow, hFailed, hState⟩
    have hNe : failed ≠ node := by
      rintro rfl
      cases hFailed.symm.trans hRow
      rw [hState] at hOpen
      cases hOpen
    exact ⟨failed, failedRow, (g.row_setNode_of_ne _ hNe).trans hFailed, hState⟩
  | close hFound hEnd hRows =>
    cases hFound.symm.trans hGraph
    refine ⟨_, s.lookup_setGraph id _, hRoom, .inl fun hRunning => ?_⟩
    rename_i state
    rw [show state = .running from hRunning] at hEnd
    cases hEnd
  | failing hFound =>
    obtain rfl := Option.some.inj (hGraph.symm.trans hFound)
    exact ⟨_, s.lookup_setGraph id _, hRoom, .inl nofun⟩

def Dispatching (sha : Bytes → String) (s : Service) (id : String) (g : Graph) : Prop :=
  (s.liveJobs sha id g).length ≤ g.spec.maxParallel ∧
    (g.state = .running → ∀ node row, g.row node = some row → row.state ≠ .cancelled)

theorem Dispatching.bounded (h : Dispatching sha s id g) : Bounded sha s id g :=
  ⟨h.1, fun node row hRow hState => .inl fun hRunning => h.2 hRunning node row hRow hState⟩

theorem Dispatching.setNode (h : Dispatching sha s id g) {node row} (hState : row.state ≠ .cancelled) :
    Dispatching sha (s.setGraph id (g.setNode node row)) id (g.setNode node row) := by
  refine ⟨h.1, fun hRunning other next hNext => ?_⟩
  obtain ⟨rfl, rfl⟩ | ⟨-, hNext⟩ := of_lookup_insert hNext
  · exact hState
  · exact h.2 hRunning other next hNext

theorem Dispatch.dispatching {base start}
    (hMove : Dispatch sha t id base start s s') (hInj : Set.InjOn (stableJobId sha) keys)
    (hBase : Sound sha keys base) (hStart : base.graphs.lookup id = some start)
    (hOrdered : Ordered sha t base id start) (hSound : Sound sha keys s)
    (h : ∃ g, s.graphs.lookup id = some g ∧ Dispatching sha s id g) :
    ∃ g, s'.graphs.lookup id = some g ∧ Dispatching sha s' id g := by
  obtain ⟨g, hGraph, h⟩ := h
  have hGraphSound := hSound.graphs id g hGraph
  cases hMove with
  | intend hFound hRow hPending hClustered hJob =>
    cases hFound.symm.trans hGraph
    exact ⟨_, s.lookup_setGraph id _, h.setNode (NodeState.intended_ne_cancelled _)⟩
  | attach hFound hRow hIsOpen hJob =>
    cases hFound.symm.trans hGraph
    exact ⟨_, s.lookup_setGraph id _, h.setNode (NodeState.dispatched_ne_cancelled _)⟩
  | insert hInsertion =>
    cases hInsertion.graphAt.symm.trans hGraph
    obtain ⟨active, before, after, hMidway, _⟩ := hInsertion.midway
    have hLt := hInsertion.liveJobs_lt hInj hBase hStart hSound hOrdered (h.2 hMidway.running)
    refine ⟨_, Service.lookup_setGraph _ id _, ?_, h.2⟩
    refine le_trans ?_ (Nat.succ_le_of_lt hLt)
    unfold Service.liveJobs
    rw [filter_append, length_append]
    refine Nat.add_le_add ?_ (length_filter_le _ _)
    have hDispatched : g.dispatched = g.dispatched := rfl
    exact liveJobs_length_le hDispatched fun entry hEntry hLive =>
      (hInsertion.later _ _).live (hGraphSound.jobs entry.1 entry.2 hEntry) hLive
  | prepare hFound hRow hJob hLive =>
    rename_i next
    have hLater := JobsLater.setJob next fun other hOther => by
      obtain rfl := Option.some.inj (Eq.trans hJob.symm hOther)
      exact hLive
    exact ⟨g, hGraph, (liveJobs_length_le rfl fun entry hEntry hYes =>
      hLater.live (hGraphSound.jobs entry.1 entry.2 hEntry) hYes).trans h.1, h.2⟩
  | fail hFound hRow hIsOpen hDead =>
    obtain rfl := Option.some.inj (hGraph.symm.trans hFound)
    exact ⟨_, s.lookup_setGraph id _, h.setNode (by simp)⟩
  | failing hFound =>
    obtain rfl := Option.some.inj (hGraph.symm.trans hFound)
    exact ⟨_, s.lookup_setGraph id _, h.1, nofun⟩

theorem bounded_of_settled (hMoves : ReflTransGen (Settle sha id) s₀ s)
    (hSound : Sound sha keys s₀) (h : ∃ g, s₀.graphs.lookup id = some g ∧
      Bounded sha s₀ id g ∧ Ordered sha t s₀ id g) :
    ∃ g, s.graphs.lookup id = some g ∧ Bounded sha s id g ∧ Ordered sha t s id g := by
  induction hMoves with
  | refl => exact h
  | tail hPath hMove ih =>
    rename_i s₁ s₂
    obtain ⟨g, hGraph, hBounded, hOrdered⟩ := ih
    have hSound₁ := (settled_kept hPath hSound).1
    have hSound₂ := hMove.sound hSound₁
    obtain ⟨found, g', _, _, _, _, _, rfl, hMoved⟩ := hMove.moved
    cases hMoved.current.graphAt.symm.trans hGraph
    exact ⟨g', s₁.lookup_setGraph id g', hBounded.settle hMoved, hOrdered.settle hMoved hSound₁ hSound₂⟩

theorem Turned.bounded (h : Turned sha t id s s') (hInj : Set.InjOn (stableJobId sha) keys)
    (hSound : Sound sha keys s) (hStart : ∃ g, s.graphs.lookup id = some g ∧
      Bounded sha s id g ∧ Ordered sha t s id g) :
    ∃ g, s'.graphs.lookup id = some g ∧ Bounded sha s' id g := by
  cases h with
  | settled hPath =>
    obtain ⟨g, hGraph, hBounded, _⟩ := bounded_of_settled hPath hSound hStart
    exact ⟨g, hGraph, hBounded⟩
  | stopped hPath hGraph hStopping hStop =>
    rename_i s₁ g
    obtain ⟨found, hFound, hBounded, _⟩ := bounded_of_settled hPath hSound hStart
    obtain rfl := Option.some.inj (hFound.symm.trans hGraph)
    have hGraphSound := (settled_kept hPath hSound).1.graphs id found hFound
    have hHalting : Halting sha s₁ id found := by
      refine ⟨hBounded.room, ?_⟩
      rcases hStopping with hState | hState | ⟨node, row, hRow, hWhy⟩
      · exact .inl (by rw [hState]; simp)
      · exact .inl (by rw [hState]; simp)
      · rcases hWhy with hFailed | ⟨hSubmitted, hMissing⟩
        · exact .inr ⟨node, row, hRow, hFailed⟩
        · -- The job of a submitted node is never missing.
          obtain ⟨hId, hStage⟩ := (hGraphSound.nodes node row hRow).recorded hSubmitted
          have hJob := hGraphSound.jobs node _ hStage
          rw [hId, bind_some] at hMissing
          rw [hMissing] at hJob
          cases hJob
    have hLast : ∃ g, s'.graphs.lookup id = some g ∧ Halting sha s' id g := by
      induction hStop with
      | refl => exact ⟨found, hFound, hHalting⟩
      | tail _ hMove ih => exact hMove.halting ih
    obtain ⟨last, hLast, hHalting⟩ := hLast
    exact ⟨last, hLast, hHalting.bounded⟩
  | succeeded hPath hGraph hRows =>
    rename_i s₁ g
    obtain ⟨found, hFound, hBounded, _⟩ := bounded_of_settled hPath hSound hStart
    cases hGraph.symm.trans hFound
    exact ⟨_, s₁.lookup_setGraph id _, hBounded.room, fun _ _ _ _ => .inl nofun⟩
  | dispatched hPath hGraph hRows hDispatch =>
    rename_i s₁ start
    obtain ⟨found, hFound, hBounded, hOrdered⟩ := bounded_of_settled hPath hSound hStart
    obtain rfl := Option.some.inj (hFound.symm.trans hGraph)
    have hSound₁ := (settled_kept hPath hSound).1
    have hDispatching : Dispatching sha s₁ id found := by
      refine ⟨hBounded.room, fun hRunning node row hRow hState => ?_⟩
      rcases hBounded.halted node row hRow hState with hNot | ⟨other, next, hNext, hFailed⟩
      · exact hNot hRunning
      · exact hRows other next hNext hFailed
    have hLast : Sound sha keys s' ∧ ∃ g, s'.graphs.lookup id = some g ∧ Dispatching sha s' id g := by
      induction hDispatch with
      | refl => exact ⟨hSound₁, found, hFound, hDispatching⟩
      | tail _ hMove ih =>
        exact ⟨hMove.sound hInj ih.1, hMove.dispatching hInj hSound₁ hFound hOrdered ih.1 ih.2⟩
    obtain ⟨last, hLast, hDispatching⟩ := hLast.2
    exact ⟨last, hLast, hDispatching.bounded⟩

/-! ## Runs -/

theorem Ordered.untouched (h : Ordered sha t s₀ id g)
    (hSame : Untouched sha keys s₀ s id g) (hSound : Sound sha keys s) : Ordered sha t s id g := by
  have hGraphSound := hSound.graphs id g hSame.1
  have hJob : ∀ node row, g.row node = some row →
      s.jobs.lookup (stableJobId sha ⟨id, node, g.stage node row.state⟩) =
        s₀.jobs.lookup (stableJobId sha ⟨id, node, g.stage node row.state⟩) := fun node row hRow =>
    hSame.2 _ (hSound.mem_keys hSame.1 hRow
      ((hGraphSound.nodes node row hRow).allowed_stage row.state)) rfl
  have hRecorded : ∀ node row, g.row node = some row → row.state.isSubmitted = true →
      s.recordedState row = s₀.recordedState row := fun node row hRow hSubmitted => by
    have hId := ((hGraphSound.nodes node row hRow).recorded hSubmitted).1
    simp only [Service.recordedState, hId, bind_some, hJob node row hRow]
  refine h.mono rfl (fun node hYes => ?_) (fun node hYes => ?_) fun node hYes => ?_ <;>
    obtain ⟨row, hRow, hYes⟩ := (any_eq_true _ _).mp hYes <;>
    refine (any_eq_true _ _).mpr ⟨row, hRow, ?_⟩
  · simpa only [Service.unattached, Service.live_congr (hJob node row hRow)] using hYes
  · simp only [Service.stageJob, hJob node row hRow] at hYes ⊢
    cases hSubmitted : row.state.isSubmitted with
    | false => simpa [hSubmitted] using hYes
    | true => simpa only [hRecorded node row hRow hSubmitted, hSubmitted] using hYes
  · cases hSubmitted : row.state.isSubmitted with
    | false => simpa [hSubmitted] using hYes
    | true => simpa only [hRecorded node row hRow hSubmitted, hSubmitted] using hYes

theorem Bounded.framed {other} (h : Bounded sha s other g) (hSound : Sound sha keys s)
    (hGraph : s.graphs.lookup other = some g) (hOther : other ≠ id)
    (hFramed : Framed sha keys id s s') : Bounded sha s' other g := by
  refine ⟨(liveJobs_length_le rfl fun entry hEntry hLive => ?_).trans h.room, h.halted⟩
  rwa [Service.live_congr (hFramed.jobs _ (hSound.mem_keys_of_dispatched hGraph hEntry) hOther)]
    at hLive

theorem bounded_inductive (hInj : Set.InjOn (stableJobId sha) keys) :
    Inductive sha keys (fun action s => action.Within keys ∧ action.attachesInOrder sha s)
      (fun s => ∀ id g, s.graphs.lookup id = some g → Bounded sha s id g) where
  empty _ _ hGraph := by cases hGraph
  submit r spec s hs hI _ _ other g hGraph := by
    obtain ⟨rfl, rfl⟩ | ⟨-, hGraph⟩ := of_lookup_insert hGraph
    · refine ⟨Nat.zero_le _, fun node row hRow hState => ?_⟩
      rw [row_newGraph] at hRow
      split at hRow
      · cases hRow
        cases hState
      · cases hRow
    · exact (hI other g hGraph).later (hs.graphs other g hGraph) (.of_jobs_eq rfl)
  cancel id g s hs hI hGraph _ other next hNext := by
    obtain ⟨rfl, rfl⟩ | ⟨-, hNext⟩ := of_lookup_insert hNext
    · exact ⟨(hI other g hGraph).room, fun _ _ _ _ => .inl nofun⟩
    · exact (hI other next hNext).later (hs.graphs other next hNext) (.of_jobs_eq rfl)
  job jobId job next s hs hI hJob hLive other g hGraph := by
    refine (hI other g hGraph).later (hs.graphs other g hGraph) (.setJob next ?_)
    intro found hFound
    cases hFound.symm.trans hJob
    exact hLive
  turn t s₀ hC _ _ id g s s' hMem hs hI hSame hTurned other next hNext := by
    by_cases hOther : other = id
    · subst hOther
      have hOrdered := (hC.2 (other, g) hMem).untouched hSame hs
      obtain ⟨last, hLast, hBounded⟩ := hTurned.bounded hInj hs
        ⟨g, hSame.1, hI other g hSame.1, hOrdered⟩
      cases hNext.symm.trans hLast
      exact hBounded
    · have hFramed := (hTurned.kept hInj hs).2
      rw [hFramed.graphs other hOther] at hNext
      exact (hI other next hNext).framed hs hNext hOther hFramed

end

theorem live_jobs_le_maxParallel {sha : Bytes → String} {keys : Set JobKey} {s : Service}
    (hNoCollision : NoCollision sha keys)
    (h : GraphRun sha (fun action s => action.Within keys ∧ action.attachesInOrder sha s) s)
    {id : String} {g : Graph} (hGraph : s.graphs.lookup id = some g) :
    (s.liveJobs sha id g).length ≤ g.spec.maxParallel := by
  have hRun := h.mono fun _ _ hC =>
    (⟨hC.1.wellFormed, hC.2⟩ : _ ∧ _)
  exact ((hRun.invariant hNoCollision.injOn (fun _ _ hC => hC.1)
    (bounded_inductive hNoCollision.injOn)).2 id g hGraph).room

theorem ordered_of_single {sha t s} (h : (openGraphs s).all (fun entry =>
      decide (entry.2.spec.nodes.length ≤ 1) && entry.2.spec.clusterId.isNone) = true) :
    (Action.tick t).attachesInOrder sha s := by
  intro entry hEntry
  have hFacts := all_eq_true.mp h entry hEntry
  simp only [Bool.and_eq_true, isNone_iff_eq_none] at hFacts
  refine ⟨?_, fun hClustered => ?_⟩
  · match hNodes : entry.2.spec.nodes with
    | [] => exact List.Pairwise.nil
    | [_] => exact pairwise_singleton _ _
    | _ :: _ :: _ => simp [hNodes] at hFacts
  · rw [hFacts.2] at hClustered
    cases hClustered

theorem live_jobs_le_maxParallel_first : ∃ g, firstDispatch.graphs.lookup "g" = some g ∧
      (firstDispatch.liveJobs tableSha "g" g).length = 1 ∧
      (firstDispatch.liveJobs tableSha "g" g).length ≤ g.spec.maxParallel := by
  have hGraph : (firstDispatch.graphs.lookup "g").any (fun g =>
      (firstDispatch.liveJobs tableSha "g" g).length == 1) = true := by
    decide +kernel
  obtain ⟨g, hLookup, hOne⟩ := (any_eq_true _ _).mp hGraph
  refine ⟨g, hLookup, by simpa using hOne, live_jobs_le_maxParallel noCollision_singleKeys
    (.step (.tick calmTurn) (.step (.submit plainRegistration singleSpec) .empty ?_) ?_) hLookup⟩
  · exact ⟨within_singleKeys _, trivial⟩
  · exact ⟨trivial, ordered_of_single (by decide +kernel)⟩

/-! ## Past the bound -/

/-- Two nodes wait for `y`; `a` waits for nothing and comes last. -/
def crowdedSpec : ResidentSwarmSpec :=
  ⟨1, "g", [taskNode "x" ["y"], taskNode "z" ["y"], taskNode "y" [], taskNode "a" []], none, 2⟩

/-- The daemon dies with the job of `a` in the queue and the node still pending;
the job of `y` succeeds, and the next tick dispatches the nodes that waited for it. -/
def crowded : Service :=
  final (tick tableSha calmTurn)
    (final (moveJob (stableJobId tableSha ⟨"g", "y", .primary⟩) ⟨.succeeded, false, some "run-y"⟩)
      (final (tick tableSha { calmTurn with dies := fun _ mark => mark == .queue "a" })
        (final (submit plainRegistration crowdedSpec) Service.empty)))

theorem live_jobs_past_maxParallel : GraphRun tableSha (fun _ _ => True) crowded ∧
      ∃ g, crowded.graphs.lookup "g" = some g ∧ g.spec.maxParallel = 2 ∧
        (crowded.liveJobs tableSha "g" g) = [("a", .primary), ("x", .primary), ("z", .primary)] ∧
        ((crowded.liveJobs tableSha "g" g).map fun entry =>
          stableJobId tableSha ⟨"g", entry.1, entry.2⟩).Nodup := by
  have hGraph : (crowded.graphs.lookup "g").any (fun g => g.spec.maxParallel == 2 &&
      crowded.liveJobs tableSha "g" g == [("a", .primary), ("x", .primary), ("z", .primary)]) = true := by
    decide +kernel
  obtain ⟨g, hLookup, hFacts⟩ := (any_eq_true _ _).mp hGraph
  simp only [Bool.and_eq_true, beq_iff_eq] at hFacts
  refine ⟨?_, g, hLookup, hFacts.1, hFacts.2, ?_⟩
  · exact .step (.tick calmTurn) (.step (.job _ ⟨.succeeded, false, some "run-y"⟩)
      (.step (.tick { calmTurn with dies := fun _ mark => mark == .queue "a" })
        (.step (.submit plainRegistration crowdedSpec) .empty trivial) trivial) trivial) trivial
  · rw [hFacts.2]
    decide +kernel

end LittleMonkey.Swarm.Resident
