import LittleMonkey.Swarm.Discipline

/-! # Jobs that outlive their graph

A daemon that dies between the job of a node and its cursor leaves an open node
with a live job.  The next dispatch attaches the node to it; a graph that is
stopped first ends and leaves the job running.
-/

namespace LittleMonkey.Swarm.Resident

open Durable Primitives Relation List Option

/-! ## The condition -/

def Graph.anyTask (graph : Graph) (p : String → NodeRow → Bool) : Bool :=
  graph.tasks.any fun task => p task.1 task.2

theorem Graph.anyTask_eq_true {graph : Graph} {p} :
    graph.anyTask p = true ↔ ∃ node row, graph.row node = some row ∧ p node row = true := by
  constructor
  · intro h
    obtain ⟨task, hTask, hp⟩ := any_eq_true.mp h
    exact ⟨task.1, task.2, Graph.mem_tasks.mp hTask, hp⟩
  · rintro ⟨node, row, hRow, hp⟩
    exact any_eq_true.mpr ⟨(node, row), Graph.mem_tasks.mpr hRow, hp⟩

def Service.unattached (s : Service) (sha : Bytes → String) (id : String) (graph : Graph)
    (node : String) (row : NodeRow) : Bool :=
  row.state.isOpen && s.live (stableJobId sha ⟨id, node, graph.stage node row.state⟩)

def Service.ruins (s : Service) (graph : Graph) (node : String) (row : NodeRow) : Bool :=
  row.state == .failed ||
    row.state.isSubmitted && (row.jobId.bind s.jobs.lookup).all (graph.givesUp node row)

def Service.willStop (s : Service) (graph : Graph) : Bool :=
  graph.state != .running || graph.anyTask (s.ruins graph)

def Action.attachesFirst (sha : Bytes → String) : Action → Service → Bool
  | .tick _, s => (openGraphs s).all fun entry =>
    !(s.willStop entry.2 && entry.2.anyTask (s.unattached sha entry.1 entry.2))
  | _, _ => true

/-! ## The invariant -/

section

variable {sha : Bytes → String} {keys : Set JobKey} {t : Turn} {s s' s₀ : Service} {id : String}
  {graph graph' : Graph}
variable {node : String} {row : NodeRow}

/-- Cancelled nodes and ended graphs have no live job. -/
structure Adopted (sha : Bytes → String) (s : Service) (id : String) (graph : Graph) : Prop where
  nodes : ∀ node row, graph.row node = some row → row.state = .cancelled →
    ∀ stage, (node, stage) ∈ graph.dispatched → s.live (stableJobId sha ⟨id, node, stage⟩) = false
  graph : graph.state.isTerminal = true → ∀ node stage, (node, stage) ∈ graph.dispatched →
    s.live (stableJobId sha ⟨id, node, stage⟩) = false

theorem JobsLater.dead (h : JobsLater s s') {jobId}
    (hJob : (s.jobs.lookup jobId).isSome = true) (hDead : s.live jobId = false) : s'.live jobId = false := by
  cases hLive : s'.live jobId with
  | false => rfl
  | true =>
    have hBefore := h.live hJob hLive
    rw [hDead] at hBefore
    cases hBefore

theorem Adopted.later (h : Adopted sha s id graph) (hSound : GraphSound sha s id graph)
    (hLater : JobsLater s s') : Adopted sha s' id graph where
  nodes node row hRow hState stage hStage :=
    hLater.dead (hSound.jobs node stage hStage) (h.nodes node row hRow hState stage hStage)
  graph hEnded node stage hStage :=
    hLater.dead (hSound.jobs node stage hStage) (h.graph hEnded node stage hStage)

theorem Adopted.setNode (h : Adopted sha s id graph) (hOpen : graph.state.isTerminal = false)
    (hRow : graph'.row node = some row) (hState : row.state ≠ .cancelled)
    (hOthers : ∀ other, other ≠ node → graph'.row other = graph.row other)
    (hGraph : graph'.state = graph.state) (hDispatched : graph'.dispatched = graph.dispatched) :
    Adopted sha s id graph' where
  nodes other next hNext hCancelled stage hStage := by
    by_cases hOther : other = node
    · subst hOther
      cases hNext.symm.trans hRow
      exact absurd hCancelled hState
    · rw [hOthers other hOther] at hNext
      exact h.nodes other next hNext hCancelled stage (hDispatched ▸ hStage)
  graph hEnded := by
    rw [hGraph, hOpen] at hEnded
    cases hEnded

/-! ## Settling -/

theorem Service.ruins_congr (s : Service)
    (hSpec : graph'.spec = graph.spec) (hAttempts : graph'.attempts node = graph.attempts node) :
    s.ruins graph' node row = s.ruins graph node row := by
  have hGivesUp : graph'.givesUp node row = graph.givesUp node row := by
    funext job
    simp only [Graph.givesUp, Graph.reassignable, hSpec, hAttempts]
  simp only [Service.ruins, hGivesUp]

/-- An open graph that has no unattached job if the tick is going to stop it. -/
structure Ready (sha : Bytes → String) (s : Service) (id : String) (graph : Graph) : Prop where
  graphAt : s.graphs.lookup id = some graph
  isOpen : graph.state.isTerminal = false
  adopted : Adopted sha s id graph
  attached : s.willStop graph = true → graph.anyTask (s.unattached sha id graph) = false

theorem Ready.settle (h : Ready sha s id graph) {node jobId : String} {row row' job} (hMoved : Moved id s graph graph' node row row' jobId job)
    (hSound : Sound sha keys s) (hSound' : Sound sha keys (s.setGraph id graph')) :
    Ready sha (s.setGraph id graph') id graph' where
  graphAt := s.lookup_setGraph id graph'
  isOpen := hMoved.state ▸ h.isOpen
  adopted := by
    have hNext := h.adopted.setNode h.isOpen hMoved.rowAt hMoved.notCancelled hMoved.others hMoved.state
      hMoved.dispatched
    exact ⟨hNext.nodes, hNext.graph⟩
  attached hStop := by
    have hCurrent := hMoved.current
    -- What stops the graph now would have stopped it before the move.
    have hBefore : s.willStop graph = true := by
      simp only [Service.willStop, Bool.or_eq_true, hMoved.state] at hStop ⊢
      refine hStop.imp_right fun hAny => ?_
      obtain ⟨other, next, hNext, hRuins⟩ := Graph.anyTask_eq_true.mp hAny
      by_cases hOther : other = node
      · subst hOther
        cases hNext.symm.trans hMoved.rowAt
        simp only [Service.ruins, hMoved.notSubmitted, Bool.false_and, Bool.or_false, beq_iff_eq] at hRuins
        refine Graph.anyTask_eq_true.mpr ⟨other, row, hCurrent.rowAt, ?_⟩
        simp [Service.ruins, hCurrent.submitted, hCurrent.recorded, hCurrent.jobAt, hMoved.failed hRuins]
      · rw [hMoved.others other hOther] at hNext
        refine Graph.anyTask_eq_true.mpr ⟨other, next, hNext, ?_⟩
        rw [← s.ruins_congr hMoved.spec (hMoved.attempts other hOther)]
        exact hRuins
    have hNone := h.attached hBefore
    cases hAny : graph'.anyTask ((s.setGraph id graph').unattached sha id graph') with
    | false => rfl
    | true =>
      obtain ⟨other, next, hNext, hLoose⟩ := Graph.anyTask_eq_true.mp hAny
      simp only [Service.unattached, Bool.and_eq_true, Service.live_setGraph] at hLoose
      by_cases hOther : other = node
      · subst hOther
        cases hNext.symm.trans hMoved.rowAt
        rw [hMoved.dead hSound hSound'] at hLoose
        exact absurd hLoose.2 Bool.false_ne_true
      · rw [hMoved.others other hOther] at hNext
        have hWas : graph.anyTask (s.unattached sha id graph) = true := by
          refine Graph.anyTask_eq_true.mpr ⟨other, next, hNext, ?_⟩
          rw [Graph.stage_congr (hMoved.attempts other hOther) rfl] at hLoose
          simpa [Service.unattached] using hLoose
        rw [hNone] at hWas
        cases hWas

theorem Settle.ready (hMove : Settle sha id s s') (hSound : Sound sha keys s)
    (h : ∃ graph, Ready sha s id graph) : ∃ graph, Ready sha s' id graph := by
  obtain ⟨graph, h⟩ := h
  have hSound' := hMove.sound hSound
  obtain ⟨found, graph', _, _, _, _, _, rfl, hMoved⟩ := hMove.moved
  cases hMoved.current.graphAt.symm.trans h.graphAt
  exact ⟨graph', h.settle hMoved hSound hSound'⟩

theorem ready_of_settled (hMoves : ReflTransGen (Settle sha id) s₀ s) (hSound : Sound sha keys s₀)
    (h : ∃ graph, Ready sha s₀ id graph) : ∃ graph, Ready sha s id graph := by
  induction hMoves with
  | refl => exact h
  | tail hPath hMove ih => exact hMove.ready (settled_kept hPath hSound).1 ih

/-! ## Cancelling -/

/-- A graph that is being stopped, with every live job on a submitted node. -/
structure Winding (sha : Bytes → String) (s : Service) (id : String) (graph : Graph) : Prop where
  graphAt : s.graphs.lookup id = some graph
  adopted : Adopted sha s id graph
  attached : ∀ node row, graph.row node = some row → row.state.isOpen = true →
    s.live (stableJobId sha ⟨id, node, graph.stage node row.state⟩) = false

theorem Winding.close (h : Winding sha s id graph) (hSound : GraphSound sha s id graph)
    (hRows : ∀ node row, graph.row node = some row → row.state.isOpen = false ∧
      (row.state.isSubmitted = true → ∀ jobId, row.jobId = some jobId → s.live jobId = false)) :
    ∀ node stage, (node, stage) ∈ graph.dispatched → s.live (stableJobId sha ⟨id, node, stage⟩) = false := by
  intro node stage hStage
  obtain ⟨row, hRow, hNode⟩ := hSound.nodeSound (Graph.mem_jobsOf.mpr hStage)
  obtain ⟨hOpen, hSubmitted⟩ := hRows node row hRow
  cases hState : row.state with
  | succeeded => exact hNode.ended (.inl hState) stage hStage
  | failed => exact hNode.ended (.inr hState) stage hStage
  | cancelled => exact h.adopted.nodes node row hRow hState stage hStage
  | submitted | submittedFallback =>
    have hYes : row.state.isSubmitted = true := by rw [hState]; rfl
    exact hNode.dead (.inr hYes) (hSubmitted hYes _ (hNode.recorded hYes).1) stage hStage
  | pending | pendingFallback | preparing | preparingFallback =>
    rw [hState] at hOpen
    cases hOpen

theorem Cancel.winding (hMove : Cancel id s s') (hSound : Sound sha keys s)
    (h : ∃ graph, Winding sha s id graph) : ∃ graph, Winding sha s' id graph := by
  obtain ⟨graph, h⟩ := h
  have hGraphSound := hSound.graphs id graph h.graphAt
  cases hMove with
  | cancelJob hCurrent hLive =>
    rename_i jobId job
    have hSame := Service.live_setJob_of_state { job with cancelRequested := true } hCurrent.jobAt rfl
    refine ⟨graph, h.graphAt, ⟨?_, ?_⟩, ?_⟩
    · rw [hSame]
      exact h.adopted.nodes
    · rw [hSame]
      exact h.adopted.graph
    · rw [hSame]
      exact h.attached
  | cancelNode hGraph hRow hOpen =>
    rename_i node row
    cases hGraph.symm.trans h.graphAt
    have hNode := hGraphSound.nodes node row hRow
    refine ⟨_, s.lookup_setGraph id _, ⟨?_, h.adopted.graph⟩, ?_⟩
    · intro other next hNext hState stage hStage
      by_cases hOther : other = node
      · subst hOther
        exact hNode.dead (.inl hOpen) (h.attached other row hRow hOpen) stage hStage
      · rw [graph.row_setNode_of_ne _ hOther] at hNext
        exact h.adopted.nodes other next hNext hState stage hStage
    · intro other next hNext hNextOpen
      obtain ⟨rfl, rfl⟩ | ⟨-, hNext⟩ := of_lookup_insert hNext
      · cases hNextOpen
      · exact h.attached other next hNext hNextOpen
  | close hGraph hEnd hRows =>
    cases hGraph.symm.trans h.graphAt
    exact ⟨_, s.lookup_setGraph id _, ⟨h.adopted.nodes, fun _ => h.close hGraphSound hRows⟩, h.attached⟩
  | failing hGraph =>
    cases hGraph.symm.trans h.graphAt
    exact ⟨_, s.lookup_setGraph id _, ⟨h.adopted.nodes, nofun⟩, h.attached⟩

/-! ## Dispatching -/

theorem Dispatch.adopted {base start} (hMove : Dispatch sha t id base start s s') (hSound : Sound sha keys s)
    (h : ∃ graph, s.graphs.lookup id = some graph ∧ graph.state.isTerminal = false ∧ Adopted sha s id graph) :
    ∃ graph, s'.graphs.lookup id = some graph ∧ graph.state.isTerminal = false ∧ Adopted sha s' id graph := by
  obtain ⟨graph, hGraph, hOpen, hAdopted⟩ := h
  have hGraphSound := hSound.graphs id graph hGraph
  have hSetNode {node : String} (row' : NodeRow) (hState : row'.state ≠ .cancelled) :
      Adopted sha (s.setGraph id (graph.setNode node row')) id (graph.setNode node row') := by
    have hNext : Adopted sha s id (graph.setNode node row') := hAdopted.setNode hOpen
      (graph.row_setNode node row') hState (fun _ hOther => graph.row_setNode_of_ne _ hOther) rfl rfl
    exact ⟨hNext.nodes, hNext.graph⟩
  cases hMove with
  | intend hFound hRow hPending hClustered hJob =>
    cases hFound.symm.trans hGraph
    refine ⟨_, s.lookup_setGraph id _, hOpen, hSetNode _ ?_⟩
    rename_i row
    cases hState : row.state <;> rw [hState] at hPending <;>
      first | (cases hPending; done) | simp [NodeState.intended, NodeState.isFallback]
  | attach hFound hRow hIsOpen hJob =>
    cases hFound.symm.trans hGraph
    refine ⟨_, s.lookup_setGraph id _, hOpen, hSetNode _ ?_⟩
    rename_i row
    cases row.state <;> simp [NodeState.dispatched, NodeState.isFallback]
  | insert hInsertion =>
    rename_i entry row
    cases hInsertion.graphAt.symm.trans hGraph
    refine ⟨_, Service.lookup_setGraph _ id _, hOpen, ?_, fun hEnded => ?_⟩
    · intro node next hNext hState stage hStage
      rcases mem_append.mp hStage with hOld | hNew
      · exact (hInsertion.later _ _).dead (hGraphSound.jobs node stage hOld)
          (hAdopted.nodes node next hNext hState stage hOld)
      · have hNode : node = entry.id := congrArg Prod.fst (mem_singleton.mp hNew)
        subst hNode
        obtain rfl := Option.some.inj (hInsertion.rowAt.symm.trans hNext)
        have hIsOpen := hInsertion.isOpen
        rw [hState] at hIsOpen
        cases hIsOpen
    · rw [show graph.state.isTerminal = true from hEnded] at hOpen
      cases hOpen
  | prepare hFound hRow hJob hLive =>
    refine ⟨graph, hGraph, hOpen, hAdopted.later hGraphSound (.setJob _ ?_)⟩
    intro other hOther
    obtain rfl := Option.some.inj (Eq.trans hJob.symm hOther)
    exact hLive
  | fail hFound hRow hIsOpen hDead =>
    obtain rfl := Option.some.inj (hGraph.symm.trans hFound)
    exact ⟨_, s.lookup_setGraph id _, hOpen, hSetNode _ (by simp)⟩
  | failing hFound =>
    obtain rfl := Option.some.inj (hGraph.symm.trans hFound)
    exact ⟨_, s.lookup_setGraph id _, rfl, hAdopted.nodes, nofun⟩

/-! ## Turns -/

theorem Turned.adopted (h : Turned sha t id s s') (hInj : Set.InjOn (stableJobId sha) keys)
    (hSound : Sound sha keys s) (hReady : ∃ graph, Ready sha s id graph) :
    ∃ graph, s'.graphs.lookup id = some graph ∧ Adopted sha s' id graph := by
  cases h with
  | settled hPath =>
    obtain ⟨graph, hNext⟩ := ready_of_settled hPath hSound hReady
    exact ⟨graph, hNext.graphAt, hNext.adopted⟩
  | stopped hPath hGraph hStopping hStop =>
    rename_i s₁ graph
    obtain ⟨found, hNext⟩ := ready_of_settled hPath hSound hReady
    obtain rfl := Option.some.inj (hNext.graphAt.symm.trans hGraph)
    have hWillStop : s₁.willStop found = true := by
      simp only [Service.willStop, Bool.or_eq_true]
      rcases hStopping with hState | hState | ⟨node, row, hRow, hWhy⟩
      · exact .inl (by rw [hState]; simp)
      · exact .inl (by rw [hState]; simp)
      · refine .inr (Graph.anyTask_eq_true.mpr ⟨node, row, hRow, ?_⟩)
        rcases hWhy with hFailed | ⟨hSubmitted, hMissing⟩
        · simp [Service.ruins, hFailed]
        · simp [Service.ruins, hSubmitted, hMissing]
    have hNone := hNext.attached hWillStop
    have hWinding : Winding sha s₁ id found := by
      refine ⟨hGraph, hNext.adopted, fun node row hRow hOpen => ?_⟩
      cases hLive : s₁.live (stableJobId sha ⟨id, node, found.stage node row.state⟩) with
      | false => rfl
      | true =>
        rw [Graph.anyTask_eq_true.mpr ⟨node, row, hRow, by simp [Service.unattached, hOpen, hLive]⟩]
          at hNone
        cases hNone
    have hLast : Sound sha keys s' ∧ ∃ graph, Winding sha s' id graph := by
      induction hStop with
      | refl => exact ⟨(settled_kept hPath hSound).1, found, hWinding⟩
      | tail _ hMove ih => exact ⟨hMove.sound ih.1, hMove.winding ih.1 ih.2⟩
    obtain ⟨last, hLast⟩ := hLast.2
    exact ⟨last, hLast.graphAt, hLast.adopted⟩
  | succeeded hPath hGraph hRows =>
    rename_i s₁ graph
    obtain ⟨found, hNext⟩ := ready_of_settled hPath hSound hReady
    obtain rfl := Option.some.inj (hNext.graphAt.symm.trans hGraph)
    have hGraphSound := (settled_kept hPath hSound).1.graphs id found hGraph
    refine ⟨_, s₁.lookup_setGraph id _, hNext.adopted.nodes, fun _ node stage hStage => ?_⟩
    obtain ⟨row, hRow, hNode⟩ := hGraphSound.nodeSound (Graph.mem_jobsOf.mpr hStage)
    exact hNode.ended (.inl (hRows node row hRow)) stage hStage
  | dispatched hPath hGraph hRows hDispatch =>
    obtain ⟨found, hNext⟩ := ready_of_settled hPath hSound hReady
    have hLast : Sound sha keys s' ∧ ∃ graph, s'.graphs.lookup id = some graph ∧
        graph.state.isTerminal = false ∧ Adopted sha s' id graph := by
      induction hDispatch with
      | refl => exact ⟨(settled_kept hPath hSound).1, found, hNext.graphAt, hNext.isOpen, hNext.adopted⟩
      | tail _ hMove ih => exact ⟨hMove.sound hInj ih.1, hMove.adopted ih.1 ih.2⟩
    obtain ⟨last, hLast, _, hAdopted⟩ := hLast.2
    exact ⟨last, hLast, hAdopted⟩

/-! ## Runs -/

theorem NodeSound.allowed (h : NodeSound sha s id graph node row)
    {stage} (hStage : (node, stage) ∈ graph.dispatched) : stage.allowed = true := by
  have hKnown := h.stages stage hStage
  have hAttempts := h.attempts
  cases stage with
  | primary => rfl
  | fallback => rfl
  | reassignment attempt =>
    simp only [Stage.allowed, Bool.and_eq_true, decide_eq_true_eq]
    omega

theorem Sound.mem_keys_of_dispatched (h : Sound sha keys s) (hGraph : s.graphs.lookup id = some graph) {stage}
    (hStage : (node, stage) ∈ graph.dispatched) : (⟨id, node, stage⟩ : JobKey) ∈ keys := by
  obtain ⟨row, hRow, hNode⟩ := (h.graphs id graph hGraph).nodeSound (Graph.mem_jobsOf.mpr hStage)
  exact h.mem_keys hGraph hRow (hNode.allowed hStage)

theorem Service.live_congr {jobId} (h : s'.jobs.lookup jobId = s.jobs.lookup jobId) :
    s'.live jobId = s.live jobId := by
  simp [Service.live, h]

theorem Adopted.framed {other} (h : Adopted sha s other graph) (hSound : Sound sha keys s)
    (hGraph : s.graphs.lookup other = some graph) (hOther : other ≠ id)
    (hFramed : Framed sha keys id s s') : Adopted sha s' other graph := by
  have hSame : ∀ node stage, (node, stage) ∈ graph.dispatched →
      s'.live (stableJobId sha ⟨other, node, stage⟩) = s.live (stableJobId sha ⟨other, node, stage⟩) :=
    fun node stage hStage => Service.live_congr
      (hFramed.jobs _ (hSound.mem_keys_of_dispatched hGraph hStage) hOther)
  refine ⟨fun node row hRow hState stage hStage => ?_, fun hEnded node stage hStage => ?_⟩
  · rw [hSame node stage hStage]
    exact h.nodes node row hRow hState stage hStage
  · rw [hSame node stage hStage]
    exact h.graph hEnded node stage hStage

theorem Graph.anyTask_congr {p q : String → NodeRow → Bool}
    (h : ∀ node row, graph.row node = some row → p node row = q node row) :
    graph.anyTask p = graph.anyTask q := by
  rw [Bool.eq_iff_iff, Graph.anyTask_eq_true, Graph.anyTask_eq_true]
  constructor
  · rintro ⟨node, row, hRow, hp⟩
    exact ⟨node, row, hRow, h node row hRow ▸ hp⟩
  · rintro ⟨node, row, hRow, hq⟩
    exact ⟨node, row, hRow, (h node row hRow).symm ▸ hq⟩

theorem Untouched.same (h : Untouched sha keys s₀ s id graph) (hSound : Sound sha keys s) :
    s.willStop graph = s₀.willStop graph ∧
      graph.anyTask (s.unattached sha id graph) = graph.anyTask (s₀.unattached sha id graph) := by
  have hJob : ∀ node row, graph.row node = some row →
      s.jobs.lookup (stableJobId sha ⟨id, node, graph.stage node row.state⟩) =
        s₀.jobs.lookup (stableJobId sha ⟨id, node, graph.stage node row.state⟩) := fun node row hRow =>
    h.2 _ (hSound.mem_keys h.1 hRow
      (((hSound.graphs id graph h.1).nodes node row hRow).allowed_stage row.state)) rfl
  constructor
  · unfold Service.willStop
    congr 1
    refine Graph.anyTask_congr fun node row hRow => ?_
    unfold Service.ruins
    cases hSubmitted : row.state.isSubmitted with
    | false => rfl
    | true =>
      have hRecorded := (((hSound.graphs id graph h.1).nodes node row hRow).recorded hSubmitted).1
      simp only [hRecorded, bind_some, hJob node row hRow]
  · refine Graph.anyTask_congr fun node row hRow => ?_
    simp only [Service.unattached, Service.live_congr (hJob node row hRow)]

theorem adopted_inductive (hInj : Set.InjOn (stableJobId sha) keys) :
    Inductive sha keys (fun action s => action.Within keys ∧ action.attachesFirst sha s = true)
      (fun s => ∀ id graph, s.graphs.lookup id = some graph → Adopted sha s id graph) where
  empty _ _ hGraph := by cases hGraph
  submit r spec s hs hI _ _ other graph hGraph := by
    obtain ⟨rfl, rfl⟩ | ⟨-, hGraph⟩ := of_lookup_insert hGraph
    · exact ⟨nofun,
        nofun⟩
    · exact (hI other graph hGraph).later (hs.graphs other graph hGraph) (.of_jobs_eq rfl)
  cancel id graph s hs hI hGraph _ other next hNext := by
    obtain ⟨rfl, rfl⟩ | ⟨-, hNext⟩ := of_lookup_insert hNext
    · exact ⟨(hI other graph hGraph).nodes, nofun⟩
    · exact (hI other next hNext).later (hs.graphs other next hNext) (.of_jobs_eq rfl)
  job jobId job next s hs hI hJob hLive other graph hGraph := by
    refine (hI other graph hGraph).later (hs.graphs other graph hGraph) (.setJob next ?_)
    intro found hFound
    cases hFound.symm.trans hJob
    exact hLive
  turn t s₀ hC _ _ id graph s s' hMem hs hI hSame hTurned other next hNext := by
    obtain ⟨hStop, hLoose⟩ := hSame.same hs
    have hReady : Ready sha s id graph := by
      refine ⟨hSame.1, (mem_openGraphs hMem).2, hI id graph hSame.1, fun hYes => ?_⟩
      have hCondition := all_eq_true.mp hC.2 (id, graph) hMem
      rw [hLoose]
      simpa [hStop ▸ hYes] using hCondition
    by_cases hOther : other = id
    · subst hOther
      obtain ⟨last, hLast, hAdopted⟩ := hTurned.adopted hInj hs ⟨graph, hReady⟩
      cases hNext.symm.trans hLast
      exact hAdopted
    · have hFramed := (hTurned.kept hInj hs).2
      rw [hFramed.graphs other hOther] at hNext
      exact (hI other next hNext).framed hs hNext hOther hFramed

end

theorem no_orphan_jobs {sha : Bytes → String} {keys : Set JobKey} {s : Service}
    (hNoCollision : NoCollision sha keys)
    (h : GraphRun sha (fun action s => action.Within keys ∧ action.attachesFirst sha s = true) s)
    {id : String} {graph : Graph} (hGraph : s.graphs.lookup id = some graph)
    (hEnded : graph.state.isTerminal = true) {node : String} {stage : Stage}
    (hStage : stage ∈ graph.jobsOf node) :
    ∃ job, s.jobs.lookup (stableJobId sha ⟨id, node, stage⟩) = some job ∧ job.state.isTerminal = true := by
  have hRun := h.mono fun _ _ hC =>
    (⟨hC.1.wellFormed, hC.2⟩ : _ ∧ _)
  obtain ⟨hSound, hAdopted⟩ := hRun.invariant hNoCollision.injOn (fun _ _ hC => hC.1)
    (adopted_inductive hNoCollision.injOn)
  have hDispatched := Graph.mem_jobsOf.mp hStage
  obtain ⟨job, hJob⟩ := isSome_iff_exists.mp
    ((hSound.graphs id graph hGraph).jobs node stage hDispatched)
  refine ⟨job, hJob, ?_⟩
  simpa [Service.live, hJob] using (hAdopted id graph hGraph).graph hEnded node stage hDispatched

def finishedGraph : Service :=
  final (tick tableSha calmTurn)
    (final (moveJob (stableJobId tableSha ⟨"g", "a", .primary⟩) ⟨.succeeded, false, some "run-a"⟩)
      firstDispatch)

theorem no_orphan_jobs_finished :
    ∃ graph, finishedGraph.graphs.lookup "g" = some graph ∧ graph.state = .succeeded ∧
      ∃ job, finishedGraph.jobs.lookup (stableJobId tableSha ⟨"g", "a", .primary⟩) = some job ∧
        job.state.isTerminal = true := by
  have hGraph : (finishedGraph.graphs.lookup "g").any (fun graph =>
      graph.state == .succeeded && (graph.jobsOf "a").contains .primary) = true := by
    decide +kernel
  obtain ⟨graph, hLookup, hFacts⟩ := (any_eq_true _ _).mp hGraph
  simp only [Bool.and_eq_true, beq_iff_eq, contains_iff_mem] at hFacts
  refine ⟨graph, hLookup, hFacts.1, no_orphan_jobs noCollision_singleKeys
    (.step (.tick calmTurn) (.step (.job _ ⟨.succeeded, false, some "run-a"⟩)
      (.step (.tick calmTurn) (.step (.submit plainRegistration singleSpec) .empty ?_) ?_) ?_) ?_)
    hLookup (by rw [hFacts.1]; rfl) hFacts.2⟩
  · exact ⟨within_singleKeys _, rfl⟩
  · exact ⟨trivial, by decide +kernel⟩
  · exact ⟨trivial, rfl⟩
  · exact ⟨trivial, by decide +kernel⟩

/-- The daemon dies with the job in the queue and the node still pending; the
graph is cancelled before the next tick. -/
def orphaned : Service :=
  final (tick tableSha calmTurn) (final (requestCancel "g")
    (final (tick tableSha { calmTurn with dies := fun _ mark => mark == .queue "a" })
      (final (submit plainRegistration singleSpec) Service.empty)))

theorem orphan_job_left : NoCollision tableSha singleKeys ∧
      GraphRun tableSha (fun action _ => action.Within singleKeys) orphaned ∧
      ∃ graph job, orphaned.graphs.lookup "g" = some graph ∧ graph.state = .cancelled ∧
        .primary ∈ graph.jobsOf "a" ∧
        orphaned.jobs.lookup (stableJobId tableSha ⟨"g", "a", .primary⟩) = some job ∧
        job.state = .queued := by
  have hGraph : (orphaned.graphs.lookup "g").any (fun graph =>
      graph.state == .cancelled && (graph.jobsOf "a").contains .primary) = true := by
    decide +kernel
  have hJob : (orphaned.jobs.lookup (stableJobId tableSha ⟨"g", "a", .primary⟩)).any
      (·.state == .queued) = true := by
    decide +kernel
  obtain ⟨graph, hLookup, hFacts⟩ := (any_eq_true _ _).mp hGraph
  obtain ⟨job, hJobLookup, hState⟩ := (any_eq_true _ _).mp hJob
  simp only [Bool.and_eq_true, beq_iff_eq, contains_iff_mem] at hFacts hState
  refine ⟨noCollision_singleKeys, ?_, graph, job, hLookup, hFacts.1, hFacts.2, hJobLookup, hState⟩
  exact .step (.tick calmTurn) (.step (.cancel "g")
    (.step (.tick { calmTurn with dies := fun _ mark => mark == .queue "a" })
      (.step (.submit plainRegistration singleSpec) .empty (within_singleKeys _)) trivial) trivial)
    trivial

end LittleMonkey.Swarm.Resident
