import Mathlib.Data.Set.Function
import LittleMonkey.Swarm.Dispatching

/-! # Runs of the coordinator

A run is any sequence of registrations, cancellations, ticks that may be cut
anywhere, and moves of the jobs by the daemon.  What holds of the tables in
every run, `Sound`, is proved move by move: the stage of a node, its recorded
job and the jobs that exist for it never get out of step.
-/

namespace LittleMonkey.Swarm.Resident

open Durable Primitives Transaction List Option

/-! ## Runs -/

def moveJob (jobId : String) (next : SwarmJob) : ServiceM Unit := do
  match ← getJob jobId with
  | none => pure ()
  | some job => if job.state.isTerminal then pure () else write (·.setJob jobId next)

inductive Action
  | submit (registration : Registration) (spec : ResidentSwarmSpec)
  | cancel (id : String)
  | tick (turn : Turn)
  | job (jobId : String) (next : SwarmJob)

def Action.program (sha : Bytes → String) : Action → ServiceM Unit
  | submit registration spec => Resident.submit registration spec
  | cancel id => requestCancel id
  | tick turn => Resident.tick sha turn
  | job jobId next => moveJob jobId next

def Service.empty : Service := ⟨∅, ∅⟩

inductive GraphRun (sha : Bytes → String) (C : Action → Service → Prop) : Service → Prop
  | empty : GraphRun sha C Service.empty
  | step {s} (action : Action) (h : GraphRun sha C s) (hC : C action s) :
      GraphRun sha C (final (action.program sha) s)

/-! ## Job ids do not collide -/

def Stage.allowed : Stage → Bool
  | .primary | .fallback => true
  | .reassignment attempt => decide (1 ≤ attempt) && decide (attempt ≤ maxReadOnlyReassignments)

def Service.keys (s : Service) : Set JobKey :=
  { key | key.stage.allowed = true ∧ ∃ g, s.graphs.lookup key.graph = some g ∧ key.node ∈ g.spec.nodeIds }

def NoCollision (sha : Bytes → String) (keys : Set JobKey) : Prop :=
  ∀ key ∈ keys, ∀ key' ∈ keys,
    (sha (textBytes key.identity)).toList.take 32 = (sha (textBytes key'.identity)).toList.take 32 →
    key.identity = key'.identity

theorem stableJobId_injOn {sha keys} (h : NoCollision sha keys)
    (hKeys : ∀ key ∈ keys, key.wellFormed = true) : Set.InjOn (stableJobId sha) keys := by
  intro key hKey key' hKey' hEq
  have hChars := congrArg String.toList hEq
  simp only [stableJobId, String.toList_append, String.toList_ofList] at hChars
  exact JobKey.identity_injective (hKeys key hKey) (hKeys key' hKey')
    (h key hKey key' hKey' (append_cancel_left hChars))

/-! ## Soundness of the tables -/

section

variable (sha : Bytes → String)

/-- No job of the node is running. -/
abbrev Halted (s : Service) (id : String) (g : Graph) (node : String) : Prop :=
  ∀ stage, (node, stage) ∈ g.dispatched → s.live (stableJobId sha ⟨id, node, stage⟩) = false

/-- A node, its stage, and its jobs. -/
structure NodeSound (s : Service) (id : String) (g : Graph) (node : String) (row : NodeRow) :
    Prop where
  attempts : g.attempts node ≤ maxReadOnlyReassignments
  retried : 0 < g.attempts node → g.spec.hasFallback node = false
  fallback : row.state.isFallback = true → g.spec.hasFallback node = true
  stages : ∀ stage, (node, stage) ∈ g.dispatched →
    match stage with
    | .primary => True
    | .fallback => g.spec.hasFallback node = true ∧
      ((row.state.isOpen = true ∨ row.state.isSubmitted = true) → row.state.isFallback = true)
    | .reassignment attempt => 1 ≤ attempt ∧ attempt ≤ g.attempts node
  recorded : row.state.isSubmitted = true →
    row.jobId = some (stableJobId sha ⟨id, node, g.stage node row.state⟩) ∧
      (node, g.stage node row.state) ∈ g.dispatched
  succeeded : row.state = .succeeded → ∃ stage, (node, stage) ∈ g.dispatched ∧
    row.jobId = some (stableJobId sha ⟨id, node, stage⟩) ∧
    (s.jobs.lookup (stableJobId sha ⟨id, node, stage⟩)).map (·.state) = some .succeeded
  current : ∀ stage, (node, stage) ∈ g.dispatched → s.live (stableJobId sha ⟨id, node, stage⟩) = true →
    (row.state.isOpen = true ∨ row.state.isSubmitted = true) → stage = g.stage node row.state
  ended : (row.state = .succeeded ∨ row.state = .failed) → ∀ stage,
    (node, stage) ∈ g.dispatched → s.live (stableJobId sha ⟨id, node, stage⟩) = false
  unique : ∀ stage stage', (node, stage) ∈ g.dispatched → (node, stage') ∈ g.dispatched →
    s.live (stableJobId sha ⟨id, node, stage⟩) = true →
    s.live (stableJobId sha ⟨id, node, stage'⟩) = true → stage = stage'

structure GraphSound (s : Service) (id : String) (g : Graph) : Prop where
  spec : g.spec.Sound
  idEq : g.spec.id = id
  rows : ∀ node, (g.row node).isSome = true ↔ node ∈ g.spec.nodeIds
  plain : g.Plain
  nodup : g.dispatched.Nodup
  known : ∀ node stage, (node, stage) ∈ g.dispatched → node ∈ g.spec.nodeIds
  jobs : ∀ node stage, (node, stage) ∈ g.dispatched →
    (s.jobs.lookup (stableJobId sha ⟨id, node, stage⟩)).isSome = true
  dependencies : ∀ node ∈ g.spec.nodes, ∀ stage, (node.id, stage) ∈ g.dispatched →
    ∀ dep ∈ node.dependsOn, (g.row dep).map (·.state) = some .succeeded
  nodes : ∀ node row, g.row node = some row → NodeSound sha s id g node row

/-- `keys` are the ids that are known not to collide. -/
structure Sound (keys : Set JobKey) (s : Service) : Prop where
  graphs : ∀ id g, s.graphs.lookup id = some g → GraphSound sha s id g
  within : s.keys ⊆ keys
  dispatched : ∀ key ∈ keys, (s.jobs.lookup (stableJobId sha key)).isSome = true →
    ∃ g, s.graphs.lookup key.graph = some g ∧ (key.node, key.stage) ∈ g.dispatched

end

/-- Jobs stay in the table, and jobs that have ended stay as they are. -/
def JobsLater (s s' : Service) : Prop :=
  ∀ jobId job, s.jobs.lookup jobId = some job → ∃ job', s'.jobs.lookup jobId = some job' ∧
    (job.state.isTerminal = true → job'.state = job.state)

namespace JobsLater

variable {s s' : Service}

theorem of_jobs_eq (h : s'.jobs = s.jobs) : JobsLater s s' := fun _ job hJob =>
  ⟨job, h ▸ hJob, fun _ => rfl⟩

theorem setJob {jobId} (next : SwarmJob)
    (h : ∀ job, s.jobs.lookup jobId = some job → job.state.isTerminal = false) :
    JobsLater s (s.setJob jobId next) := by
  intro other job hJob
  by_cases hOther : other = jobId
  · subst hOther
    refine ⟨next, s.lookup_setJob other next, fun hEnded => ?_⟩
    rw [h job hJob] at hEnded
    cases hEnded
  · exact ⟨job, (s.lookup_setJob_of_ne next hOther).trans hJob, fun _ => rfl⟩

theorem isSome (h : JobsLater s s') {jobId} (hJob : (s.jobs.lookup jobId).isSome = true) :
    (s'.jobs.lookup jobId).isSome = true := by
  obtain ⟨job, hJob⟩ := isSome_iff_exists.mp hJob
  obtain ⟨job', hJob', _⟩ := h jobId job hJob
  rw [hJob']
  rfl

theorem live (h : JobsLater s s') {jobId} (hJob : (s.jobs.lookup jobId).isSome = true)
    (hLive : s'.live jobId = true) : s.live jobId = true := by
  obtain ⟨job, hJob⟩ := isSome_iff_exists.mp hJob
  obtain ⟨job', hJob', hEnded⟩ := h jobId job hJob
  cases hTerminal : job.state.isTerminal with
  | false => simp [Service.live, hJob, hTerminal]
  | true => simp [Service.live, hJob', hEnded hTerminal, hTerminal] at hLive

theorem succeeded (h : JobsLater s s') {jobId}
    (hJob : (s.jobs.lookup jobId).map (·.state) = some .succeeded) :
    (s'.jobs.lookup jobId).map (·.state) = some .succeeded := by
  obtain ⟨job, hJob, hState⟩ := map_eq_some_iff.mp hJob
  obtain ⟨job', hJob', hEnded⟩ := h jobId job hJob
  rw [hJob', map_some, hEnded (by rw [hState]; rfl), hState]

end JobsLater

variable {sha : Bytes → String} {id : String}

section

variable {s s' : Service} {g : Graph}

theorem NodeSound.later {node row} (h : NodeSound sha s id g node row)
    (hJobs : ∀ stage, (node, stage) ∈ g.dispatched →
      (s.jobs.lookup (stableJobId sha ⟨id, node, stage⟩)).isSome = true)
    (hLater : JobsLater s s') : NodeSound sha s' id g node row := by
  have hLive : ∀ stage, (node, stage) ∈ g.dispatched → s'.live (stableJobId sha ⟨id, node, stage⟩) = true →
      s.live (stableJobId sha ⟨id, node, stage⟩) = true := fun stage hStage => hLater.live (hJobs stage hStage)
  refine { h with
    succeeded := fun hState => ?_
    current := fun stage hStage hNow => h.current stage hStage (hLive stage hStage hNow)
    ended := fun hState stage hStage => ?_
    unique := fun stage stage' hStage hStage' hNow hNow' =>
      h.unique stage stage' hStage hStage' (hLive stage hStage hNow) (hLive stage' hStage' hNow') }
  · obtain ⟨stage, hStage, hId, hJob⟩ := h.succeeded hState
    exact ⟨stage, hStage, hId, hLater.succeeded hJob⟩
  · rw [Bool.eq_false_iff]
    intro hNow
    exact Bool.eq_false_iff.mp (h.ended hState stage hStage) (hLive stage hStage hNow)

theorem GraphSound.later (h : GraphSound sha s id g) (hLater : JobsLater s s') : GraphSound sha s' id g :=
  { h with
    jobs := fun node stage hStage => hLater.isSome (h.jobs node stage hStage)
    nodes := fun node row hRow => (h.nodes node row hRow).later (h.jobs node) hLater }

theorem Sound.later {keys} (h : Sound sha keys s) (hGraphs : s'.graphs = s.graphs) (hLater : JobsLater s s')
    (hOnly : ∀ jobId, (s'.jobs.lookup jobId).isSome = true → (s.jobs.lookup jobId).isSome = true) :
    Sound sha keys s' where
  graphs other g hGraph := (h.graphs other g (hGraphs ▸ hGraph)).later hLater
  within := by
    have hKeys : s'.keys = s.keys := by
      unfold Service.keys
      rw [hGraphs]
    rw [hKeys]
    exact h.within
  dispatched key hKey hJob := by
    rw [hGraphs]
    exact h.dispatched key hKey (hOnly _ hJob)

theorem Sound.setJob {keys} (h : Sound sha keys s) {jobId job} (hJob : s.jobs.lookup jobId = some job)
    (hLive : job.state.isTerminal = false) (next : SwarmJob) : Sound sha keys (s.setJob jobId next) := by
  refine h.later rfl (.setJob _ ?_) ?_
  · intro other hOther
    cases hOther.symm.trans hJob
    exact hLive
  · intro other hOther
    by_cases hSame : other = jobId
    · rw [hSame, hJob]
      rfl
    · rwa [s.lookup_setJob_of_ne _ hSame] at hOther

end

/-! ## Rows -/

section

variable {s : Service} {g g' : Graph} {node : String} {row : NodeRow}

theorem Graph.stage_congr {state state'} (hAttempts : g'.attempts node = g.attempts node)
    (hFlag : state'.isFallback = state.isFallback) : g'.stage node state' = g.stage node state := by
  simp [Graph.stage, hAttempts, hFlag]

section

variable (h : NodeSound sha s id g node row)

include h

theorem NodeSound.congr (hSpec : g'.spec = g.spec) (hAttempts : g'.attempts node = g.attempts node)
    (hDispatched : g'.dispatched = g.dispatched) : NodeSound sha s id g' node row where
  attempts := by rw [hAttempts]; exact h.attempts
  retried := by rw [hAttempts, hSpec]; exact h.retried
  fallback := by rw [hSpec]; exact h.fallback
  stages := by rw [hDispatched, hAttempts, hSpec]; exact h.stages
  recorded := by
    rw [hDispatched, Graph.stage_congr hAttempts rfl]
    exact h.recorded
  succeeded := by rw [hDispatched]; exact h.succeeded
  current := by
    rw [hDispatched, Graph.stage_congr hAttempts rfl]
    exact h.current
  ended := by rw [hDispatched]; exact h.ended
  unique := by rw [hDispatched]; exact h.unique

theorem NodeSound.close (row' : NodeRow)
    (hOpen : row'.state.isOpen = false) (hSubmitted : row'.state.isSubmitted = false)
    (hFlag : row'.state.isFallback = false)
    (hSucceeded : row'.state = .succeeded → ∃ stage, (node, stage) ∈ g.dispatched ∧
      row'.jobId = some (stableJobId sha ⟨id, node, stage⟩) ∧
      (s.jobs.lookup (stableJobId sha ⟨id, node, stage⟩)).map (·.state) = some .succeeded)
    (hEnded : row'.state = .cancelled ∨ Halted sha s id g node) :
    NodeSound sha s id g node row' where
  __ := h
  fallback hYes := by rw [hFlag] at hYes; cases hYes
  stages stage hStage := by
    have hKnown := h.stages stage hStage
    cases stage with
    | primary => trivial
    | reassignment attempt => exact hKnown
    | fallback =>
      refine ⟨hKnown.1, fun hYes => ?_⟩
      rw [hOpen, hSubmitted] at hYes
      simp at hYes
  recorded hYes := by rw [hSubmitted] at hYes; cases hYes
  succeeded := hSucceeded
  current stage _ _ hYes := by
    rw [hOpen, hSubmitted] at hYes
    simp at hYes
  ended hState := by
    rcases hEnded with hCancelled | hEnded
    · rw [hCancelled] at hState
      simp at hState
    · exact hEnded

theorem NodeSound.restate (row' : NodeRow) (hWas : row.state.isOpen = true ∨ row.state.isSubmitted = true)
    (hFlag : row'.state.isFallback = row.state.isFallback)
    (hOver : row'.state ≠ .succeeded ∧ row'.state ≠ .failed) (hRecorded : row'.state.isSubmitted = true →
      row'.jobId = some (stableJobId sha ⟨id, node, g.stage node row.state⟩) ∧
        (node, g.stage node row.state) ∈ g.dispatched) :
    NodeSound sha s id g node row' where
  __ := h
  fallback hYes := h.fallback (hFlag ▸ hYes)
  stages stage hStage := by
    have hKnown := h.stages stage hStage
    cases stage with
    | primary => trivial
    | reassignment attempt => exact hKnown
    | fallback => exact ⟨hKnown.1, fun _ => hFlag.trans (hKnown.2 hWas)⟩
  recorded hYes := by
    rw [Graph.stage_congr rfl hFlag]
    exact hRecorded hYes
  succeeded hYes := absurd hYes hOver.1
  current stage hStage hLive _ := by
    rw [Graph.stage_congr rfl hFlag]
    exact h.current stage hStage hLive hWas
  ended hYes := (hYes.elim (absurd · hOver.1) (absurd · hOver.2))

theorem NodeSound.dead (hWas : row.state.isOpen = true ∨ row.state.isSubmitted = true)
    (hDead : s.live (stableJobId sha ⟨id, node, g.stage node row.state⟩) = false) :
    Halted sha s id g node := by
  intro stage hStage
  cases hLive : s.live (stableJobId sha ⟨id, node, stage⟩) with
  | false => rfl
  | true =>
    rw [h.current stage hStage hLive hWas, hDead] at hLive
    cases hLive

end

theorem GraphSound.update (h : GraphSound sha s id g) {row'}
    (hSpec : g'.spec = g.spec) (hDispatched : g'.dispatched = g.dispatched)
    (hRow : g.row node = some row) (hRow' : g'.row node = some row')
    (hOthers : ∀ other, other ≠ node → g'.row other = g.row other)
    (hAttempts : ∀ other, other ≠ node → g'.attempts other = g.attempts other)
    (hPlain : g.spec.clusterId.isSome = false → row'.state.isOpen = true → row'.state.isPending = true)
    (hLeft : row.state ≠ .succeeded) (hNode : NodeSound sha s id g' node row') : GraphSound sha s id g' where
  spec := hSpec ▸ h.spec
  idEq := hSpec ▸ h.idEq
  rows other := by
    rw [hSpec, ← h.rows other]
    by_cases hOther : other = node
    · subst hOther
      rw [hRow, hRow']
      simp
    · rw [hOthers other hOther]
  plain hNone other next hNext hOpen := by
    rw [hSpec] at hNone
    by_cases hOther : other = node
    · subst hOther
      cases hNext.symm.trans hRow'
      exact hPlain hNone hOpen
    · rw [hOthers other hOther] at hNext
      exact h.plain hNone other next hNext hOpen
  nodup := hDispatched ▸ h.nodup
  known := by rw [hDispatched, hSpec]; exact h.known
  jobs := by rw [hDispatched]; exact h.jobs
  dependencies := by
    rw [hDispatched, hSpec]
    intro entry hEntry stage hStage dep hDep
    have hState := h.dependencies entry hEntry stage hStage dep hDep
    have hOther : dep ≠ node := by
      rintro rfl
      rw [hRow] at hState
      exact hLeft (Option.some.inj hState)
    rw [hOthers dep hOther]
    exact hState
  nodes other next hNext := by
    by_cases hOther : other = node
    · subst hOther
      cases hNext.symm.trans hRow'
      exact hNode
    · rw [hOthers other hOther] at hNext
      exact (h.nodes other next hNext).congr hSpec (hAttempts other hOther) hDispatched

theorem Sound.graft {keys} (h : Sound sha keys s) {s₁ : Service} (hGraphs : s₁.graphs = s.graphs)
    (hLater : JobsLater s (s₁.setGraph id g')) (hSound : GraphSound sha (s₁.setGraph id g') id g')
    (hKeys : ∀ key : JobKey, key.graph = id → key.stage.allowed = true → key.node ∈ g'.spec.nodeIds → key ∈ keys)
    (hOld : ∀ key ∈ keys, key.graph ≠ id → (s₁.jobs.lookup (stableJobId sha key)).isSome = true →
      (s.jobs.lookup (stableJobId sha key)).isSome = true)
    (hDispatched : ∀ key ∈ keys, key.graph = id → (s₁.jobs.lookup (stableJobId sha key)).isSome = true →
      (key.node, key.stage) ∈ g'.dispatched) : Sound sha keys (s₁.setGraph id g') where
  graphs other next hNext := by
    by_cases hOther : other = id
    · subst hOther
      rw [s₁.lookup_setGraph] at hNext
      cases hNext
      exact hSound
    · rw [s₁.lookup_setGraph_of_ne _ hOther, hGraphs] at hNext
      exact (h.graphs other next hNext).later hLater
  within := by
    rintro key ⟨hStage, next, hNext, hNode⟩
    by_cases hOther : key.graph = id
    · rw [hOther, s₁.lookup_setGraph] at hNext
      cases hNext
      exact hKeys key hOther hStage hNode
    · rw [s₁.lookup_setGraph_of_ne _ hOther, hGraphs] at hNext
      exact h.within ⟨hStage, next, hNext, hNode⟩
  dispatched key hKey hJob := by
    by_cases hOther : key.graph = id
    · exact ⟨g', hOther ▸ s₁.lookup_setGraph id g', hDispatched key hKey hOther hJob⟩
    · obtain ⟨next, hNext, hStage⟩ := h.dispatched key hKey (hOld key hKey hOther hJob)
      rw [s₁.lookup_setGraph_of_ne _ hOther, hGraphs]
      exact ⟨next, hNext, hStage⟩

theorem Sound.setGraph {keys} (h : Sound sha keys s)
    (hGraph : s.graphs.lookup id = some g) (hSpec : g'.spec = g.spec)
    (hDispatched : g'.dispatched = g.dispatched) (hSound : GraphSound sha s id g') :
    Sound sha keys (s.setGraph id g') := by
  refine h.graft rfl (.of_jobs_eq rfl) (hSound.later (.of_jobs_eq rfl)) ?_ (fun _ _ _ hJob => hJob) ?_
  · exact fun key hOther hStage hNode => h.within ⟨hStage, g, hOther ▸ hGraph, hSpec ▸ hNode⟩
  · intro key hKey hOther hJob
    obtain ⟨next, hNext, hStage⟩ := h.dispatched key hKey hJob
    rw [hOther] at hNext
    cases hNext.symm.trans hGraph
    exact hDispatched ▸ hStage

end

/-! ## Moves -/

section

variable {t : Turn} {s s' : Service} {g g' : Graph} {node : String} {row : NodeRow}
  {keys : Set JobKey}
variable {entry : ResidentSwarmNode} {base : Service} {start : Graph} {state : NodeState} {jobId : String}
  {job : SwarmJob}

theorem Sound.setNode (h : Sound sha keys s) (hGraph : s.graphs.lookup id = some g)
    (hRow : g.row node = some row) (row' : NodeRow)
    (hPlain : g.spec.clusterId.isSome = false → row'.state.isOpen = true → row'.state.isPending = true)
    (hLeft : row.state ≠ .succeeded) (hNode : NodeSound sha s id g node row') :
    Sound sha keys (s.setGraph id (g.setNode node row')) :=
  h.setGraph hGraph rfl rfl ((h.graphs id g hGraph).update rfl rfl hRow
    (g.row_setNode node row') (fun _ hOther => g.row_setNode_of_ne row' hOther)
    (fun _ _ => rfl) hPlain hLeft (hNode.congr rfl rfl rfl))

theorem Sound.setState (h : Sound sha keys s) (hGraph : s.graphs.lookup id = some g)
    (state : GraphState) : Sound sha keys (s.setGraph id (g.setState state)) := by
  have hSound := h.graphs id g hGraph
  exact h.setGraph hGraph rfl rfl { hSound with
    nodes := fun other next hNext => (hSound.nodes other next hNext).congr rfl rfl rfl }

theorem NodeState.ne_succeeded_of_isSubmitted (h : state.isSubmitted = true) : state ≠ .succeeded := by
  rintro rfl
  cases h

theorem NodeState.ne_succeeded_of_isOpen (h : state.isOpen = true) : state ≠ .succeeded := by
  rintro rfl
  cases h

theorem Current.id_eq (hCur : Current s id g node row jobId job) (h : NodeSound sha s id g node row) :
    jobId = stableJobId sha ⟨id, node, g.stage node row.state⟩ :=
  Option.some.inj (hCur.recorded.symm.trans (h.recorded hCur.submitted).1)

theorem Current.dead (hCur : Current s id g node row jobId job) (h : NodeSound sha s id g node row)
    (hEnded : job.state.isTerminal = true) : Halted sha s id g node := by
  refine h.dead (.inr hCur.submitted) ?_
  rw [← hCur.id_eq h]
  simp [Service.live, hCur.jobAt, hEnded]

theorem NodeSound.retry (h : NodeSound sha s id g node row)
    (hFallback : g.spec.hasFallback node = false) (hAttempts : g.attempts node < maxReadOnlyReassignments)
    (hDead : Halted sha s id g node) (jobId : Option String) :
    NodeSound sha s id ((g.setNode node ⟨.preparing, jobId⟩).setAttempts node
      (g.attempts node + 1)) node ⟨.preparing, jobId⟩ where
  __ := h
  attempts := by
    rw [Graph.attempts_setAttempts]
    exact hAttempts
  retried _ := hFallback
  fallback hYes := absurd hYes Bool.false_ne_true
  stages stage hStage := by
    have hKnown := h.stages stage hStage
    cases stage with
    | primary => trivial
    | fallback =>
      rw [hFallback] at hKnown
      exact absurd hKnown.1 Bool.false_ne_true
    | reassignment attempt =>
      rw [Graph.attempts_setAttempts]
      exact ⟨hKnown.1, Nat.le_succ_of_le hKnown.2⟩
  recorded hYes := absurd hYes Bool.false_ne_true
  succeeded hYes := by cases hYes
  current stage hStage hLive := by
    rw [hDead stage hStage] at hLive
    cases hLive
  ended hYes := by simp at hYes

theorem NodeSound.fallBack (h : NodeSound sha s id g node row) (hFallback : g.spec.hasFallback node = true)
    (hDead : Halted sha s id g node) :
    NodeSound sha s id g node ⟨.pendingFallback, none⟩ where
  __ := h
  fallback _ := hFallback
  stages stage hStage := by
    have hKnown := h.stages stage hStage
    cases stage with
    | primary => trivial
    | fallback => exact ⟨hFallback, fun _ => rfl⟩
    | reassignment attempt => exact hKnown
  recorded hYes := absurd hYes Bool.false_ne_true
  succeeded hYes := by cases hYes
  current stage hStage hLive := by
    rw [hDead stage hStage] at hLive
    cases hLive
  ended hYes := by simp at hYes

theorem Settle.sound (hMove : Settle sha id s s') (h : Sound sha keys s) : Sound sha keys s' := by
  cases hMove with
  | succeed hCur hJob =>
    rename_i g node row jobId job
    have hNode := (h.graphs id g hCur.graphAt).nodes node row hCur.rowAt
    refine h.setNode hCur.graphAt hCur.rowAt _ (fun _ hOpen => by cases hOpen)
      (NodeState.ne_succeeded_of_isSubmitted hCur.submitted) (hNode.close _ rfl rfl rfl ?_ ?_)
    · intro _
      refine ⟨_, (hNode.recorded hCur.submitted).2, (hNode.recorded hCur.submitted).1, ?_⟩
      rw [← hCur.id_eq hNode, hCur.jobAt, map_some, hJob]
    · exact .inr (hCur.dead hNode (by rw [hJob]; rfl))
  | fallBack hCur hState hJob hFallback =>
    rename_i g node row jobId job
    have hNode := (h.graphs id g hCur.graphAt).nodes node row hCur.rowAt
    exact h.setNode hCur.graphAt hCur.rowAt _ (fun _ _ => rfl)
      (NodeState.ne_succeeded_of_isSubmitted hCur.submitted)
      (hNode.fallBack hFallback (hCur.dead hNode (by rw [hJob]; rfl)))
  | reassign hCur hState hJob hFallback hClustered hAttempts =>
    rename_i g node row jobId job
    have hSound := h.graphs id g hCur.graphAt
    have hNode := hSound.nodes node row hCur.rowAt
    refine h.setGraph hCur.graphAt rfl rfl (hSound.update rfl rfl hCur.rowAt
      (g.row_setNode node _) (fun _ hOther => g.row_setNode_of_ne _ hOther)
      (fun _ hOther => Graph.attempts_setAttempts_of_ne _ _ hOther) ?_
      (NodeState.ne_succeeded_of_isSubmitted hCur.submitted)
      (hNode.retry hFallback hAttempts (hCur.dead hNode (by rw [hJob]; rfl)) _))
    intro hNone
    rw [hClustered] at hNone
    cases hNone
  | fail hCur hJob =>
    rename_i g node row jobId job
    have hNode := (h.graphs id g hCur.graphAt).nodes node row hCur.rowAt
    have hEnded : job.state.isTerminal = true := by
      simp only [Graph.givesUp, Bool.and_eq_true] at hJob
      exact hJob.1.1.1
    exact h.setNode hCur.graphAt hCur.rowAt _ (fun _ hOpen => by cases hOpen)
      (NodeState.ne_succeeded_of_isSubmitted hCur.submitted)
      (hNode.close _ rfl rfl rfl (fun hDone => by cases hDone) (.inr (hCur.dead hNode hEnded)))

theorem Cancel.sound (hMove : Cancel id s s') (h : Sound sha keys s) : Sound sha keys s' := by
  cases hMove with
  | cancelJob hCur hLive => exact h.setJob hCur.jobAt hLive _
  | cancelNode hGraph hRow hOpen =>
    rename_i g node row
    have hNode := (h.graphs id g hGraph).nodes node row hRow
    exact h.setNode hGraph hRow _ (nofun)
      (NodeState.ne_succeeded_of_isOpen hOpen)
      (hNode.close _ rfl rfl rfl (nofun) (.inl rfl))
  | close hGraph hEnd hRows => exact h.setState hGraph _
  | failing hGraph => exact h.setState hGraph _

theorem NodeSound.allowed_stage (h : NodeSound sha s id g node row) (state : NodeState) :
    (g.stage node state).allowed = true := by
  have hAttempts := h.attempts
  unfold Graph.stage
  split
  · rfl
  · split
    · rfl
    · simp only [Stage.allowed, Bool.and_eq_true, decide_eq_true_eq]
      omega

theorem Sound.mem_keys (h : Sound sha keys s) (hGraph : s.graphs.lookup id = some g)
    (hRow : g.row node = some row) {stage} (hStage : stage.allowed = true) :
    (⟨id, node, stage⟩ : JobKey) ∈ keys := by
  refine h.within ⟨hStage, g, hGraph, ((h.graphs id g hGraph).rows node).mp ?_⟩
  rw [hRow]
  rfl

theorem Sound.mem_dispatched (h : Sound sha keys s) (hGraph : s.graphs.lookup id = some g)
    (hRow : g.row node = some row) (hJob : (s.stageJob sha id g node row.state).isSome = true) :
    (node, g.stage node row.state) ∈ g.dispatched := by
  have hNode := (h.graphs id g hGraph).nodes node row hRow
  obtain ⟨other, hOther, hStage⟩ := h.dispatched ⟨id, node, g.stage node row.state⟩
    (h.mem_keys hGraph hRow (hNode.allowed_stage row.state)) hJob
  cases hGraph.symm.trans hOther
  exact hStage

theorem Moved.dead {row'} (h : Moved id s g g' node row row' jobId job) (hSound : Sound sha keys s)
    (hSound' : Sound sha keys (s.setGraph id g')) :
    s.live (stableJobId sha ⟨id, node, g'.stage node row'.state⟩) = false := by
  cases hLive : s.live (stableJobId sha ⟨id, node, g'.stage node row'.state⟩) with
  | false => rfl
  | true =>
    have hNode := (hSound.graphs id g h.current.graphAt).nodes node row h.current.rowAt
    have hStage := hSound'.mem_dispatched (s.lookup_setGraph id g') h.rowAt
      (Service.isSome_of_live hLive)
    rw [h.dispatched] at hStage
    rw [h.current.dead hNode h.ended _ hStage] at hLive
    cases hLive

theorem NodeSound.insert (h : NodeSound sha s id g node row) (hOpen : row.state.isOpen = true)
    (hDispatched : ∀ stage, (node, stage) ∈ g'.dispatched →
      (node, stage) ∈ g.dispatched ∨ stage = g.stage node row.state)
    (hSpec : g'.spec = g.spec) (hAttempts : g'.attempts node = g.attempts node) :
    NodeSound sha s id g' node row := by
  have hCur : ∀ stage, (node, stage) ∈ g'.dispatched →
      s.live (stableJobId sha ⟨id, node, stage⟩) = true → stage = g'.stage node row.state := by
    intro stage hStage hLive
    rw [Graph.stage_congr hAttempts rfl]
    exact (hDispatched stage hStage).elim (fun hOld => h.current stage hOld hLive (.inl hOpen))
      fun hNew => hNew
  refine
    { attempts := hAttempts ▸ h.attempts
      retried := by rw [hAttempts, hSpec]; exact h.retried
      fallback := by rw [hSpec]; exact h.fallback
      stages := ?_
      recorded := fun hYes => by
        rw [NodeState.isOpen_of_isSubmitted hYes] at hOpen
        cases hOpen
      succeeded := fun hYes => absurd hYes (NodeState.ne_succeeded_of_isOpen hOpen)
      current := fun stage hStage hLive _ => hCur stage hStage hLive
      ended := by rintro (hYes | hYes) <;> rw [hYes] at hOpen <;> cases hOpen
      unique := fun stage stage' hStage hStage' hLive hLive' =>
        (hCur stage hStage hLive).trans (hCur stage' hStage' hLive').symm }
  intro stage hStage
  rw [hSpec, hAttempts]
  rcases hDispatched stage hStage with hOld | rfl
  · exact h.stages stage hOld
  · cases hKind : g.stage node row.state with
    | primary => trivial
    | fallback =>
      have hFlag : row.state.isFallback = true := by
        unfold Graph.stage at hKind
        split at hKind
        · assumption
        · split at hKind <;> cases hKind
      exact ⟨h.fallback hFlag, fun _ => hFlag⟩
    | reassignment attempt =>
      unfold Graph.stage at hKind
      split at hKind
      · cases hKind
      · split at hKind
        · cases hKind
        · cases hKind
          omega

theorem ResidentSwarmSpec.Sound.node_inj {spec : ResidentSwarmSpec} (h : spec.Sound)
    {a b} (ha : a ∈ spec.nodes) (hb : b ∈ spec.nodes) (hId : a.id = b.id) : a = b :=
  inj_on_of_nodup_map h.nodup ha hb hId

section

variable (h : Insertion sha t id base start s g entry row)

include h

theorem Insertion.mem_nodes : entry ∈ g.spec.nodes := by
  obtain ⟨_, _, _, hMidway, _⟩ := h.midway
  rw [hMidway.specEq, hMidway.nodes]
  exact mem_append_right _ mem_cons_self

theorem Insertion.graphAt : s.graphs.lookup id = some g := by
  obtain ⟨_, _, _, hMidway, _⟩ := h.midway
  exact hMidway.graphAt

theorem Insertion.dependency {dep}
    (hDep : dep ∈ entry.dependsOn) : (g.row dep).map (·.state) = some .succeeded := by
  obtain ⟨_, _, _, hMidway, _⟩ := h.midway
  obtain ⟨depRow, hRow, hState⟩ := map_eq_some_iff.mp (h.dependencies dep hDep)
  rw [hMidway.kept dep depRow hRow (by rw [hState]; rfl), map_some, hState]

theorem Insertion.notMem_dispatched (hSound : GraphSound sha s id g) :
    (entry.id, g.stage entry.id row.state) ∉ g.dispatched := by
  intro hStage
  have hJob := hSound.jobs entry.id _ hStage
  have hFresh := h.fresh
  unfold Service.stageJob at hFresh
  rw [hFresh] at hJob
  cases hJob

theorem Insertion.later (job : SwarmJob) (g' : Graph) :
    JobsLater s ((s.setJob (stableJobId sha ⟨id, entry.id, g.stage entry.id row.state⟩)
      job).setGraph id g') := by
  have hFresh := h.fresh
  unfold Service.stageJob at hFresh
  intro jobId old hOld
  refine JobsLater.setJob job ?_ jobId old hOld
  intro other hOther
  rw [hFresh] at hOther
  cases hOther

theorem Insertion.graphSound (hSound : GraphSound sha s id g) (job : SwarmJob) :
    GraphSound sha ((s.setJob (stableJobId sha ⟨id, entry.id, g.stage entry.id row.state⟩)
      job).setGraph id { g with
        dispatched := g.dispatched ++ [(entry.id, g.stage entry.id row.state)] }) id
      { g with
        dispatched := g.dispatched ++ [(entry.id, g.stage entry.id row.state)] } where
  __ := hSound
  nodup := by
    refine nodup_append.mpr ⟨hSound.nodup, nodup_singleton _, ?_⟩
    intro old hOld new hNew hEq
    rw [hEq, mem_singleton.mp hNew] at hOld
    exact h.notMem_dispatched hSound hOld
  known other stage hStage := by
    rcases mem_append.mp hStage with hOld | hNew
    · exact hSound.known other stage hOld
    · cases mem_singleton.mp hNew
      exact mem_map_of_mem h.mem_nodes
  jobs other stage hStage := by
    rcases mem_append.mp hStage with hOld | hNew
    · exact (h.later job _).isSome (hSound.jobs other stage hOld)
    · cases mem_singleton.mp hNew
      rw [Service.jobs_setGraph, Service.lookup_setJob]
      rfl
  dependencies other hOther stage hStage dep hDep := by
    rcases mem_append.mp hStage with hOld | hNew
    · exact hSound.dependencies other hOther stage hOld dep hDep
    · have hId : other.id = entry.id := congrArg Prod.fst (mem_singleton.mp hNew)
      cases hSound.spec.node_inj hOther h.mem_nodes hId
      exact h.dependency hDep
  nodes other next hNext := by
    have hLater := (hSound.nodes other next hNext).later (hSound.jobs other) (h.later job
      { g with dispatched := g.dispatched ++ [(entry.id, g.stage entry.id row.state)] })
    by_cases hOther : other = entry.id
    · subst hOther
      cases hNext.symm.trans h.rowAt
      refine hLater.insert h.isOpen ?_ rfl rfl
      intro stage hStage
      refine (mem_append.mp hStage).imp_right fun hNew => ?_
      exact congrArg Prod.snd (mem_singleton.mp hNew)
    · have hOnly : ∀ stage, (other, stage) ∈
          g.dispatched ++ [(entry.id, g.stage entry.id row.state)] → (other, stage) ∈ g.dispatched := by
        intro stage hStage
        refine (mem_append.mp hStage).resolve_right fun hNew => ?_
        exact hOther (congrArg Prod.fst (mem_singleton.mp hNew))
      exact { hLater with
        stages := fun stage hStage => hLater.stages stage (hOnly stage hStage)
        recorded := fun hYes => (hLater.recorded hYes).imp_right (mem_append_left _)
        succeeded := fun hYes => by
          obtain ⟨stage, hStage, hRest⟩ := hLater.succeeded hYes
          exact ⟨stage, mem_append_left _ hStage, hRest⟩
        current := fun stage hStage => hLater.current stage (hOnly stage hStage)
        ended := fun hYes stage hStage => hLater.ended hYes stage (hOnly stage hStage)
        unique := fun stage stage' hStage hStage' =>
          hLater.unique stage stage' (hOnly stage hStage) (hOnly stage' hStage') }

end

theorem NodeState.intended_facts (h : state.isPending = true) :
    state.isOpen = true ∧ state.intended.isFallback = state.isFallback ∧
      (state.intended ≠ .succeeded ∧ state.intended ≠ .failed) ∧
      state.intended.isSubmitted = false := by
  cases state <;> first | cases h; done | decide

theorem NodeState.dispatched_facts (state : NodeState) : state.dispatched.isFallback = state.isFallback ∧
      (state.dispatched ≠ .succeeded ∧ state.dispatched ≠ .failed) := by
  cases state <;> decide

theorem Dispatch.sound (hMove : Dispatch sha t id base start s s') (hInj : Set.InjOn (stableJobId sha) keys)
    (h : Sound sha keys s) : Sound sha keys s' := by
  cases hMove with
  | intend hGraph hRow hPending hClustered hJob =>
    rename_i g node row
    have hNode := (h.graphs id g hGraph).nodes node row hRow
    obtain ⟨hOpen, hFlag, hOver, hSubmitted⟩ := NodeState.intended_facts hPending
    refine h.setNode hGraph hRow _ ?_ (NodeState.ne_succeeded_of_isOpen hOpen)
      (hNode.restate _ (.inl hOpen) hFlag hOver fun hYes => ?_)
    · intro hNone
      rw [hClustered] at hNone
      cases hNone
    · rw [hSubmitted] at hYes
      cases hYes
  | attach hGraph hRow hOpen hJob =>
    rename_i g node row
    have hNode := (h.graphs id g hGraph).nodes node row hRow
    obtain ⟨hFlag, hOver⟩ := row.state.dispatched_facts
    refine h.setNode hGraph hRow _ ?_ (NodeState.ne_succeeded_of_isOpen hOpen)
      (hNode.restate _ (.inl hOpen) hFlag hOver fun _ => ⟨rfl, h.mem_dispatched hGraph hRow hJob⟩)
    intro _ hYes
    rw [row.state.isOpen_dispatched] at hYes
    cases hYes
  | insert hInsertion =>
    rename_i g entry row
    have hGraph := hInsertion.graphAt
    have hSound := h.graphs id g hGraph
    have hKey := h.mem_keys hGraph hInsertion.rowAt
      ((hSound.nodes entry.id row hInsertion.rowAt).allowed_stage row.state)
    have hNew (job) (key) (hMem : key ∈ keys) (hNe : key ≠ ⟨id, entry.id, g.stage entry.id row.state⟩) :=
      s.lookup_setJob_of_ne job fun hEq => hNe (hInj hMem hKey hEq)
    refine h.graft rfl (hInsertion.later _ _) (hInsertion.graphSound hSound _) ?_ ?_ ?_
    · exact fun key hOther hStage hNode => h.within ⟨hStage, g, hOther ▸ hGraph, hNode⟩
    · exact fun key hMem hOther hJob => hNew _ key hMem (fun hEq => hOther (hEq ▸ rfl)) ▸ hJob
    · intro key hMem hOther hJob
      by_cases hSame : key = ⟨id, entry.id, g.stage entry.id row.state⟩
      · subst hSame
        exact mem_append_right _ (mem_singleton_self _)
      · obtain ⟨next, hNext, hStage⟩ := h.dispatched key hMem (hNew _ key hMem hSame ▸ hJob)
        rw [hOther] at hNext
        cases hNext.symm.trans hGraph
        exact mem_append_left _ hStage
  | prepare hGraph hRow hJob hLive => exact h.setJob hJob hLive _
  | fail hGraph hRow hOpen hDead =>
    rename_i g node row
    have hNode := (h.graphs id g hGraph).nodes node row hRow
    exact h.setNode hGraph hRow _ (nofun)
      (NodeState.ne_succeeded_of_isOpen hOpen)
      (hNode.close _ rfl rfl rfl (fun hDone => by cases hDone) (.inr (hNode.dead (.inl hOpen) hDead)))
  | failing hGraph => exact h.setState hGraph _

end

end LittleMonkey.Swarm.Resident
