import Mathlib.Data.Finset.Card
import Mathlib.Logic.Relation
import LittleMonkey.Swarm.Coordinator

/-! # What a tick can do to a graph

Every durable write of a tick is a move, with what the coordinator had checked
when it wrote: it settles submitted nodes first, and then stops the graph, ends
it, or dispatches nodes.  A tick that is cut anywhere has made a sequence of
such moves, so the invariants of the tables are proved move by move.
-/

namespace LittleMonkey.Swarm.Resident

open Primitives Relation List AList

/-! ## Reading the tables -/

namespace Service

theorem modify_of_lookup {s : Service} {id g} (h : s.graphs.lookup id = some g) (f : Graph → Graph) :
    s.modify id f = s.setGraph id (f g) := by
  simp [modify, h]

@[simp]
theorem lookup_setGraph (s : Service) (id : String) (g : Graph) :
    (s.setGraph id g).graphs.lookup id = some g := by
  simp [setGraph]

theorem lookup_setGraph_of_ne (s : Service) {id other} (g : Graph) (h : other ≠ id) :
    (s.setGraph id g).graphs.lookup other = s.graphs.lookup other := by
  simp [setGraph, lookup_insert_ne h]

@[simp]
theorem jobs_setGraph (s : Service) (id : String) (g : Graph) : (s.setGraph id g).jobs = s.jobs := rfl

@[simp]
theorem lookup_setJob (s : Service) (jobId : String) (job : SwarmJob) :
    (s.setJob jobId job).jobs.lookup jobId = some job := by
  simp [setJob]

theorem lookup_setJob_of_ne (s : Service) {jobId other} (job : SwarmJob)
    (h : other ≠ jobId) : (s.setJob jobId job).jobs.lookup other = s.jobs.lookup other := by
  simp [setJob, lookup_insert_ne h]

def live (s : Service) (jobId : String) : Bool := (s.jobs.lookup jobId).any (!·.state.isTerminal)

@[simp]
theorem live_setGraph (s : Service) (id : String) (g : Graph) : (s.setGraph id g).live = s.live := rfl

theorem isSome_of_live {s : Service} {jobId} (h : s.live jobId = true) :
    (s.jobs.lookup jobId).isSome = true := by
  cases hJob : s.jobs.lookup jobId with
  | some job => rfl
  | none => simp [live, hJob] at h

def attached (s : Service) (g : Graph) (node : String) : Bool :=
  (g.row node).any fun row => row.state.isSubmitted && row.jobId.any s.live

end Service

namespace Graph

@[simp]
theorem row_setNode (g : Graph) (node : String) (row : NodeRow) :
    (g.setNode node row).row node = some row := by
  simp [setNode, Graph.row]

theorem row_setNode_of_ne (g : Graph) {node other} (row : NodeRow)
    (h : other ≠ node) : (g.setNode node row).row other = g.row other := by
  simp [setNode, Graph.row, lookup_insert_ne h]

@[simp]
theorem attempts_setAttempts (g : Graph) (node : String) (attempts : Nat) :
    (g.setAttempts node attempts).attempts node = attempts := by
  simp [setAttempts, Graph.attempts]

theorem attempts_setAttempts_of_ne (g : Graph) {node other} (attempts : Nat) (h : other ≠ node) :
    (g.setAttempts node attempts).attempts other = g.attempts other := by
  simp [setAttempts, Graph.attempts, lookup_insert_ne h]

theorem mem_tasks {g : Graph} {node row} : (node, row) ∈ g.tasks ↔ g.row node = some row := by
  rw [tasks, mem_insertionSort]
  constructor
  · intro h
    obtain ⟨entry, hEntry, hEq⟩ := mem_map.mp h
    cases hEq
    exact mem_lookup_iff.mpr hEntry
  · intro h
    exact mem_map.mpr ⟨⟨node, row⟩, mem_lookup_iff.mp h, rfl⟩

theorem nodup_tasks (g : Graph) : (g.tasks.map Prod.fst).Nodup := by
  have hPerm := (List.perm_insertionSort (fun a b : String × NodeRow => a.1 ≤ b.1)
    (g.nodes.entries.map fun entry => (entry.1, entry.2))).map Prod.fst
  refine hPerm.nodup_iff.mpr ?_
  rw [List.map_map]
  exact g.nodes.nodupKeys

theorem stateIn_tasks (g : Graph) (node : String) : stateIn g.tasks node = (g.row node).map (·.state) := by
  unfold stateIn
  cases hFind : g.tasks.find? (·.1 == node) with
  | none =>
    cases hRow : g.row node with
    | none => rfl
    | some row =>
      have hOther := List.find?_eq_none.mp hFind (node, row) (mem_tasks.mpr hRow)
      exact absurd (beq_self_eq_true node) hOther
  | some task =>
    have hName : task.1 = node := by simpa using List.find?_some hFind
    have hRow : g.row node = some task.2 :=
      mem_tasks.mp (by simpa [← hName] using mem_of_find?_eq_some hFind)
    rw [hRow]
    rfl

end Graph

/-! ## Moves -/

def Service.stageJob (s : Service) (sha : Bytes → String) (id : String) (g : Graph)
    (node : String) (state : NodeState) : Option SwarmJob :=
  s.jobs.lookup (stableJobId sha ⟨id, node, g.stage node state⟩)

/-- A submitted node with its recorded job. -/
structure Current (s : Service) (id : String) (g : Graph) (node : String) (row : NodeRow)
    (jobId : String) (job : SwarmJob) : Prop where
  graphAt : s.graphs.lookup id = some g
  rowAt : g.row node = some row
  submitted : row.state.isSubmitted = true
  recorded : row.jobId = some jobId
  jobAt : s.jobs.lookup jobId = some job

def Graph.reassignable (g : Graph) (node : String) (row : NodeRow) (job : SwarmJob) : Bool :=
  g.spec.clusterId.isSome && row.state == .submitted && job.state == .failed &&
    decide (g.attempts node < maxReadOnlyReassignments)

def Graph.givesUp (g : Graph) (node : String) (row : NodeRow) (job : SwarmJob) : Bool :=
  job.state.isTerminal && job.state != .succeeded &&
    !fallbackAllowed g.spec node row.state job.state && !g.reassignable node row job

section

variable (sha : Bytes → String) (t : Turn) (id : String)

inductive Settle : Service → Service → Prop
  | succeed {s g node row jobId job} (h : Current s id g node row jobId job) (hJob : job.state = .succeeded) :
      Settle s (s.setGraph id (g.setNode node { row with state := .succeeded }))
  | fallBack {s g node row jobId job} (h : Current s id g node row jobId job) (hState : row.state = .submitted)
      (hJob : job.state = .failed) (hFallback : g.spec.hasFallback node = true) :
      Settle s (s.setGraph id (g.setNode node ⟨.pendingFallback, none⟩))
  | reassign {s g node row jobId job} (h : Current s id g node row jobId job) (hState : row.state = .submitted)
      (hJob : job.state = .failed) (hFallback : g.spec.hasFallback node = false)
      (hClustered : g.spec.clusterId.isSome = true)
      (hAttempts : g.attempts node < maxReadOnlyReassignments) :
      Settle s (s.setGraph id ((g.setNode node ⟨.preparing,
        some (stableJobId sha ⟨id, node, .reassignment (g.attempts node + 1)⟩)⟩).setAttempts node
          (g.attempts node + 1)))
  | fail {s g node row jobId job} (h : Current s id g node row jobId job)
      (hJob : g.givesUp node row job = true) :
      Settle s (s.setGraph id (g.setNode node { row with state := .failed }))

def Stopping (s : Service) (g : Graph) : Prop :=
  g.state = .cancelling ∨ g.state = .failing ∨ ∃ node row, g.row node = some row ∧ (row.state = .failed ∨
        row.state.isSubmitted = true ∧ row.jobId.bind s.jobs.lookup = none)

inductive Cancel : Service → Service → Prop
  | cancelJob {s g node row jobId job} (h : Current s id g node row jobId job)
      (hLive : job.state.isTerminal = false) : Cancel s (s.setJob jobId { job with cancelRequested := true })
  | cancelNode {s g node row} (hGraph : s.graphs.lookup id = some g) (hRow : g.row node = some row)
      (hOpen : row.state.isOpen = true) :
      Cancel s (s.setGraph id (g.setNode node { row with state := .cancelled }))
  | close {s g state} (hGraph : s.graphs.lookup id = some g) (hEnd : state.isTerminal = true)
      (hRows : ∀ node row, g.row node = some row → row.state.isOpen = false ∧
        (row.state.isSubmitted = true → ∀ jobId, row.jobId = some jobId → s.live jobId = false)) :
      Cancel s (s.setGraph id (g.setState state))
  | failing {s g} (hGraph : s.graphs.lookup id = some g) :
      Cancel s (s.setGraph id (g.setState .failing))

def Graph.Plain (g : Graph) : Prop :=
  g.spec.clusterId.isSome = false → ∀ node row, g.row node = some row →
    row.state.isOpen = true → row.state.isPending = true

/-- Why a node that has a job may be left unattached by the dispatch loop. -/
def Skipped (start : Graph) (node : ResidentSwarmNode) : Prop :=
  (∃ dep ∈ node.dependsOn, (start.row dep).map (·.state) ≠ some .succeeded) ∨
    (start.spec.clusterId.isSome = true ∧ ∃ g, t.majority id node.id g = false)

/-- The dispatch loop between two nodes: `base` and `start` are the tables and
the graph it began with, `before` the nodes it has handled. -/
structure Midway (base : Service) (start : Graph) (active : Nat)
    (before rest : List ResidentSwarmNode) (s : Service) (g : Graph) : Prop where
  graphAt : s.graphs.lookup id = some g
  specEq : g.spec = start.spec
  running : g.state = .running
  plain : start.Plain
  nodes : start.spec.nodes = before ++ rest
  nodup : start.spec.nodeIds.Nodup
  attempts : ∀ node, g.attempts node = start.attempts node
  kept : ∀ node row, start.row node = some row → row.state.isOpen = false → g.row node = some row
  ahead : ∀ node ∈ rest, g.row node.id = start.row node.id
  grown : ∀ jobId, (base.jobs.lookup jobId).isSome = true → (s.jobs.lookup jobId).isSome = true
  jobs : ∀ jobId, s.jobs.lookup jobId = base.jobs.lookup jobId ∨
    ∃ node ∈ before, (∃ row, start.row node.id = some row ∧ row.state.isOpen = true) ∧
      (∀ row, g.row node.id = some row → row.state.isOpen = false) ∧
      ∃ state, jobId = stableJobId sha ⟨id, node.id, start.stage node.id state⟩
  cleared : ∀ node ∈ before, ∀ row, g.row node.id = some row → row.state.isOpen = true →
    (base.stageJob sha id start node.id row.state).isSome = true → Skipped t id start node
  room : ∃ counted : Finset String, counted.card ≤ active ∧ ∀ node,
    base.attached start node = true ∨ g.row node ≠ start.row node → node ∈ counted

/-- What the coordinator has checked when it writes the job of a node. -/
structure Insertion (base : Service) (start : Graph) (s : Service) (g : Graph)
    (node : ResidentSwarmNode) (row : NodeRow) : Prop where
  midway : ∃ active before after, Midway sha t id base start active before (node :: after) s g ∧
      active < g.spec.maxParallel
  rowAt : g.row node.id = some row
  isOpen : row.state.isOpen = true
  fresh : s.stageJob sha id g node.id row.state = none
  dependencies : ∀ dep ∈ node.dependsOn, (start.row dep).map (·.state) = some .succeeded

inductive Dispatch (base : Service) (start : Graph) : Service → Service → Prop
  | intend {s g node row} (hGraph : s.graphs.lookup id = some g) (hRow : g.row node = some row)
      (hPending : row.state.isPending = true) (hClustered : g.spec.clusterId.isSome = true)
      (hJob : s.stageJob sha id g node row.state = none) :
      Dispatch base start s (s.setGraph id (g.setNode node
        ⟨row.state.intended, some (stableJobId sha ⟨id, node, g.stage node row.state⟩)⟩))
  | attach {s g node row} (hGraph : s.graphs.lookup id = some g) (hRow : g.row node = some row)
      (hOpen : row.state.isOpen = true)
      (hJob : (s.stageJob sha id g node row.state).isSome = true) :
      Dispatch base start s (s.setGraph id (g.setNode node
        ⟨row.state.dispatched, some (stableJobId sha ⟨id, node, g.stage node row.state⟩)⟩))
  | insert {s g node row} (h : Insertion sha t id base start s g node row) : Dispatch base start s
        ((s.setJob (stableJobId sha ⟨id, node.id, g.stage node.id row.state⟩)
          ⟨.preparing, false, none⟩).setGraph id { g with
            dispatched := g.dispatched ++ [(node.id, g.stage node.id row.state)] })
  | prepare {s g node row job next}
      (hGraph : s.graphs.lookup id = some g) (hRow : g.row node = some row)
      (hJob : s.stageJob sha id g node row.state = some job)
      (hLive : job.state.isTerminal = false) : Dispatch base start s
        (s.setJob (stableJobId sha ⟨id, node, g.stage node row.state⟩) next)
  | fail {s g node row} (hGraph : s.graphs.lookup id = some g) (hRow : g.row node = some row)
      (hOpen : row.state.isOpen = true)
      (hDead : s.live (stableJobId sha ⟨id, node, g.stage node row.state⟩) = false) :
      Dispatch base start s (s.setGraph id (g.setNode node { row with state := .failed }))
  | failing {s g} (hGraph : s.graphs.lookup id = some g) :
      Dispatch base start s (s.setGraph id (g.setState .failing))

/-- What one turn of a tick does to its graph, wherever it is cut. -/
inductive Turned (s₀ : Service) : Service → Prop
  | settled {s} (h : ReflTransGen (Settle sha id) s₀ s) : Turned s₀ s
  | stopped {s₁ s} {g} (h : ReflTransGen (Settle sha id) s₀ s₁)
      (hGraph : s₁.graphs.lookup id = some g) (hStopping : Stopping s₁ g)
      (hStop : ReflTransGen (Cancel id) s₁ s) : Turned s₀ s
  | succeeded {s} {g} (h : ReflTransGen (Settle sha id) s₀ s)
      (hGraph : s.graphs.lookup id = some g)
      (hRows : ∀ node row, g.row node = some row → row.state = .succeeded) :
      Turned s₀ (s.setGraph id (g.setState .succeeded))
  | dispatched {s₁ s} {start} (h : ReflTransGen (Settle sha id) s₀ s₁)
      (hGraph : s₁.graphs.lookup id = some start)
      (hRows : ∀ node row, start.row node = some row → row.state ≠ .failed)
      (hDispatch : ReflTransGen (Dispatch sha t id s₁ start) s₁ s) : Turned s₀ s

/-- What every move of the first loop does: a submitted node whose job has ended
gets another row. -/
structure Moved (s : Service) (g g' : Graph) (node : String) (row row' : NodeRow)
    (jobId : String) (job : SwarmJob) : Prop where
  current : Current s id g node row jobId job
  ended : job.state.isTerminal = true
  spec : g'.spec = g.spec
  state : g'.state = g.state
  dispatched : g'.dispatched = g.dispatched
  rowAt : g'.row node = some row'
  others : ∀ other, other ≠ node → g'.row other = g.row other
  attempts : ∀ other, other ≠ node → g'.attempts other = g.attempts other
  notCancelled : row'.state ≠ .cancelled
  notSubmitted : row'.state.isSubmitted = false
  failed : row'.state = .failed → g.givesUp node row job = true
  succeeded : row'.state = .succeeded → job.state = .succeeded
  reopened : row'.state.isOpen = true → job.state = .failed

theorem Settle.moved {s s'} (h : Settle sha id s s') : ∃ g g' node row row' jobId job, s' = s.setGraph id g' ∧
      Moved id s g g' node row row' jobId job := by
  cases h with
  | succeed hCurrent hJob =>
    refine ⟨_, _, _, _, _, _, _, rfl, hCurrent, by rw [hJob]; rfl, rfl, rfl, rfl,
      Graph.row_setNode _ _ _, fun _ hOther => Graph.row_setNode_of_ne _ _ hOther, fun _ _ => rfl,
      ?_, rfl, ?_, fun _ => hJob, ?_⟩ <;> intro hYes <;> cases hYes
  | fallBack hCurrent hState hJob hFallback =>
    refine ⟨_, _, _, _, _, _, _, rfl, hCurrent, by rw [hJob]; rfl, rfl, rfl, rfl,
      Graph.row_setNode _ _ _, fun _ hOther => Graph.row_setNode_of_ne _ _ hOther, fun _ _ => rfl,
      ?_, rfl, ?_, ?_, fun _ => hJob⟩ <;> intro hYes <;> cases hYes
  | reassign hCurrent hState hJob hFallback hClustered hAttempts =>
    refine ⟨_, _, _, _, _, _, _, rfl, hCurrent, by rw [hJob]; rfl, rfl, rfl, rfl,
      Graph.row_setNode _ _ _, fun _ hOther => Graph.row_setNode_of_ne _ _ hOther,
      fun _ hOther => Graph.attempts_setAttempts_of_ne _ _ hOther, ?_, rfl, ?_, ?_, fun _ => hJob⟩ <;>
      intro hYes <;> cases hYes
  | fail hCurrent hJob =>
    have hEnded := hJob
    simp only [Graph.givesUp, Bool.and_eq_true] at hEnded
    refine ⟨_, _, _, _, _, _, _, rfl, hCurrent, hEnded.1.1.1, rfl, rfl, rfl,
      Graph.row_setNode _ _ _, fun _ hOther => Graph.row_setNode_of_ne _ _ hOther, fun _ _ => rfl,
      ?_, rfl, fun _ => hJob, ?_, ?_⟩ <;> intro hYes <;> cases hYes

end

end LittleMonkey.Swarm.Resident
