import LittleMonkey.Swarm.Discipline

/-! # Who decides a node

The first loop of a turn settles a node by the job that is recorded on it, once; what comes
after it never makes a node succeed, and fails only nodes whose attempt has no job yet.
-/

namespace LittleMonkey.Swarm.Resident

open Durable Primitives Relation

/-- The attempt that was recorded on the node has ended, and not with success. -/
def Lost (jobs : String → Option SwarmJob) (row : NodeRow) : Prop :=
  row.state.isSubmitted = true ∧ ∃ jobId job, row.jobId = some jobId ∧ jobs jobId = some job ∧
    job.state.isTerminal = true ∧ job.state ≠ .succeeded

/-- What becomes of a node that was `row`: it succeeds by its recorded job, and it fails by its
recorded job or where its attempt has none. -/
structure Earned (jobs : String → Option SwarmJob) (row row' : NodeRow) : Prop where
  succeeded : row'.state = .succeeded → row.state = .succeeded ∨ row.state.isSubmitted = true ∧
    ∃ jobId job, row.jobId = some jobId ∧ jobs jobId = some job ∧ job.state = .succeeded
  failed : row'.state = .failed → row.state = .failed ∨ row.state.isOpen = true ∨ Lost jobs row
  reopened : row'.state.isOpen = true → row.state.isOpen = true ∨ Lost jobs row

def EarnedAll (jobs : String → Option SwarmJob) (g g' : Graph) : Prop :=
  ∀ node row', g'.row node = some row' → ∃ row, g.row node = some row ∧ Earned jobs row row'

section

variable {jobs : String → Option SwarmJob} {row row' : NodeRow} {g g' : Graph}

theorem Earned.refl (jobs : String → Option SwarmJob) (row : NodeRow) : Earned jobs row row :=
  ⟨.inl, .inl, .inl⟩

theorem EarnedAll.refl (jobs : String → Option SwarmJob) (g : Graph) : EarnedAll jobs g g :=
  fun _ row hRow => ⟨row, hRow, .refl jobs row⟩

theorem EarnedAll.setNode (h : EarnedAll jobs g g') {node next}
    (hRow : g'.row node = some row') (hNext : ∀ row, Earned jobs row row' → Earned jobs row next) :
    EarnedAll jobs g (g'.setNode node next) := by
  intro other found hFound
  obtain ⟨rfl, rfl⟩ | ⟨-, hFound⟩ := of_lookup_insert hFound
  · obtain ⟨row, hBefore, hEarned⟩ := h other row' hRow
    exact ⟨row, hBefore, hNext row hEarned⟩
  · exact h other found hFound

/-- Another table of jobs that has the same job for the recorded id. -/
theorem Earned.congr {jobs'} (h : Earned jobs row row')
    (hSame : row.state.isSubmitted = true → ∀ jobId, row.jobId = some jobId → jobs' jobId = jobs jobId) :
    Earned jobs' row row' := by
  have hLost : Lost jobs row → Lost jobs' row := by
    rintro ⟨hSubmitted, jobId, job, hId, hJob, hEnd⟩
    exact ⟨hSubmitted, jobId, job, hId, (hSame hSubmitted jobId hId).trans hJob, hEnd⟩
  constructor
  · intro hState
    refine (h.succeeded hState).imp_right ?_
    rintro ⟨hSubmitted, jobId, job, hId, hJob, hEnd⟩
    exact ⟨hSubmitted, jobId, job, hId, (hSame hSubmitted jobId hId).trans hJob, hEnd⟩
  · exact fun hState => (h.failed hState).imp_right (Or.imp_right hLost)
  · exact fun hState => (h.reopened hState).imp_right hLost

theorem Earned.intended {jobId} (h : Earned jobs row row') (hPending : row'.state.isPending = true) :
    Earned jobs row ⟨row'.state.intended, some jobId⟩ := by
  have hOpen : row'.state.isOpen = true := by
    cases hState : row'.state <;> rw [hState] at hPending <;> first | rfl | cases hPending
  refine ⟨fun hState => ?_, fun hState => ?_, fun _ => h.reopened hOpen⟩ <;>
    simp only [NodeState.intended] at hState <;> split at hState <;> cases hState

end

/-! ## One turn -/

section

variable {sha : Bytes → String} {t : Turn} {id : String} {s₀ s s' : Service} {g : Graph}

def Turning (id : String) (s₀ : Service) (g : Graph) (s : Service) : Prop :=
  ∃ g', s.graphs.lookup id = some g' ∧ EarnedAll s₀.jobs.lookup g g'

theorem Turning.setNode (h : Turning id s₀ g s) {g' node row next}
    (hGraph : s.graphs.lookup id = some g') (hRow : g'.row node = some row)
    (hNext : ∀ before, Earned s₀.jobs.lookup before row → Earned s₀.jobs.lookup before next) :
    Turning id s₀ g (s.setGraph id (g'.setNode node next)) := by
  obtain ⟨found, hFound, hEarned⟩ := h
  cases hGraph.symm.trans hFound
  exact ⟨_, s.lookup_setGraph id _, hEarned.setNode hRow hNext⟩

end

/-! ## Runs -/

section

variable {sha : Bytes → String} {keys : Set JobKey} {s s' : Service}

/-- Every node of the graphs that were there is decided by its own attempt. -/
def Decided (s s' : Service) : Prop :=
  ∀ id g g', s.graphs.lookup id = some g → s'.graphs.lookup id = some g' → EarnedAll s.jobs.lookup g g'

theorem Decided.refl (s : Service) : Decided s s := by
  intro id g g' hGraph hSame
  cases hSame.symm.trans hGraph
  exact .refl _ _

theorem Decided.setGraph {id g} (hRows : ∀ before, s.graphs.lookup id = some before →
    g.row = before.row) : Decided s (s.setGraph id g) := by
  intro other before after hBefore hAfter
  by_cases hOther : other = id
  · subst hOther
    rw [s.lookup_setGraph] at hAfter
    cases hAfter
    intro node row hRow
    rw [hRows before hBefore] at hRow
    exact ⟨row, hRow, .refl _ _⟩
  · rw [s.lookup_setGraph_of_ne g hOther, hBefore] at hAfter
    cases hAfter
    exact .refl _ _

end

def registered : Service := final (submit plainRegistration singleSpec) Service.empty

end LittleMonkey.Swarm.Resident
