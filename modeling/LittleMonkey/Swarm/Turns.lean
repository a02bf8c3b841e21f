import LittleMonkey.Swarm.Moves

/-! # A tick makes moves

The coordinator's program is followed once, loop by loop; what its turn at a
graph leaves behind, when it ends and wherever it is cut, is `Turned`.
-/

namespace LittleMonkey.Swarm.Resident

open Durable Primitives Relation List

variable {sha : Bytes → String} {t : Turn} {id : String}

/-! ## Statements -/

def Turn.Mortal (t : Turn) : Prop := ∃ id mark, t.dies id mark = true

section

variable {node : String} {mark : Write} {allowed : NodeRow → Bool} {next : NodeRow → NodeRow} {s : Service}
  {g : Graph} {row : NodeRow} {E : Stop String → Service → Prop}
  (hGraph : s.graphs.lookup id = some g) (hRow : g.row node = some row) (hAllowed : allowed row = true)
  (hE : t.Mortal → E .crashed (s.setGraph id (g.setNode node (next row))))

include hGraph hRow hAllowed hE

theorem updateNode_bind {α : Type} {k} {R : α → Service → Prop}
    (h : Triple (· = s.setGraph id (g.setNode node (next row))) (k true) R E) :
    Triple (· = s) (updateNode t id node mark allowed next >>= k) R E := by
  have hRead : s.row id node = some row := by simp [Service.row, hGraph, hRow]
  refine .bind (Q := fun done s' => done = true ∧ s' = s.setGraph id (g.setNode node (next row))) ?_ ?_
  · unfold updateNode
    refine .read_bind ?_
    simp only [hRead, hAllowed]
    refine .durable_bind ?_ ?_
    all_goals rw [Service.modify_of_lookup hGraph]
    · exact fun hDies => hE ⟨_, _, hDies⟩
    · exact .pureAt ⟨rfl, rfl⟩
  · rintro _ _ ⟨rfl, hAfter⟩
    exact h _ hAfter

theorem updateNode_spec {Q : Bool → Service → Prop} (hQ : Q true (s.setGraph id (g.setNode node (next row)))) :
    Triple (· = s) (updateNode t id node mark allowed next) Q E := by
  rw [← bind_pure (updateNode t id node mark allowed next)]
  exact updateNode_bind hGraph hRow hAllowed hE (.pureAt hQ)

end

theorem setState_spec {state s g} {Q : Unit → Service → Prop} {E : Stop String → Service → Prop}
    (hGraph : s.graphs.lookup id = some g) (hQ : Q () (s.setGraph id (g.setState state)))
    (hE : t.Mortal → E .crashed (s.setGraph id (g.setState state))) :
    Triple (· = s) (setState t id state) Q E := by
  refine .durable ?_ ?_
  · rintro _ rfl
    rwa [Service.modify_of_lookup hGraph]
  · rintro hDies _ rfl
    rw [Service.modify_of_lookup hGraph]
    exact hE ⟨_, _, hDies⟩

/-! ## Settling -/

def Service.lacks (s : Service) (task : String × NodeRow) : Bool :=
  task.2.state.isSubmitted && task.2.jobId.any fun jobId => (s.jobs.lookup jobId).isNone

structure Settling (sha : Bytes → String) (id : String) (s₀ : Service) (spec : ResidentSwarmSpec)
    (state : GraphState) (tally : Tally) (rest : List (String × NodeRow)) (s : Service)
    (g : Graph) : Prop where
  path : ReflTransGen (Settle sha id) s₀ s
  graphAt : s.graphs.lookup id = some g
  specEq : g.spec = spec
  stateEq : g.state = state
  plain : g.Plain
  ahead : ∀ task ∈ rest, g.row task.1 = some task.2
  nodup : (rest.map Prod.fst).Nodup
  failure : tally.failure = true → Stopping s g
  lost : ∀ task, g.row task.1 = some task.2 → s.lacks task = true →
    task.1 ∈ rest.map Prod.fst ∨ tally.failure = true
  counted : ∃ counted : Finset String, counted.card ≤ tally.active ∧
    ∀ node, s.attached g node = true → node ∈ counted ∨ node ∈ rest.map Prod.fst

abbrev SettleCut (sha : Bytes → String) (t : Turn) (id : String) (s₀ : Service) : Stop String → Service → Prop :=
  Cut (ReflTransGen (Settle sha id) s₀) t.Mortal (t.now id ≤ 0)

namespace Settling

variable {s₀ s : Service} {spec : ResidentSwarmSpec} {state : GraphState} {tally : Tally}
  {task : String × NodeRow} {rest : List (String × NodeRow)} {g g' : Graph}

theorem pass (h : Settling sha id s₀ spec state tally (task :: rest) s g) (tally' : Tally)
    (hActive : s.attached g task.1 = true → tally'.active = tally.active + 1)
    (hLe : tally.active ≤ tally'.active)
    (hFailure : tally'.failure = true → tally.failure = true ∨ Stopping s g)
    (hKept : tally.failure = true → tally'.failure = true)
    (hLost : s.lacks task = true → tally'.failure = true) : Settling sha id s₀ spec state tally' rest s g :=
  { h with
    ahead := fun other hOther => h.ahead other (mem_cons_of_mem _ hOther)
    nodup := (nodup_cons.mp h.nodup).2
    failure := fun hSet => (hFailure hSet).elim h.failure fun hStopping => hStopping
    lost := by
      intro other hOther hLacks
      rcases h.lost other hOther hLacks with hMem | hSet
      · rcases mem_cons.mp hMem with hEq | hMem
        · rw [hEq, h.ahead task mem_cons_self] at hOther
          refine .inr (hLost ?_)
          simpa [Service.lacks, Option.some.inj hOther] using hLacks
        · exact .inl hMem
      · exact .inr (hKept hSet)
    counted := by
      obtain ⟨counted, hCard, hCounted⟩ := h.counted
      by_cases hNode : s.attached g task.1 = true
      · refine ⟨insert task.1 counted, ?_, ?_⟩
        · have := Finset.card_insert_le task.1 counted
          have := hActive hNode
          omega
        · intro node hAttached
          rcases hCounted node hAttached with hMem | hMem
          · exact .inl (Finset.mem_insert_of_mem hMem)
          · rcases mem_cons.mp hMem with rfl | hMem
            · exact .inl (Finset.mem_insert_self _ _)
            · exact .inr hMem
      · refine ⟨counted, by omega, ?_⟩
        intro node hAttached
        rcases hCounted node hAttached with hMem | hMem
        · exact .inl hMem
        · rcases mem_cons.mp hMem with rfl | hMem
          · exact absurd hAttached hNode
          · exact .inr hMem }

theorem move (h : Settling sha id s₀ spec state tally (task :: rest) s g) (tally' : Tally)
    {jobId job row} (hCur : Current s id g task.1 task.2 jobId job)
    (hMove : Settle sha id s (s.setGraph id g')) (hSpec : g'.spec = g.spec) (hState : g'.state = g.state)
    (hOthers : ∀ node, node ≠ task.1 → g'.row node = g.row node)
    (hRow : g'.row task.1 = some row) (hSettled : row.state.isSubmitted = false)
    (hPlain : g.spec.clusterId.isSome = false → row.state.isOpen = true → row.state.isPending = true)
    (hActive : tally'.active = tally.active)
    (hFailure : tally'.failure = true → tally.failure = true ∨ row.state = .failed)
    (hKept : tally.failure = true → tally'.failure = true) :
    Settling sha id s₀ spec state tally' rest (s.setGraph id g') g' where
  path := h.path.tail hMove
  graphAt := s.lookup_setGraph id g'
  specEq := hSpec.trans h.specEq
  stateEq := hState.trans h.stateEq
  plain := by
    intro hNone node other hOther hOpen
    rw [hSpec] at hNone
    by_cases hNode : node = task.1
    · subst hNode
      cases hOther.symm.trans hRow
      exact hPlain hNone hOpen
    · rw [hOthers node hNode] at hOther
      exact h.plain hNone node other hOther hOpen
  ahead other hOther := by
    have hNe : other.1 ≠ task.1 := fun hEq =>
      (nodup_cons.mp h.nodup).1 (hEq ▸ mem_map_of_mem hOther)
    rw [hOthers other.1 hNe]
    exact h.ahead other (mem_cons_of_mem _ hOther)
  nodup := (nodup_cons.mp h.nodup).2
  failure hSet := by
    rcases hFailure hSet with hBefore | hFailed
    · rcases h.failure hBefore with hState' | hState' | ⟨node, other, hOther, hWhy⟩
      · exact .inl (hState.trans hState')
      · exact .inr (.inl (hState.trans hState'))
      · have hNe : node ≠ task.1 := by
          rintro rfl
          obtain rfl : task.2 = other := Option.some.inj (hCur.rowAt.symm.trans hOther)
          rcases hWhy with hFailed | ⟨_, hMissing⟩
          · have := hCur.submitted
            rw [hFailed] at this
            cases this
          · rw [hCur.recorded, Option.bind_some, hCur.jobAt] at hMissing
            cases hMissing
        exact .inr (.inr ⟨node, other, (hOthers node hNe).trans hOther, hWhy⟩)
    · exact .inr (.inr ⟨task.1, row, hRow, .inl hFailed⟩)
  lost other hOther hLacks := by
    have hNe : other.1 ≠ task.1 := by
      intro hEq
      rw [hEq, hRow] at hOther
      simp [Service.lacks, ← Option.some.inj hOther, hSettled] at hLacks
    rw [hOthers other.1 hNe] at hOther
    exact (h.lost other hOther hLacks).imp (fun hMem => (mem_cons.mp hMem).resolve_left hNe) hKept
  counted := by
    obtain ⟨counted, hCard, hCounted⟩ := h.counted
    refine ⟨counted, by omega, ?_⟩
    intro node hAttached
    have hNe : node ≠ task.1 := by
      rintro rfl
      simp [Service.attached, hRow, hSettled] at hAttached
    have hBefore : s.attached g node = true := by
      simpa [Service.attached, hOthers node hNe] using hAttached
    rcases hCounted node hBefore with hMem | hMem
    · exact .inl hMem
    · exact .inr ((mem_cons.mp hMem).resolve_left hNe)

end Settling

variable {task : String × NodeRow}

section

variable {s₀ s : Service} {spec : ResidentSwarmSpec} {state : GraphState} {tally : Tally}
  {rest : List (String × NodeRow)} {g : Graph} {jobId : String} {job : SwarmJob}

section

variable (h : Settling sha id s₀ spec state tally (task :: rest) s g)
  (hCur : Current s id g task.1 task.2 jobId job)

include h hCur

theorem commitCurrentSuccess_spec (hJob : job.state = .succeeded) :
    Triple (· = s) (commitCurrentSuccess t id task.1 jobId)
      (fun done s' => done = true ∧ ∃ g', Settling sha id s₀ spec state tally rest s' g')
      (SettleCut sha t id s₀) := by
  unfold commitCurrentSuccess getJob
  have hNext := h.move tally hCur (.succeed hCur hJob) rfl rfl
    (fun _ hNe => g.row_setNode_of_ne _ hNe) (g.row_setNode _ _) rfl
    (nofun) rfl .inl fun h => h
  refine .read_bind (updateNode_spec hCur.graphAt hCur.rowAt ?_ (.crashed hNext.path) ⟨rfl, _, hNext⟩)
  simp [hCur.recorded, hCur.submitted, hCur.jobAt, hJob]

theorem fallBack_spec (hAllowed : fallbackAllowed spec task.1 task.2.state job.state = true) : Triple (· = s)
      (updateNode t id task.1 (.settle task.1) (·.state == .submitted)
        fun _ => ⟨.pendingFallback, none⟩)
      (fun _ s' => ∃ g', Settling sha id s₀ spec state tally rest s' g')
      (SettleCut sha t id s₀) := by
  simp only [fallbackAllowed, Bool.and_eq_true, beq_iff_eq] at hAllowed
  obtain ⟨⟨hState, hFailed⟩, hFallback⟩ := hAllowed
  rw [← h.specEq] at hFallback
  have hNext := h.move tally hCur (.fallBack hCur hState hFailed hFallback)
    rfl rfl (fun _ hNe => g.row_setNode_of_ne _ hNe) (g.row_setNode _ _) rfl
    (fun _ _ => rfl) rfl .inl fun h => h
  exact updateNode_spec hCur.graphAt hCur.rowAt (by simp [hState]) (.crashed hNext.path) ⟨_, hNext⟩

theorem reassignFailedPrimary_spec (hFallback : fallbackAllowed spec task.1 task.2.state job.state = false)
    (hClustered : spec.clusterId.isSome = true) (hState : task.2.state = .submitted)
    (hFailed : job.state = .failed) : Triple (· = s) (reassignFailedPrimary sha t id task.1 jobId)
      (fun done s' =>
        if done then ∃ g', Settling sha id s₀ spec state tally rest s' g'
        else s' = s ∧ g.reassignable task.1 task.2 job = false)
      (SettleCut sha t id s₀) := by
  unfold reassignFailedPrimary getJob
  split
  next hNow =>
    exact .failAt ⟨h.path, .inr hNow⟩
  refine .read_bind (.read_bind ?_)
  simp only [hCur.graphAt, hCur.jobAt, Option.bind_some, hCur.rowAt, hFailed, hState,
    hCur.recorded]
  by_cases hAttempts : g.attempts task.1 < maxReadOnlyReassignments
  · rw [if_pos (by simpa using hAttempts)]
    have hNone : g.spec.hasFallback task.1 = false := by
      simpa [fallbackAllowed, hState, hFailed, h.specEq] using hFallback
    have hNext := h.move tally hCur
      (.reassign hCur hState hFailed hNone (by rw [h.specEq, hClustered]) hAttempts) rfl rfl
      (fun _ hNe => g.row_setNode_of_ne _ hNe) (g.row_setNode _ _) rfl
      (fun hNone => by rw [h.specEq, hClustered] at hNone; cases hNone) rfl .inl fun h => h
    refine .durable_bind ?_ ?_
    all_goals rw [Service.modify_of_lookup hCur.graphAt]
    · exact fun hDies => .crashed hNext.path ⟨_, _, hDies⟩
    · exact .pureAt ⟨_, hNext⟩
  · rw [if_neg (by simpa using hAttempts)]
    exact .pureAt ⟨rfl, by simp [Graph.reassignable, hAttempts]⟩

theorem markCurrentFailed_spec (hGivesUp : g.givesUp task.1 task.2 job = true) :
    Triple (· = s) (markCurrentFailed t id task.1 jobId task.2.state)
      (fun failed s' => ∃ g', Settling sha id s₀ spec state
        { tally with failure := tally.failure || failed } rest s' g')
      (SettleCut sha t id s₀) := by
  unfold markCurrentFailed
  rw [if_neg (by simp [hCur.submitted])]
  have hNext := h.move { tally with failure := tally.failure || true } hCur
    (.fail hCur hGivesUp) rfl rfl (fun _ hNe => g.row_setNode_of_ne _ hNe)
    (g.row_setNode _ _) rfl (nofun) rfl
    (fun _ => .inr rfl) fun _ => Bool.or_true _
  exact updateNode_spec hCur.graphAt hCur.rowAt (by simp [hCur.recorded]) (.crashed hNext.path) ⟨_, hNext⟩

theorem retry_spec (hFallback : fallbackAllowed spec task.1 task.2.state job.state = false) :
    Triple (· = s) (retry sha t id spec task jobId job) (fun done s' =>
        if done then ∃ g', Settling sha id s₀ spec state tally rest s' g'
        else s' = s ∧ g.reassignable task.1 task.2 job = false)
      (SettleCut sha t id s₀) := by
  unfold retry
  cases hWhen : spec.clusterId.isSome && task.2.state == .submitted && job.state == .failed with
  | true =>
    simp only [Bool.and_eq_true, beq_iff_eq] at hWhen
    exact reassignFailedPrimary_spec h hCur hFallback hWhen.1.1 hWhen.1.2 hWhen.2
  | false =>
    exact .pureAt ⟨rfl, by rw [Graph.reassignable, h.specEq, hWhen]; rfl⟩

theorem settleFailed_spec (hTerminal : job.state.isTerminal = true)
    (hBad : job.state ≠ .succeeded) (hFallback : fallbackAllowed spec task.1 task.2.state job.state = false) :
    Triple (· = s) (do if ← retry sha t id spec task jobId job then pure tally else do
          let failed ← markCurrentFailed t id task.1 jobId task.2.state
          pure { tally with failure := tally.failure || failed })
      (fun tally' s' => ∃ g', Settling sha id s₀ spec state tally' rest s' g')
      (SettleCut sha t id s₀) := by
  refine (retry_spec h hCur hFallback).bind fun done => ?_
  cases done with
  | true => exact .pure fun _ hNext => hNext
  | false =>
    refine .of_forall ?_
    rintro _ ⟨rfl, hNone⟩
    have hGivesUp : g.givesUp task.1 task.2 job = true := by
      simp [Graph.givesUp, hTerminal, hBad, h.specEq, hFallback, hNone]
    exact (markCurrentFailed_spec h hCur hGivesUp).bind fun _ => .pure fun _ hNext => hNext

end

theorem settleNode_spec (tally : Tally) (task : String × NodeRow) (rest : List (String × NodeRow)) :
    Triple (fun s => ∃ g, Settling sha id s₀ spec state tally (task :: rest) s g)
      (settleNode sha t id spec tally task)
      (fun tally' s => ∃ g, Settling sha id s₀ spec state tally' rest s g)
      (SettleCut sha t id s₀) := by
  refine .of_forall ?_
  rintro s ⟨g, h⟩
  have hRow := h.ahead task mem_cons_self
  unfold settleNode
  cases hSubmitted : task.2.state.isSubmitted with
  | false =>
    exact .pureAt ⟨g, h.pass tally (by simp [Service.attached, hRow, hSubmitted]) le_rfl .inl (fun h => h)
      (by simp [Service.lacks, hSubmitted])⟩
  | true =>
    -- A submitted node without a job is a failure of its graph.
    have hMissing (hNone : task.2.jobId.bind s.jobs.lookup = none)
        (hDead : task.2.jobId.any s.live = false) :
        Settling sha id s₀ spec state { tally with failure := true } rest s g :=
      h.pass _ (by simp [Service.attached, hRow, hDead]) le_rfl
        (fun _ => .inr (.inr (.inr ⟨task.1, task.2, hRow, .inr ⟨hSubmitted, hNone⟩⟩))) (fun _ => rfl)
        fun _ => rfl
    cases hId : task.2.jobId with
    | none =>
      exact .pureAt ⟨g, hMissing (by rw [hId]; rfl) (by rw [hId]; rfl)⟩
    | some jobId =>
      refine .read_bind ?_
      cases hJob : s.jobs.lookup jobId with
      | none =>
        exact .pureAt ⟨g, hMissing (by simp [hId, hJob]) (by simp [hId, Service.live, hJob])⟩
      | some job =>
        have hCur : Current s id g task.1 task.2 jobId job := ⟨h.graphAt, hRow, hSubmitted, hId, hJob⟩
        by_cases hDone : job.state = .succeeded
        · simp only [hDone]
          refine (commitCurrentSuccess_spec h hCur hDone).bind fun done => ?_
          cases done with
          | true => exact .pure fun _ hNext => hNext.2
          | false => exact .fail fun _ hNext => absurd hNext.1 (by decide)
        · simp only [beq_iff_eq, hDone]
          cases hTerminal : job.state.isTerminal with
          | true =>
            cases hFallback : fallbackAllowed spec task.1 task.2.state job.state with
            | true => exact (fallBack_spec h hCur hFallback).bind fun _ =>
                Triple.pure fun _ hNext => hNext
            | false => exact settleFailed_spec h hCur hTerminal hDone hFallback
          | false =>
            exact .pureAt ⟨g, h.pass _ (fun _ => rfl) (Nat.le_succ _) .inl (fun h => h)
              (by simp [Service.lacks, hId, hJob])⟩

theorem settle_spec (hGraph : s₀.graphs.lookup id = some g) (hPlain : g.Plain) :
    Triple (· = s₀) (g.tasks.foldlM (settleNode sha t id g.spec) ⟨false, 0⟩)
      (fun tally s => ∃ g', Settling sha id s₀ g.spec g.state tally [] s g')
      (SettleCut sha t id s₀) := by
  refine (Triple.foldlM (I := fun tally rest s =>
    ∃ g', Settling sha id s₀ g.spec g.state tally rest s g')
      settleNode_spec _ _).pre ?_
  rintro _ rfl
  refine ⟨g, .refl, hGraph, rfl, rfl, hPlain, fun _ hTask => Graph.mem_tasks.mp hTask,
    g.nodup_tasks, nofun,
    fun _ hRow _ => .inl (mem_map_of_mem (Graph.mem_tasks.mpr hRow)), ∅, Nat.le_refl 0, ?_⟩
  intro node hAttached
  refine .inr ?_
  cases hRow : g.row node with
  | none => simp [Service.attached, hRow] at hAttached
  | some row => exact mem_map_of_mem (Graph.mem_tasks.mpr hRow)

end

/-! ## Cancelling -/

structure Cancelling (id : String) (s₁ : Service) (tasks : List (String × NodeRow)) (stillRunning : Bool)
    (rest : List (String × NodeRow)) (s : Service) (g : Graph) : Prop where
  path : ReflTransGen (Cancel id) s₁ s
  graphAt : s.graphs.lookup id = some g
  ahead : ∀ task ∈ rest, g.row task.1 = some task.2
  nodup : (rest.map Prod.fst).Nodup
  within : rest ⊆ tasks
  jobs : ∀ jobId, (s.jobs.lookup jobId).isNone = (s₁.jobs.lookup jobId).isNone
  present : ∀ task ∈ tasks, task ∈ rest ∨ s₁.lacks task = false
  done : ∀ node row, g.row node = some row → node ∈ rest.map Prod.fst ∨
    (row.state.isOpen = false ∧ (stillRunning = false → row.state.isSubmitted = true →
      ∀ jobId, row.jobId = some jobId → s.live jobId = false))

theorem Service.live_setJob_of_state {s : Service} {jobId job}
    (next : SwarmJob) (hJob : s.jobs.lookup jobId = some job) (hState : next.state = job.state) :
    (s.setJob jobId next).live = s.live := by
  funext other
  by_cases hOther : other = jobId
  · subst hOther
    simp [Service.live, hJob, hState]
  · simp [Service.live, s.lookup_setJob_of_ne next hOther]

section

variable {s₁ s : Service} {stillRunning : Bool} {tasks rest : List (String × NodeRow)}
  {g g' : Graph}

theorem Cancelling.lacks (h : Cancelling id s₁ tasks stillRunning rest s g) : s.lacks = s₁.lacks := by
  funext task
  simp only [Service.lacks, h.jobs]

section

variable (h : Cancelling id s₁ tasks stillRunning (task :: rest) s g)

include h

theorem Cancelling.step
    (hTask : s.lacks task = false) : rest ⊆ tasks ∧ ∀ other ∈ tasks, other ∈ rest ∨ s₁.lacks other = false := by
  refine ⟨fun _ hOther => h.within (mem_cons_of_mem _ hOther), fun other hOther => ?_⟩
  rcases h.present other hOther with hMem | hPresent
  · rcases mem_cons.mp hMem with rfl | hMem
    · exact .inr (h.lacks ▸ hTask)
    · exact .inl hMem
  · exact .inr hPresent

theorem Cancelling.pass {stillRunning'} (hLe : stillRunning' = false → stillRunning = false)
    (hOpen : task.2.state.isOpen = false) (hTask : s.lacks task = false)
    (hEnded : stillRunning' = false → task.2.state.isSubmitted = true →
      ∀ jobId, task.2.jobId = some jobId → s.live jobId = false) :
    Cancelling id s₁ tasks stillRunning' rest s g where
  path := h.path
  graphAt := h.graphAt
  ahead other hOther := h.ahead other (mem_cons_of_mem _ hOther)
  nodup := (nodup_cons.mp h.nodup).2
  within := (h.step hTask).1
  jobs := h.jobs
  present := (h.step hTask).2
  done node row hRow := by
    rcases h.done node row hRow with hMem | ⟨hClosed, hDone⟩
    · rcases mem_cons.mp hMem with rfl | hMem
      · obtain rfl : task.2 = row := Option.some.inj ((h.ahead task mem_cons_self).symm.trans hRow)
        exact .inr ⟨hOpen, hEnded⟩
      · exact .inl hMem
    · exact .inr ⟨hClosed, fun hStill => hDone (hLe hStill)⟩

theorem cancelJob_spec {jobId : String}
    (hSubmitted : task.2.state.isSubmitted = true) (hId : task.2.jobId = some jobId) :
    Triple (· = s) (cancelJob t id task.1 jobId)
      (fun job s' => Cancelling id s₁ tasks stillRunning (task :: rest) s' g ∧
        s'.live jobId = !job.state.isTerminal ∧ s'.lacks task = false)
      (Cut (ReflTransGen (Cancel id) s₁) t.Mortal (∃ task ∈ tasks, s₁.lacks task = true)) := by
  have hRow := h.ahead task mem_cons_self
  unfold cancelJob getJob
  refine .read_bind ?_
  cases hJob : s.jobs.lookup jobId with
  | none =>
    refine .fail ?_
    rintro _ rfl
    refine ⟨h.path, .inr ⟨task, h.within mem_cons_self, ?_⟩⟩
    rw [← h.lacks]
    simp [Service.lacks, hSubmitted, hId, hJob]
  | some job =>
    cases hTerminal : job.state.isTerminal with
    | true =>
      simp only [hTerminal]
      exact .pureAt ⟨h, by simp [Service.live, hJob], by simp [Service.lacks, hId, hJob]⟩
    | false =>
      simp only [hTerminal]
      have hLive := Service.live_setJob_of_state { job with cancelRequested := true } hJob rfl
      have hNext : Cancelling id s₁ tasks stillRunning (task :: rest)
          (s.setJob jobId { job with cancelRequested := true }) g :=
        { path := h.path.tail (.cancelJob ⟨h.graphAt, hRow, hSubmitted, hId, hJob⟩ hTerminal)
          graphAt := h.graphAt
          ahead := h.ahead
          nodup := h.nodup
          within := h.within
          jobs := by
            intro other
            rw [← h.jobs]
            by_cases hOther : other = jobId
            · rw [hOther, s.lookup_setJob, hJob]
              rfl
            · rw [s.lookup_setJob_of_ne _ hOther]
          present := h.present
          done := by
            rw [hLive]
            exact h.done }
      refine .durable_bind (fun hDies => .crashed hNext.path ⟨_, _, hDies⟩) ?_
      exact .pureAt ⟨hNext, by simp [Service.live], by simp [Service.lacks, hId]⟩

theorem Cancelling.cancelNode (hOpen : task.2.state.isOpen = true) (hTask : s.lacks task = false) :
    Cancelling id s₁ tasks stillRunning rest
      (s.setGraph id (g.setNode task.1 { task.2 with state := .cancelled }))
      (g.setNode task.1 { task.2 with state := .cancelled }) where
  path := h.path.tail (.cancelNode h.graphAt (h.ahead task mem_cons_self) hOpen)
  graphAt := s.lookup_setGraph id _
  ahead other hOther := by
    have hNe : other.1 ≠ task.1 := fun hEq =>
      (nodup_cons.mp h.nodup).1 (hEq ▸ mem_map_of_mem hOther)
    rw [g.row_setNode_of_ne _ hNe]
    exact h.ahead other (mem_cons_of_mem _ hOther)
  nodup := (nodup_cons.mp h.nodup).2
  within := (h.step hTask).1
  jobs := h.jobs
  present := (h.step hTask).2
  done node row hRow := by
    obtain ⟨rfl, rfl⟩ | ⟨hNode, hRow⟩ := of_lookup_insert hRow
    · exact .inr ⟨rfl, nofun⟩
    · exact (h.done node row hRow).imp_left fun hMem => (mem_cons.mp hMem).resolve_left hNode

end

theorem NodeState.isOpen_of_isSubmitted {state : NodeState} (h : state.isSubmitted = true) :
    state.isOpen = false := by
  cases state <;> first | rfl | cases h

theorem stopNode_spec (stillRunning : Bool) (task : String × NodeRow) (rest : List (String × NodeRow)) :
    Triple (fun s => ∃ g, Cancelling id s₁ tasks stillRunning (task :: rest) s g)
      (stopNode t id stillRunning task)
      (fun stillRunning' s => ∃ g, Cancelling id s₁ tasks stillRunning' rest s g)
      (Cut (ReflTransGen (Cancel id) s₁) t.Mortal (∃ task ∈ tasks, s₁.lacks task = true)) := by
  refine .of_forall ?_
  rintro s ⟨g, h⟩
  unfold stopNode
  cases hSubmitted : task.2.state.isSubmitted with
  | true =>
    have hOpen := NodeState.isOpen_of_isSubmitted hSubmitted
    cases hId : task.2.jobId with
    | none =>
      exact .pureAt ⟨g, h.pass (fun hStill => hStill) hOpen (by simp [Service.lacks, hId]) fun _ _ jobId hSome => by
        rw [hId] at hSome; cases hSome⟩
    | some jobId =>
      refine (cancelJob_spec h hSubmitted hId).bind fun job => .pure ?_
      rintro s' ⟨hNext, hLive, hPresent⟩
      refine ⟨g, hNext.pass (fun hStill => (Bool.or_eq_false_iff.mp hStill).1) hOpen hPresent ?_⟩
      intro hStill _ other hOther
      cases hOther.symm.trans hId
      rw [hLive]
      exact (Bool.or_eq_false_iff.mp hStill).2
  | false =>
    have hTask : s.lacks task = false := by simp [Service.lacks, hSubmitted]
    cases hOpen : task.2.state.isOpen with
    | true =>
      have hNext := h.cancelNode hOpen hTask
      exact updateNode_bind h.graphAt (h.ahead task mem_cons_self) rfl (.crashed hNext.path) (.pureAt ⟨_, hNext⟩)
    | false =>
      exact .pureAt ⟨g, h.pass (fun hStill => hStill) hOpen hTask fun _ hYes => by
        rw [hSubmitted] at hYes; cases hYes⟩

theorem stopGraph_spec (state : GraphState) (failure : Bool) (hGraph : s₁.graphs.lookup id = some g) :
    Triple (· = s₁) (stopGraph t id state failure g.tasks)
      (fun _ s => ReflTransGen (Cancel id) s₁ s ∧ ∀ task ∈ g.tasks, s₁.lacks task = false)
      (Cut (ReflTransGen (Cancel id) s₁) t.Mortal (∃ task ∈ g.tasks, s₁.lacks task = true)) := by
  have hLoop : Triple (· = s₁) (g.tasks.foldlM (stopNode t id) false)
      (fun stillRunning s => ∃ g', Cancelling id s₁ g.tasks stillRunning [] s g')
      (Cut (ReflTransGen (Cancel id) s₁) t.Mortal (∃ task ∈ g.tasks, s₁.lacks task = true)) := by
    refine (Triple.foldlM (I := fun stillRunning rest s =>
      ∃ g', Cancelling id s₁ g.tasks stillRunning rest s g') stopNode_spec _ _).pre ?_
    rintro _ rfl
    refine ⟨g, .refl, hGraph, fun _ hTask => Graph.mem_tasks.mp hTask, g.nodup_tasks,
      List.Subset.refl _, fun _ => rfl, fun _ => .inl, ?_⟩
    intro node row hRow
    exact .inl (mem_map_of_mem (Graph.mem_tasks.mpr hRow))
  refine hLoop.bind fun stillRunning => .of_forall ?_
  rintro s ⟨g', h⟩
  have hPresent : ∀ task ∈ g.tasks, s₁.lacks task = false :=
    fun task hTask => (h.present task hTask).resolve_left not_mem_nil
  cases stillRunning with
  | false =>
    have hClose : ∀ closed : GraphState, closed.isTerminal = true →
        ReflTransGen (Cancel id) s₁ (s.setGraph id (g'.setState closed)) := by
      intro closed hEnd
      refine h.path.tail (.close h.graphAt hEnd ?_)
      intro node row hRow
      obtain ⟨hOpen, hDone⟩ := (h.done node row hRow).resolve_left not_mem_nil
      exact ⟨hOpen, hDone rfl⟩
    have hEnd : (if failure || state == .failing then GraphState.failed
        else GraphState.cancelled).isTerminal = true := by
      split <;> rfl
    exact setState_spec h.graphAt ⟨hClose _ hEnd, hPresent⟩ (.crashed (hClose _ hEnd))
  | true =>
    cases failure with
    | true =>
      have hFailing := h.path.tail (.failing h.graphAt)
      exact setState_spec h.graphAt ⟨hFailing, hPresent⟩ (.crashed hFailing)
    | false =>
      exact .pureAt ⟨h.path, hPresent⟩

end

end LittleMonkey.Swarm.Resident
