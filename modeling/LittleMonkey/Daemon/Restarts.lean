import LittleMonkey.Daemon.Ticks

/-! # How often a job is started

`attempt` counts the starts of a job, and a retry is permitted below the smaller
of the job's own limit and that of the restart policy.  The count falls behind
the calls of `spawn` where a call is not followed by its row, and an interrupted
job whose run has not started is requeued without asking the limit.  In runs
without those steps the limit bounds the calls of `spawn`.
-/

namespace LittleMonkey.Daemon

open Durable Ledger Transaction List Option

def restartLimit (maxAttempts : Nat) : Nat := min maxAttempts policyMaxAttempts

structure Bounded (starts : Nat) (standing : Standing) : Prop where
  starts_le : starts ≤ restartLimit standing.maxAttempts
  counted : standing.state.isTerminal = false →
    starts ≤ standing.attempt ∧ standing.attempt ≤ restartLimit standing.maxAttempts
  spare : standing.state.isWaiting = true → standing.attempt < restartLimit standing.maxAttempts

structure Restrained (e : Engine) : Prop where
  bounded : ∀ jobId standing, e.standing jobId = some standing → Bounded (e.spawned.count jobId) standing
  unborn : ∀ jobId, e.standing jobId = none → e.spawned.count jobId = 0
  supervised : ∀ jobId ∈ e.active,
    ∃ standing, e.standing jobId = some standing ∧ standing.state.isActive = true

/-! ## Writes that keep the count -/

theorem Standing.moved_of_isActive {standing : Standing} (h : standing.state.isActive = true)
    (state : JobState) : standing.moved state = { standing with state := state } := by
  simp [Standing.moved, JobState.isWaiting_of_isActive h]

theorem Bounded.of_isTerminal {starts standing} (hState : standing.state.isTerminal = true)
    (h : starts ≤ restartLimit standing.maxAttempts) : Bounded starts standing where
  starts_le := h
  counted hOpen := by
    rw [hState] at hOpen
    cases hOpen
  spare hWaiting := by
    rw [JobState.isWaiting_of_isTerminal hState] at hWaiting
    cases hWaiting

theorem Bounded.ended {starts standing} (h : Bounded starts standing)
    {state} (hState : state.isTerminal = true) : Bounded starts (standing.moved state) :=
  .of_isTerminal hState h.starts_le

theorem Bounded.continued {starts : Nat} {standing} (h : Bounded starts standing)
    (hActive : standing.state.isActive = true) {state}
    (hState : state.isWaiting = true → standing.attempt < restartLimit standing.maxAttempts) :
    Bounded starts (standing.moved state) := by
  rw [Standing.moved_of_isActive hActive]
  exact ⟨h.starts_le, fun _ => h.counted (JobState.isTerminal_of_isActive hActive), hState⟩

theorem Bounded.started {starts standing} (h : Bounded starts standing)
    (hWaiting : standing.state.isWaiting = true) : Bounded (starts + 1) (standing.moved .running) := by
  have hSpare := h.spare hWaiting
  have hCounted : starts ≤ standing.attempt := by
    refine (h.counted ?_).1
    cases hState : standing.state <;> first | rfl | (rw [hState] at hWaiting; cases hWaiting)
  have hMoved : standing.moved .running =
      { standing with state := .running, attempt := standing.attempt + 1 } := by
    simp [Standing.moved, hWaiting]
  rw [hMoved]
  refine ⟨?_, fun _ => ⟨?_, ?_⟩, nofun⟩
  · exact Nat.le_trans (Nat.succ_le_succ hCounted) hSpare
  · exact Nat.succ_le_succ hCounted
  · exact hSpare

namespace Restrained

theorem stable : Stable Restrained := by
  intro e₀ e h he
  refine ⟨fun jobId standing hSt => ?_, fun jobId hNone => ?_, fun jobId hActive => ?_⟩
  · rw [h.spawned]
    exact he.bounded jobId standing (h.standing jobId ▸ hSt)
  · rw [h.spawned]
    exact he.unborn jobId (h.standing jobId ▸ hNone)
  · rw [h.standing]
    exact he.supervised jobId (h.active ▸ hActive)

variable {e : Engine} {jobId : String}

theorem setRow (h : Restrained e) {job} (hBounded : Bounded (e.spawned.count jobId) job.standing)
    (hActive : jobId ∈ e.active → job.state.isActive = true) : Restrained (e.setRow jobId job) := by
  refine ⟨fun other standing hSt => ?_, fun other hNone => ?_, fun other hOther => ?_⟩
  · obtain ⟨rfl, rfl⟩ | ⟨-, hSt⟩ := Engine.of_standing_setRow hSt
    · exact hBounded
    · exact h.bounded other standing hSt
  all_goals by_cases hEq : other = jobId
  · rw [hEq, Engine.standing_setRow_self] at hNone
    cases hNone
  · rw [Engine.standing_setRow_of_ne e job hEq] at hNone
    exact h.unborn other hNone
  · subst hEq
    exact ⟨job.standing, Engine.standing_setRow_self e other job, hActive hOther⟩
  · rw [Engine.standing_setRow_of_ne e job hEq]
    exact h.supervised other hOther

theorem reborn (e : Engine) (h : Restrained e) : Restrained e.reborn :=
  { h with
    supervised := nofun }

section

variable (h : Restrained e)

include h

theorem drop (jobId : String) : Restrained (e.drop jobId) :=
  { h with
    supervised := fun other hOther => h.supervised other (mem_of_mem_filter hOther) }

theorem enlist {standing} (hSt : e.standing jobId = some standing)
    (hState : standing.state.isActive = true) : Restrained (e.enlist jobId) :=
  { h with
    supervised := fun other hOther => by
      rcases mem_cons.mp hOther with rfl | hOther
      · exact ⟨standing, hSt, hState⟩
      · exact h.supervised other hOther }

theorem reclaimed {e'} (hSt : ∀ other, (e'.standing other).map Standing.unclaimed =
      (e.standing other).map Standing.unclaimed)
    (hSpawned : e'.spawned = e.spawned) (hActive : e'.active = e.active) : Restrained e' := by
  refine ⟨fun other standing hOther => ?_, fun other hNone => ?_, fun other hOther => ?_⟩
  · have hSome := hSt other
    rw [hOther] at hSome
    obtain ⟨old, hOld, hEq⟩ := map_eq_some_iff.mp hSome.symm
    have hBounded := h.bounded other old hOld
    rw [hSpawned]
    have hFields : standing.state = old.state ∧ standing.attempt = old.attempt ∧
        standing.maxAttempts = old.maxAttempts := by
      simp only [Standing.unclaimed, Standing.mk.injEq] at hEq
      exact ⟨hEq.2.1.symm, hEq.2.2.1.symm, hEq.2.2.2.1.symm⟩
    obtain ⟨hState, hAttempt, hMax⟩ := hFields
    constructor
    · exact hMax ▸ hBounded.starts_le
    · rw [hState, hAttempt, hMax]
      exact hBounded.counted
    · rw [hState, hAttempt, hMax]
      exact hBounded.spare
  · have hNone' := hSt other
    rw [hNone, map_none, eq_comm, map_eq_none_iff] at hNone'
    rw [hSpawned]
    exact h.unborn other hNone'
  · obtain ⟨old, hOld, hState⟩ := h.supervised other (hActive ▸ hOther)
    have hSome := hSt other
    rw [hOld] at hSome
    obtain ⟨standing, hFound, hEq⟩ := map_eq_some_iff.mp hSome
    refine ⟨standing, hFound, ?_⟩
    have hSame : standing.unclaimed.state = old.unclaimed.state := by rw [hEq]
    exact (congrArg JobState.isActive hSame).trans hState

theorem release (jobId : String) : Restrained (e.release jobId) := by
  refine h.reclaimed (fun other => ?_) rfl rfl
  by_cases hOther : other = jobId
  · rw [hOther, Engine.standing_release_self]
    cases e.standing jobId <;> rfl
  · rw [Engine.standing_release_of_ne e hOther]

theorem record {job} (hJob : e.store.jobs.lookup jobId = some job)
    (claim : AdmittedClaim) : Restrained (e.record jobId job claim) := by
  obtain ⟨hActive, hSpawned, -⟩ := e.noteAdmission_fields claim
  refine h.reclaimed (fun other => ?_) hSpawned hActive
  by_cases hOther : other = jobId
  · rw [hOther, Engine.standing_record_self, Engine.standing_of_lookup hJob]
    rfl
  · rw [Engine.standing_record_of_ne e job claim hOther]

theorem sweep : Restrained { e with store := e.store.sweepStaleReservations } := by
  unfold JobStore.sweepStaleReservations
  generalize e.store.all.filter (fun row => row.2.reservation.isSome && !row.2.state.isActive) = rows
  induction rows generalizing e with
  | nil => exact h
  | cons row rows ih => exact ih (h.release row.1)

end

end Restrained

/-! ## A supervised job -/

/-- The job is in an attempt; under `q` its run has started, or it may be
started once more. -/
structure Attempting (jobId runId : String) (q : Prop) (e : Engine) : Prop where
  restrained : Restrained e
  standing : ∃ standing, e.standing jobId = some standing ∧ standing.state.isActive = true ∧
    (q → e.runQueued runId → standing.attempt < restartLimit standing.maxAttempts)

namespace Attempting

variable {jobId runId : String} {q : Prop} {e : Engine}

theorem stable (jobId runId : String) (q : Prop) : Stable (Attempting jobId runId q) := by
  intro e₀ e h he
  obtain ⟨standing, hSt, hActive, hSpare⟩ := he.standing
  exact ⟨.stable h he.restrained, standing, (h.standing jobId).trans hSt, hActive,
    fun hq hRun => hSpare hq (h.runs runId hRun)⟩

section

variable (h : Attempting jobId runId q e)

include h

theorem moved {job : DaemonJob}
    (hJob : e.store.jobs.lookup jobId = some job) {state} (hState : state.isActive = true)
    (now : Nat) (processId : Option Nat) (error : Option String) :
    Attempting jobId runId q (e.setRow jobId (job.moved state now processId error)) := by
  obtain ⟨standing, hSt, hActive, hSpare⟩ := h.standing
  cases hSt.symm.trans (Engine.standing_of_lookup hJob)
  have hBounded : Bounded (e.spawned.count jobId) (job.standing.moved state) := by
    refine (h.restrained.bounded jobId _ hSt).continued hActive fun hWaiting => ?_
    rw [JobState.isWaiting_of_isActive hState] at hWaiting
    cases hWaiting
  refine ⟨h.restrained.setRow hBounded fun _ => hState, _, Engine.standing_setRow_self _ _ _, hState,
    fun hq hRun => ?_⟩
  rw [DaemonJob.standing_moved, Standing.moved_of_isActive hActive]
  exact hSpare hq hRun

theorem settled {job} (hJob : e.store.jobs.lookup jobId = some job) {state} (now : Nat)
    (error : Option String) (hState : state.isTerminal = true ∨ state = .queued ∧ q ∧ e.runQueued runId) :
    Restrained ((e.setRow jobId (job.moved state now none error)).drop jobId) := by
  obtain ⟨standing, hSt, hActive, hSpare⟩ := h.standing
  cases hSt.symm.trans (Engine.standing_of_lookup hJob)
  have hOld := h.restrained.bounded jobId _ hSt
  have hBounded : Bounded (e.spawned.count jobId) (job.standing.moved state) := by
    rcases hState with hTerminal | ⟨-, hq, hRun⟩
    · exact hOld.ended hTerminal
    · exact hOld.continued hActive fun _ => hSpare hq hRun
  -- the memory forgets the job first, then the row may leave the active states
  exact (h.restrained.drop jobId).setRow hBounded fun hMem => absurd hMem (e.notMem_drop jobId)

theorem released : Attempting jobId runId q (e.release jobId) := by
  obtain ⟨standing, hSt, hActive, hSpare⟩ := h.standing
  refine ⟨h.restrained.release jobId, standing.unclaimed, ?_, hActive, hSpare⟩
  rw [Engine.standing_release_self, hSt, map_some]

theorem recorded {job} (hJob : e.store.jobs.lookup jobId = some job) (claim : AdmittedClaim) :
    Attempting jobId runId q (e.record jobId job claim) := by
  obtain ⟨standing, hSt, hActive, hSpare⟩ := h.standing
  cases hSt.symm.trans (Engine.standing_of_lookup hJob)
  refine ⟨h.restrained.record hJob claim, _, Engine.standing_record_self _ _ _ _, hActive, ?_⟩
  rintro hq ⟨run, hRun, hQueued⟩
  have hRuns : (e.record jobId job claim).runs = e.runs := (e.noteAdmission_fields claim).2.2
  exact hSpare hq ⟨run, hRuns ▸ hRun, hQueued⟩

end

/-- Reservations are of no concern here, so the three phases are one. -/
def outline (jobId runId : String) (q : Prop) : Outline Restrained jobId runId where
  requeues := q
  busy := Attempting jobId runId q
  leaving := Attempting jobId runId q
  freed := Attempting jobId runId q
  stable := Restrained.stable
  busy_stable := stable jobId runId q
  leaving_stable := stable jobId runId q
  freed_stable := stable jobId runId q
  of_busy _ h := h.restrained
  busy_of_leaving _ h := h
  leaving_of_freed _ h := h
  reborn := Restrained.reborn
  drop _ h := ⟨h.restrained.drop jobId, h.standing⟩
  enlist _ h := by
    obtain ⟨standing, hSt, hActive, -⟩ := h.standing
    exact h.restrained.enlist hSt hActive
  release _ h := h.released
  record _ _ claim h hJob := h.recorded hJob claim
  resume _ _ now processId h hJob := h.moved hJob rfl now processId none
  approval _ _ now processId h hJob := (h.moved hJob rfl now processId none).restrained
  park _ _ now processId h hJob := (h.moved hJob rfl now processId none).restrained
  settle _ _ _ now error h hJob hState := h.settled hJob now error hState

end Attempting

/-! ## A job that waits -/

structure Waiting (jobId : String) (e : Engine) : Prop where
  restrained : Restrained e
  standing : ∃ standing, e.standing jobId = some standing ∧ standing.state.isWaiting = true

namespace Waiting

variable {jobId : String} {e : Engine}

theorem stable (jobId : String) : Stable (Waiting jobId) := by
  intro e₀ e h he
  obtain ⟨standing, hSt, hWaiting⟩ := he.standing
  exact ⟨.stable h he.restrained, standing, (h.standing jobId).trans hSt, hWaiting⟩

theorem notMem_active (h : Waiting jobId e) : jobId ∉ e.active := by
  intro hMem
  obtain ⟨standing, hSt, hActive⟩ := h.restrained.supervised jobId hMem
  obtain ⟨other, hOther, hWaiting⟩ := h.standing
  cases hOther.symm.trans hSt
  rw [JobState.isActive_of_isWaiting hWaiting] at hActive
  cases hActive

theorem setRow (h : Waiting jobId e) {job}
    (hBounded : Bounded (e.spawned.count jobId) job.standing) : Restrained (e.setRow jobId job) :=
  h.restrained.setRow hBounded fun hMem => absurd hMem h.notMem_active

theorem bounded (h : Waiting jobId e) {job} (hJob : e.store.jobs.lookup jobId = some job) :
    Bounded (e.spawned.count jobId) job.standing :=
  h.restrained.bounded jobId _ (Engine.standing_of_lookup hJob)

def queueOutline (jobId : String) : QueueOutline Restrained jobId where
  waits := Waiting jobId
  stable := stable jobId
  of_waits _ h := h.restrained
  reborn := Restrained.reborn
  ended _ _ _ _ _ h hJob hState := h.setRow ((h.bounded hJob).ended hState)

end Waiting

/-! ## A start -/

/-- The row follows the call of `spawn`: the daemon lives through it, and a spawn
that fails ends the job. -/
structure SpawnCounted (w : World) (jobId : String) (job : DaemonJob) (e : Engine) : Prop where
  survives : w.diesAfter (.spawn jobId) = false
  failure : ∀ message, w.spawn jobId = .error message → retryPermitted job = false
  recorded : ∀ message runId, w.spawn jobId = .error message → job.runId = some runId →
    (e.runs.lookup runId).isSome = true ∧ w.ledgerTakes runId = true ∧
      w.diesAfter (.event runId .failed) = false

theorem failRun_ends (w : World) {runId e₀}
    (hRun : (e₀.runs.lookup runId).isSome = true) (hTakes : w.ledgerTakes runId = true)
    (hDies : w.diesAfter (.event runId .failed) = false) :
    Triple (· = e₀) (failRun w runId) (fun _ => Quietly e₀) (fun _ _ => False) := by
  obtain ⟨run, hLoad⟩ := isSome_iff_exists.mp hRun
  unfold failRun
  refine loadRun_bind hLoad ?_
  split
  · exact .pure fun e he => he ▸ Quietly.refl e
  next hOpen =>
    unfold emit
    refine loadRun_bind hLoad ?_
    have hAllowed : (run.status.isTerminal || !w.ledgerTakes runId ||
        run.status == .cancelling && !(RunStatus.failed == .cancelling ||
          RunStatus.failed.isTerminal)) = false := by
      have hEnd : RunStatus.failed.isTerminal = true := rfl
      simp [hOpen, hTakes, hEnd]
    rw [if_neg (by rw [hAllowed]; decide), hDies]
    rintro e rfl
    exact (Quietly.refl e).setRun (show RunStatus.failed ≠ .queued by decide)

theorem Waiting.accounted {jobId e₀ e} (h : Waiting jobId e₀)
    (hQuiet : Quietly { e₀ with spawned := jobId :: e₀.spawned } e) {job}
    (hBounded : Bounded (e₀.spawned.count jobId + 1) job.standing) : Restrained (e.setRow jobId job) := by
  have hSelf : e.spawned.count jobId = e₀.spawned.count jobId + 1 := by
    rw [hQuiet.spawned, count_cons_self]
  have hCount : ∀ other, other ≠ jobId → e.spawned.count other = e₀.spawned.count other := by
    intro other hOther
    rw [hQuiet.spawned, count_cons_of_ne (Ne.symm hOther)]
  have hSt : ∀ other, other ≠ jobId → (e.setRow jobId job).standing other = e₀.standing other :=
    fun other hOther => (Engine.standing_setRow_of_ne e job hOther).trans (hQuiet.standing other)
  refine ⟨fun other standing hOther => ?_, fun other hNone => ?_, fun other hOther => ?_⟩
  · by_cases hEq : other = jobId
    · subst hEq
      rw [Engine.standing_setRow_self, Option.some.injEq] at hOther
      rw [← hOther]
      exact hSelf ▸ hBounded
    · rw [hSt other hEq] at hOther
      exact hCount other hEq ▸ h.restrained.bounded other standing hOther
  · by_cases hEq : other = jobId
    · rw [hEq, Engine.standing_setRow_self] at hNone
      cases hNone
    · rw [hSt other hEq] at hNone
      exact (hCount other hEq).trans (h.restrained.unborn other hNone)
  · have hMem : other ∈ e₀.active := hQuiet.active ▸ hOther
    have hEq : other ≠ jobId := fun hEq => h.notMem_active (hEq ▸ hMem)
    rw [hSt other hEq]
    exact h.restrained.supervised other hMem

theorem SpawnCounted.startJob {w jobId job e₀} (hC : SpawnCounted w jobId job e₀) (h : Waiting jobId e₀)
    (hJob : e₀.store.jobs.lookup jobId = some job) (claim : Option AdmittedClaim) :
    Triple (· = e₀) (startJob w jobId job claim) (fun _ => Restrained) (Kept Restrained) := by
  have hOld := h.bounded hJob
  have hWaiting : job.standing.state.isWaiting = true := by
    obtain ⟨standing, hSt, hWaiting⟩ := h.standing
    cases hSt.symm.trans (Engine.standing_of_lookup hJob)
    exact hWaiting
  have hSame : ∀ e, e = e₀ → Restrained e := fun e he => he ▸ h.restrained
  unfold Daemon.startJob
  cases hId : job.runId with
  | none => exact .fail hSame
  | some runId =>
    cases w.validateWorktree jobId with
    | error message => exact .fail hSame
    | ok _ =>
      dsimp only
      split
      swap
      · exact .pure hSame
      let e₁ : Engine := { e₀ with spawned := jobId :: e₀.spawned }
      refine .bind (Q := fun _ e => e = e₁) ?_ fun _ => ?_
      · rw [hC.survives]
        rintro e rfl
        rfl
      have hMissing : ∀ e, Quietly e₁ e → e.store.jobs.lookup jobId = none → Restrained e := by
        intro e he hNone
        have hSt : e.standing jobId = some job.standing :=
          (he.standing jobId).trans (Engine.standing_of_lookup hJob)
        rw [Engine.standing, hNone] at hSt
        cases hSt
      cases hSpawn : w.spawn jobId with
      | ok processId =>
        refine .bind (Q := fun _ => Attempting jobId runId False) ?_ fun _ => ?_
        · refine transition_spec w (fun e he hNone => hMissing e (he ▸ Quietly.refl e₁) hNone)
            (fun e he => .reborn e he.restrained) ?_
          rintro e row rfl hRow
          cases hRow.symm.trans hJob
          exact ⟨h.accounted (.refl e₁) (hOld.started hWaiting), _,
            Engine.standing_setRow_self _ _ _, rfl, False.elim⟩
        · have hEnlist : Triple (Attempting jobId runId False)
              (write fun e => { e with active := jobId :: e.active }) (fun _ => Restrained)
              (Kept Restrained) := Triple.write (Attempting.outline jobId runId False).enlist
          cases claim with
          | none => exact hEnlist
          | some claim =>
            refine .bind (Q := fun _ => Attempting jobId runId False) ?_ fun _ => hEnlist
            exact recordReservation_spec w (fun e he => he.restrained)
              (fun e he => .reborn e he.restrained) fun e row he hRow =>
                he.recorded hRow claim
      | error message =>
        rw [hC.failure message hSpawn]
        obtain ⟨hRun, hTakes, hDies⟩ := hC.recorded message runId hSpawn hId
        have hFailed : Triple (· = e₁) (failRun w runId) (fun _ => Quietly e₁) (fun _ _ => False) :=
          failRun_ends w hRun hTakes hDies
        refine .bind (hFailed.weaken (fun _ h => h) (fun _ _ h => h) fun _ _ h => h.elim)
          fun _ => ?_
        refine transition_spec w hMissing Restrained.reborn fun e row he hRow => ?_
        have hSt : row.standing = job.standing := by
          have hEq := (he.standing jobId).trans (Engine.standing_of_lookup hJob)
          exact Option.some.inj ((Engine.standing_of_lookup hRow).symm.trans hEq)
        refine h.accounted he ?_
        rw [DaemonJob.standing_moved, hSt]
        exact .of_isTerminal rfl (hOld.started hWaiting).starts_le

/-! ## Runs -/

/-- The steps that keep the count: a call of `spawn` is followed by its row, and
a job whose run has not started is interrupted only while it has an attempt left. -/
def Counts : Event → Engine → Prop
  | .start w _ jobId job, e => SpawnCounted w jobId job e
  | .supervise w jobId, e => ∀ job runId, e.store.jobs.lookup jobId = some job →
      job.runId = some runId → (w.exitCode jobId).isSome = true → e.runQueued runId →
      job.attempt < restartLimit job.maxAttempts
  | .recover w jobId job, e => ∀ runId, job.runId = some runId →
      (w.liveHandoff && w.adopts jobId) = false → e.runQueued runId →
      job.attempt < restartLimit job.maxAttempts
  | _, _ => True

theorem Restrained.empty : Restrained Engine.empty where
  bounded _ _ h := by cases h
  unborn _ _ := rfl
  supervised _ h := by cases h

theorem waiting_of_lookup {e jobId job} (h : Restrained e)
    (hJob : e.store.jobs.lookup jobId = some job) (hWaiting : job.state.isWaiting = true) : Waiting jobId e :=
  ⟨h, job.standing, Engine.standing_of_lookup hJob, hWaiting⟩

theorem tickActive_restrained (w : World) (jobId : String) :
    Triple (fun e => Restrained e ∧ Counts (.supervise w jobId) e) (tickActive w jobId)
      (fun _ => Restrained) (Kept Restrained) := by
  refine tickActive_spec (fun _ he => he.1) fun e job runId he hRow hRun => ?_
  have hBusy : jobId ∈ e.active → Attempting jobId runId ((w.exitCode jobId).isSome = true) e := by
    intro hMem
    obtain ⟨standing, hSt, hActive⟩ := he.1.supervised jobId hMem
    cases hSt.symm.trans (Engine.standing_of_lookup hRow)
    exact ⟨he.1, job.standing, hSt, hActive, he.2 job runId hRow hRun⟩
  exact (Attempting.outline jobId runId _).tickActive hRow hRun id he.1 hBusy
    (fun hMem _ => hBusy hMem) fun hMem _ => hBusy hMem

theorem recoverJob_restrained (w : World) (jobId : String) (job : DaemonJob) :
    Triple (fun e => Restrained e ∧ Event.enabled (.recover w jobId job) e ∧ Counts (.recover w jobId job) e)
      (recoverJob w jobId job) (fun _ => Restrained) (Kept Restrained) := by
  rintro e ⟨hI, ⟨hRow, hActive, hAway⟩, hC⟩
  let runId := job.runId.getD ""
  let q := (w.liveHandoff && w.adopts jobId) = false ∧ job.runId.isSome = true
  have hRun : ∀ r, job.runId = some r → r = runId := by
    intro r hr
    rw [show runId = job.runId.getD "" from rfl, hr, getD_some]
  have hBusy : Attempting jobId runId q e := by
    refine ⟨hI, job.standing, Engine.standing_of_lookup hRow, hActive, fun hq hQueued => ?_⟩
    obtain ⟨r, hr⟩ := isSome_iff_exists.mp hq.2
    exact hC r hr hq.1 (hRun r hr ▸ hQueued)
  exact (Attempting.outline jobId runId q).recoverJob hRun (fun h hSome => ⟨h, hSome⟩) e
    ⟨hBusy, hAway, fun _ => hBusy⟩

def counted : EventOutline Restrained Counts where
  queue := Waiting.queueOutline
  stable := .stable
  waits := waiting_of_lookup
  supervise := tickActive_restrained
  start h hJob hC := hC.startJob h hJob
  recover := recoverJob_restrained
  sweep h := h.sweep
  runs _ h := { h with }
  submit {e id new} h hNone hAttempts := by
    have hLimit : 0 < restartLimit new.maxAttempts := by
      unfold restartLimit policyMaxAttempts
      omega
    refine h.setRow ?_ fun hMem => ?_
    · rw [h.unborn id hNone]
      exact ⟨Nat.zero_le _, fun _ => ⟨Nat.zero_le _, Nat.zero_le _⟩, fun _ => hLimit⟩
    · obtain ⟨standing, hSt, -⟩ := h.supervised id hMem
      cases hNone.symm.trans hSt
  prepared {e id job job'} h hJob hPreparing hAttempt hMax _ := by
    have hWaits : Waiting id e := waiting_of_lookup h hJob (by rw [hPreparing]; rfl)
    have hOld := hWaits.bounded hJob
    have hOpen : job.standing.state.isTerminal = false := by
      change job.state.isTerminal = false
      rw [hPreparing]
      rfl
    refine hWaits.setRow ⟨?_, fun _ => ?_, fun _ => ?_⟩
    all_goals simp only [DaemonJob.standing, hAttempt, hMax]
    · exact hOld.starts_le
    · exact hOld.counted hOpen
    · exact hOld.spare (by change job.state.isWaiting = true; rw [hPreparing]; rfl)

/-- In every run that keeps the count, `spawn` is called for a job at most as
often as the stricter of its two limits permits. -/
theorem spawns_le_restartLimit {e : Engine} (h : Reachable Counts e) {jobId : String}
    {job : DaemonJob} (hJob : e.store.jobs.lookup jobId = some job) :
    e.spawned.count jobId ≤ min job.maxAttempts policyMaxAttempts := by
  have hInv : Restrained e := h.invariant Restrained.empty counted.step
  exact (hInv.bounded jobId job.standing (Engine.standing_of_lookup hJob)).starts_le

namespace RestartSample

def once : NewJob := ⟨0, 1, 0, 100000, none, 100000⟩

def queued : Engine := Engine.empty.submitted "job" "run" once

def waiting : DaemonJob := once.row.queuedWith "run" 0

def slots : Admissions := ⟨4, [], []⟩

def started : Engine := outcome (Event.start (calm 0) slots "job" waiting).program queued

theorem reachable_queued : Reachable Counts queued :=
  Reachable.empty.submitted (fun event _ h => by cases event <;> trivial) "job" "run" once

theorem spawnCounted_calm : SpawnCounted (calm 0) "job" waiting queued where
  survives := rfl
  failure _ h := by cases h
  recorded _ _ h := by cases h

theorem reachable_started : Reachable Counts started :=
  .step _ reachable_queued ⟨by decide +kernel, rfl⟩ spawnCounted_calm

end RestartSample

theorem spawns_le_restartLimit_once : RestartSample.started.spawned.count "job" = 1 ∧
      RestartSample.started.spawned.count "job" ≤ min 1 policyMaxAttempts :=
  ⟨by decide +kernel, spawns_le_restartLimit RestartSample.reachable_started
    (show _ = some (RestartSample.waiting.moved .running 0 (some 7) none) by decide +kernel)⟩

namespace RestartSample

/-- The child exits before its first event, and the scheduler comes back. -/
def respawned : Engine :=
  outcome (tick (calm 5000)) (outcome (tick { calm 1 with exitCode := fun _ => some 1 })
    (outcome (tick (calm 0)) queued))

theorem daemonRun_respawned : DaemonRun respawned :=
  .tick _ (.tick _ (.tick _ (DaemonRun.empty.submitted "job" "run" once)))

end RestartSample

theorem spawns_exceed_restartLimit : ¬ ∀ e, DaemonRun e → ∀ jobId job, e.store.jobs.lookup jobId = some job →
      e.spawned.count jobId ≤ min job.maxAttempts policyMaxAttempts := by
  intro h
  have hRow : (RestartSample.respawned.store.jobs.lookup "job").map (·.maxAttempts) = some 1 := by
    decide +kernel
  obtain ⟨job, hJob, hMax⟩ := map_eq_some_iff.mp hRow
  have hBound := h _ RestartSample.daemonRun_respawned "job" job hJob
  have hCount : RestartSample.respawned.spawned.count "job" = 2 := by decide +kernel
  rw [hCount, hMax] at hBound
  exact absurd hBound (by decide)

end LittleMonkey.Daemon
