import LittleMonkey.Daemon.Events

/-! # The course of one supervised job

Most calls of the engine change nothing that decides how often a job starts or
what it holds: they are quiet.  `Outline` collects what an invariant has to say
about the few writes that do, and the rest of the file runs `tick_active` and
`reconcile_interrupted` through it once for every such invariant.
-/

namespace LittleMonkey.Daemon

open Durable List AList Option

/-! ## Standing -/

structure Standing where
  runId : Option String
  state : JobState
  (attempt maxAttempts : Nat)
  reservation : Option ModelReservation
  deriving DecidableEq

def DaemonJob.standing (job : DaemonJob) : Standing :=
  ⟨job.runId, job.state, job.attempt, job.maxAttempts, job.reservation⟩

def Engine.standing (e : Engine) (id : String) : Option Standing :=
  (e.store.jobs.lookup id).map DaemonJob.standing

def Standing.moved (standing : Standing) (state : JobState) : Standing :=
  { standing with
    state := state
    attempt := if state = .running ∧ standing.state.isWaiting then standing.attempt + 1
      else standing.attempt }

@[simp]
theorem DaemonJob.standing_moved (job : DaemonJob) (state : JobState) (now : Nat)
    (processId : Option Nat) (error : Option String) :
    (job.moved state now processId error).standing = job.standing.moved state := rfl

theorem Engine.standing_of_lookup {e : Engine} {id job}
    (h : e.store.jobs.lookup id = some job) : e.standing id = some job.standing := by
  rw [Engine.standing, h, map_some]

@[simp]
theorem Engine.standing_setRow_self (e : Engine) (id : String) (job : DaemonJob) :
    (e.setRow id job).standing id = some job.standing := by
  simp [Engine.standing, Engine.setRow, JobStore.setJob]

theorem Engine.standing_setRow_of_ne (e : Engine) {id other} (job : DaemonJob)
    (h : other ≠ id) : (e.setRow id job).standing other = e.standing other := by
  simp [Engine.standing, Engine.setRow, JobStore.setJob, lookup_insert_ne h]

theorem Engine.of_standing_setRow {e : Engine} {id other job standing}
    (h : (e.setRow id job).standing other = some standing) :
    other = id ∧ job.standing = standing ∨ other ≠ id ∧ e.standing other = some standing := by
  by_cases hOther : other = id
  · subst hOther
    rw [standing_setRow_self, Option.some.injEq] at h
    exact .inl ⟨rfl, h⟩
  · rw [standing_setRow_of_ne e job hOther] at h
    exact .inr ⟨hOther, h⟩

def Engine.runQueued (e : Engine) (runId : String) : Prop :=
  ∃ run, e.runs.lookup runId = some run ∧ run.status = .queued

/-! ## Quiet calls -/

structure Quietly (e₀ e : Engine) : Prop where
  standing : ∀ id, e.standing id = e₀.standing id
  deviceRows : e.store.deviceRows = e₀.store.deviceRows
  active : e.active = e₀.active
  spawned : e.spawned = e₀.spawned
  admitted : e.admitted = e₀.admitted
  runs : ∀ runId, e.runQueued runId → e₀.runQueued runId

theorem Quietly.refl (e : Engine) : Quietly e e := ⟨fun _ => rfl, rfl, rfl, rfl, rfl, fun _ h => h⟩

theorem Quietly.setRow {e₀ e} (h : Quietly e₀ e) {id job}
    (hJob : e₀.standing id = some job.standing) : Quietly e₀ (e.setRow id job) :=
  { h with
    standing := fun other => by
      by_cases hOther : other = id
      · rw [hOther, Engine.standing_setRow_self, hJob]
      · rw [Engine.standing_setRow_of_ne e job hOther, h.standing] }

theorem Quietly.setRun {e₀ e runId run} (h : Quietly e₀ e) (hRun : run.status ≠ .queued) :
    Quietly e₀ { e with runs := e.runs.insert runId run } where
  standing := h.standing
  deviceRows := h.deviceRows
  active := h.active
  spawned := h.spawned
  admitted := h.admitted
  runs other := by
    rintro ⟨found, hFound, hQueued⟩
    by_cases hOther : other = runId
    · subst hOther
      rw [lookup_insert, Option.some.injEq] at hFound
      exact absurd (hFound ▸ hQueued) hRun
    · rw [lookup_insert_ne hOther] at hFound
      exact h.runs other ⟨found, hFound, hQueued⟩

/-- A call that `R` does not notice. -/
def Quiet {α : Type} (R : Engine → Engine → Prop) (p : EngineM α) : Prop :=
  ∀ e₀, Triple (R e₀) p (fun _ => R e₀) (fun _ => R e₀)

def Stable (P : Engine → Prop) : Prop := ∀ ⦃e₀ e⦄, Quietly e₀ e → P e₀ → P e

section

variable {P : Engine → Prop} {E : Stop String → Engine → Prop}

theorem jobOf_spec {id} (hNone : ∀ e message, P e → e.store.jobs.lookup id = none → E (.failed message) e) :
    Triple P (jobOf id) (fun job e => P e ∧ e.store.jobs.lookup id = some job) E := by
  unfold jobOf
  refine .bind (Q := fun found e => P e ∧ e.store.jobs.lookup id = found)
    (.read fun _ he => ⟨he, rfl⟩) fun found => ?_
  cases found with
  | some job => exact .pure fun _ he => he
  | none => exact .fail fun e he => hNone e _ he.1 he.2

theorem loadRun_spec {runId message} (hNone : ∀ e, P e → e.runs.lookup runId = none → E (.failed message) e) :
    Triple P (loadRun runId message) (fun run e => P e ∧ e.runs.lookup runId = some run) E := by
  unfold loadRun
  refine .bind (Q := fun found e => P e ∧ e.runs.lookup runId = found)
    (.read fun _ he => ⟨he, rfl⟩) fun found => ?_
  cases found with
  | some run => exact .pure fun _ he => he
  | none => exact .fail fun e he => hNone e he.1 he.2

end

namespace Quiet

variable {α β : Type} {R : Engine → Engine → Prop}

theorem bind {p} {f : α → EngineM β} (hp : Quiet R p) (hf : ∀ a, Quiet R (f a)) : Quiet R (p >>= f) :=
  fun e₀ => (hp e₀).bind fun a => hf a e₀

theorem pure (a : α) : Quiet R (Pure.pure a : EngineM α) := fun _ => .skip

theorem fail (message : String) : Quiet R (Durable.fail message : EngineM α) :=
  fun _ => .fail fun _ h => h

theorem read (f : Engine → α) : Quiet R (Transaction.read f : EngineM α) :=
  fun _ => .read fun _ h => h

theorem durable {dies f} (h : ∀ e₀ e, R e₀ e → R e₀ (f e)) :
    Quiet R (Durable.durable dies f : EngineM Unit) := fun e₀ => .durable (h e₀) fun _ => h e₀

theorem jobOf (id : String) : Quiet R (Daemon.jobOf id) := fun _ =>
  (jobOf_spec fun _ _ h _ => h).weaken (fun _ h => h) (fun _ _ h => h.1) fun _ _ h => h

theorem loadRun (runId message : String) : Quiet R (Daemon.loadRun runId message) := fun _ =>
  (loadRun_spec fun _ h _ => h).weaken (fun _ h => h) (fun _ _ h => h.1) fun _ _ h => h

end Quiet

theorem Quiet.keeps {α : Type} {p : EngineM α} (hp : Quiet Quietly p) {P : Engine → Prop}
    (hP : Stable P) : Triple P p (fun _ => P) (fun _ => P) := by
  intro e he
  have hRun := hp e e (.refl e)
  cases hEnd : p e with
  | ok a e' =>
    rw [hEnd] at hRun
    exact hP hRun he
  | error stop e' =>
    rw [hEnd] at hRun
    exact hP hRun he

theorem jobOf_bind {α : Type} {id e₀ job} (hJob : e₀.store.jobs.lookup id = some job) {p}
    {Q : α → Engine → Prop} {E : Stop String → Engine → Prop} (h : Triple (· = e₀) (p job) Q E) :
    Triple (· = e₀) (jobOf id >>= p) Q E := by
  refine .bind (jobOf_spec ?_) fun row => ?_
  · rintro _ _ rfl hNone
    cases hJob.symm.trans hNone
  · rintro _ ⟨rfl, hRow⟩
    cases hJob.symm.trans hRow
    exact h _ rfl

theorem loadRun_bind {α : Type} {runId message e₀ run} (hRun : e₀.runs.lookup runId = some run) {p}
    {Q : α → Engine → Prop} {E : Stop String → Engine → Prop} (h : Triple (· = e₀) (p run) Q E) :
    Triple (· = e₀) (loadRun runId message >>= p) Q E := by
  refine .bind (loadRun_spec ?_) fun found => ?_
  · rintro _ rfl hNone
    cases hRun.symm.trans hNone
  · rintro _ ⟨rfl, hFound⟩
    cases hRun.symm.trans hFound
    exact h _ rfl

theorem Quiet.update {id : String} {p}
    (hp : ∀ job, (∃ message, p job = Durable.fail message) ∨ p job = Pure.pure () ∨
      ∃ dies job', job'.standing = job.standing ∧
        p job = Durable.durable dies fun e => e.setRow id job') :
    Quiet Quietly (Daemon.jobOf id >>= p) := by
  intro e₀
  refine .bind (jobOf_spec fun _ _ he _ => he) fun job => ?_
  obtain ⟨message, h⟩ | h | ⟨dies, job', hJob', h⟩ := hp job
  · rw [h]
    exact .fail fun e he => he.1
  · rw [h]
    exact .pure fun e he => he.1
  · rw [h]
    have hWrite : ∀ e, Quietly e₀ e ∧ e.store.jobs.lookup id = some job → Quietly e₀ (e.setRow id job') := by
      rintro e ⟨he, hJob⟩
      refine he.setRow ?_
      rw [← he.standing, Engine.standing_of_lookup hJob, hJob']
    exact .durable hWrite fun _ => hWrite

variable (w : World)

theorem quiet_signalChild {R} (id : String) : Quiet R (signalChild w id) := by
  unfold signalChild
  split
  · exact .pure ()
  · exact .fail _

theorem quiet_recordHold (id : String) (reason : Option String) : Quiet Quietly (recordHold w id reason) :=
  Quiet.update fun job => .inr (.inr ⟨_, { job with holdReason := reason }, rfl, rfl⟩)

theorem quiet_hold (id : String) (job : DaemonJob) (reason : String) :
    Quiet Quietly (hold w id job reason) := by
  unfold hold
  split
  · exact .pure ()
  · exact quiet_recordHold w id (some reason)

theorem quiet_requestCancel (id : String) : Quiet Quietly (requestCancel w id) := by
  refine .update fun job => ?_
  split
  · exact .inr (.inl rfl)
  · exact .inr (.inr ⟨_, { job with cancelRequested := true, updatedAtMs := w.now }, rfl, rfl⟩)

theorem quiet_requestPause (id : String) (value : Bool) : Quiet Quietly (requestPause w id value) := by
  refine .update fun job => ?_
  split
  · exact .inl ⟨_, rfl⟩
  · exact .inr (.inr ⟨_, { job with pauseRequested := value, updatedAtMs := w.now }, rfl, rfl⟩)

/-- `R` does not notice that a run is no longer queued. -/
class IgnoresRuns (R : Engine → Engine → Prop) : Prop where
  setRun : ∀ {e₀ e runId run}, R e₀ e → run.status ≠ .queued → R e₀ { e with runs := e.runs.insert runId run }

instance : IgnoresRuns Quietly := ⟨Quietly.setRun⟩

section

variable {R : Engine → Engine → Prop} [IgnoresRuns R] (runId : String)

theorem quiet_emit {status} (hStatus : status ≠ .queued) : Quiet R (emit w runId status) := by
  unfold emit
  refine (Quiet.loadRun runId _).bind fun run => ?_
  split
  · exact .fail _
  · exact Quiet.durable fun _ _ h => IgnoresRuns.setRun h hStatus

theorem quiet_ensureCancelling : Quiet R (ensureCancelling w runId) := by
  unfold ensureCancelling
  refine (Quiet.loadRun runId _).bind fun run => ?_
  split
  · exact .pure ()
  · exact (quiet_emit w runId (by decide)).bind fun _ => quiet_emit w runId (by decide)

theorem quiet_cancelRun : Quiet R (cancelRun w runId) := by
  unfold cancelRun
  refine (Quiet.loadRun runId _).bind fun run => ?_
  split
  · exact .pure ()
  · exact quiet_emit w runId (by decide)

theorem quiet_failRun : Quiet R (failRun w runId) := by
  unfold failRun
  refine (Quiet.loadRun runId _).bind fun run => ?_
  split
  · exact .pure ()
  · exact quiet_emit w runId (by decide)

end

theorem quiet_reacquire {R} (id : String) : Quiet R (reacquire w id) := by
  unfold reacquire
  split
  · refine (Quiet.read _).bind fun resident => (Quiet.read _).bind fun devices => ?_
    split <;> exact Quiet.pure _
  · exact .pure _

theorem JobStore.mem_all {store : JobStore} {row} :
    row ∈ store.all ↔ store.jobs.lookup row.1 = some row.2 := by
  unfold JobStore.all
  rw [List.mem_map, ← Option.mem_def, AList.mem_lookup_iff]
  constructor
  · rintro ⟨entry, hEntry, rfl⟩
    exact hEntry
  · exact fun h => ⟨⟨row.1, row.2⟩, h, rfl⟩

theorem Quietly.foldRows {e₀ e} (h : Quietly e₀ e) (rows : List (String × DaemonJob))
    {f : DaemonJob → DaemonJob} (hf : ∀ job, (f job).standing = job.standing)
    (hRows : ∀ row ∈ rows, e₀.standing row.1 = some row.2.standing) : Quietly e₀ { e with
      store := rows.foldl (fun store (id, job) =>
        if job.state.isTerminal then store else store.setJob id (f job)) e.store } := by
  induction rows generalizing e with
  | nil => exact h
  | cons row rows ih =>
    have hRest : ∀ row ∈ rows, e₀.standing row.1 = some row.2.standing :=
      fun other hOther => hRows other (mem_cons_of_mem row hOther)
    obtain ⟨id, job⟩ := row
    rw [foldl_cons]
    by_cases hTerminal : job.state.isTerminal = true
    · simp only [hTerminal]
      exact ih h hRest
    · have hRow : e₀.standing id = some (f job).standing := (hf job).symm ▸ hRows (id, job) mem_cons_self
      simp only [hTerminal]
      exact ih (h.setRow hRow) hRest

theorem quiet_requestCancelAll : Quiet Quietly (requestCancelAll w) := by
  intro e₀
  have hWrite : ∀ e, Quietly e₀ e → Quietly e₀ { e with
      store := e.store.all.foldl (fun store (id, job) =>
        if job.state.isTerminal then store
        else store.setJob id { job with cancelRequested := true, updatedAtMs := w.now })
        e.store } := by
    intro e he
    refine he.foldRows e.store.all
      (f := fun job => { job with cancelRequested := true, updatedAtMs := w.now })
      (fun _ => rfl) fun row hRow => ?_
    rw [← he.standing, Engine.standing_of_lookup (JobStore.mem_all.mp hRow)]
  exact .durable hWrite fun _ => hWrite

/-! ## The writes that matter -/

namespace Engine

def drop (e : Engine) (id : String) : Engine :=
  { e with active := e.active.filter (· != id) }

def enlist (e : Engine) (id : String) : Engine := { e with active := id :: e.active }

def release (e : Engine) (id : String) : Engine :=
  { e with store := e.store.releaseReservation id }

def record (e : Engine) (id : String) (job : DaemonJob) (claim : AdmittedClaim) : Engine :=
  { e.noteAdmission claim with
    store := e.store.recordReservation id job claim.reservation claim.devices }

theorem drop_eq_self {e : Engine} {id} (h : id ∉ e.active) : e.drop id = e := by
  have hFilter : e.active.filter (· != id) = e.active := by
    refine filter_eq_self.mpr fun other hOther => bne_iff_ne.mpr ?_
    rintro rfl
    exact h hOther
  rw [drop, hFilter]

theorem notMem_drop (e : Engine) (id : String) : id ∉ (e.drop id).active := by
  simp [drop]

end Engine

def Standing.unclaimed (standing : Standing) : Standing := { standing with reservation := none }

def Standing.claiming (standing : Standing) (reservation : ModelReservation) : Standing :=
  { standing with reservation := some reservation }

theorem Engine.standing_release_self (e : Engine) (id : String) :
    (e.release id).standing id = (e.standing id).map Standing.unclaimed := by
  unfold Engine.standing Engine.release JobStore.releaseReservation
  cases h : e.store.jobs.lookup id with
  | none => simp [h]
  | some job => simp [DaemonJob.standing, Standing.unclaimed]

theorem Engine.standing_release_of_ne (e : Engine) {id other} (hOther : other ≠ id) :
    (e.release id).standing other = e.standing other := by
  unfold Engine.standing Engine.release JobStore.releaseReservation
  cases e.store.jobs.lookup id with
  | none => rfl
  | some job => simp [lookup_insert_ne hOther]

@[simp]
theorem Engine.standing_record_self (e : Engine) (id : String) (job : DaemonJob) (claim : AdmittedClaim) :
    (e.record id job claim).standing id = some (job.standing.claiming claim.reservation) := by
  simp [Engine.standing, Engine.record, JobStore.recordReservation, DaemonJob.standing, Standing.claiming]

theorem Engine.standing_record_of_ne (e : Engine) {id other} (job : DaemonJob)
    (claim : AdmittedClaim) (hOther : other ≠ id) :
    (e.record id job claim).standing other = e.standing other := by
  simp [Engine.standing, Engine.record, JobStore.recordReservation, lookup_insert_ne hOther]

theorem Engine.noteAdmission_fields (e : Engine) (claim : AdmittedClaim) :
    (e.noteAdmission claim).active = e.active ∧ (e.noteAdmission claim).spawned = e.spawned ∧
      (e.noteAdmission claim).runs = e.runs := by
  unfold Engine.noteAdmission
  split <;> exact ⟨rfl, rfl, rfl⟩

/-- What an invariant says about the course of one job.  While the job is `busy`
its row is in an active state; when it is `leaving` its claim may be released;
when it is `freed` it holds none.  Under `requeues` it may go back to the queue. -/
structure Outline (I : Engine → Prop) (id runId : String) where
  requeues : Prop
  (busy leaving freed : Engine → Prop)
  stable : Stable I
  busy_stable : Stable busy
  leaving_stable : Stable leaving
  freed_stable : Stable freed
  of_busy : ∀ e, busy e → I e
  busy_of_leaving : ∀ e, leaving e → busy e
  leaving_of_freed : ∀ e, freed e → leaving e
  reborn : ∀ e, I e → I e.reborn
  drop : ∀ e, leaving e → leaving (e.drop id)
  enlist : ∀ e, busy e → I (e.enlist id)
  release : ∀ e, leaving e → freed (e.release id)
  record : ∀ e job claim, freed e → e.store.jobs.lookup id = some job → leaving (e.record id job claim)
  resume : ∀ e job now processId, leaving e → e.store.jobs.lookup id = some job →
    leaving (e.setRow id (job.moved .running now processId none))
  approval : ∀ e job now processId, busy e → e.store.jobs.lookup id = some job →
    I (e.setRow id (job.moved .waitingApproval now processId none))
  park : ∀ e job now processId, freed e → e.store.jobs.lookup id = some job →
    I (e.setRow id (job.moved .paused now processId none))
  settle : ∀ e job state now error, freed e → e.store.jobs.lookup id = some job →
    state.isTerminal = true ∨ state = .queued ∧ requeues ∧ e.runQueued runId →
    I ((e.setRow id (job.moved state now none error)).drop id)

theorem Quiet.spec {α : Type} {p : EngineM α} (hp : Quiet Quietly p) {P I : Engine → Prop} (hP : Stable P)
    (hI : ∀ e, P e → I e) (hReborn : ∀ e, I e → I e.reborn) : Triple P p (fun _ => P) (Kept I) := by
  refine (hp.keeps hP).weaken (fun _ h => h) (fun _ _ h => h) fun stop e he => ?_
  cases stop with
  | crashed => exact hReborn e (hI e he)
  | failed message => exact hI e he

theorem transition_spec {id state processId error} {P Q I : Engine → Prop}
    (hP : ∀ e, P e → e.store.jobs.lookup id = none → I e) (hQ : ∀ e, Q e → I e.reborn)
    (h : ∀ e job, P e → e.store.jobs.lookup id = some job →
      Q (e.setRow id (job.moved state w.now processId error))) :
    Triple P (transition w id state processId error) (fun _ => Q) (Kept I) := by
  unfold transition
  refine .bind (jobOf_spec fun e _ he hNone => hP e he hNone) fun job => ?_
  exact .durable (fun e he => h e job he.1 he.2) fun _ e he => hQ _ (h e job he.1 he.2)

theorem releaseReservation_spec {id} {P Q I : Engine → Prop}
    (hQ : ∀ e, Q e → I e.reborn) (h : ∀ e, P e → Q (e.release id)) :
    Triple P (releaseReservation w id) (fun _ => Q) (Kept I) :=
  Triple.durable (fun e he => h e he) fun _ e he => hQ _ (h e he)

theorem recordReservation_spec {id claim} {P Q I : Engine → Prop}
    (hP : ∀ e, P e → I e) (hQ : ∀ e, Q e → I e.reborn)
    (h : ∀ e job, P e → e.store.jobs.lookup id = some job → Q (e.record id job claim)) :
    Triple P (recordReservation w id claim) (fun _ => Q) (Kept I) := by
  unfold recordReservation
  refine .bind (jobOf_spec fun e _ he _ => hP e he) fun job => ?_
  split
  · exact .durable (fun e he => h e job he.1 he.2) fun _ e he => hQ _ (h e job he.1 he.2)
  · exact .fail fun e he => hP e he.1

/-! ## Running through an outline -/

namespace Outline

variable {w} {I : Engine → Prop} {id runId : String} (o : Outline I id runId)

include o

theorem of_leaving (e : Engine) (h : o.leaving e) : I e := o.of_busy e (o.busy_of_leaving e h)

theorem of_freed (e : Engine) (h : o.freed e) : I e := o.of_leaving e (o.leaving_of_freed e h)

theorem reborn_of_drop (e : Engine) (h : I (e.drop id)) : I e.reborn := o.reborn (e.drop id) h

theorem quiet_leaving {α : Type} {p : EngineM α} (hp : Quiet Quietly p) :
    Triple o.leaving p (fun _ => o.leaving) (Kept I) :=
  hp.spec o.leaving_stable o.of_leaving o.reborn

theorem quiet_freed {α : Type} {p : EngineM α} (hp : Quiet Quietly p) :
    Triple o.freed p (fun _ => o.freed) (Kept I) :=
  hp.spec o.freed_stable o.of_freed o.reborn

/-- The state a job is settled in: an end, or the queue while its run has not
started. -/
def Settles (state : JobState) (e : Engine) : Prop :=
  state.isTerminal = true ∨ state = .queued ∧ o.requeues ∧ e.runQueued runId

theorem finishActive {state : JobState} {error} :
    Triple (fun e => o.leaving e ∧ o.Settles state e) (finishActive w id state error)
      (fun _ => I) (Kept I) := by
  unfold Daemon.finishActive
  refine .bind (Q := fun _ e => (o.leaving e ∧ o.Settles state e) ∧ id ∉ e.active)
    (.write fun e he => ⟨⟨o.drop e he.1, he.2⟩, e.notMem_drop id⟩) fun _ => ?_
  refine .bind (Q := fun _ e => (o.freed e ∧ o.Settles state e) ∧ id ∉ e.active)
    (releaseReservation_spec w (fun e he => o.reborn e (o.of_freed e he.1.1))
      fun e he => ⟨⟨o.release e he.1.1, he.1.2⟩, he.2⟩) fun _ => ?_
  refine transition_spec w (fun e he _ => o.of_freed e he.1.1) o.reborn fun e job he hJob => ?_
  have hSettled := o.settle e job state w.now error he.1.1 hJob he.1.2
  rwa [Engine.drop_eq_self (e := e.setRow _ _) he.2] at hSettled

theorem finishActive_terminal {state} (hState : state.isTerminal = true) {error} :
    Triple o.leaving (Daemon.finishActive w id state error) (fun _ => I) (Kept I) :=
  o.finishActive.pre (fun _ h => ⟨h, .inl hState⟩)

def FreedWith (active : List String) (e : Engine) : Prop := o.freed e ∧ e.active = active

omit o in
theorem FreedWith.stable {o : Outline I id runId} (active : List String) : Stable (o.FreedWith active) :=
  fun _ _ h he => ⟨o.freed_stable h he.1, h.active.trans he.2⟩

variable (active : List String)

theorem quiet_freedWith {α : Type} {p : EngineM α} (hp : Quiet Quietly p) :
    Triple (o.FreedWith active) p (fun _ => o.FreedWith active) (Kept I) :=
  hp.spec (.stable active) (fun e he => o.of_freed e he.1) o.reborn

theorem settled {state error} :
    Triple (fun e => o.FreedWith active e ∧ o.Settles state e) (transition w id state none error)
      (fun _ e => I (e.drop id) ∧ e.active = active) (Kept I) :=
  transition_spec w (fun e he _ => o.of_freed e he.1.1) (fun e he => o.reborn_of_drop e he.1)
    fun e job he hJob => ⟨o.settle e job state w.now error he.1.1 hJob he.2, he.1.2⟩

theorem settled_terminal {state} (hState : state.isTerminal = true) {error} :
    Triple (o.FreedWith active) (transition w id state none error)
      (fun _ e => I (e.drop id) ∧ e.active = active) (Kept I) :=
  (o.settled active).pre (fun _ h => ⟨h, .inl hState⟩)

theorem reconcileInterrupted {job : DaemonJob} (hRun : ∀ r, job.runId = some r → r = runId)
    (hRequeues : job.runId.isSome = true → o.requeues) (reason : String) :
    Triple (fun e => o.leaving e ∧ e.active = active) (reconcileInterrupted w id job reason)
      (fun _ e => I (e.drop id) ∧ e.active = active) (Kept I) := by
  unfold Daemon.reconcileInterrupted
  refine .bind (Q := fun _ => o.FreedWith active)
    (releaseReservation_spec w (fun e he => o.reborn e (o.of_freed e he.1))
      fun e he => ⟨o.release e he.1, he.2⟩) fun _ => ?_
  cases hId : job.runId with
  | none => exact o.settled_terminal active rfl
  | some r =>
    obtain rfl := hRun r hId
    have hRequeue : o.requeues := hRequeues (by rw [hId]; rfl)
    refine .bind (loadRun_spec fun e he _ => o.of_freed e he.1) fun run => ?_
    split
    next hTerminal =>
      have hState : (mapRunStatus run.status).isTerminal = true := by
        rw [isTerminal_mapRunStatus, hTerminal]
      exact (o.settled_terminal active hState).pre (fun _ h => h.1)
    split
    next hQueued =>
      refine (o.settled active).pre (fun e he => ⟨he.1, .inr ⟨rfl, hRequeue, ?_⟩⟩)
      exact ⟨run, he.2, hQueued⟩
    -- from here on the run is only closed, and what it was is forgotten
    refine .pre (P := o.FreedWith active) ?_ (fun _ h => h.1)
    split
    · exact (o.quiet_freedWith active (quiet_emit w r (by decide))).bind fun _ =>
        o.settled_terminal active rfl
    split
    · exact (o.quiet_freedWith active (quiet_cancelRun w r)).bind fun _ =>
        o.settled_terminal active rfl
    · exact (o.quiet_freedWith active (quiet_failRun w r)).bind fun _ =>
        o.settled_terminal active rfl

theorem loseLease : Triple o.leaving (loseLease w id runId) (fun _ => I) (Kept I) :=
  (o.quiet_leaving (quiet_signalChild w id)).bind fun _ =>
    (o.quiet_leaving (quiet_failRun w runId)).bind fun _ => o.finishActive_terminal rfl

theorem cancelForBudget (reason : String) :
    Triple o.leaving (cancelForBudget w id runId reason) (fun _ => I) (Kept I) :=
  (o.quiet_leaving (quiet_ensureCancelling w runId)).bind fun _ =>
    (o.quiet_leaving (quiet_signalChild w id)).bind fun _ =>
      (o.quiet_leaving (quiet_cancelRun w runId)).bind fun _ => o.finishActive_terminal rfl

theorem cancelActive : Triple o.leaving (cancelActive w id runId) (fun _ => I) (Kept I) := by
  unfold Daemon.cancelActive
  refine (o.quiet_leaving (quiet_ensureCancelling w runId)).bind fun _ => ?_
  refine (o.quiet_leaving (quiet_signalChild w id)).bind fun _ => ?_
  refine (o.quiet_leaving (quiet_cancelRun w runId)).bind fun _ => ?_
  refine (o.finishActive_terminal rfl).bind fun _ => ?_
  refine .write fun e he => ?_
  have hQuiet : Quietly e { e with
      immediateTermination := e.immediateTermination.filter (· != id) } :=
    ⟨fun _ => rfl, rfl, rfl, rfl, rfl, fun _ h => h⟩
  exact o.stable hQuiet he

theorem pauseActive (job : DaemonJob) :
    Triple o.leaving (pauseActive w id job runId) (fun _ => I) (Kept I) := by
  unfold Daemon.pauseActive
  refine (o.quiet_leaving (quiet_signalChild w id)).bind fun _ => ?_
  refine (o.quiet_leaving (quiet_emit w runId (by decide))).bind fun _ => ?_
  refine .bind (Q := fun _ => o.freed)
    (releaseReservation_spec w (fun e he => o.reborn e (o.of_freed e he)) o.release) fun _ => ?_
  exact transition_spec w (fun e he _ => o.of_freed e he) o.reborn fun e row he hRow => o.park e row _ _ he hRow

theorem resumeActive (job : DaemonJob) : Triple o.freed (resumeActive w id job runId)
      (fun resumed e => I e ∧ (resumed = true → o.leaving e)) (Kept I) := by
  unfold Daemon.resumeActive
  refine (o.quiet_freed (quiet_reacquire w id)).bind fun found => ?_
  cases found with
  | held reason =>
    refine (o.quiet_freed (quiet_hold w id job reason)).bind fun _ => ?_
    exact .pure fun e he => ⟨o.of_freed e he, fun h => absurd h (by decide)⟩
  | fits claim =>
    refine (o.quiet_freed (quiet_signalChild w id)).bind fun _ => ?_
    refine (o.quiet_freed (quiet_emit w runId (by decide))).bind fun _ => ?_
    have hRun : Triple o.leaving (do
        transition w id .running job.processId none
        Pure.pure true)
        (fun resumed e => I e ∧ (resumed = true → o.leaving e)) (Kept I) := by
      refine .bind (Q := fun _ => o.leaving)
        (transition_spec w (fun e he _ => o.of_leaving e he) (fun e he => o.reborn e (o.of_leaving e he))
          fun e row he hRow => o.resume e row _ _ he hRow) fun _ => ?_
      exact .pure fun e he => ⟨o.of_leaving e he, fun _ => he⟩
    cases claim with
    | some claim =>
      refine .bind (Q := fun _ => o.leaving) ?_ fun _ => hRun
      exact recordReservation_spec w o.of_freed (fun e he => o.reborn e (o.of_leaving e he))
        fun e row he hRow => o.record e row claim he hRow
    | none =>
      have hFreed := hRun.pre o.leaving_of_freed
      dsimp only
      split
      · exact (o.quiet_freed (quiet_recordHold w id none)).bind fun _ => hFreed
      · exact hFreed

theorem settleExit {job} (hRun : job.runId = some runId) (hRequeues : o.requeues) (exitCode : Int) :
    Triple o.leaving (settleExit w id job runId exitCode) (fun _ => I) (Kept I) := by
  unfold Daemon.settleExit
  refine .bind (loadRun_spec fun e he _ => o.of_leaving e he) fun run => ?_
  split
  next hTerminal =>
    have hState : (mapRunStatus run.status).isTerminal = true := by
      rw [isTerminal_mapRunStatus, hTerminal]
    exact (o.finishActive_terminal hState).pre (fun _ h => h.1)
  split
  next hEarly =>
    refine o.finishActive.pre (fun e he => ⟨he.1, .inr ⟨rfl, hRequeues, ?_⟩⟩)
    exact ⟨run, he.2, hEarly.1⟩
  · refine .bind (Q := fun _ e => I (e.drop id)) ?_ fun _ => .write fun _ he => he
    have hRuns : ∀ r, job.runId = some r → r = runId := fun r hr => Option.some.inj (hr.symm.trans hRun)
    rintro e ⟨he, -⟩
    exact (o.reconcileInterrupted e.active hRuns (fun _ => hRequeues) _).weaken (fun _ h => h) (fun _ _ h => h.1)
      (fun _ _ h => h) e ⟨he, rfl⟩

end Outline

def World.ends (w : World) (id : String) (job : DaemonJob) : Bool :=
  (blownBudget w id job).isSome || (w.exitCode id).isSome

def World.leaves (w : World) (e : Engine) (id : String) (job : DaemonJob) : Bool :=
  !w.heartbeat id || (job.cancelRequested || e.store.killSwitch) ||
    (job.pauseRequested && job.state != .paused) || w.ends id job

def DaemonJob.resumes (job : DaemonJob) : Bool := !job.pauseRequested && job.state == .paused

namespace Outline

variable {w} {I : Engine → Prop} {id runId : String} (o : Outline I id runId)

include o

theorem superviseActive {job} (hRun : job.runId = some runId)
    (hRequeues : (w.exitCode id).isSome = true → o.requeues) :
    Triple (fun e => o.busy e ∧ (w.ends id job = true → o.leaving e))
      (superviseActive w id job runId) (fun _ => I) (Kept I) := by
  unfold Daemon.superviseActive
  cases hBudget : blownBudget w id job with
  | some reason =>
    have hEnds : w.ends id job = true := by simp [World.ends, hBudget]
    exact (o.cancelForBudget reason).pre (fun _ h => h.2 hEnds)
  | none =>
    cases hExit : w.exitCode id with
    | some exitCode =>
      have hEnds : w.ends id job = true := by simp [World.ends, hExit]
      exact (o.settleExit hRun (hRequeues (by simp [hExit])) exitCode).pre (fun _ h => h.2 hEnds)
    | none =>
      refine .bind (Q := fun _ => o.busy) (.read fun _ he => he.1) fun run => ?_
      split
      · exact transition_spec w (fun e he _ => o.of_busy e he) o.reborn fun e row he hRow =>
          o.approval e row _ _ he hRow
      · exact .pure o.of_busy

theorem tickActive {e₀ job} (hRow : e₀.store.jobs.lookup id = some job)
    (hRun : job.runId = some runId) (hRequeues : (w.exitCode id).isSome = true → o.requeues)
    (hI : I e₀) (hBusy : id ∈ e₀.active → o.busy e₀)
    (hLeaves : id ∈ e₀.active → w.leaves e₀ id job = true → o.leaving e₀)
    (hResumes : id ∈ e₀.active → job.resumes = true → o.freed e₀) :
    Triple (· = e₀) (tickActive w id) (fun _ => I) (Kept I) := by
  unfold Daemon.tickActive
  refine jobOf_bind hRow ?_
  rw [hRun]
  refine .read_bind (.read_bind ?_)
  split
  · exact .pure fun e he => he ▸ hI
  rename_i hSupervised
  have hActive : id ∈ e₀.active := by simpa using hSupervised
  have hLeaving : w.leaves e₀ id job = true → ∀ e, e = e₀ → o.leaving e :=
    fun h e he => he ▸ hLeaves hActive h
  split
  next hHeartbeat =>
    exact o.loseLease.pre (hLeaving (by simp [World.leaves, hHeartbeat]))
  split
  next hCancel =>
    exact o.cancelActive.pre (hLeaving (by simp [World.leaves, hCancel]))
  split
  next hPause =>
    exact (o.pauseActive job).pre (hLeaving (by simp [World.leaves, hPause]))
  split
  next hResume =>
    refine .bind (o.resumeActive job |>.pre (fun e he => he ▸ hResumes hActive hResume)) fun resumed => ?_
    cases resumed with
    | false => exact .pure fun e he => he.1
    | true =>
      exact (o.superviseActive hRun hRequeues).pre
        (fun e he => ⟨o.busy_of_leaving e (he.2 rfl), fun _ => he.2 rfl⟩)
  · refine (o.superviseActive hRun hRequeues).pre (fun e he => ⟨he ▸ hBusy hActive, fun hEnds => ?_⟩)
    exact hLeaving (by simp [World.leaves, hEnds]) e he

theorem recoverJob {job : DaemonJob} (hRun : ∀ r, job.runId = some r → r = runId)
    (hRequeues : (w.liveHandoff && w.adopts id) = false → job.runId.isSome = true → o.requeues) :
    Triple (fun e => o.busy e ∧ id ∉ e.active ∧ ((w.liveHandoff && w.adopts id) = false → o.leaving e))
      (recoverJob w id job) (fun _ => I) (Kept I) := by
  have hReconciled : (job.runId.isSome = true → o.requeues) → ∀ reason, Triple (fun e => o.leaving e ∧ id ∉ e.active)
      (Daemon.reconcileInterrupted w id job reason) (fun _ => I) (Kept I) := by
    rintro hQueue reason e ⟨he, hActive⟩
    refine (o.reconcileInterrupted e.active hRun hQueue reason).weaken (fun _ h => h) (fun _ e' he' => ?_)
      (fun _ _ h => h) e ⟨he, rfl⟩
    have hAway : id ∉ e'.active := he'.2 ▸ hActive
    exact Engine.drop_eq_self hAway ▸ he'.1
  unfold Daemon.recoverJob
  split
  · split
    · cases job.runId with
      | none => exact .fail fun e he => o.of_busy e he.1
      | some r => exact .write fun e he => o.enlist e he.1
    rename_i hAdopts
    split
    · exact .fail fun e he => o.of_busy e he.1
    · have hAway : (w.liveHandoff && w.adopts id) = false := by simp [hAdopts]
      exact (hReconciled (hRequeues hAway) _).pre (fun e he => ⟨he.2.2 hAway, he.2.1⟩)
  next hHandoff =>
    have hAway : (w.liveHandoff && w.adopts id) = false := by simp [hHandoff]
    exact (hReconciled (hRequeues hAway) _).pre (fun e he => ⟨he.2.2 hAway, he.2.1⟩)

end Outline

theorem tickActive_spec {w id} {P I : Engine → Prop} (hP : ∀ e, P e → I e)
    (h : ∀ e job runId, P e → e.store.jobs.lookup id = some job → job.runId = some runId →
      Triple (· = e) (tickActive w id) (fun _ => I) (Kept I)) :
    Triple P (tickActive w id) (fun _ => I) (Kept I) := by
  intro e he
  cases hRow : e.store.jobs.lookup id with
  | none =>
    suffices hIdle : Triple (· = e) (tickActive w id) (fun _ => I) (Kept I) from hIdle e rfl
    unfold tickActive
    refine .bind (jobOf_spec ?_) fun job => ?_
    · rintro e' message rfl -
      exact hP e' he
    · rintro e' ⟨rfl, hJob⟩
      cases hRow.symm.trans hJob
  | some job =>
    cases hRun : job.runId with
    | none =>
      suffices hIdle : Triple (· = e) (tickActive w id) (fun _ => I) (Kept I) from hIdle e rfl
      unfold tickActive
      refine jobOf_bind hRow ?_
      rw [hRun]
      exact .fail fun e' he' => he' ▸ hP e he
    | some runId => exact h e job runId he hRow hRun e rfl

/-! ## Jobs that wait -/

/-- What an invariant says about a job that waits: it may be given up. -/
structure QueueOutline (I : Engine → Prop) (id : String) where
  waits : Engine → Prop
  stable : Stable waits
  of_waits : ∀ e, waits e → I e
  reborn : ∀ e, I e → I e.reborn
  ended : ∀ e job state now error, waits e → e.store.jobs.lookup id = some job →
    state.isTerminal = true → I (e.setRow id (job.moved state now none error))

namespace QueueOutline

variable {w} {I : Engine → Prop} {id : String} (o : QueueOutline I id)

include o

theorem quiet {α : Type} {p : EngineM α} (hp : Quiet Quietly p) :
    Triple o.waits p (fun _ => o.waits) (Kept I) :=
  hp.spec o.stable o.of_waits o.reborn

theorem transition {state} (hState : state.isTerminal = true) (error : Option String) :
    Triple o.waits (transition w id state none error) (fun _ => I) (Kept I) :=
  transition_spec w (fun e he _ => o.of_waits e he) o.reborn fun e job he hJob =>
    o.ended e job state w.now error he hJob hState

theorem cancelQueuedJob (job : DaemonJob) (reason : String) :
    Triple o.waits (cancelQueuedJob w id job reason) (fun _ => I) (Kept I) := by
  unfold Daemon.cancelQueuedJob
  cases job.runId with
  | none => exact o.transition rfl (some reason)
  | some runId =>
    exact (o.quiet (quiet_ensureCancelling w runId)).bind fun _ =>
      (o.quiet (quiet_cancelRun w runId)).bind fun _ => o.transition rfl (some reason)

theorem rejectOversized (job : DaemonJob) (reason : String) :
    Triple o.waits (rejectOversized w id job reason) (fun _ => I) (Kept I) := by
  unfold Daemon.rejectOversized
  cases job.runId with
  | none => exact o.transition rfl (some reason)
  | some runId => exact (o.quiet (quiet_failRun w runId)).bind fun _ => o.transition rfl (some reason)

theorem admitCandidate {P : Engine → Prop} (hP : ∀ e, P e → o.waits e) {job}
    (hStart : ∀ claim, Triple P (startJob w id job claim) (fun _ => I) (Kept I)) (acc : Admissions) :
    Triple P (admitCandidate w acc id job) (fun _ => I) (Kept I) := by
  have hCandidate : ∀ claim, Triple P (startCandidate w acc id job claim) (fun _ => I) (Kept I) :=
    fun claim => (hStart claim).bind fun _ =>
      Triple.bind (Q := fun _ => I) (.read fun _ he => he) fun _ => .skip
  unfold Daemon.admitCandidate
  split
  · exact .pure fun e he => o.of_waits e (hP e he)
  split
  · cases fitAgainst w acc.resident acc.devices id with
    | fits memory devices => exact hCandidate _
    | unmeasured => exact hCandidate none
    | hold reason =>
      refine ((o.quiet (quiet_hold w id job reason)).pre hP).bind fun _ => ?_
      exact .pure o.of_waits
    | never reason =>
      refine ((o.rejectOversized job reason).pre hP).bind fun _ => ?_
      exact .skip
  · exact hCandidate none

theorem abandonPreparing (hWaits : ∀ e job, I e → e.store.jobs.lookup id = some job →
      job.state = .preparing → o.waits e) (error : String) :
    Triple I (abandonPreparing w id error) (fun _ => I) (Kept I) := by
  unfold Daemon.abandonPreparing
  refine .bind (jobOf_spec fun _ _ he _ => he) fun job => ?_
  split
  next hPreparing =>
    exact (o.transition rfl (some error)).pre fun e he => hWaits e job he.1 he.2 hPreparing
  · exact .fail fun e he => he.1

end QueueOutline

/-! ## Submissions -/

theorem insertPreparing_spec {id new maxQueue} {I : Engine → Prop}
    (h : ∀ e, I e → e.standing id = none → 0 < new.maxAttempts → I (e.setRow id new.row)) :
    Triple I (insertPreparing id new maxQueue) (fun _ => I) (Kept I) := by
  intro e he
  suffices hAt : Triple (· = e) (insertPreparing id new maxQueue) (fun _ => I) (Kept I) from
    hAt e rfl
  have hSame : ∀ e', e' = e → I e' := fun e' he' => he' ▸ he
  refine .read_bind ?_
  split
  · exact .fail hSame
  split
  · exact .fail hSame
  split
  · exact .fail hSame
  next hNew =>
    rintro e' rfl
    refine h e' he ?_ (by omega)
    rw [Engine.standing, not_isSome_iff_eq_none.mp hNew, map_none]

theorem markPrepared_spec {id mark} {I : Engine → Prop}
    (h : ∀ e job, I e → e.store.jobs.lookup id = some job → job.state = .preparing →
      I (e.setRow id (mark job))) :
    Triple I (markPrepared id mark) (fun _ => I) (Kept I) := by
  unfold markPrepared
  refine .bind (jobOf_spec fun _ _ he _ => he) fun job => ?_
  split
  next hPreparing =>
    exact .write fun e he => h e job he.1 he.2 hPreparing
  · exact .fail fun e he => he.1

/-! ## Events -/

/-- What an invariant says about the events that may change what it reads. -/
structure EventOutline (I : Engine → Prop) (C : Event → Engine → Prop) where
  queue (id : String) : QueueOutline I id
  stable : Stable I
  waits : ∀ {e id job}, I e → e.store.jobs.lookup id = some job → job.state.isWaiting = true →
    (queue id).waits e
  supervise : ∀ w id, Triple (fun e => I e ∧ C (.supervise w id) e) (tickActive w id) (fun _ => I) (Kept I)
  start : ∀ {w acc id job e}, (queue id).waits e → e.store.jobs.lookup id = some job →
    C (.start w acc id job) e → ∀ claim, Triple (· = e) (startJob w id job claim) (fun _ => I) (Kept I)
  recover : ∀ w id job,
    Triple (fun e => I e ∧ Event.enabled (.recover w id job) e ∧ C (.recover w id job) e) (recoverJob w id job)
      (fun _ => I) (Kept I)
  sweep : ∀ {e}, I e → I { e with store := e.store.sweepStaleReservations }
  runs : ∀ {e} runs, I e → I { e with runs := runs }
  submit : ∀ {e id} {new : NewJob}, I e → e.standing id = none → 0 < new.maxAttempts → I (e.setRow id new.row)
  prepared : ∀ {e id job} {job' : DaemonJob}, I e → e.store.jobs.lookup id = some job → job.state = .preparing →
    job'.attempt = job.attempt → job'.maxAttempts = job.maxAttempts → job'.reservation = job.reservation →
    I (e.setRow id job')

theorem EventOutline.step {I} {C : Event → Engine → Prop} (o : EventOutline I C) (event : Event) :
    Triple (fun e => I e ∧ event.enabled e ∧ C event e) event.program (fun _ => I) (Kept I) := by
  have hQuiet : ∀ {p : EngineM Unit}, Quiet Quietly p →
      Triple (fun e => I e ∧ event.enabled e ∧ C event e) p (fun _ => I) (Kept I) := fun hp =>
    (hp.spec o.stable (fun _ h => h) (o.queue "").reborn).pre fun _ h => h.1
  have hMark : ∀ id mark, (∀ job : DaemonJob, (mark job).attempt = job.attempt ∧
      (mark job).maxAttempts = job.maxAttempts ∧ (mark job).reservation = job.reservation) →
      Triple (fun e => I e ∧ event.enabled e ∧ C event e) (markPrepared id mark) (fun _ => I) (Kept I) := by
    intro id mark hSame
    refine (markPrepared_spec fun e job he hJob hPreparing => ?_).pre fun _ h => h.1
    obtain ⟨hAttempt, hMax, hReservation⟩ := hSame job
    exact o.prepared he hJob hPreparing hAttempt hMax hReservation
  cases event with
  | supervise w id => exact (o.supervise w id).pre fun _ h => ⟨h.1, h.2.2⟩
  | start w acc id job =>
    rintro e ⟨hI, ⟨hJob, hQueued⟩, hC⟩
    have hWaits := o.waits hI hJob (by rw [hQueued]; rfl)
    have hSame : ∀ e', e' = e → (o.queue id).waits e' := fun e' he => he ▸ hWaits
    have hStart := (o.queue id).admitCandidate hSame (o.start hWaits hJob hC) acc
    exact (hStart.bind fun _ => .skip) e rfl
  | cancelQueued w id job reason =>
    exact ((o.queue id).cancelQueuedJob job reason).pre fun _ h => o.waits h.1 h.2.1.1 h.2.1.2
  | recover w id job => exact o.recover w id job
  | sweep w => exact .durable (fun _ h => o.sweep h.1) fun _ _ h => (o.queue "").reborn _ (o.sweep h.1)
  | cancel w id => exact hQuiet (quiet_requestCancel w id)
  | pause w id value => exact hQuiet (quiet_requestPause w id value)
  | cancelAll w => exact hQuiet (quiet_requestCancelAll w)
  | escalate jobIds => exact hQuiet fun _ => .write fun _ h => { h with }
  | submit id new maxQueue => exact (insertPreparing_spec fun _ he => o.submit he).pre fun _ h => h.1
  | queue id runId now => exact hMark id (·.queuedWith runId now) fun _ => ⟨rfl, rfl, rfl⟩
  | queuePaused id runId now => exact hMark id (·.pausedWith runId now) fun _ => ⟨rfl, rfl, rfl⟩
  | abandon w id error =>
    refine ((o.queue id).abandonPreparing (fun e job hI hJob hPreparing => ?_) error).pre fun _ h => h.1
    exact o.waits hI hJob (by rw [hPreparing]; rfl)
  | child runId run => exact .write fun _ h => o.runs _ h.1
  | switches killSwitch maintenanceDrain => exact hQuiet fun _ => .write fun _ h => { h with }
  | die => exact fun e h => (o.queue "").reborn e h.1

end LittleMonkey.Daemon
