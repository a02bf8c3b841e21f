import Mathlib.Data.List.Perm.Basic
import LittleMonkey.Daemon.Supervision

/-! # Ticks and restarts are runs of events

A tick reads rows before it handles them.  Each call touches the row of its own
job only, so the rows read before are still the rows of the table when their
turn comes, and a tick is a sequence of events.
-/

namespace LittleMonkey.Daemon

open Durable Transaction List

/-! ## Other jobs -/

/-- The row of a job, and whether the daemon supervises it. -/
abbrev View := Option DaemonJob × Bool

def Engine.view (e : Engine) (jobId : String) : View := (e.store.jobs.lookup jobId, e.active.contains jobId)

def Beside (jobId : String) (e₀ e : Engine) : Prop := ∀ other, other ≠ jobId → e.view other = e₀.view other

instance (jobId : String) : IgnoresRuns (Beside jobId) := ⟨fun h _ => h⟩

theorem Beside.trans {jobId e e' e''} (h : Beside jobId e e') (h' : Beside jobId e' e'') : Beside jobId e e'' :=
  fun other hOther => (h' other hOther).trans (h other hOther)

abbrev Apart {α : Type} (jobId : String) (p : EngineM α) : Prop := Quiet (Beside jobId) p

theorem Apart.write {jobId f} (h : ∀ e, Beside jobId e (f e)) :
    Apart jobId (Transaction.write f : EngineM Unit) := fun _ => .write fun e he => he.trans (h e)

theorem Apart.durable {jobId dies f} (h : ∀ e, Beside jobId e (f e)) :
    Apart jobId (Durable.durable dies f : EngineM Unit) := Quiet.durable fun _ e he => he.trans (h e)

section

variable {w : World} {jobId : String} {e : Engine}

theorem beside_setRow {job} : Beside jobId e (e.setRow jobId job) := by
  intro other h
  simp [Engine.view, Engine.setRow, JobStore.setJob, AList.lookup_insert_ne h]

theorem beside_release : Beside jobId e (e.release jobId) := by
  intro other h
  unfold Engine.view Engine.release JobStore.releaseReservation
  cases e.store.jobs.lookup jobId with
  | none => rfl
  | some job => simp [AList.lookup_insert_ne h]

theorem beside_record {job claim} : Beside jobId e (e.record jobId job claim) := by
  intro other h
  have hActive : (e.record jobId job claim).active = e.active := (e.noteAdmission_fields claim).1
  simp only [Engine.view, hActive]
  simp [Engine.record, JobStore.recordReservation, AList.lookup_insert_ne h]

theorem beside_enlist : Beside jobId e (e.enlist jobId) := by
  intro other h
  simp [Engine.view, Engine.enlist, h]

theorem apart_transition {state processId error} : Apart jobId (transition w jobId state processId error) :=
  (Quiet.jobOf jobId).bind fun _ => Apart.durable fun _ => beside_setRow

theorem apart_release : Apart jobId (releaseReservation w jobId) :=
  Apart.durable fun _ => beside_release

theorem apart_recordReservation (claim : AdmittedClaim) : Apart jobId (recordReservation w jobId claim) := by
  refine (Quiet.jobOf jobId).bind fun job => ?_
  split
  · exact Apart.durable fun _ => beside_record
  · exact .fail _

theorem apart_hold (job : DaemonJob) (reason : String) : Apart jobId (hold w jobId job reason) := by
  unfold hold
  split
  · exact .pure ()
  · exact (Quiet.jobOf jobId).bind fun _ => Apart.durable fun _ => beside_setRow

theorem apart_reconcileInterrupted (job : DaemonJob) (reason : String) :
    Apart jobId (reconcileInterrupted w jobId job reason) := by
  refine apart_release.bind fun _ => ?_
  split
  · exact apart_transition
  next runId _ =>
    refine (Quiet.loadRun runId _).bind fun run => ?_
    split
    · exact apart_transition
    split
    · exact apart_transition
    split
    · exact (quiet_emit w runId (by decide)).bind fun _ => apart_transition
    split
    · exact (quiet_cancelRun w runId).bind fun _ => apart_transition
    · exact (quiet_failRun w runId).bind fun _ => apart_transition

theorem apart_recoverJob (job : DaemonJob) : Apart jobId (recoverJob w jobId job) := by
  unfold recoverJob
  split
  · split
    · split
      · exact .write fun _ => beside_enlist
      · exact .fail _
    split
    · exact .fail _
    · exact apart_reconcileInterrupted job _
  · exact apart_reconcileInterrupted job _

theorem apart_cancelQueuedJob (job : DaemonJob) (reason : String) :
    Apart jobId (cancelQueuedJob w jobId job reason) := by
  unfold cancelQueuedJob
  cases job.runId with
  | none => exact apart_transition
  | some runId =>
    exact (quiet_ensureCancelling w runId).bind fun _ =>
      (quiet_cancelRun w runId).bind fun _ => apart_transition

theorem apart_rejectOversized (job : DaemonJob) (reason : String) :
    Apart jobId (rejectOversized w jobId job reason) := by
  unfold rejectOversized
  cases job.runId with
  | none => exact apart_transition
  | some runId => exact (quiet_failRun w runId).bind fun _ => apart_transition

theorem apart_startJob (job : DaemonJob) (claim : Option AdmittedClaim) :
    Apart jobId (startJob w jobId job claim) := by
  unfold startJob
  split
  · exact .fail _
  split
  · exact .fail _
  split
  swap
  · exact .pure ()
  refine .bind ?_ fun _ => ?_
  · exact Apart.durable fun _ _ _ => rfl
  split
  · refine (apart_transition).bind fun _ => ?_
    have hEnlist : Apart jobId (write fun e => { e with active := jobId :: e.active }) :=
      Apart.write fun _ => beside_enlist
    cases claim with
    | none => exact hEnlist
    | some claim => exact (apart_recordReservation claim).bind fun _ => hEnlist
  · split
    · exact apart_transition
    · exact (quiet_failRun w _).bind fun _ => apart_transition

theorem apart_admitCandidate (acc : Admissions) (job : DaemonJob) :
    Apart jobId (admitCandidate w acc jobId job) := by
  have hStart : ∀ claim, Apart jobId (startCandidate w acc jobId job claim) := fun claim =>
    (apart_startJob job claim).bind fun _ => (Quiet.read _).bind fun _ => Quiet.pure _
  unfold admitCandidate
  split
  · exact .pure acc
  split
  · split
    · exact hStart _
    · exact hStart none
    · exact (apart_hold job _).bind fun _ => .pure acc
    · exact (apart_rejectOversized job _).bind fun _ => .pure acc
  · exact hStart none

end

/-! ## Loops -/

abbrev Reached : Engine → Prop := Reachable fun _ _ => True

abbrev Reaches {α : Type} (P : Engine → Prop) (p : EngineM α) : Prop := Triple P p (fun _ => Reached) (Kept Reached)

theorem reached_outcome {α : Type} {p : EngineM α} {P : Engine → Prop}
    (h : ∀ e, P e → Reached (outcome p e)) : Reaches P p := by
  intro e he
  have hOutcome := h e he
  unfold outcome at hOutcome
  revert hOutcome
  cases p e with
  | ok a e' => exact id
  | error stop e' => cases stop <;> exact id

theorem reached_event (event : Event) : Reaches (fun e => Reached e ∧ event.enabled e) event.program :=
  reached_outcome fun _ he => .step event he.1 he.2 trivial

theorem reached_free (event : Event) (h : ∀ e, event.enabled e := by intro _; trivial) :
    Reaches Reached event.program :=
  (reached_event event).pre fun e he => ⟨he, h e⟩

section

variable {ι : Type} (key : ι → String) (ready : View → ι → Prop)
variable {items : List ι}

def Ahead (items : List ι) (e : Engine) : Prop :=
  Reached e ∧ (items.map key).Nodup ∧ ∀ item ∈ items, ready (e.view (key item)) item

variable {key ready}

theorem ahead_turn {α : Type} {p : EngineM α} {item}
    (hp : Reaches (fun e => Reached e ∧ ready (e.view (key item)) item) p)
    (hApart : Apart (key item) p) : Triple (Ahead key ready (item :: items)) p (fun _ => Ahead key ready items) (Kept Reached) := by
  rintro e ⟨hReached, hNodup, hReady⟩
  rw [map_cons, nodup_cons] at hNodup
  have hOther : ∀ other ∈ items, key other ≠ key item := by
    intro other hMem hEq
    exact hNodup.1 (mem_map.mpr ⟨other, hMem, hEq⟩)
  have hRun := hp e ⟨hReached, hReady item mem_cons_self⟩
  have hRest := hApart e e fun _ _ => rfl
  cases hEnd : p e with
  | ok a e' =>
    rw [hEnd] at hRun hRest
    refine ⟨hRun, hNodup.2, fun other hMem => ?_⟩
    rw [hRest (key other) (hOther other hMem)]
    exact hReady other (mem_cons_of_mem item hMem)
  | error stop e' =>
    rw [hEnd] at hRun
    exact hRun

theorem ahead_forM {body : ι → EngineM PUnit}
    (hBody : ∀ item, Reaches (fun e => Reached e ∧ ready (e.view (key item)) item) (body item))
    (hApart : ∀ item, Apart (key item) (body item)) : Reaches (Ahead key ready items) (items.forM body) := by
  induction items with
  | nil => exact .pure fun _ he => he.1
  | cons item items ih =>
    exact (ahead_turn (hBody item) (hApart item)).bind fun _ => ih

theorem ahead_foldlM {α : Type} {body : α → ι → EngineM α}
    (hBody : ∀ acc item, Reaches (fun e => Reached e ∧ ready (e.view (key item)) item) (body acc item))
    (hApart : ∀ acc item, Apart (key item) (body acc item)) (acc : α) :
    Reaches (Ahead key ready items) (items.foldlM body acc) := by
  induction items generalizing acc with
  | nil => exact .pure fun _ he => he.1
  | cons item items ih =>
    exact (ahead_turn (hBody acc item) (hApart acc item)).bind fun acc' => ih acc'

end

/-! ## The calls of a tick -/

variable (w : World)

theorem JobStore.all_keys_nodup (store : JobStore) : (store.all.map (·.1)).Nodup := by
  unfold JobStore.all
  rw [map_map]
  exact store.jobs.nodupKeys

theorem reached_applySignalIntent : Reaches Reached (applySignalIntent w) := by
  unfold applySignalIntent
  refine .look fun jobs => ?_
  refine .bind (reached_free (.escalate _)) fun _ => ?_
  refine .forM fun decision _ => ?_
  obtain ⟨jobId, intent⟩ := decision
  cases intent with
  | cancel => exact reached_free (.cancel w jobId)
  | pause value => exact reached_free (.pause w jobId value)

theorem ahead_filter {e} (he : Reached e) (keep : String × DaemonJob → Bool)
    {ready : View → String × DaemonJob → Prop}
    (hReady : ∀ row, e.store.jobs.lookup row.1 = some row.2 → keep row = true → ready (e.view row.1) row) :
    Ahead (·.1) ready (e.store.all.filter keep) e := by
  refine ⟨he, (filter_sublist.map _).nodup e.store.all_keys_nodup, fun row hRow => ?_⟩
  obtain ⟨hMem, hKeep⟩ := mem_filter.mp hRow
  exact hReady row (JobStore.mem_all.mp hMem) hKeep

theorem reached_cancelQueued (reason : String) : Reaches Reached (cancelQueued w reason) := by
  unfold cancelQueued nonterminalJobs
  simp only [filter_filter]
  let ready : View → String × DaemonJob → Prop := fun view row =>
    view.1 = some row.2 ∧ row.2.state.isWaiting = true
  refine .bind (Q := Ahead (·.1) ready) (.read fun e he => ?_) fun rows => ?_
  · refine ahead_filter he _ fun row hRow hKeep => ⟨hRow, ?_⟩
    simp only [Bool.and_eq_true] at hKeep
    exact hKeep.1.1
  · refine ahead_forM (fun row => ?_) fun row => apart_cancelQueuedJob row.2 reason
    exact reached_event (.cancelQueued w row.1 row.2 reason)

theorem reached_recover : Reaches (fun e => Reached e ∧ e.active = []) (recover w) := by
  unfold recover
  let ready : View → String × DaemonJob → Prop := fun view row =>
    view.1 = some row.2 ∧ row.2.state.isActive = true ∧ view.2 = false
  refine .bind (Q := Ahead (·.1) ready) (.read fun e he => ?_) fun rows => ?_
  · refine ahead_filter he.1 _ fun row hRow hKeep => ⟨hRow, hKeep, ?_⟩
    simp [Engine.view, he.2]
  refine .bind (Q := fun _ => Reached) ?_ fun _ => ?_
  · refine ahead_forM (fun row => ?_) fun row => apart_recoverJob row.2
    refine (reached_event (.recover w row.1 row.2)).pre fun e he => ⟨he.1, he.2.1, he.2.2.1, ?_⟩
    simpa [Engine.view] using he.2.2.2
  · refine .look fun adopted => ?_
    split
    · exact reached_free (.sweep w)
    · exact .skip

theorem candidates_sublist (store : JobStore) : ∃ rows, rows.Perm (store.all.filter fun row =>
      row.2.state == .queued && !row.2.pauseRequested && !row.2.cancelRequested) ∧
      (candidates w store).Sublist rows :=
  ⟨_, perm_insertionSort _ _, filter_sublist.trans (take_sublist _ _)⟩

theorem reached_schedule : Reaches Reached (schedule w) := by
  unfold schedule
  refine .look fun drained => ?_
  split
  · exact .skip
  intro e he
  suffices h : Reaches (· = e) _ from h e rfl
  refine .read_bind (.read_bind ?_)
  obtain ⟨rows, hPerm, hSub⟩ := candidates_sublist w e.store
  let ready : View → String → Prop := fun view jobId => ∀ job,
    (candidates w e.store).lookup jobId = some job → view.1 = some job ∧ job.state = .queued
  have hAhead : Ahead id ready (w.rank ((candidates w e.store).map (·.1))) e := by
    refine ⟨he, ?_, fun jobId _ job hLookup => ?_⟩
    · rw [map_id, (w.rank_perm _).nodup_iff]
      refine (hSub.map _).nodup ((hPerm.map _).nodup_iff.mpr ?_)
      exact (filter_sublist.map _).nodup e.store.all_keys_nodup
    obtain ⟨l₁, l₂, hSplit, -⟩ := lookup_eq_some_iff.mp hLookup
    have hMem : (jobId, job) ∈ candidates w e.store := by
      rw [hSplit]
      exact mem_append_right _ mem_cons_self
    obtain ⟨hAll, hQueued⟩ := mem_filter.mp (hPerm.subset (hSub.subset hMem))
    simp only [Bool.and_eq_true, beq_iff_eq] at hQueued
    exact ⟨JobStore.mem_all.mp hAll, hQueued.1.1⟩
  refine .bind (Q := fun _ => Reached) ?_ fun _ => .skip
  refine .pre (P := Ahead id ready _) (ahead_foldlM (fun acc jobId => ?_) (fun acc jobId => ?_) _)
    fun e' he' => he' ▸ hAhead
  · cases hLookup : (candidates w e.store).lookup jobId with
    | none => exact .pure fun _ he' => he'.1
    | some job => exact (reached_event (.start w acc jobId job)).of_discard.pre fun e' he' =>
        ⟨he'.1, he'.2 job hLookup⟩
  · cases (candidates w e.store).lookup jobId with
    | none => exact .pure acc
    | some job => exact apart_admitCandidate acc job

theorem reached_tick : Reaches Reached (tick w) := by
  unfold tick
  refine .look fun killSwitch => ?_
  cases killSwitch
  on_goal 2 => refine (reached_free (.cancelAll w)).bind fun _ => ?_
  all_goals
    refine .bind (Q := fun _ => Reached) ((reached_applySignalIntent w).swallow fun _ _ h => h) fun _ => ?_
    refine .look fun active => .bind (Q := fun _ => Reached) (.forM fun jobId _ => ?_) fun _ => ?_
    · exact reached_free (.supervise w jobId)
  · exact (reached_cancelQueued w _).bind fun _ => reached_schedule w
  · exact reached_cancelQueued w _

/-! ## Runs of the daemon -/

def Event.isOutside : Event → Bool
  | cancel _ _ | pause _ _ _ | cancelAll _ | submit _ _ _ | queue _ _ _ | queuePaused _ _ _
  | abandon _ _ _ | child _ _ | switches _ _ | die => true
  | _ => false

inductive DaemonRun : Engine → Prop
  | empty : DaemonRun Engine.empty
  | tick {e} (w : World) (h : DaemonRun e) : DaemonRun (outcome (tick w) e)
  | restart {e} (w : World) (h : DaemonRun e) : DaemonRun (outcome (recover w) e.reborn)
  | event {e} (event : Event) (hOutside : event.isOutside = true) (h : DaemonRun e) :
      DaemonRun (outcome event.program e)

/-- Where ticks, restarts and the outside lead, the events of single jobs lead. -/
theorem DaemonRun.ticks_are_events {e} (h : DaemonRun e) : Reached e := by
  induction h with
  | empty => exact .empty
  | tick w _ ih => exact outcome_of_triple (reached_tick w) ih
  | restart w _ ih =>
    have hDied : Reached (outcome Event.die.program _) := .step .die ih trivial trivial
    exact outcome_of_triple (reached_recover w) ⟨hDied, rfl⟩
  | event event hOutside _ ih =>
    refine .step event ih ?_ trivial
    cases event <;> trivial

/-- A machine on which every call succeeds and nothing happens by itself. -/
def calm (now : Nat) : World where
  now := now
  signals _ := none
  heartbeat _ := true
  acquireLease _ := true
  validateWorktree _ := .ok ()
  spawn _ := .ok 7
  signal _ := .ok ()
  exitCode _ := none
  memoryBytes _ := none
  logBytes _ := none
  quotaRuntimeMs := none
  concurrency := 4
  maxQueue := 64
  measured := false
  reservation _ := .remote
  fit _ _ _ := .unmeasured
  rank := id
  rank_perm _ := .refl _
  ledgerTakes _ := true
  liveHandoff := false
  adopts _ := false
  pidOccupied _ := false
  diesAfter _ := false

def Engine.submitted (e : Engine) (jobId runId : String) (new : NewJob) : Engine :=
  outcome (Event.child runId ⟨.queued, []⟩).program
    (outcome (Event.queue jobId runId new.createdAtMs).program
      (outcome (Event.submit jobId new 64).program e))

theorem Reachable.submitted {C : Event → Engine → Prop} {e} (h : Reachable C e)
    (hC : ∀ event e, event.isOutside = true → C event e) (jobId runId : String) (new : NewJob) :
    Reachable C (e.submitted jobId runId new) :=
  have hSubmitted := h.step (.submit jobId new 64) trivial (hC _ _ rfl)
  have hQueued := hSubmitted.step (.queue jobId runId new.createdAtMs) trivial (hC _ _ rfl)
  hQueued.step (.child runId ⟨.queued, []⟩) trivial (hC _ _ rfl)

theorem DaemonRun.submitted {e} (h : DaemonRun e) (jobId runId : String) (new : NewJob) :
    DaemonRun (e.submitted jobId runId new) :=
  .event _ rfl (.event _ rfl (.event _ rfl h))

theorem first_tick_is_events :
    Reached (outcome (tick (calm 1)) (Engine.empty.submitted "job" "run" ⟨0, 1, 0, 100000, none, 100000⟩)) :=
  (DaemonRun.empty.submitted "job" "run" _ |>.tick (calm 1)).ticks_are_events

end LittleMonkey.Daemon
