import LittleMonkey.Process.Verdicts

/-! # Budget stops

A stop for the wall budget is told from another one by the reason latched with it, which every
later signal replaces.  When the process exits as cancelled, the record names the budget exactly
if the last signal it took carried that reason.
-/

namespace LittleMonkey.Process

open Durable Primitives

/-! ## The latched reason along a history -/

def KeepsReason (signals : Prop) (row row' : ProcessRow) : Prop :=
  row'.kind = row.kind ∧ (row.state = .exited → row'.state = .exited) ∧
    (row.signalIntent.stopRequested = true → row'.signalIntent.stopRequested = true) ∧
    (¬ signals → row'.signalReason = row.signalReason)

theorem KeepsReason.trans {signals : Prop} {a b c} (h : KeepsReason signals a b)
    (h' : KeepsReason signals b c) : KeepsReason signals a c :=
  ⟨h'.1.trans h.1, h'.2.1 ∘ h.2.1, h'.2.2.1 ∘ h.2.2.1, fun hNone => (h'.2.2.2 hNone).trans (h.2.2.2 hNone)⟩

theorem change_keepsReason {again signals : Prop} {s s'} (h : Change again signals s s') :
    Extends (KeepsReason signals) s.rows s'.rows := by
  refine h.extends (fun _ => ⟨rfl, id, id, fun _ => rfl⟩) ?_ ?_ ?_
  · intro fill now row
    obtain ⟨hState, -, -, hKind, hIntent, hReason⟩ := fill.applied_keeps now row
    exact ⟨hKind, fun hExited => hState.trans hExited, fun hStop => hIntent ▸ hStop, fun _ => hReason⟩
  · intro id signal reason now runs row row' hSignals hOk
    obtain ⟨hLive, -, -, -, rfl⟩ := signalRow_eq_ok.mp hOk
    exact ⟨rfl, fun hExited => absurd hExited hLive, (keepsLatches_after row.signalIntent signal).1,
      absurd hSignals⟩
  · intro id next exit now runs row row' _ hOk
    obtain ⟨hIntent, hReason, hKind⟩ := moved_signalIntent hOk
    obtain ⟨hMove, usage, rfl⟩ := transitionRow_ok hOk
    refine ⟨hKind, fun hExited => ?_, fun hStop => hIntent ▸ hStop, fun _ => hReason⟩
    rw [hExited] at hMove
    exact ProcessState.eq_exited_of_canTransitionTo hMove

theorem apply_keepsReason (s : Ledger) (call : TableCall) :
    Extends (KeepsReason (call.isSignal = true)) s.rows (call.apply s).rows := by
  have hReached : Reached True (call.isSignal = true) s (call.apply s) :=
    TableCall.reached (properRun_true s [call]).1 id
  exact extends_of_reached (R := KeepsReason (call.isSignal = true)) (fun _ => ⟨rfl, id, id, fun _ => rfl⟩)
    (fun _ _ _ => .trans) (fun _ _ => change_keepsReason) hReached

def TableCall.reasonFor (id : String) (kind : ProcessKind) : TableCall → Option (Option String)
  | .signal target sent reason now =>
    if target = id ∧ kind.signalSupport sent = .honoured ∧ 0 < now then some reason else none
  | _ => none

def reasonsFor (id : String) (kind : ProcessKind) (calls : List TableCall) : List (Option String) :=
  calls.filterMap (TableCall.reasonFor id kind)

theorem apply_reason {s} {call : TableCall} {id row row'}
    (hRow : s.rows.lookup id = some row) (hStop : row.signalIntent.stopRequested = true)
    (hRow' : (call.apply s).rows.lookup id = some row') (hLive : row'.state ≠ .exited) :
    row'.signalReason = (call.reasonFor id row.kind).getD row.signalReason := by
  obtain ⟨kept, hKept, -, hExited, -, hReason⟩ := apply_keepsReason s call id row hRow
  cases hKept.symm.trans hRow'
  cases call with
  | signal target signal reason now =>
    by_cases hTarget : target = id
    · subst hTarget
      have hAfter := (keepsLatches_after row.signalIntent signal).1 hStop
      have hTaken : (∃ taken, signalRow target signal reason now s.runs row = .ok taken) ↔
          row.kind.signalSupport signal = .honoured ∧ 0 < now := by
        simp only [signalRow_eq_ok]
        constructor
        · rintro ⟨_, -, hSupport, -, hNow, -⟩
          exact ⟨hSupport, hNow⟩
        · rintro ⟨hSupport, hNow⟩
          exact ⟨_, fun h => hLive (hExited h), hSupport, fun _ => hAfter, hNow, rfl⟩
      simp only [TableCall.reasonFor, true_and]
      rcases apply_signal s target signal reason now hRow with ⟨taken, hOk, hApply⟩ | ⟨e, hFail, hApply⟩
      · rw [hApply, lookup_setRow] at hRow'
        obtain rfl := Option.some.inj hRow'
        rw [if_pos (hTaken.mp ⟨_, hOk⟩)]
        obtain ⟨-, -, -, -, rfl⟩ := signalRow_eq_ok.mp hOk
        rfl
      · rw [hApply, hRow] at hRow'
        obtain rfl := Option.some.inj hRow'
        rw [if_neg, Option.getD_none]
        intro hHonoured
        obtain ⟨taken, hOk⟩ := hTaken.mpr hHonoured
        rw [hFail] at hOk
        cases hOk
    · have hSame : (TableCall.signal target signal reason now).apply s = s ∨
          ∃ other, (TableCall.signal target signal reason now).apply s = s.setRow target other := by
        cases hOther : s.rows.lookup target with
        | none => exact .inl (by simp [TableCall.apply, Durable.final, Process.signal, updateRow, hOther])
        | some other =>
          rcases apply_signal s target signal reason now hOther with ⟨taken, -, hApply⟩ | ⟨e, -, hApply⟩
          · exact .inr ⟨taken, hApply⟩
          · exact .inl hApply
      simp only [TableCall.reasonFor, hTarget, false_and, if_false, Option.getD_none]
      rcases hSame with hApply | ⟨other, hApply⟩
      · rw [hApply, hRow] at hRow'
        rw [Option.some.inj hRow']
      · rw [hApply, lookup_setRow_ne (Ne.symm hTarget), hRow] at hRow'
        rw [Option.some.inj hRow']
  | runs known => exact hReason (by simp [TableCall.isSignal])
  | admission uuid request now => exact hReason (by simp [TableCall.isSignal])
  | transition target next exit now => exact hReason (by simp [TableCall.isSignal])
  | reconcile uuid proj now => exact hReason (by simp [TableCall.isSignal])
  | reapMissing scope live reason now => exact hReason (by simp [TableCall.isSignal])
  | reapDeadHosts scope alive reason now => exact hReason (by simp [TableCall.isSignal])

theorem runCalls_reason {s calls id row row'}
    (hRow : s.rows.lookup id = some row) (hStop : row.signalIntent.stopRequested = true)
    (hRow' : (runCalls s calls).rows.lookup id = some row') (hLive : row'.state ≠ .exited) :
    row'.signalReason = (reasonsFor id row.kind calls).getLast?.getD row.signalReason := by
  induction calls generalizing s row with
  | nil =>
    cases hRow'.symm.trans hRow
    rfl
  | cons call calls ih =>
    obtain ⟨next, hNext, hKind, -, hStop', -⟩ := apply_keepsReason s call id row hRow
    -- The process was live before the rest of the history, since it is so after it.
    have hNextLive : next.state ≠ .exited := by
      intro hExited
      have hRest := extends_of_reached (R := KeepsReason True) (fun _ => ⟨rfl, (fun h => h), (fun h => h), fun _ => rfl⟩)
        (fun _ _ _ => .trans) (fun _ _ => change_keepsReason)
        (reached_runCalls (properRun_true (call.apply s) calls))
      obtain ⟨last, hLast, -, hStays, -⟩ := hRest id next hNext
      cases hRow'.symm.trans hLast
      exact hLive (hStays hExited)
    have hFirst := apply_reason hRow hStop hNext hNextLive
    have hRest := ih hNext (hStop' hStop) hRow'
    rw [hRest, hKind, reasonsFor, reasonsFor, List.filterMap_cons, hFirst]
    cases call.reasonFor id row.kind with
    | none => rfl
    | some reason =>
      rw [List.getLast?_cons]
      cases (List.filterMap (TableCall.reasonFor id row.kind) calls).getLast? <;> rfl

/-! ## The exit -/

def TableCall.Exits (s : Ledger) (id : String) (exit : ProcessExit) : TableCall → Prop
  | .transition target next told _ => target = id ∧ next = .exited ∧ told = some exit
  | .reconcile _ proj _ =>
    proj.state = .exited ∧ proj.exit = some exit ∧
      (s.findByExternalId proj.kind proj.externalId).map (·.processId) = some id
  | _ => False

section

variable {s : Ledger} {id : String} {row : ProcessRow} {exit : ProcessExit} {now : Int}
variable {reason : Option String}

def ExitedWith (id : String) (exit : ProcessExit) (reason : Option String) (s : Ledger) : Prop :=
  ∀ ended, s.rows.lookup id = some ended → ended.state = .exited →
    ended.exit = (upgradeABudgetKill (some exit) reason).map ProcessExit.stored

def Waiting (id : String) (reason : Option String) (s : Ledger) : Prop :=
  ∃ row, s.rows.lookup id = some row ∧ row.state ≠ .exited ∧ row.signalReason = reason

theorem Waiting.exitedWith (h : Waiting id reason s) : ExitedWith id exit reason s := by
  obtain ⟨row, hRow, hLive, -⟩ := h
  intro ended hEnded hExited
  cases hEnded.symm.trans hRow
  exact absurd hExited hLive

theorem transition_exitedWith :
    Triple (Waiting id reason) (transition id .exited (some exit) now) (fun _ => ExitedWith id exit reason)
      (fun _ => ExitedWith id exit reason) := by
  apply triple_updateRow
  · rintro s found moved ⟨row, hRow, -, hReason⟩ hFound hOk
    cases hFound.symm.trans hRow
    obtain ⟨-, usage, rfl⟩ := transitionRow_ok hOk
    intro ended hEnded _
    rw [lookup_setRow] at hEnded
    obtain rfl := Option.some.inj hEnded
    rw [← hReason]
    rfl
  · exact fun _ _ hs => hs.exitedWith

theorem fill_waiting {fill : Fill} :
    Triple (Waiting id reason) (updateRow id (fill.statement now)) (fun _ => Waiting id reason)
      (fun _ => ExitedWith id exit reason) := by
  apply triple_updateRow
  · rintro s found filled ⟨row, hRow, hLive, hReason⟩ hFound hOk
    obtain rfl := Option.some.inj (hRow.symm.trans hFound)
    obtain ⟨-, rfl⟩ := Fill.statement_eq_ok.mp hOk
    obtain ⟨hState, -, -, -, -, hKept⟩ := fill.applied_keeps now row
    exact ⟨_, lookup_setRow _ _ _, hState ▸ hLive, hKept.trans hReason⟩
  · exact fun _ _ hs => hs.exitedWith

theorem findOrAdmit_found {uuid proj record} {E : Stop ProcessTableError → Ledger → Prop}
    (hFound : s.findByExternalId proj.kind proj.externalId = some record) :
    Triple (· = s) (findOrAdmit uuid proj now) (fun found t => found = (record, false) ∧ t = s) E := by
  unfold findOrAdmit
  apply Triple.read_bind
  rw [hFound]
  exact .pure fun _ hs => ⟨rfl, hs⟩

theorem reconcile_exitedWith {uuid : String} {proj record}
    (hFound : s.findByExternalId proj.kind proj.externalId = some record)
    (hLive : record.row.state ≠ .exited) (hState : proj.state = .exited) (hExit : proj.exit = some exit) :
    Triple (· = s) (reconcile uuid proj now)
      (fun _ => ExitedWith record.processId exit record.row.signalReason)
      (fun _ => ExitedWith record.processId exit record.row.signalReason) := by
  unfold reconcile
  rw [if_neg (by simp [hState, hExit])]
  refine (findOrAdmit_found hFound).bind ?_
  rintro ⟨found, isNew⟩
  apply Triple.of_forall
  rintro _ ⟨hPair, rfl⟩
  obtain ⟨rfl, rfl⟩ := Prod.mk.inj hPair
  refine .bind (Q := fun _ => Waiting found.processId found.row.signalReason) ?_ (fun _ => ?_)
  · refine (Triple.forM fun fill _ => ?_).pre ?_
    · exact fill_waiting.bind fun _ => Triple.skip
    · rintro _ rfl
      exact ⟨found.row, lookup_of_findByExternalId hFound, hLive, rfl⟩
  · unfold settle
    rw [if_neg (by rw [hState]; exact hLive), if_neg (by cases h : found.row.state <;> simp_all [ProcessState.isTerminal]),
      hState, hExit]
    exact transition_exitedWith.bind fun _ => .skip

theorem exitedWith_of_exits {call : TableCall} (hRow : s.rows.lookup id = some row) (hLive : row.state ≠ .exited)
    (hCall : call.Exits s id exit) : ExitedWith id exit row.signalReason (call.apply s) := by
  cases call with
  | transition target next told now =>
    obtain ⟨rfl, rfl, rfl⟩ := hCall
    exact transition_exitedWith.final ⟨row, hRow, hLive, rfl⟩
  | reconcile uuid proj now =>
    obtain ⟨hState, hExit, hTarget⟩ := hCall
    obtain ⟨record, hFound, rfl⟩ := Option.map_eq_some_iff.mp hTarget
    cases hRow.symm.trans (lookup_of_findByExternalId hFound)
    exact (reconcile_exitedWith hFound hLive hState hExit).final rfl
  | runs known => exact hCall.elim
  | admission uuid request now => exact hCall.elim
  | signal target sent reason now => exact hCall.elim
  | reapMissing scope live reason now => exact hCall.elim
  | reapDeadHosts scope alive reason now => exact hCall.elim

theorem upgraded_iff {latched} (hBudget : isBudgetReason latched = true)
    (hCancelled : exit.status = .cancelled) {stored}
    (hStored : stored = (upgradeABudgetKill (some exit) reason).map ProcessExit.stored) :
    (stored.map (·.status) = some .limitExceeded ∧ stored.bind (·.reason) = some latched) ↔ reason = some latched := by
  rw [hStored]
  by_cases hReason : reason.any isBudgetReason = true
  · simp [upgradeABudgetKill, ProcessExit.stored, hCancelled, hReason]
  · have hOther : reason ≠ some latched := fun h => hReason (by rw [h]; exact hBudget)
    simp [upgradeABudgetKill, ProcessExit.stored, hCancelled, hReason, hOther]

end

/-- A wall-budget stop is latched on a live process, a history follows at whose end the process is
live, and then it exits as cancelled: the record names the latched breach exactly if the last of
the signals that it took carried the same reason. -/
theorem budget_stop_kept_iff {s : Ledger} {id latched : String} {row live ended : ProcessRow} {now : Int}
    {calls : List TableCall} {call : TableCall} {exit : ProcessExit}
    (hRow : s.rows.lookup id = some row) (hRowLive : row.state ≠ .exited) (hNow : 0 < now)
    (hBudget : isBudgetReason latched = true)
    (hLive : (runCalls ((TableCall.signal id .stop (some latched) now).apply s) calls).rows.lookup id = some live)
    (hStillLive : live.state ≠ .exited) (hCancelled : exit.status = .cancelled)
    (hCall : call.Exits (runCalls ((TableCall.signal id .stop (some latched) now).apply s) calls) id exit)
    (hEnded : (call.apply (runCalls ((TableCall.signal id .stop (some latched) now).apply s) calls)).rows.lookup id =
      some ended)
    (hExited : ended.state = .exited) :
    (ended.exit.map (·.status) = some .limitExceeded ∧ ended.exit.bind (·.reason) = some latched) ↔
      (reasonsFor id row.kind calls).getLast?.getD (some latched) = some latched := by
  have hOk : signalRow id .stop (some latched) now s.runs row = .ok (row.signalled .stop (some latched) now) :=
    signalRow_eq_ok.mpr ⟨hRowLive, by cases row.kind <;> rfl, fun _ => rfl, hNow, rfl⟩
  have hLatched : (TableCall.signal id .stop (some latched) now).apply s =
      s.setRow id (row.signalled .stop (some latched) now) := by
    rcases apply_signal s id .stop (some latched) now hRow with ⟨taken, hTaken, hApply⟩ | ⟨e, hFail, -⟩
    · rw [hApply, Except.ok.inj (hTaken.symm.trans hOk)]
    · rw [hFail] at hOk
      cases hOk
  have hFirst := lookup_setRow s id (row.signalled .stop (some latched) now)
  rw [← hLatched] at hFirst
  have hReason := runCalls_reason hFirst rfl hLive hStillLive
  have hStored := exitedWith_of_exits hLive hStillLive hCall ended hEnded hExited
  rw [upgraded_iff hBudget hCancelled hStored, hReason]
  rfl

/-! A chat turn over its budget. -/

namespace Turn

def breach : String := "wall budget exceeded: max_wall_ms=1000ms, ran 2000ms"
def cancelled : ProcessExit := ⟨.cancelled, none, none, some "stopped by the user", none⟩

def started : Ledger := runCalls empty [.admission "0" request 1, .transition id .running none 2]
def stopForBudget : TableCall := .signal id .stop (some breach) 3
def stopByUser : TableCall := .signal id .stop (some "stopped by the user") 4
def exits : TableCall := .transition id .exited (some cancelled) 5

def exitAfter (calls : List TableCall) : Option ProcessExit :=
  ((runCalls started calls).rows.lookup id).bind (·.exit)

/-- A second stop takes the reason away, and the turn counts as cancelled. -/
theorem user_stop_hides_budget :
    isBudgetReason breach = true ∧ exitAfter [stopForBudget, stopByUser, exits] = some cancelled ∧
      ¬ (exitAfter [stopForBudget, stopByUser, exits]).map (·.status) = some .limitExceeded := by
  decide +kernel

def turnAfter (calls : List TableCall) : ProcessRow :=
  ((runCalls started calls).rows.lookup id).getD (request.row 1)

theorem budget_named : (exitAfter [stopForBudget, exits]).map (·.status) = some .limitExceeded ∧
      (exitAfter [stopForBudget, exits]).bind (·.reason) = some breach := by
  have hRow : started.rows.lookup id = some (turnAfter []) := by decide +kernel
  have hLive : (runCalls (stopForBudget.apply started) []).rows.lookup id = some (turnAfter [stopForBudget]) := by
    decide +kernel
  have hEnded : (exits.apply (runCalls (stopForBudget.apply started) [])).rows.lookup id =
      some (turnAfter [stopForBudget, exits]) := by decide +kernel
  have hCall : exits.Exits (runCalls (stopForBudget.apply started) []) id cancelled := ⟨rfl, rfl, rfl⟩
  have hIff := budget_stop_kept_iff hRow (by decide +kernel) (by decide) (by decide +kernel) hLive (by decide +kernel) rfl
    hCall hEnded (by decide +kernel)
  have hExit : exitAfter [stopForBudget, exits] = (turnAfter [stopForBudget, exits]).exit := by decide +kernel
  exact hIff.mpr rfl

end Turn

end LittleMonkey.Process
