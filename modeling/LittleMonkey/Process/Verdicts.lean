import LittleMonkey.Process.Histories

/-! # Verdicts and latches

What a history of calls keeps: the verdict of a process that has exited, unless it is told to
exit once more, and the latches of the signals that were sent to it.
-/

namespace LittleMonkey.Process

open Comparing Primitives

/-! ## Verdicts -/

def KeepsVerdict (row row' : ProcessRow) : Prop :=
  row.state = .exited → row'.state = .exited ∧ row'.exit = row.exit ∧ row'.exitedAtMs = row.exitedAtMs

theorem KeepsVerdict.trans {a b c} (h : KeepsVerdict a b) (h' : KeepsVerdict b c) : KeepsVerdict a c := by
  intro hExited
  obtain ⟨hState, hExit, hTime⟩ := h hExited
  obtain ⟨hState', hExit', hTime'⟩ := h' hState
  exact ⟨hState', hExit'.trans hExit, hTime'.trans hTime⟩

theorem change_keepsVerdict {s s'} (h : Change False True s s') : Extends KeepsVerdict s.rows s'.rows := by
  refine h.extends (fun _ hExited => ⟨hExited, rfl, rfl⟩) ?_ ?_ ?_
  · intro fill now row hExited
    obtain ⟨hState, hExit, hTime, -⟩ := fill.applied_keeps now row
    exact ⟨hState.trans hExited, hExit, hTime⟩
  · intro id signal reason now runs row row' _ hOk hExited
    exact absurd hExited (signalRow_eq_ok.mp hOk).1
  · intro id next exit now runs row row' hAgain _ hExited
    exact (hAgain hExited).elim

/-- The verdict of an exited process stays, in every history in which no exited process is told
to exit again. -/
theorem verdict_write_once (s : Ledger) (calls : List TableCall) (hProper : ProperRun False s calls)
    (id : String) (row : ProcessRow) (hRow : s.rows.lookup id = some row) (hExited : row.state = .exited) :
    ∃ row', (runCalls s calls).rows.lookup id = some row' ∧ row'.state = .exited ∧ row'.exit = row.exit ∧
      row'.exitedAtMs = row.exitedAtMs := by
  have hExtends := extends_of_reached (R := KeepsVerdict) (fun _ hExited => ⟨hExited, rfl, rfl⟩)
    (fun _ _ _ => .trans) (fun _ _ => change_keepsVerdict) (reached_runCalls hProper)
  obtain ⟨row', hRow', hKept⟩ := hExtends id row hRow
  exact ⟨row', hRow', hKept hExited⟩

/-! A chat turn that has succeeded. -/

namespace Turn

def request : AdmitProcess := ⟨.chatTurn, "turn-1", none, none, none, none, ⟨none, none, none, none, none⟩⟩
def id : String := "p-turn-0"
def succeeded : ProcessExit := ⟨.succeeded, none, none, none, none⟩
def empty : Ledger := ⟨∅, ∅⟩

def finished : List TableCall := [.admission "0" request 1, .transition id .exited (some succeeded) 2]

def rowAfter (calls : List TableCall) : Option ProcessRow := (runCalls empty calls).rows.lookup id

def late : TableCall := .reapMissing ⟨[], false, none, none, none⟩ [] "gone" 3
def again : TableCall := .transition id .exited (some (lostExit "gone")) 3

/-- A second exit replaces the first verdict. -/
theorem verdict_rewritten :
    ∃ row row', rowAfter finished = some row ∧ rowAfter (finished ++ [again]) = some row' ∧ row.state = .exited ∧
      ¬ (row'.exit = row.exit ∧ row'.exitedAtMs = row.exitedAtMs) := by
  refine ⟨(rowAfter finished).getD (request.row 1), (rowAfter (finished ++ [again])).getD (request.row 1), ?_⟩
  decide +kernel

theorem verdict_survives_reaper :
    ∃ row', (runCalls (runCalls empty finished) [late]).rows.lookup id = some row' ∧ row'.state = .exited ∧
      row'.exit = some succeeded ∧ row'.exitedAtMs = some 2 := by
  have hExit : ((rowAfter finished).getD (request.row 1)).exit = some succeeded := by decide +kernel
  have hTime : ((rowAfter finished).getD (request.row 1)).exitedAtMs = some 2 := by decide +kernel
  rw [← hExit, ← hTime]
  exact verdict_write_once _ [late] ⟨trivial, trivial⟩ id ((rowAfter finished).getD (request.row 1))
    (by decide +kernel) (by decide +kernel)

end Turn

/-! ## Latches -/

def KeepsLatches (row row' : ProcessRow) : Prop :=
  (row.signalIntent.stopRequested = true → row'.signalIntent.stopRequested = true) ∧
    (row.signalIntent.killRequested = true → row'.signalIntent.killRequested = true)

theorem KeepsLatches.of_eq {row row'} (h : row'.signalIntent = row.signalIntent) : KeepsLatches row row' := by
  rw [KeepsLatches, h]
  exact ⟨id, id⟩

theorem keepsLatches_after (intent : SignalIntent) (signal : ProcessSignal) :
    (intent.stopRequested = true → (intent.after signal).stopRequested = true) ∧
      (intent.killRequested = true → (intent.after signal).killRequested = true) := by
  cases signal <;> simp [SignalIntent.after]

theorem moved_signalIntent {id next exit now runs row row'} (h : transitionRow id next exit now runs row = .ok row') :
    row'.signalIntent = row.signalIntent ∧ row'.signalReason = row.signalReason ∧ row'.kind = row.kind := by
  obtain ⟨-, usage, rfl⟩ := transitionRow_ok h
  exact ⟨rfl, rfl, rfl⟩

theorem change_keepsLatches {again signals : Prop} {s s'} (h : Change again signals s s') :
    Extends KeepsLatches s.rows s'.rows := by
  refine h.extends (fun _ => .of_eq rfl) ?_ ?_ ?_
  · intro fill now row
    exact .of_eq (fill.applied_keeps now row).2.2.2.2.1
  · intro id signal reason now runs row row' _ hOk
    obtain ⟨-, -, -, -, rfl⟩ := signalRow_eq_ok.mp hOk
    exact keepsLatches_after row.signalIntent signal
  · intro id next exit now runs row row' _ hOk
    exact .of_eq (moved_signalIntent hOk).1

def KillImpliesStop (s : Ledger) : Prop :=
  ∀ id row, s.rows.lookup id = some row → row.signalIntent.killRequested = true → row.signalIntent.stopRequested = true

theorem KillImpliesStop.setRow {s} (h : KillImpliesStop s) {id row}
    (hRow : row.signalIntent.killRequested = true → row.signalIntent.stopRequested = true) :
    KillImpliesStop (s.setRow id row) := by
  intro other found hFound
  obtain ⟨rfl, rfl⟩ | ⟨-, hFound⟩ := of_lookup_insert hFound
  · exact hRow
  · exact h other found hFound

theorem Change.killImpliesStop {again signals : Prop} {s s'} (h : Change again signals s s')
    (hs : KillImpliesStop s) : KillImpliesStop s' := by
  cases h with
  | runs runs => exact hs
  | admission request now hNew => exact hs.setRow nofun
  | fill fill now hRow =>
    apply hs.setRow
    rw [(fill.applied_keeps now _).2.2.2.2.1]
    exact hs _ _ hRow
  | signal signal reason now hSignals hRow hOk =>
    obtain ⟨-, -, hKill, -, rfl⟩ := signalRow_eq_ok.mp hOk
    exact hs.setRow hKill
  | move next exit now hAgain hRow hOk =>
    apply hs.setRow
    rw [(moved_signalIntent hOk).1]
    exact hs _ _ hRow

theorem killImpliesStop_of_reached {again signals : Prop} {s s'} (h : Reached again signals s s')
    (hs : KillImpliesStop s) : KillImpliesStop s' := by
  induction h with
  | refl => exact hs
  | tail _ hLast ih => exact hLast.killImpliesStop ih

/-- The state shows what the latches ask for: no stop is open, and it is suspended exactly if
that was asked. -/
def ProcessRow.Reflected (row : ProcessRow) : Prop :=
  row.signalIntent.stopRequested = false ∧ (row.signalIntent.suspendRequested = true ↔ row.state = .suspended)

theorem signalPending_iff {row : ProcessRow} :
    row.signalPending = true ↔ row.state ≠ .exited ∧ ¬ row.Reflected := by
  rw [ProcessRow.signalPending, ProcessRow.isLive, ProcessRow.Reflected]
  cases row.signalIntent.stopRequested <;> cases row.signalIntent.suspendRequested <;> cases row.state <;>
    simp [ProcessState.isTerminal]

theorem mem_pendingSignals {s : Ledger} {kinds record} : record ∈ s.pendingSignals kinds ↔
      s.rows.lookup record.processId = some record.row ∧ (kinds = [] ∨ record.row.kind ∈ kinds) ∧
        record.row.state ≠ .exited ∧ ¬ record.row.Reflected := by
  rw [Ledger.pendingSignals, mem_sortBy, List.mem_filter, mem_records, Bool.and_eq_true, signalPending_iff]
  simp only [Bool.or_eq_true, List.isEmpty_iff, List.contains_eq_mem, decide_eq_true_eq]
  tauto

theorem apply_signal (s : Ledger) (id : String) (signal : ProcessSignal) (reason : Option String) (now : Int)
    {row} (hRow : s.rows.lookup id = some row) :
    (∃ row', signalRow id signal reason now s.runs row = .ok row' ∧
      (TableCall.signal id signal reason now).apply s = s.setRow id row') ∨
    (∃ e, signalRow id signal reason now s.runs row = .error e ∧
      (TableCall.signal id signal reason now).apply s = s) := by
  simp only [TableCall.apply, Durable.final, Process.signal, updateRow, hRow]
  cases signalRow id signal reason now s.runs row with
  | ok row' => exact .inl ⟨row', rfl, rfl⟩
  | error e => exact .inr ⟨e, rfl, rfl⟩

/-- A resume takes back the suspension and nothing else that was latched. -/
def ProcessRow.resumed (row : ProcessRow) (reason : Option String) (now : Int) : ProcessRow :=
  { row with
    signalIntent := { row.signalIntent with suspendRequested := false }
    signalReason := reason
    signalRequestedAtMs := some now
    updatedAtMs := now }

/-- Along every history from an empty table, however it goes on: stops and kills stay latched, a
kill is a stop, a resume takes back a suspension only, and what is pending is what the states do
not show. -/
theorem latches_monotone (runs : Runs) (calls later : List TableCall) :
    (∀ id row, (runCalls ⟨runs, ∅⟩ calls).rows.lookup id = some row →
      (∃ row', (runCalls (runCalls ⟨runs, ∅⟩ calls) later).rows.lookup id = some row' ∧ KeepsLatches row row') ∧
      (row.signalIntent.killRequested = true → row.signalIntent.stopRequested = true) ∧
      ∀ reason now, ∃ row', ((TableCall.signal id .resume reason now).apply
        (runCalls ⟨runs, ∅⟩ calls)).rows.lookup id = some row' ∧ (row' = row ∨ row' = row.resumed reason now)) ∧
    ∀ kinds record, record ∈ (runCalls ⟨runs, ∅⟩ calls).pendingSignals kinds ↔
      (runCalls ⟨runs, ∅⟩ calls).rows.lookup record.processId = some record.row ∧
        (kinds = [] ∨ record.row.kind ∈ kinds) ∧ record.row.state ≠ .exited ∧ ¬ record.row.Reflected := by
  refine ⟨fun id row hRow => ⟨?_, ?_, fun reason now => ?_⟩, fun kinds record => mem_pendingSignals⟩
  · have hExtends := extends_of_reached (R := KeepsLatches) (fun _ => .of_eq rfl)
      (fun _ _ _ h h' => ⟨h'.1 ∘ h.1, h'.2 ∘ h.2⟩) (fun _ _ => change_keepsLatches)
      (reached_runCalls (properRun_true (runCalls ⟨runs, ∅⟩ calls) later))
    exact hExtends id row hRow
  · have hStart : KillImpliesStop ⟨runs, ∅⟩ := by
      intro id row hRow
      cases hRow
    exact killImpliesStop_of_reached (reached_runCalls (properRun_true ⟨runs, ∅⟩ calls)) hStart id row hRow
  · rcases apply_signal _ id .resume reason now hRow with ⟨row', hOk, hApply⟩ | ⟨e, -, hApply⟩
    · obtain ⟨-, -, -, -, rfl⟩ := signalRow_eq_ok.mp hOk
      exact ⟨_, hApply ▸ lookup_setRow _ _ _, .inr rfl⟩
    · exact ⟨row, by rwa [hApply], .inl rfl⟩

/-- The same process, no earlier in its life. -/
def Ages (row row' : ProcessRow) : Prop :=
  (row'.kind, row'.externalId, row'.createdAtMs) = (row.kind, row.externalId, row.createdAtMs) ∧
    (row'.state = .admitted → row.state = .admitted) ∧ (row.state = .exited → row'.state = .exited)

/-- No history of calls deletes a process, makes another of it, or takes it back. -/
theorem processes_only_age (s : Ledger) (calls : List TableCall) : Extends Ages s.rows (runCalls s calls).rows := by
  have hRefl : ∀ row, Ages row row := fun _ => ⟨rfl, id, id⟩
  refine extends_of_reached hRefl ?_ (fun _ _ h => h.extends hRefl ?_ ?_ ?_) (reached_runCalls (properRun_true s calls))
  · exact fun _ _ _ h h' => ⟨h'.1.trans h.1, fun hs => h.2.1 (h'.2.1 hs), fun hs => h'.2.2 (h.2.2 hs)⟩
  · intro fill now row
    cases fill <;> exact hRefl row
  · intro id signal reason now runs row row' _ hOk
    obtain ⟨-, -, -, -, rfl⟩ := signalRow_eq_ok.mp hOk
    exact hRefl row
  · intro id next exit now runs row row' _ hOk
    obtain ⟨hMove, usage, rfl⟩ := transitionRow_ok hOk
    refine ⟨rfl, fun hNext => ?_, fun hState => ProcessState.eq_exited_of_canTransitionTo (hState ▸ hMove)⟩
    obtain rfl : next = .admitted := hNext
    cases hState : row.state <;> first | rfl | (rw [hState] at hMove; cases hMove)

end LittleMonkey.Process
