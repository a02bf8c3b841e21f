import Mathlib.Logic.Relation
import LittleMonkey.Lib.Maps
import LittleMonkey.Process.Table

/-! # Histories of the process table

Every call comes down to changes of one row each: a process is admitted, a column is filled
in, a signal is latched, or the process moves.  What each change keeps is kept by every
history of calls.
-/

namespace LittleMonkey.Process

open Comparing Durable Guards Primitives List AList

/-! ## Records and rows -/

section

variable {s : Ledger} {record : ProcessRecord}

theorem mem_records : record ∈ s.records ↔ s.rows.lookup record.processId = some record.row := by
  rw [Ledger.records, mem_map]
  constructor
  · rintro ⟨entry, hEntry, rfl⟩
    exact mem_lookup_iff.mpr hEntry
  · intro h
    exact ⟨⟨record.processId, record.row⟩, mem_lookup_iff.mp h, rfl⟩

theorem map_processId_records : s.records.map (·.processId) = s.rows.keys := by
  rw [Ledger.records, map_map]
  rfl

theorem lookup_of_findByExternalId {kind externalId}
    (h : s.findByExternalId kind externalId = some record) : s.rows.lookup record.processId = some record.row :=
  mem_records.mp (mem_of_find?_eq_some h)

theorem lookup_setRow (s : Ledger) (id : String) (row : ProcessRow) : (s.setRow id row).rows.lookup id = some row :=
  lookup_insert _

theorem lookup_setRow_ne {id other} (h : other ≠ id) (row : ProcessRow) :
    (s.setRow id row).rows.lookup other = s.rows.lookup other := lookup_insert_ne h

end

/-! ## Changes -/

/-- One change of the ledger.  An exited row moves only if `again`, and signals are sent only
if `signals`. -/
inductive Change (again signals : Prop) (s : Ledger) : Ledger → Prop
  | runs (runs : Runs) : Change again signals s { s with runs := runs }
  | admission {id} (request : AdmitProcess) (now : Int) (hNew : s.rows.lookup id = none) :
    Change again signals s (s.setRow id (request.row now))
  | fill {id} {row} (fill : Fill) (now : Int) (hRow : s.rows.lookup id = some row) :
    Change again signals s (s.setRow id (fill.applied now row))
  | signal {id} {row row'} (signal : ProcessSignal) (reason : Option String) (now : Int)
    (hSignals : signals) (hRow : s.rows.lookup id = some row)
    (hOk : signalRow id signal reason now s.runs row = .ok row') : Change again signals s (s.setRow id row')
  | move {id} {row row'} (next : ProcessState) (exit : Option ProcessExit) (now : Int)
    (hAgain : row.state = .exited → again) (hRow : s.rows.lookup id = some row)
    (hOk : transitionRow id next exit now s.runs row = .ok row') : Change again signals s (s.setRow id row')

def Reached (again signals : Prop) : Ledger → Ledger → Prop := Relation.ReflTransGen (Change again signals)

theorem extends_of_reached {again signals : Prop} {R : ProcessRow → ProcessRow → Prop} {s s'}
    (hRefl : ∀ row, R row row) (hTrans : ∀ a b c, R a b → R b c → R a c)
    (hStep : ∀ s s', Change again signals s s' → Extends R s.rows s'.rows) (h : Reached again signals s s') :
    Extends R s.rows s'.rows := by
  induction h with
  | refl => exact .refl hRefl _
  | tail _ hLast ih => exact ih.trans hTrans (hStep _ _ hLast)

theorem Change.extends {again signals : Prop} {R : ProcessRow → ProcessRow → Prop} {s s'}
    (hRefl : ∀ row, R row row) (hFill : ∀ fill now row, R row (Fill.applied fill now row))
    (hSignal : ∀ id signal reason now runs row row', signals →
      signalRow id signal reason now runs row = .ok row' → R row row')
    (hMove : ∀ id next exit now runs row row', (row.state = .exited → again) →
      transitionRow id next exit now runs row = .ok row' → R row row')
    (h : Change again signals s s') : Extends R s.rows s'.rows := by
  cases h with
  | runs runs => exact .refl hRefl _
  | admission request now hNew =>
    apply extends_insert hRefl
    intro old hOld
    rw [hNew] at hOld
    cases hOld
  | fill fill now hRow =>
    apply extends_insert hRefl
    intro old hOld
    cases hOld.symm.trans hRow
    exact hFill fill now _
  | signal signal reason now hSignals hRow hOk =>
    apply extends_insert hRefl
    intro old hOld
    cases hOld.symm.trans hRow
    exact hSignal _ _ _ _ _ _ _ hSignals hOk
  | move next exit now hAgain hRow hOk =>
    apply extends_insert hRefl
    intro old hOld
    cases hOld.symm.trans hRow
    exact hMove _ _ _ _ _ _ _ hAgain hOk

/-! ## Calls are changes -/

section

variable {again signals : Prop} {s₀ : Ledger} {id : String} {now : Int}
variable {proj : ProcessProjection} {reason : String} {uuid : String}

theorem triple_updateRow {P : Ledger → Prop} {Q : ProcessRecord → Ledger → Prop}
    {E : Stop ProcessTableError → Ledger → Prop} {statement}
    (hOk : ∀ s row row', P s → s.rows.lookup id = some row → statement s.runs row = .ok row' →
      Q ⟨id, row'⟩ (s.setRow id row'))
    (hFail : ∀ s e, P s → E (.failed e) s) : Triple P (updateRow id statement) Q E := by
  intro s hs
  unfold updateRow
  cases hRow : s.rows.lookup id with
  | none => exact hFail s _ hs
  | some row =>
    dsimp only
    cases hStatement : statement s.runs row with
    | error e => exact hFail s e hs
    | ok row' => exact hOk s row row' hs hRow hStatement

variable (again signals s₀) in
abbrev Stays {α : Type} (P : Ledger → Prop) (p : Call α) : Prop :=
  Triple P p (fun _ => Reached again signals s₀) (fun _ => Reached again signals s₀)

theorem transition_reached {next exit} : Stays again signals s₀
    (fun s => Reached again signals s₀ s ∧ ∀ row, s.rows.lookup id = some row → row.state = .exited → again)
    (transition id next exit now) :=
  triple_updateRow
    (fun _ _ _ hs hRow hOk => hs.1.tail (.move next exit now (hs.2 _ hRow) hRow hOk))
    (fun _ _ hs => hs.1)

theorem signal_reached {kind reason} (hSignals : signals) :
    Stays again signals s₀ (Reached again signals s₀) (signal id kind reason now) :=
  triple_updateRow (fun _ _ _ hs hRow hOk => hs.tail (.signal kind reason now hSignals hRow hOk))
    (fun _ _ hs => hs)

theorem admissible_ok {s request} (h : admissible s request id now = .ok ()) :
    s.rows.lookup id = none ∧ 0 < now := by
  simp only [admissible, bind_eq_ok, refuseIf_eq_ok, decide_eq_false_iff_not] at h
  obtain ⟨-, -, -, hNow, h⟩ := h
  split at h
  · cases h
  · split at h
    · cases h
    · simp only [bind_eq_ok, refuseIf_eq_ok] at h
      obtain ⟨-, -, -, hUnique, -⟩ := h
      exact ⟨Option.isSome_eq_false_iff.mp hUnique |> Option.isNone_iff_eq_none.mp, by omega⟩

theorem triple_admitProcess {P : Ledger → Prop} {Q : ProcessRecord → Ledger → Prop}
    {E : Stop ProcessTableError → Ledger → Prop} {request}
    (hOk : ∀ s id, P s → s.rows.lookup id = none → 0 < now →
      Q ⟨id, request.row now⟩ (s.setRow id (request.row now)))
    (hFail : ∀ s e, P s → E (.failed e) s) : Triple P (admitProcess uuid request now) Q E := by
  intro s hs
  unfold admitProcess
  dsimp only
  cases hAdmit : admissible s request (newProcessId request.kind uuid) now with
  | error e => exact hFail s e hs
  | ok u =>
    obtain ⟨hNew, hNow⟩ := admissible_ok hAdmit
    exact hOk s _ hs hNew hNow

theorem findOrAdmit_reached : Triple (Reached again signals s₀) (findOrAdmit uuid proj now)
      (fun found s => Reached again signals s₀ s ∧ s.rows.lookup found.1.processId = some found.1.row)
      (fun _ => Reached again signals s₀) := by
  apply Triple.of_forall
  intro s hs
  unfold findOrAdmit
  apply Triple.read_bind
  cases hFound : s.findByExternalId proj.kind proj.externalId with
  | some record =>
    exact .pureAt ⟨hs, lookup_of_findByExternalId hFound⟩
  | none =>
    apply Triple.read_bind
    refine .bind (Q := fun record t => Reached again signals s₀ t ∧
      t.rows.lookup record.processId = some record.row) ?_ (fun record => .pure fun _ h => h)
    apply triple_admitProcess
    · rintro _ id rfl hNew -
      exact ⟨hs.tail (.admission _ now hNew), lookup_setRow _ _ _⟩
    · rintro _ _ rfl
      exact hs

def InState (again signals : Prop) (s₀ : Ledger) (id : String) (state : ProcessState) (s : Ledger) : Prop :=
  Reached again signals s₀ s ∧ ∃ row, s.rows.lookup id = some row ∧ row.state = state

theorem fill_inState {state} {fill : Fill} :
    Triple (InState again signals s₀ id state) (updateRow id (fill.statement now))
      (fun _ => InState again signals s₀ id state) (fun _ => Reached again signals s₀) := by
  apply triple_updateRow
  · rintro s row _ ⟨hs, old, hOld, hState⟩ hRow hOk
    cases hOld.symm.trans hRow
    obtain ⟨-, rfl⟩ := Fill.statement_eq_ok.mp hOk
    exact ⟨hs.tail (.fill fill now hRow), _, lookup_setRow _ _ _, (fill.applied_keeps now row).1.trans hState⟩
  · exact fun _ _ hs => hs.1

theorem settle_reached {record isNew} :
    Stays again signals s₀ (InState again signals s₀ record.processId record.row.state)
      (settle record isNew proj now) := by
  unfold settle
  split
  · refine .bind (Q := fun _ s => Reached again signals s₀ s) (.read fun _ hs => hs.1) ?_
    exact fun _ => .skip
  · split
    · exact .pure fun _ hs => hs.1
    next hLive =>
      refine .bind (transition_reached.pre ?_) fun _ => .skip
      rintro s ⟨hs, old, hOld, hState⟩
      refine ⟨hs, fun row hRow hExited => ?_⟩
      cases hOld.symm.trans hRow
      rw [← hState, hExited] at hLive
      exact absurd rfl hLive

theorem reconcile_reached :
    Stays again signals s₀ (Reached again signals s₀) (reconcile uuid proj now) := by
  unfold reconcile
  split
  · exact .fail fun _ hs => hs
  · refine findOrAdmit_reached.bind ?_
    rintro ⟨record, isNew⟩
    refine .bind (Q := fun _ => InState again signals s₀ record.processId record.row.state) ?_
      (fun _ => settle_reached)
    refine (Triple.forM fun fill _ => ?_).pre fun s hs => ⟨hs.1, record.row, hs.2, rfl⟩
    exact fill_inState.bind fun _ => Triple.skip

def Alive (again signals : Prop) (s₀ : Ledger) (rest : List ProcessRecord) (s : Ledger) : Prop :=
  Reached again signals s₀ s ∧ (rest.map (·.processId)).Nodup ∧
    ∀ candidate ∈ rest, ∃ row, s.rows.lookup candidate.processId = some row ∧ row.state ≠ .exited

theorem reapAll_reached {gone} (candidates : List ProcessRecord) :
    Stays again signals s₀ (Alive again signals s₀ candidates) (reapAll gone reason now candidates) := by
  refine (Triple.foldlM (I := fun _ rest => Alive again signals s₀ rest) ?_ [] candidates).weaken
    (fun _ hs => hs) (fun _ _ hs => hs.1) (fun _ _ hs => hs)
  intro reaped candidate rest
  split
  · refine .bind (Q := fun _ => Alive again signals s₀ rest) ?_ fun _ => .skip
    apply triple_updateRow
    · rintro s row row' ⟨hs, hDistinct, hAlive⟩ hRow hOk
      obtain ⟨hApart, hDistinct⟩ := nodup_cons.mp hDistinct
      obtain ⟨⟨old, hOld, hLive⟩, hRest⟩ := forall_mem_cons.mp hAlive
      cases hOld.symm.trans hRow
      refine ⟨hs.tail (.move _ _ now (fun hExited => absurd hExited hLive) hRow hOk), hDistinct, ?_⟩
      intro other hOther
      have hOtherId : other.processId ≠ candidate.processId := fun hSame =>
        hApart (mem_map.mpr ⟨other, hOther, hSame⟩)
      rw [lookup_setRow_ne hOtherId]
      exact hRest other hOther
    · exact fun _ _ hs => hs.1
  · apply Triple.pure
    rintro s ⟨hs, hDistinct, hAlive⟩
    exact ⟨hs, (nodup_cons.mp hDistinct).2, (forall_mem_cons.mp hAlive).2⟩

theorem alive_list {s} (hs : Reached again signals s₀ s) (scope : ProcessFilter) :
    Alive again signals s₀ (s.list scope.reapable) s := by
  have hSub : (s.list scope.reapable).Sublist (sortBy newestFirst
      (s.records.filter fun record => scope.reapable.selects record.row)) := take_sublist _ _
  have hPerm := sortBy_perm newestFirst (s.records.filter fun record => scope.reapable.selects record.row)
  refine ⟨hs, ?_, fun candidate hCandidate => ?_⟩
  · apply (hSub.map _).nodup
    rw [(hPerm.map _).nodup_iff]
    apply (filter_sublist.map _).nodup
    rw [map_processId_records]
    exact s.rows.nodupKeys
  · obtain ⟨hRecord, hSelected⟩ := mem_filter.mp (hPerm.mem_iff.mp (hSub.subset hCandidate))
    refine ⟨candidate.row, mem_records.mp hRecord, fun hExited => ?_⟩
    simp [ProcessFilter.selects, ProcessFilter.reapable, ProcessRow.isLive, hExited, ProcessState.isTerminal] at hSelected

theorem reapMissing_reached {scope live} :
    Stays again signals s₀ (Reached again signals s₀) (reapMissing scope live reason now) := by
  apply Triple.of_forall
  intro s hs
  apply Triple.read_bind
  apply (reapAll_reached _).pre
  rintro _ rfl
  exact alive_list hs scope

theorem reapDeadHosts_reached {scope alive} :
    Stays again signals s₀ (Reached again signals s₀) (reapDeadHosts scope alive reason now) := by
  apply Triple.of_forall
  intro s hs
  apply Triple.read_bind
  apply (reapAll_reached _).pre
  rintro _ rfl
  exact alive_list hs scope

end

/-! ## Histories -/

inductive TableCall
  | runs (runs : Runs)
  | admission (uuid : String) (request : AdmitProcess) (now : Int)
  | transition (id : String) (next : ProcessState) (exit : Option ProcessExit) (now : Int)
  | signal (id : String) (signal : ProcessSignal) (reason : Option String) (now : Int)
  | reconcile (uuid : String) (proj : ProcessProjection) (now : Int)
  | reapMissing (scope : ProcessFilter) (liveProcessIds : List String) (reason : String) (now : Int)
  | reapDeadHosts (scope : ProcessFilter) (hostIsAlive : Int → Bool) (reason : String) (now : Int)

namespace TableCall

def apply (s : Ledger) : TableCall → Ledger
  | runs known => { s with runs := known }
  | admission uuid request now => final (admitProcess uuid request now) s
  | transition id next exit now => final (Process.transition id next exit now) s
  | signal id kind reason now => final (Process.signal id kind reason now) s
  | reconcile uuid proj now => final (Process.reconcile uuid proj now) s
  | reapMissing scope live reason now => final (Process.reapMissing scope live reason now) s
  | reapDeadHosts scope alive reason now => final (Process.reapDeadHosts scope alive reason now) s

/-- An exited process is told to exit once more only if `again`. -/
def Proper (again : Prop) (s : Ledger) : TableCall → Prop
  | transition id _ _ _ => ∀ row, s.rows.lookup id = some row → row.state = .exited → again
  | _ => True

def isSignal : TableCall → Bool
  | signal _ _ _ _ => true
  | _ => false

theorem reached {again signals : Prop} {s} {call : TableCall} (h : call.Proper again s)
    (hSignals : call.isSignal = true → signals) : Reached again signals s (call.apply s) := by
  have hStart : Reached again signals s s := .refl
  cases call with
  | runs runs => exact .single (.runs runs)
  | admission uuid request now =>
    refine Triple.final (P := (· = s)) ?_ rfl
    apply triple_admitProcess
    · rintro _ id rfl hNew -
      exact hStart.tail (.admission _ now hNew)
    · rintro _ _ rfl
      exact hStart
  | transition id next exit now => exact transition_reached.final ⟨hStart, h⟩
  | signal id kind reason now => exact (signal_reached (hSignals rfl)).final hStart
  | reconcile uuid proj now => exact reconcile_reached.final hStart
  | reapMissing scope live reason now => exact reapMissing_reached.final hStart
  | reapDeadHosts scope alive reason now => exact reapDeadHosts_reached.final hStart

end TableCall

def runCalls (s : Ledger) (calls : List TableCall) : Ledger := calls.foldl TableCall.apply s

def ProperRun (again : Prop) : Ledger → List TableCall → Prop
  | _, [] => True
  | s, call :: calls => call.Proper again s ∧ ProperRun again (call.apply s) calls

theorem reached_runCalls {again : Prop} {s} {calls : List TableCall} (h : ProperRun again s calls) :
    Reached again True s (runCalls s calls) := by
  induction calls generalizing s with
  | nil => exact .refl
  | cons call calls ih => exact (TableCall.reached h.1 fun _ => trivial).trans (ih h.2)

theorem properRun_true (s : Ledger) (calls : List TableCall) : ProperRun True s calls := by
  induction calls generalizing s with
  | nil => trivial
  | cons call calls ih =>
    refine ⟨?_, ih _⟩
    cases call with
    | transition id next exit now => exact fun _ _ _ => trivial
    | _ => trivial

end LittleMonkey.Process
