import LittleMonkey.Process.Verdicts

/-! # Reconciling

`reconcile` writes what a projection fills in before it looks at the states, one statement at a
time.  What it leaves behind is therefore the row with the fills up to the first one that the
schema refuses, whether it then succeeds or fails.
-/

namespace LittleMonkey.Process

open Durable Guards Transaction

/-! ## The fills -/

def fillAll (now : Int) (runs : Runs) : List Fill → ProcessRow → ProcessRow
  | [], row => row
  | fill :: fills, row =>
    if fill.accepted now runs then fillAll now runs fills (fill.applied now row) else row

def Fill.rank : Fill → Nat
  | .run _ => 0
  | .identity _ _ => 1
  | .containment _ => 2
  | .sample _ => 3

section

variable {now : Int} {runs : Runs} {row : ProcessRow} {fill : Fill} {fills : List Fill}
variable {proj : ProcessProjection}

variable (now runs fills row) in
theorem fillAll_keeps {β : Type} (column : ProcessRow → β)
    (h : ∀ fill ∈ fills, ∀ row, column (fill.applied now row) = column row) :
    column (fillAll now runs fills row) = column row := by
  induction fills generalizing row with
  | nil => rfl
  | cons fill fills ih =>
    obtain ⟨hFirst, hRest⟩ := List.forall_mem_cons.mp h
    unfold fillAll
    split
    · exact (ih _ hRest).trans (hFirst row)
    · rfl

def Fill.Missing (row : ProcessRow) : Fill → Prop
  | .run runId => row.runId ≠ some runId
  | .identity pid startTime => row.nativePid ≠ pid ∨ startTime.isSome = true ∧ row.nativeStartTime ≠ startTime
  | .containment held => row.containment ≠ some held
  | .sample _ => True

theorem of_runDue (h : runDue row proj = some fill) : fill.rank = 0 ∧ fill.Missing row := by
  unfold runDue at h
  split at h
  next hNone =>
    obtain ⟨runId, -, rfl⟩ := Option.map_eq_some_iff.mp h
    refine ⟨rfl, ?_⟩
    rw [Fill.Missing, Option.isNone_iff_eq_none.mp hNone]
    simp
  · cases h

theorem of_identityDue (h : identityDue row proj = some fill) : fill.rank = 1 ∧ fill.Missing row := by
  unfold identityDue at h
  split at h
  next hDue =>
    cases h
    exact ⟨rfl, by simpa [Fill.Missing] using (Bool.and_eq_true_iff.mp hDue).2⟩
  · cases h

theorem of_containmentDue (h : containmentDue row proj = some fill) : fill.rank = 2 ∧ fill.Missing row := by
  obtain ⟨held, hHeld, rfl⟩ := Option.map_eq_some_iff.mp h
  refine ⟨rfl, ?_⟩
  simpa [Fill.Missing] using (Option.filter_eq_some_iff.mp hHeld).2

variable (row) in
theorem of_sampleDue (h : proj.usage.map Fill.sample = some fill) : fill.rank = 3 ∧ fill.Missing row := by
  obtain ⟨measured, -, rfl⟩ := Option.map_eq_some_iff.mp h
  exact ⟨rfl, trivial⟩

variable (row) in
theorem fillsDue_pairwise (proj : ProcessProjection) :
    (fillsDue row proj).Pairwise fun a b => a.rank < b.rank := by
  have hEach : ∀ o : Option Fill, o.toList.Pairwise fun a b => a.rank < b.rank := by
    intro o
    cases o <;> simp
  simp only [fillsDue, List.pairwise_append, hEach, List.mem_append, Option.mem_toList, true_and]
  refine ⟨⟨?_, ?_⟩, ?_⟩
  · intro a ha b hb
    have hRank := of_runDue ha
    have hRank' := of_identityDue hb
    omega
  · rintro a (ha | ha) b hb
    · have hRank := of_runDue ha
      have hRank' := of_containmentDue hb
      omega
    · have hRank := of_identityDue ha
      have hRank' := of_containmentDue hb
      omega
  · rintro a ((ha | ha) | ha) b hb
    · have hRank := of_runDue ha
      have hRank' := of_sampleDue row hb
      omega
    · have hRank := of_identityDue ha
      have hRank' := of_sampleDue row hb
      omega
    · have hRank := of_containmentDue ha
      have hRank' := of_sampleDue row hb
      omega

theorem missing_of_due (h : fill ∈ fillsDue row proj) : fill.Missing row := by
  simp only [fillsDue, List.mem_append, Option.mem_toList] at h
  rcases h with ((h | h) | h) | h
  · exact (of_runDue h).2
  · exact (of_identityDue h).2
  · exact (of_containmentDue h).2
  · exact (of_sampleDue row h).2

def Repeats (row : ProcessRow) (now : Int) (fill : Fill) : Prop :=
  ∃ measured, fill = .sample measured ∧ row.usage.fold measured = row.usage ∧ row.usageSampledAtMs = some now ∧
    row.updatedAtMs = now

theorem applied_sample_eq_iff {measured} :
    (Fill.sample measured).applied now row = row ↔ Repeats row now (.sample measured) := by
  constructor
  · intro h
    exact ⟨measured, rfl, congrArg ProcessRow.usage h, (congrArg ProcessRow.usageSampledAtMs h).symm,
      (congrArg ProcessRow.updatedAtMs h).symm⟩
  · rintro ⟨_, ⟨rfl⟩, hUsage, hSampled, hUpdated⟩
    simp only [Fill.applied]
    cases row
    simp_all

/-- The projection leaves the row alone: nothing is due, or the first that is due is refused or
says nothing new. -/
def Ignored (row : ProcessRow) (proj : ProcessProjection) (now : Int) (runs : Runs) : Prop :=
  ∀ fill ∈ (fillsDue row proj).head?, fill.accepted now runs = false ∨ Repeats row now fill

theorem fillAll_applied_ne (hMissing : fill.Missing row) (hSample : fill.rank < 3)
    (hLater : ∀ later ∈ fills, fill.rank < later.rank) : fillAll now runs fills (fill.applied now row) ≠ row := by
  intro hSame
  have hKept : ∀ {γ : Type} (field : ProcessRow → γ), (∀ later : Fill, fill.rank < later.rank → ∀ row,
      field (later.applied now row) = field row) → field row = field (fill.applied now row) := by
    intro γ field hField
    have hKeeps := fillAll_keeps now runs (fill.applied now row) fills field
      fun later hMem => hField later (hLater later hMem)
    rwa [hSame] at hKeeps
  cases fill with
  | run runId =>
    apply hMissing (hKept ProcessRow.runId ?_)
    intro later hRank row
    cases later <;> first | rfl | simp [Fill.rank] at hRank
  | identity pid startTime =>
    obtain ⟨hPid, hTime⟩ := Prod.mk.inj (hKept (fun row => (row.nativePid, row.nativeStartTime)) (by
      intro later hRank row
      cases later <;> first | rfl | simp [Fill.rank] at hRank))
    rcases hMissing with hOther | ⟨hGiven, hOther⟩
    · exact hOther hPid
    · obtain ⟨time, rfl⟩ := Option.isSome_iff_exists.mp hGiven
      exact hOther hTime
  | containment held =>
    apply hMissing (hKept ProcessRow.containment ?_)
    intro later hRank row
    cases later <;> first | rfl | simp [Fill.rank] at hRank
  | sample measured => exact absurd hSample (by simp [Fill.rank])

theorem fillAll_eq_iff (proj : ProcessProjection) :
    fillAll now runs (fillsDue row proj) row = row ↔ Ignored row proj now runs := by
  have hOrder := fillsDue_pairwise row proj
  have hDue : ∀ fill ∈ fillsDue row proj, fill.Missing row := fun fill => missing_of_due
  unfold Ignored
  cases hFills : fillsDue row proj with
  | nil => simp [fillAll]
  | cons first rest =>
    rw [hFills] at hOrder hDue
    have hLater := (List.pairwise_cons.mp hOrder).1
    have hFirst := hDue first List.mem_cons_self
    simp only [List.head?_cons, Option.mem_some_iff, forall_eq']
    unfold fillAll
    cases hAccepted : first.accepted now runs with
    | false => simp
    | true =>
      simp only [Bool.true_eq_false, false_or]
      by_cases hSample : first.rank < 3
      · refine iff_of_false (fillAll_applied_ne hFirst hSample hLater) ?_
        rintro ⟨measured, rfl, -⟩
        simp [Fill.rank] at hSample
      · obtain ⟨measured, rfl⟩ : ∃ measured, first = .sample measured := by
          cases first <;> first | exact ⟨_, rfl⟩ | simp [Fill.rank] at hSample
        have hNone : rest = [] := by
          apply List.eq_nil_iff_forall_not_mem.mpr
          intro later hMem
          have hRank := hLater later hMem
          cases later <;> simp [Fill.rank] at hRank
        rw [hNone]
        exact applied_sample_eq_iff

end

/-! ## What a call leaves -/

structure OnlyRow (s : Ledger) (id : String) (row : ProcessRow) (s' : Ledger) : Prop where
  runs : s'.runs = s.runs
  row : s'.rows.lookup id = some row
  others : ∀ other, other ≠ id → s'.rows.lookup other = s.rows.lookup other

def Unchanged (s s' : Ledger) : Prop := s'.runs = s.runs ∧ ∀ id, s'.rows.lookup id = s.rows.lookup id

variable {proj : ProcessProjection}

section

variable {s s' : Ledger} {id : String} {row row' : ProcessRow} {now : Int}
variable {uuid : String}

theorem OnlyRow.setRow (h : OnlyRow s id row s') (row' : ProcessRow) : OnlyRow s id row' (s'.setRow id row') where
  runs := h.runs
  row := lookup_setRow _ _ _
  others other hOther := (lookup_setRow_ne hOther row').trans (h.others other hOther)

theorem OnlyRow.unchanged_iff (h : OnlyRow s id row' s') (hRow : s.rows.lookup id = some row) :
    Unchanged s s' ↔ row' = row := by
  constructor
  · rintro ⟨-, hSame⟩
    have hId := hSame id
    rw [h.row, hRow] at hId
    exact Option.some.inj hId
  · rintro rfl
    refine ⟨h.runs, fun other => ?_⟩
    by_cases hOther : other = id
    · rw [hOther, h.row, hRow]
    · exact h.others other hOther

theorem updateRow_fill (hRow : s.rows.lookup id = some row) (fill : Fill) (now : Int) :
    (fill.accepted now s.runs = true ∧
      updateRow id (fill.statement now) s = .ok ⟨id, fill.applied now row⟩ (s.setRow id (fill.applied now row))) ∨
    (fill.accepted now s.runs = false ∧ ∃ e, updateRow id (fill.statement now) s = .error e s) := by
  simp only [updateRow, hRow]
  cases hStatement : fill.statement now s.runs row with
  | ok filled =>
    obtain ⟨hAccepted, rfl⟩ := Fill.statement_eq_ok.mp hStatement
    exact .inl ⟨hAccepted, rfl⟩
  | error e =>
    refine .inr ⟨?_, _, rfl⟩
    by_contra hAccepted
    rw [Bool.not_eq_false] at hAccepted
    rw [Fill.statement_eq_ok.mpr ⟨hAccepted, rfl⟩] at hStatement
    cases hStatement

def fillLoop (id : String) (now : Int) (fills : List Fill) : Call PUnit :=
  fills.forM fun fill => do
    let _ ← updateRow id (fill.statement now)
    pure PUnit.unit

theorem fillLoop_cons (id : String) (now : Int) (fill : Fill) (fills : List Fill) :
    fillLoop id now (fill :: fills) = updateRow id (fill.statement now) >>= fun _ => fillLoop id now fills := by
  change ((updateRow id (fill.statement now) >>= fun _ => pure PUnit.unit) >>= fun _ => fillLoop id now fills) = _
  rw [bind_assoc]
  rfl

theorem fillLoop_spec (now : Int) (fills : List Fill) {s₀} (hStart : OnlyRow s₀ id row s) :
    (fills.all (·.accepted now s₀.runs) = true ∧ ∃ s', fillLoop id now fills s = .ok () s' ∧
      OnlyRow s₀ id (fillAll now s₀.runs fills row) s') ∨
    (fills.all (·.accepted now s₀.runs) = false ∧ ∃ e s', fillLoop id now fills s = .error e s' ∧
      OnlyRow s₀ id (fillAll now s₀.runs fills row) s') := by
  induction fills generalizing s row with
  | nil => exact .inl ⟨rfl, s, rfl, hStart⟩
  | cons fill fills ih =>
    rw [List.all_cons, fillAll, ← hStart.runs]
    rw [fillLoop_cons]
    rcases updateRow_fill hStart.row fill now with ⟨hAccepted, hRun⟩ | ⟨hRefused, e, hRun⟩
    · rw [bind_of_done hRun, hAccepted, hStart.runs]
      exact ih (hStart.setRow _)
    · rw [hRefused]
      refine .inr ⟨rfl, e, s, ?_, hStart⟩
      exact bind_eq_failed.mpr (.inl hRun)

/-! ## The move -/

theorem any_noteIf (missing : Bool) (field reason name : String) :
    (noteIf missing field reason).any (·.field == name) = (missing && field == name) := by
  cases missing <;> simp [noteIf]

theorem closeOutUsage_isOk (runs : Runs) (row : ProcessRow) (exit : Option ProcessExit) :
    (∃ usage, closeOutUsage runs row exit = .ok usage) ↔
      row.measured.tokensIn.isNone = row.measured.tokensOut.isNone := by
  have hTokens : (∃ usage, closeOutUsage runs row exit = .ok usage) ↔
      ((closeOutTokens runs row).1.tokensIn.isNone = true →
        (closeOutTokens runs row).2.any (·.field == "tokensIn") = true) ∧
      ((closeOutTokens runs row).1.tokensOut.isNone = true →
        (closeOutTokens runs row).2.any (·.field == "tokensOut") = true) := by
    unfold closeOutUsage
    rw [processUsage_isOk]
    simp only [MeasuredUsage.fields, List.forall_mem_cons, List.any_append, any_noteIf]
    simp +contextual
  rw [hTokens, closeOutTokens]
  cases hIn : row.measured.tokensIn <;> cases hOut : row.measured.tokensOut
  case none.none =>
    cases row.runId with
    | none => simp [hOut]
    | some runId => cases hRun : (runs.lookup runId).join <;> simp [hRun]
  all_goals simp [hIn, hOut]

/-- Whether a row moves: the step is legal, its ledger closes, and the schema takes the exit. -/
def ProcessRow.moveAccepted (row : ProcessRow) (next : ProcessState) (exit : Option ProcessExit) (now : Int) : Bool :=
  row.state.canTransitionTo next &&
    (next != .exited || row.measured.tokensIn.isNone == row.measured.tokensOut.isNone) &&
    decide (0 < now) && (upgradeABudgetKill exit row.signalReason).all ProcessExit.storable

theorem transitionRow_isOk {next exit runs} (hMatch : (next == .exited) = exit.isSome) :
    (∃ moved, transitionRow id next exit now runs row = .ok moved) ↔ row.moveAccepted next exit now = true := by
  have hUsage : (∃ usage, terminalUsage next runs row (upgradeABudgetKill exit row.signalReason) = .ok usage) ↔
      (next != .exited || row.measured.tokensIn.isNone == row.measured.tokensOut.isNone) = true := by
    unfold terminalUsage
    by_cases hNext : next = .exited
    · have hClose := closeOutUsage_isOk runs row (upgradeABudgetKill exit row.signalReason)
      rw [hNext]
      simp only [bne_self_eq_false, Bool.false_or, beq_iff_eq, ← hClose]
      cases closeOutUsage runs row (upgradeABudgetKill exit row.signalReason) <;> simp [Except.map]
    · simp [hNext]
  simp only [transitionRow, sqlCheck, bind_eq_ok, refuseIf_eq_ok, Bool.not_eq_false', ProcessRow.moveAccepted,
    Bool.and_eq_true, ← hUsage]
  constructor
  · rintro ⟨moved, -, hMove, -, -, usage, hClosed, -, ⟨hNow, hExit⟩, -⟩
    exact ⟨⟨⟨hMove, usage, hClosed⟩, hNow⟩, hExit⟩
  · rintro ⟨⟨⟨hMove, usage, hClosed⟩, hNow⟩, hExit⟩
    exact ⟨_, (), hMove, (), by simp [hMatch], usage, hClosed, (), ⟨hNow, hExit⟩, rfl⟩

/-! ## The whole call -/

def proceed (record : ProcessRecord) (isNew : Bool) (proj : ProcessProjection) (now : Int) :
    Call (ProcessRecord × ReconcileOutcome) := do
  fillLoop record.processId now (fillsDue record.row proj)
  settle record isNew proj now

def Completes (row : ProcessRow) (proj : ProcessProjection) (now : Int) (runs : Runs) : Prop :=
  (fillsDue row proj).all (·.accepted now runs) = true ∧
    (row.state = proj.state ∨ row.state.isTerminal = true ∨ row.moveAccepted proj.state proj.exit now = true)

variable {record : ProcessRecord}

theorem proceed_cases (isNew : Bool) (proj : ProcessProjection) (now : Int)
    (hRow : s.rows.lookup record.processId = some record.row) :
    ∃ s', OnlyRow s record.processId (fillAll now s.runs (fillsDue record.row proj) record.row) s' ∧
      (((fillsDue record.row proj).all (·.accepted now s.runs) = true ∧
          proceed record isNew proj now s = settle record isNew proj now s') ∨
        ((fillsDue record.row proj).all (·.accepted now s.runs) = false ∧
          ∃ e, proceed record isNew proj now s = .error e s')) := by
  have hStart : OnlyRow s record.processId record.row s := ⟨rfl, hRow, fun _ _ => rfl⟩
  unfold proceed
  rcases fillLoop_spec now (fillsDue record.row proj) hStart with
    ⟨hAll, s', hRun, hOnly⟩ | ⟨hNot, e, s', hRun, hOnly⟩
  · exact ⟨s', hOnly, .inl ⟨hAll, bind_of_done hRun⟩⟩
  · exact ⟨s', hOnly, .inr ⟨hNot, e, bind_eq_failed.mpr (.inl hRun)⟩⟩

theorem settle_isOk (isNew : Bool) (hMatch : (proj.state == .exited) = proj.exit.isSome)
    (hRow : s.rows.lookup record.processId = some row) (hSame : row.moveAccepted proj.state proj.exit now =
      record.row.moveAccepted proj.state proj.exit now) :
    ((record.row.state = proj.state ∨ record.row.state.isTerminal = true ∨
        record.row.moveAccepted proj.state proj.exit now = true) ∧
      ∃ a s', settle record isNew proj now s = .ok a s') ∨
    (¬ (record.row.state = proj.state ∨ record.row.state.isTerminal = true ∨
        record.row.moveAccepted proj.state proj.exit now = true) ∧
      ∃ e, settle record isNew proj now s = .error e s) := by
  have hMove : (∃ moved, transitionRow record.processId proj.state proj.exit now s.runs row = .ok moved) ↔
      row.moveAccepted proj.state proj.exit now = true := transitionRow_isOk hMatch
  unfold settle
  split
  · next hState => exact .inl ⟨.inl hState, _, _, rfl⟩
  split
  · next hTerminal => exact .inl ⟨.inr (.inl hTerminal), _, _, rfl⟩
  next hState hTerminal =>
  rw [← hSame, ← hMove]
  simp only [hState, hTerminal, false_or, transition, Bind.bind, EStateM.bind, updateRow, hRow]
  cases transitionRow record.processId proj.state proj.exit now s.runs row with
  | ok moved => exact .inl ⟨.inr ⟨moved, rfl⟩, _, _, rfl⟩
  | error e => exact .inr ⟨by simp, _, rfl⟩

theorem proceed_completes (isNew : Bool) (now : Int) (hMatch : (proj.state == .exited) = proj.exit.isSome)
    (hRow : s.rows.lookup record.processId = some record.row) :
    (Completes record.row proj now s.runs ∧ ∃ a s', proceed record isNew proj now s = .ok a s') ∨
    (¬ Completes record.row proj now s.runs ∧ ∃ e s', proceed record isNew proj now s = .error e s' ∧
      OnlyRow s record.processId (fillAll now s.runs (fillsDue record.row proj) record.row) s') := by
  obtain ⟨s', hOnly, ⟨hAll, hRun⟩ | ⟨hNot, e, hRun⟩⟩ := proceed_cases isNew proj now hRow
  · have hSame := fillAll_keeps now s.runs record.row (fillsDue record.row proj)
      (fun row => row.moveAccepted proj.state proj.exit now) (fun fill _ row => by cases fill <;> rfl)
    rw [hRun]
    rcases settle_isOk isNew hMatch hOnly.row hSame with ⟨hMoves, hOk⟩ | ⟨hStays, e, hError⟩
    · exact .inl ⟨⟨hAll, hMoves⟩, hOk⟩
    · exact .inr ⟨fun h => hStays h.2, e, s', hError, hOnly⟩
  · refine .inr ⟨fun h => ?_, e, s', hRun, hOnly⟩
    rw [h.1] at hNot
    cases hNot

theorem reconcile_eq (uuid : String) (now : Int) (hMatch : (proj.state == .exited) = proj.exit.isSome) :
    reconcile uuid proj now =
      findOrAdmit uuid proj now >>= fun found => proceed found.1 found.2 proj now := by
  unfold reconcile
  rw [if_neg (by simp [hMatch])]
  rfl

theorem reconcile_found (hMatch : (proj.state == .exited) = proj.exit.isSome)
    (hFound : s.findByExternalId proj.kind proj.externalId = some record) :
    reconcile uuid proj now s = proceed record false proj now s := by
  have hRun : findOrAdmit uuid proj now s = .ok (record, false) s := by
    unfold findOrAdmit
    rw [bind_read, hFound]
    rfl
  rw [reconcile_eq uuid now hMatch, bind_of_done hRun]

def ProcessProjection.admission (proj : ProcessProjection) (s : Ledger) : AdmitProcess :=
  proj.request (proj.parent.bind fun parent => (s.findByExternalId parent.1 parent.2).map (·.processId))

theorem reconcile_new (hMatch : (proj.state == .exited) = proj.exit.isSome)
    (hNone : s.findByExternalId proj.kind proj.externalId = none) : reconcile uuid proj now s =
      (admitProcess uuid (proj.admission s) now >>= fun record => proceed record true proj now) s := by
  have hRun : findOrAdmit uuid proj now s =
      (admitProcess uuid (proj.admission s) now >>= fun record => pure (record, true)) s := by
    unfold findOrAdmit
    rw [bind_read, hNone]
    rfl
  rw [reconcile_eq uuid now hMatch]
  simp only [Bind.bind, EStateM.bind] at hRun ⊢
  rw [hRun]
  cases admitProcess uuid (proj.admission s) now s <;> rfl

theorem reconcile_mismatch (h : (proj.state == .exited) ≠ proj.exit.isSome) :
    ∃ e, reconcile uuid proj now s = .error e s := by
  unfold reconcile
  rw [if_pos (by simpa using h)]
  exact ⟨_, rfl⟩

end

section

variable {s : Ledger} {uuid : String} {now : Int}

/-- A projection of a live state leaves an exited record as it is exactly if there is nothing that
it fills in first. -/
theorem late_projection_ignored_iff {record : ProcessRecord}
    (hFound : s.findByExternalId proj.kind proj.externalId = some record)
    (hExited : record.row.state = .exited) (hLive : proj.state ≠ .exited) :
    (final (reconcile uuid proj now) s).rows.lookup record.processId = some record.row ↔
      proj.exit.isSome = true ∨ Ignored record.row proj now s.runs := by
  have hRow := lookup_of_findByExternalId hFound
  have hState : (proj.state == .exited) = false := by simpa using hLive
  cases hExit : proj.exit.isSome with
  | true =>
    obtain ⟨e, hRun⟩ : ∃ e, reconcile uuid proj now s = .error e s :=
      reconcile_mismatch (by rw [hState, hExit]; simp)
    simp [final, hRun, hRow]
  | false =>
    obtain ⟨s', hOnly, hRun⟩ := proceed_cases false proj now hRow
    have hFinal : final (reconcile uuid proj now) s = s' := by
      unfold final
      rw [reconcile_found (hState.trans hExit.symm) hFound]
      rcases hRun with ⟨-, hSettle⟩ | ⟨-, e, hError⟩
      · have hStays : record.row.state ≠ proj.state := fun h => hLive (h.symm.trans hExited)
        rw [hSettle, settle, if_neg hStays, if_pos (by rw [hExited]; rfl)]
        rfl
      · rw [hError]
    rw [hFinal, hOnly.row, Option.some.injEq, fillAll_eq_iff]
    simp

/-- The inputs on which `reconcile` either ends well or fails before its first write. -/
def Whole (s : Ledger) (uuid : String) (proj : ProcessProjection) (now : Int) : Prop :=
  (proj.state == .exited) ≠ proj.exit.isSome ∨
    match s.findByExternalId proj.kind proj.externalId with
    | some record => Ignored record.row proj now s.runs ∨ Completes record.row proj now s.runs
    | none =>
      admissible s (proj.admission s) (newProcessId proj.kind uuid) now = .ok () →
        Completes ((proj.admission s).row now) proj now s.runs

variable (s uuid proj now) in
theorem failed_reconcile_unchanged_iff :
    (∀ e s', reconcile uuid proj now s = .error e s' → Unchanged s s') ↔ Whole s uuid proj now := by
  unfold Whole
  by_cases hMatch : (proj.state == .exited) = proj.exit.isSome
  swap
  · obtain ⟨e, hRun⟩ : ∃ e, reconcile uuid proj now s = .error e s := reconcile_mismatch hMatch
    refine iff_of_true (fun e' s' hError => ?_) (.inl hMatch)
    rw [hRun] at hError
    cases hError
    exact ⟨rfl, fun _ => rfl⟩
  simp only [ne_eq, hMatch, not_true, false_or]
  cases hFound : s.findByExternalId proj.kind proj.externalId with
  | some record =>
    have hRow := lookup_of_findByExternalId hFound
    rw [reconcile_found hMatch hFound]
    rcases proceed_completes false now hMatch hRow with ⟨hAll, a, s', hRun⟩ | ⟨hNot, e, s', hRun, hOnly⟩
    · simp [hRun, hAll]
    · simp [hRun, hNot, hOnly.unchanged_iff hRow, fillAll_eq_iff]
  | none =>
    rw [reconcile_new hMatch hFound]
    cases hAdmit : admissible s (proj.admission s) (newProcessId proj.kind uuid) now with
    | error e =>
      have hRun : admitProcess uuid (proj.admission s) now s = .error (.failed e) s := by
        simp only [admitProcess, show (proj.admission s).kind = proj.kind from rfl, hAdmit]
      refine iff_of_true (fun e' s' hError => ?_) (nofun)
      rcases bind_eq_failed.mp hError with hFirst | ⟨_, _, hOk, -⟩
      · rw [hRun] at hFirst
        cases hFirst
        exact ⟨rfl, fun _ => rfl⟩
      · rw [hRun] at hOk
        cases hOk
    | ok u =>
      have hRun : admitProcess uuid (proj.admission s) now s =
          .ok ⟨newProcessId proj.kind uuid, (proj.admission s).row now⟩
            (s.setRow (newProcessId proj.kind uuid) ((proj.admission s).row now)) := by
        simp only [admitProcess, show (proj.admission s).kind = proj.kind from rfl, hAdmit]
      rw [bind_of_done hRun]
      -- The new row is not taken back when what follows fails.
      have hNew := (admissible_ok hAdmit).1
      rcases proceed_completes true now hMatch (lookup_setRow s _ _) with
        ⟨hAll, a, s', hEnd⟩ | ⟨hNot, e, s', hEnd, hOnly⟩
      · exact iff_of_true (fun e' s' hError => by rw [hEnd] at hError; cases hError) fun _ => hAll
      · refine iff_of_false (fun h => ?_) fun h => hNot (h rfl)
        have hSame := (h e s' hEnd).2 (newProcessId proj.kind uuid)
        rw [hOnly.row, hNew] at hSame
        cases hSame

end

/-! Projections of the chat turn. -/

namespace Turn

def projected (state : ProcessState) (pid : Option Int) : ProcessProjection :=
  ⟨.chatTurn, "turn-1", none, state, none, none, none, none, pid, none, ⟨none, none, none, none, none⟩, none, none⟩

def ended : Ledger := runCalls empty finished
def record : ProcessRecord := (ended.findByExternalId .chatTurn "turn-1").getD ⟨id, request.row 1⟩

/-- The turn has exited, and a projection that still sees it running writes its pid. -/
theorem late_pid_written :
    ended.findByExternalId .chatTurn "turn-1" = some record ∧ record.row.state = .exited ∧
      (final (reconcile "1" (projected .running (some 7)) 3) ended).rows.lookup record.processId ≠ some record.row := by
  decide +kernel

theorem late_state_ignored :
    (final (reconcile "1" (projected .running none) 3) ended).rows.lookup record.processId = some record.row :=
  (late_projection_ignored_iff (by decide +kernel) (by decide +kernel) (by decide)).mpr
    (.inr fun _ h => by simp [projected, fillsDue, runDue, identityDue, containmentDue] at h)

/-- A turn that is first seen suspended is admitted, and then the step is refused. -/
theorem failed_reconcile_admits :
    ∃ e s', reconcile "0" (projected .suspended none) 1 empty = .error e s' ∧ ¬ Unchanged empty s' := by
  refine ⟨.failed (.illegalTransition id .admitted .suspended),
    empty.setRow id (((projected .suspended none).admission empty).row 1), rfl, ?_⟩
  rintro ⟨-, hSame⟩
  have hRow := hSame id
  cases hRow

end Turn

end LittleMonkey.Process
