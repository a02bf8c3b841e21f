import LittleMonkey.Lib.Conflicts
import LittleMonkey.Channel.Turns

/-! # One turn, one job

While no two workers have a submission of the same turn in progress, a turn that is
read as pending is still pending when the outcome of its submission is recorded.
Every job of a dedupe key is then the job of the turn that was accepted first, and a
queued turn stays queued.
-/

namespace LittleMonkey.Channel

open Primitives Transaction Interleaving List AList

/-! ## The turn under a key -/

variable (sha : Bytes → Bytes)

/-- What holds of the rows and of what was ever accepted, enqueued and marked. -/
structure TurnsSound (db : TurnDb) : Prop where
  unique : UniqueIndex (fun _ row => some row.ingress.dedupeKey) db.turns
  accepted : ∀ ingress params, (ingress, params) ∈ db.accepted ↔
    ∃ id row, db.turns.lookup id = some row ∧ row.ingress = ingress ∧ row.params = params
  enqueued : ∀ turn ∈ db.enqueued, ∃ ingress, (ingress, turn.params) ∈ db.accepted ∧
    ingress.dedupeKey = turn.dedupeKey ∧ turn.jobId = ingress.deterministicJobId sha ∧
    ingress.execution = some turn.execution
  queued : ∀ id ∈ db.markedQueued, ∃ row, db.turns.lookup id = some row ∧ row.state = .queued

theorem turnsSound_empty (sha : Bytes → Bytes) : TurnsSound sha .empty := by
  constructor
  · exact uniqueIndex_empty
  · intro ingress params
    simp [TurnDb.empty]
  · intro turn hTurn
    cases hTurn
  · intro id hId
    cases hId

section

variable {sha : Bytes → Bytes} {db db' : TurnDb} {id key : String} {row row' : TurnRow}

section

variable (h : TurnsSound sha db)

include h

theorem turnOf_eq_some : db.turnOf key = some (id, row) ↔
      db.turns.lookup id = some row ∧ row.ingress.dedupeKey = key := by
  unfold TurnDb.turnOf
  constructor
  · intro hFound
    obtain ⟨⟨id', row'⟩, hEntry, hPair⟩ := Option.map_eq_some_iff.mp hFound
    cases hPair
    have hKey := List.find?_some hEntry
    exact ⟨mem_lookup_iff.mpr (mem_of_find?_eq_some hEntry), of_decide_eq_true hKey⟩
  · rintro ⟨hRow, hKey⟩
    cases hFind : db.turns.entries.find? fun entry => entry.2.ingress.dedupeKey = key with
    | none =>
      have hNot := List.find?_eq_none.mp hFind ⟨id, row⟩ (mem_lookup_iff.mp hRow)
      simp [hKey] at hNot
    | some entry =>
      obtain ⟨id', row'⟩ := entry
      have hRow' := mem_lookup_iff.mpr (mem_of_find?_eq_some hFind)
      have hKey' := List.find?_some hFind
      have hSame : id' = id := h.unique id' id row' row key hRow' hRow
        (congrArg some (of_decide_eq_true hKey')) (congrArg some hKey)
      subst hSame
      rw [hRow] at hRow'
      cases hRow'
      rfl

theorem turnOf_congr (h' : TurnsSound sha db') (hSame : ∀ id row, row.ingress.dedupeKey = key →
      (db'.turns.lookup id = some row ↔ db.turns.lookup id = some row)) :
    db'.turnOf key = db.turnOf key := by
  apply Option.ext
  rintro ⟨id, row⟩
  rw [turnOf_eq_some h', turnOf_eq_some h]
  constructor
  · rintro ⟨hRow, hKey⟩
    exact ⟨(hSame id row hKey).mp hRow, hKey⟩
  · rintro ⟨hRow, hKey⟩
    exact ⟨(hSame id row hKey).mpr hRow, hKey⟩

theorem TurnsSound.setTurn (hRow : db.turns.lookup id = some row)
    (hIngress : row'.ingress = row.ingress) (hParams : row'.params = row.params) {marked}
    (hMarked : ∀ other ∈ marked, other ∈ db.markedQueued ∨ other = id)
    (hQueued : id ∈ marked → row'.state = .queued) :
    TurnsSound sha { db.setTurn id row' with markedQueued := marked } := by
  constructor
  · exact h.unique.replace hRow (by rw [hIngress])
  · intro ingress params
    change _ ∈ db.accepted ↔ ∃ other found, (db.turns.insert id row').lookup other = some found ∧ _
    rw [h.accepted]
    constructor
    · rintro ⟨other, found, hFound, rfl, rfl⟩
      by_cases hOther : other = id
      · subst hOther
        rw [hRow] at hFound
        cases hFound
        exact ⟨other, row', lookup_insert _, hIngress, hParams⟩
      · exact ⟨other, found, by rw [lookup_insert_ne hOther, hFound], rfl, rfl⟩
    · rintro ⟨other, found, hFound, rfl, rfl⟩
      obtain ⟨rfl, rfl⟩ | ⟨-, hFound⟩ := of_lookup_insert hFound
      · exact ⟨other, row, hRow, hIngress.symm, hParams.symm⟩
      · exact ⟨other, found, hFound, rfl, rfl⟩
  · exact h.enqueued
  · intro other hOther
    change ∃ found, (db.turns.insert id row').lookup other = some found ∧ _
    by_cases hId : other = id
    · subst hId
      exact ⟨row', lookup_insert _, hQueued hOther⟩
    · obtain ⟨found, hFound, hState⟩ := h.queued other ((hMarked other hOther).resolve_right hId)
      exact ⟨found, by rw [lookup_insert_ne hId, hFound], hState⟩

theorem turnOf_setTurn (h' : TurnsSound sha db')
    (hTurns : db'.turns = db.turns.insert id row') (hRow : db.turns.lookup id = some row)
    (hIngress : row'.ingress = row.ingress) {other}
    (hOther : other ≠ row.ingress.dedupeKey) : db'.turnOf other = db.turnOf other := by
  apply turnOf_congr h h'
  intro id' found hKey
  rw [hTurns]
  by_cases hId : id' = id
  · subst hId
    rw [lookup_insert, hRow]
    constructor
    · intro hFound
      cases hFound
      exact absurd (hKey.symm.trans (by rw [hIngress])) hOther
    · intro hFound
      cases hFound
      exact absurd hKey.symm hOther
  · rw [lookup_insert_ne hId]

end

end

/-! ## Statements -/

def OnlyAt (key : String) (db db' : TurnDb) : Prop :=
  ∀ other, other ≠ key → db'.turnOf other = db.turnOf other

def Pending (turn : PendingIngressTurn) (db : TurnDb) : Prop :=
  ∃ row, db.turnOf turn.ingress.dedupeKey = some (turn.ingressId, row) ∧
    row.pending turn.ingressId = some turn

theorem pending_iff {row : TurnRow} {turn id} : row.pending id = some turn ↔
      row.state = .accepted ∧ turn = ⟨id, row.ingress, row.params, row.attempts⟩ := by
  unfold TurnRow.pending
  rw [Option.ite_none_right_eq_some, Option.some.injEq, eq_comm (a := turn)]

/-- A worker on the turns of some keys: who else may change those, and what it may change. -/
structure Covers (R G : TurnDb → TurnDb → Prop) (key : String) : Prop where
  rely : ∀ {db db'}, R db db' → db'.turnOf key = db.turnOf key
  guarantee : ∀ {db db'}, OnlyAt key db db' → G db db'

section

variable {sha : Bytes → Bytes} {R G : TurnDb → TurnDb → Prop} {turn : PendingIngressTurn}
  {F : TurnDb → Prop}
variable {db : TurnDb}

theorem Pending.congr {db db'} (h : Pending turn db)
    (hSame : db'.turnOf turn.ingress.dedupeKey = db.turnOf turn.ingress.dedupeKey) : Pending turn db' := by
  obtain ⟨row, hRow, hPending⟩ := h
  exact ⟨row, hSame.trans hRow, hPending⟩

/-- A statement of the queue: jobs change, and perhaps one is enqueued for the turn. -/
structure JobStep (enqueued : EnqueuedTurn) (db db' : TurnDb) : Prop where
  turns : db'.turns = db.turns
  accepted : db'.accepted = db.accepted
  marked : db'.markedQueued = db.markedQueued
  log : db'.enqueued = db.enqueued ∨ db'.enqueued = db.enqueued ++ [enqueued]

theorem JobStep.refl (enqueued : EnqueuedTurn) (db : TurnDb) : JobStep enqueued db db :=
  ⟨rfl, rfl, rfl, .inl rfl⟩

theorem JobStep.turnOf {enqueued db db'} (h : JobStep enqueued db db')
    (key : String) : db'.turnOf key = db.turnOf key := by
  unfold TurnDb.turnOf
  rw [h.turns]

theorem JobStep.sound {enqueued db db'} (h : JobStep enqueued db db') (hSound : TurnsSound sha db)
    (hGood : ∃ ingress, (ingress, enqueued.params) ∈ db.accepted ∧ ingress.dedupeKey = enqueued.dedupeKey ∧
      enqueued.jobId = ingress.deterministicJobId sha ∧
      ingress.execution = some enqueued.execution) : TurnsSound sha db' := by
  constructor
  · rw [h.turns]
    exact hSound.unique
  · rw [h.turns, h.accepted]
    exact hSound.accepted
  · rw [h.accepted]
    intro other hOther
    rcases h.log with hSame | hNew
    · rw [hSame] at hOther
      exact hSound.enqueued other hOther
    · rw [hNew] at hOther
      rcases mem_append.mp hOther with hOld | hLast
      · exact hSound.enqueued other hOld
      · rw [mem_singleton.mp hLast]
        exact hGood
  · rw [h.turns, h.marked]
    exact hSound.queued

theorem Pending.good (h : Pending turn db) (hSound : TurnsSound sha db)
    {execution : FrozenExecution} (hExecution : turn.ingress.execution = some execution) :
    ∃ ingress, (ingress, turn.params) ∈ db.accepted ∧ ingress.dedupeKey = turn.ingress.dedupeKey ∧
      turn.ingress.deterministicJobId sha = ingress.deterministicJobId sha ∧
      ingress.execution = some execution := by
  obtain ⟨row, hRow, hPending⟩ := h
  obtain ⟨-, hTurn⟩ := pending_iff.mp hPending
  have hLookup := ((turnOf_eq_some hSound).mp hRow).1
  refine ⟨turn.ingress, (hSound.accepted _ _).mpr ⟨turn.ingressId, row, hLookup, ?_, ?_⟩, rfl, rfl,
    hExecution⟩
  · rw [hTurn]
  · rw [hTurn]

abbrev During (sha : Bytes → Bytes) (F : TurnDb → Prop) (turn : PendingIngressTurn)
    (db : TurnDb) : Prop := (TurnsSound sha db ∧ F db) ∧ Pending turn db

section

variable (hCovers : Covers R G turn.ingress.dedupeKey)
  (hF : ∀ {db db'}, OnlyAt turn.ingress.dedupeKey db db' → F db → F db')
  {execution : FrozenExecution} (hExecution : turn.ingress.execution = some execution)

include hCovers hF hExecution

theorem keeps_jobStep {α : Type} {f : TurnDb → Except String α × TurnDb}
    (hStep : ∀ db, JobStep ⟨turn.ingress.dedupeKey, turn.ingress.deterministicJobId sha, execution,
      turn.params⟩ db (f db).2) (db : TurnDb) :
    Keeps (During sha F turn) R G (Prog.statement f) db := by
  apply Keeps.statement
  rintro t r t' - ⟨⟨hSound, hFact⟩, hPending⟩ hRun
  have hStep := hStep t
  rw [hRun] at hStep
  have hOnly : OnlyAt turn.ingress.dedupeKey t t' := fun other _ => hStep.turnOf other
  exact ⟨⟨⟨hStep.sound hSound (hPending.good hSound hExecution), hF hOnly hFact⟩,
    hPending.congr (hStep.turnOf _)⟩, hCovers.guarantee hOnly⟩

theorem keeps_insertPreparing (maxQueue : Nat) (db : TurnDb) :
    Keeps (During sha F turn) R G (insertPreparing ⟨turn.ingress.dedupeKey,
      turn.ingress.deterministicJobId sha, execution, turn.params⟩ maxQueue) db := by
  apply keeps_jobStep hCovers hF hExecution
  intro db
  apply commit_state (.refl _ db)
  intro a db' hBody
  simp only [bind_eq_done, read_eq_ok, require_eq_ok, write_eq_ok] at hBody
  obtain ⟨_, _, ⟨rfl, rfl⟩, _, _, ⟨-, rfl⟩, _, _, ⟨-, rfl⟩, rfl⟩ := hBody
  exact ⟨rfl, rfl, rfl, .inr rfl⟩

theorem keeps_markFailed (jobId : String) (db : TurnDb) : Keeps (During sha F turn) R G (markFailed jobId) db := by
  apply keeps_jobStep hCovers hF hExecution
  intro db
  apply commit_state (.refl _ db)
  intro a db' hBody
  simp only [bind_eq_done, read_eq_ok] at hBody
  obtain ⟨found, _, ⟨-, rfl⟩, hBody⟩ := hBody
  cases found with
  | none => simp at hBody
  | some row =>
    cases write_eq_ok.mp hBody
    exact ⟨rfl, rfl, rfl, .inl rfl⟩

theorem keeps_markQueued (jobId runId : String) (db : TurnDb) :
    Keeps (During sha F turn) R G (markQueued jobId runId) db := by
  apply keeps_jobStep hCovers hF hExecution
  intro db
  apply commit_state (.refl _ db)
  intro a db' hBody
  simp only [bind_eq_done, read_eq_ok] at hBody
  obtain ⟨found, _, ⟨-, rfl⟩, hBody⟩ := hBody
  cases hPreparing : found.filter (·.state == .preparing) with
  | none => simp [hPreparing] at hBody
  | some row =>
    rw [hPreparing] at hBody
    cases write_eq_ok.mp hBody
    exact ⟨rfl, rfl, rfl, .inl rfl⟩

theorem keeps_deleteTerminalJob (jobId : String) (db : TurnDb) :
    Keeps (During sha F turn) R G (deleteTerminalJob jobId) db := by
  apply keeps_jobStep hCovers hF hExecution
  intro db
  dsimp only
  split
  · exact ⟨rfl, rfl, rfl, .inl rfl⟩
  · exact .refl _ db

theorem keeps_enqueueNew (env : QueueEnv) (db : TurnDb) :
    Keeps (During sha F turn) R G (enqueueNew sha env ⟨turn.ingress.dedupeKey,
      turn.ingress.deterministicJobId sha, execution, turn.params⟩) db := by
  apply Keeps.seq (.done _)
  intro _ db
  apply Keeps.seq (.done _)
  intro _ db
  apply Keeps.seq (keeps_insertPreparing hCovers hF hExecution _ db)
  intro _ db
  cases env.submitQueuedSnapshot (turn.ingress.deterministicJobId sha) with
  | error error =>
    exact .seq (keeps_markFailed hCovers hF hExecution _ db) fun _ db => .done _
  | ok runId =>
    exact keeps_markQueued hCovers hF hExecution _ _ db

theorem keeps_submit (env : QueueEnv) (db : TurnDb) :
    Keeps (During sha F turn) R G (submit sha env turn.ingress execution turn.params) db := by
  apply Keeps.seq (.done _)
  intro _ db
  apply Keeps.seq (.done _)
  intro _ db
  apply Keeps.seq (.done _)
  intro _ db
  apply Keeps.seq (keeps_jobStep hCovers hF hExecution (.refl _) db)
  intro existing db
  match existing with
  | some ⟨some _, _⟩ => exact .done _
  | some ⟨none, state⟩ =>
    dsimp only
    split
    · apply Keeps.seq (keeps_deleteTerminalJob hCovers hF hExecution _ db)
      intro _ db
      exact .seq (keeps_enqueueNew hCovers hF hExecution env db) fun _ db => .done _
    · exact .done _
  | none => exact .seq (keeps_enqueueNew hCovers hF hExecution env db) fun _ db => .done _

end

section

variable (hCovers : Covers R G turn.ingress.dedupeKey)
  (hF : ∀ {db db'}, OnlyAt turn.ingress.dedupeKey db db' → F db → F db')
  (hPending : ∀ t, R db t → TurnsSound sha t ∧ F t → Pending turn t)

include hCovers hF hPending

theorem keeps_updateTurn {f : TurnRow → TurnRow} (mark : Bool)
    (hIngress : ∀ row, (f row).ingress = row.ingress) (hParams : ∀ row, (f row).params = row.params)
    (hState : mark = true → ∀ row, (f row).state = .queued) :
    Keeps (fun t => TurnsSound sha t ∧ F t) R G
      (updateTurn turn.ingressId fun db row => { db.setTurn turn.ingressId (f row) with
        markedQueued := if mark then db.markedQueued ++ [turn.ingressId] else db.markedQueued })
      db := by
  apply Keeps.statement
  rintro t r t' hT ⟨hSound, hFact⟩ hRun
  obtain ⟨row, hTurn, hRow⟩ := hPending t hT ⟨hSound, hFact⟩
  obtain ⟨hAccepted, -⟩ := pending_iff.mp hRow
  obtain ⟨hLookup, hKey⟩ := (turnOf_eq_some hSound).mp hTurn
  have hAfter : t' = { t.setTurn turn.ingressId (f row) with
      markedQueued := if mark then t.markedQueued ++ [turn.ingressId] else t.markedQueued } := by
    rcases commit_cases hRun with ⟨_, -, hBody⟩ | ⟨_, _, -, hBody, -⟩
    · simp only [bind_eq_done, read_eq_ok] at hBody
      obtain ⟨_, _, ⟨rfl, rfl⟩, hBody⟩ := hBody
      rw [hLookup] at hBody
      exact (write_eq_ok.mp hBody).symm
    · simp [hLookup] at hBody
  have hNotMarked : turn.ingressId ∉ t.markedQueued := by
    intro hMarked
    obtain ⟨found, hFound, hQueued⟩ := hSound.queued _ hMarked
    rw [hLookup] at hFound
    cases hFound
    rw [hAccepted] at hQueued
    cases hQueued
  have hSound' : TurnsSound sha t' := by
    rw [hAfter]
    apply hSound.setTurn hLookup (hIngress row) (hParams row)
    · intro other hOther
      cases mark with
      | false => exact .inl hOther
      | true => simpa using hOther
    · intro hMarked
      cases mark with
      | false => exact absurd hMarked hNotMarked
      | true => exact hState rfl row
  have hOnly : OnlyAt turn.ingress.dedupeKey t t' := by
    intro other hOther
    apply turnOf_setTurn hSound hSound' (by rw [hAfter]; rfl) hLookup (hIngress row)
    rwa [hKey]
  exact ⟨⟨hSound', hF hOnly hFact⟩, hCovers.guarantee hOnly⟩

theorem keeps_markIngressQueued (jobId : String) (nowMs : Int) :
    Keeps (fun t => TurnsSound sha t ∧ F t) R G (markIngressQueued turn.ingressId jobId nowMs) db :=
  keeps_updateTurn (f := (·.queuedAs jobId nowMs)) hCovers hF hPending true (fun _ => rfl)
    (fun _ => rfl) fun _ _ => rfl

theorem keeps_markIngressSubmitFailed (error : String) (terminal : Bool) (nowMs : Int) :
    Keeps (fun t => TurnsSound sha t ∧ F t) R G
      (markIngressSubmitFailed turn.ingressId error terminal nowMs) db :=
  keeps_updateTurn (f := (·.submitFailed error terminal nowMs)) hCovers hF hPending false
    (fun _ => rfl) (fun _ => rfl) (fun h => nomatch h)

theorem keeps_finishSubmission (env : QueueEnv) (nowMs : Int) :
    Keeps (fun t => TurnsSound sha t ∧ F t) R G (finishSubmission sha env turn nowMs) db := by
  have hStable : ∀ a b, R a b → Pending turn a → Pending turn b := fun _ _ hR h => h.congr (hCovers.rely hR)
  have hAttempt : ∀ {p : TurnFlow Unit} {t : TurnDb},
      Keeps (fun t => TurnsSound sha t ∧ F t) R G p t → ∀ outcome : SubmitOutcome,
      Keeps (fun t => TurnsSound sha t ∧ F t) R G (do
        let _ ← (p.attempt : TurnFlow (Except String Unit))
        pure outcome) t :=
    fun hp outcome => .seq (.attempt hp fun _ _ _ _ => trivial) fun _ _ => .done _
  unfold finishSubmission
  split
  · apply Safe.seq (Q := fun _ t => Pending turn t)
    · apply Safe.statement
      rintro t r t' hT hI hRun
      cases hRun
      refine ⟨hI, hCovers.guarantee fun _ _ => rfl, fun u hU _ => hStable _ _ hU (hPending t hT hI)⟩
    · intro job t hStill
      split
      · exact hAttempt (keeps_markIngressQueued hCovers hF hStill _ nowMs) _
      · exact hAttempt (keeps_markIngressSubmitFailed hCovers hF hStill _ _ nowMs) _
    · exact fun _ _ _ _ => trivial
  next execution hExecution =>
    apply Safe.seq (Q := fun _ t => Pending turn t)
    · have hSubmit := Safe.carrying (R := R) (H := Pending turn) hStable
        (keeps_submit hCovers hF hExecution env db) hPending
      exact hSubmit.attempt fun _ _ _ h => h.2
    · intro answer t hStill
      cases answer with
      | ok jobId => exact hAttempt (keeps_markIngressQueued hCovers hF hStill jobId nowMs) _
      | error error =>
        exact hAttempt (keeps_markIngressSubmitFailed hCovers hF hStill error _ nowMs) _
    · exact fun _ _ _ _ => trivial

end

end

/-! ## Workers and their tags -/

inductive TurnTag
  | turn (dedupeKey : String)
  | recovery

def TurnTag.conflict : TurnTag → TurnTag → Prop
  | .turn a, .turn b => a = b
  | _, _ => True

def TurnTag.rely : TurnTag → TurnDb → TurnDb → Prop
  | .turn key, db, db' => db'.turnOf key = db.turnOf key
  | .recovery, db, db' => ∀ key, db'.turnOf key = db.turnOf key

def TurnTag.guarantee : TurnTag → TurnDb → TurnDb → Prop
  | .turn key, db, db' => OnlyAt key db db'
  | .recovery, _, _ => True

abbrev TurnTag.Upholds {α : Type} (tag : TurnTag) (p : TurnFlow α) (db : TurnDb) : Prop :=
  Keeps (TurnsSound sha) tag.rely tag.guarantee p db

theorem covers_turn (key : String) :
    Covers (TurnTag.turn key).rely (TurnTag.turn key).guarantee key := ⟨id, id⟩

theorem covers_recovery (key : String) : Covers TurnTag.recovery.rely TurnTag.recovery.guarantee key :=
  ⟨fun h => h key, fun _ => trivial⟩

inductive TurnCall
  | submit (sub : Submission)
  | channel (sub : Submission)
  | resume (env : QueueEnv) (dedupeKey : String) (nowMs : Int)
  | recover (env : String → QueueEnv) (nowMs : Int)

def TurnCall.tag : TurnCall → TurnTag
  | .submit sub | .channel sub => .turn sub.ingress.dedupeKey
  | .resume _ dedupeKey _ => .turn dedupeKey
  | .recover _ _ => .recovery

def TurnCall.program : TurnCall → TurnFlow Unit
  | .submit sub => do
    let _ ← submitConversationTurn sha sub
  | .channel sub => do
    let _ ← submitChannelTurn sha sub
  | .resume env dedupeKey nowMs => do
    let _ ← resumeChannelTurn sha env dedupeKey nowMs
  | .recover env nowMs => recoverPendingIngress sha env nowMs

section

variable {sha : Bytes → Bytes}
variable {db : TurnDb} {key id : String}

theorem dedupeKey_freeze {freezeExecution ingress frozen} (h : freeze freezeExecution ingress = .ok frozen) :
    frozen.dedupeKey = ingress.dedupeKey := by
  unfold freeze at h
  split at h
  · cases h
    rfl
  · cases hFreeze : freezeExecution ingress with
    | error e =>
      rw [hFreeze] at h
      cases h
    | ok execution =>
      rw [hFreeze] at h
      cases h
      rfl

def PendingAt (key id : String) (db : TurnDb) : Prop :=
  ∃ turn, Pending turn db ∧ turn.ingressId = id ∧ turn.ingress.dedupeKey = key

theorem PendingAt.congr {db db'} (h : PendingAt key id db)
    (hSame : db'.turnOf key = db.turnOf key) : PendingAt key id db' := by
  obtain ⟨turn, hPending, hId, rfl⟩ := h
  exact ⟨turn, hPending.congr hSame, hId, rfl⟩

theorem TurnsSound.accept (h : TurnsSound sha db) {ingressId ingress} (params : List String) (nowMs : Int)
    (hFresh : db.turnOf ingress.dedupeKey = none) (hFree : db.turns.lookup ingressId = none) :
    TurnsSound sha { db.setTurn ingressId (newTurn ingress params nowMs) with
      accepted := db.accepted ++ [(ingress, params)] } := by
  have hOther : ∀ id row, db.turns.lookup id = some row → id ≠ ingressId := by
    rintro id row hRow rfl
    rw [hFree] at hRow
    cases hRow
  constructor
  · apply h.unique.insert
    intro other found value hFound hValue hKey
    cases hValue
    have hTurn := (turnOf_eq_some h).mpr ⟨hFound, Option.some.inj hKey⟩
    change db.turnOf ingress.dedupeKey = _ at hTurn
    rw [hFresh] at hTurn
    cases hTurn
  · intro ingress' params'
    change _ ∈ db.accepted ++ [(ingress, params)] ↔ ∃ id row,
      (db.turns.insert ingressId (newTurn ingress params nowMs)).lookup id = some row ∧ _
    rw [mem_append, mem_singleton, h.accepted, Prod.mk.injEq]
    constructor
    · rintro (⟨id, row, hRow, rfl, rfl⟩ | ⟨rfl, rfl⟩)
      · exact ⟨id, row, by rw [lookup_insert_ne (hOther id row hRow), hRow], rfl, rfl⟩
      · exact ⟨ingressId, _, lookup_insert _, rfl, rfl⟩
    · rintro ⟨id, row, hRow, rfl, rfl⟩
      obtain ⟨rfl, rfl⟩ | ⟨-, hRow⟩ := of_lookup_insert hRow
      · exact .inr ⟨rfl, rfl⟩
      · exact .inl ⟨id, row, hRow, rfl, rfl⟩
  · intro turn hTurn
    obtain ⟨found, hFound, hRest⟩ := h.enqueued turn hTurn
    exact ⟨found, mem_append_left _ hFound, hRest⟩
  · intro id hId
    obtain ⟨row, hRow, hState⟩ := h.queued id hId
    refine ⟨row, ?_, hState⟩
    change (db.turns.insert ingressId _).lookup id = some row
    rw [lookup_insert_ne (hOther id row hRow), hRow]

theorem pending_of_lookup (h : TurnsSound sha db) {id : String} {row}
    (hRow : db.turns.lookup id = some row) (hAccepted : row.state = .accepted) :
    Pending ⟨id, row.ingress, row.params, row.attempts⟩ db :=
  ⟨row, (turnOf_eq_some h).mpr ⟨hRow, rfl⟩, pending_iff.mpr ⟨hAccepted, rfl⟩⟩

def AfterAccept (ingress : ConversationIngress) (params : List String) :
    Except String IngressAcceptance → TurnDb → Prop
  | .ok (.accepted id), db => Pending ⟨id, ingress, params, 0⟩ db
  | .ok (.existing id state _), db => state = .accepted → PendingAt ingress.dedupeKey id db
  | .error _, _ => True

theorem safe_acceptIngressTurn (ingressId : String) (ingress : ConversationIngress)
    (params : List String) (nowMs : Int) (db : TurnDb) :
    Safe (TurnsSound sha) (TurnTag.turn ingress.dedupeKey).rely
      (TurnTag.turn ingress.dedupeKey).guarantee (AfterAccept ingress params)
      (acceptIngressTurn ingressId ingress params nowMs) db := by
  apply Safe.statement
  rintro t r t' - hSound hRun
  rcases commit_cases hRun with ⟨acceptance, rfl, hBody⟩ | ⟨e, _, rfl, -, rfl⟩
  · rcases insertIngressTurn_cases hBody with ⟨id, row, hTurn, rfl, rfl⟩ | ⟨hTurn, hFree, rfl, rfl⟩
    · refine ⟨hSound, fun _ _ => rfl, fun u hU _ hAccepted => ?_⟩
      obtain ⟨hRow, hKey⟩ := (turnOf_eq_some hSound).mp hTurn
      exact .congr ⟨_, pending_of_lookup hSound hRow hAccepted, rfl, hKey⟩ hU
    · have hAfter := hSound.accept params nowMs hTurn hFree
      refine ⟨hAfter, fun other hOther => ?_, fun u hU _ => ?_⟩
      · apply turnOf_congr hSound hAfter
        intro id row hKey
        change (t.turns.insert ingressId _).lookup id = some row ↔ _
        by_cases hId : id = ingressId
        · subst hId
          rw [lookup_insert, hFree]
          constructor
          · intro hRow
            cases hRow
            exact absurd hKey.symm hOther
          · intro hRow
            cases hRow
        · rw [lookup_insert_ne hId]
      · have hRow : ({ t.setTurn ingressId (newTurn ingress params nowMs) with
            accepted := t.accepted ++ [(ingress, params)] } : TurnDb).turns.lookup ingressId =
              some (newTurn ingress params nowMs) := lookup_insert _
        exact (pending_of_lookup hAfter hRow rfl).congr hU
  · exact ⟨hSound, fun _ _ => rfl, fun _ _ _ => trivial⟩

theorem keeps_pendingIngressTurn {f : Option PendingIngressTurn → TurnFlow SubmitOutcome}
    (h : ∀ t, (TurnTag.turn key).rely db t → TurnsSound sha t → PendingAt key id t)
    (hf : ∀ turn t, turn.ingress.dedupeKey = key → Pending turn t →
      (TurnTag.turn key).Upholds sha (f (some turn)) t) :
    (TurnTag.turn key).Upholds sha (pendingIngressTurn id >>= f) db := by
  intro t hT hSound
  obtain ⟨turn, hPending, rfl, hKey⟩ := h t hT hSound
  refine ⟨hSound, fun _ _ => rfl, ?_⟩
  obtain ⟨row, hTurn, hRow⟩ := id hPending
  have hRead : (t.turns.lookup turn.ingressId).bind (·.pending turn.ingressId) = some turn := by
    rw [((turnOf_eq_some hSound).mp hTurn).1]
    exact hRow
  change Keeps _ _ _ (f ((t.turns.lookup turn.ingressId).bind _)) t
  rw [hRead]
  exact hf turn t hKey hPending

theorem keeps_finishPending (turn : PendingIngressTurn) {key} (hKey : turn.ingress.dedupeKey = key)
    (hPending : ∀ t, (TurnTag.turn key).rely db t → TurnsSound sha t → Pending turn t)
    (env : QueueEnv) (nowMs : Int) :
    (TurnTag.turn key).Upholds sha (finishSubmission sha env turn nowMs) db := by
  subst hKey
  have hFinish : Keeps (fun t => TurnsSound sha t ∧ True) (TurnTag.turn _).rely
      (TurnTag.turn _).guarantee (finishSubmission sha env turn nowMs) db :=
    keeps_finishSubmission (covers_turn turn.ingress.dedupeKey) (fun _ h => h)
      (fun t hT hI => hPending t hT hI.1) env nowMs
  apply Safe.mono (.carrying (fun _ _ _ h => h) hFinish fun _ _ _ => trivial)
  exact fun _ _ _ _ => trivial

theorem keeps_resumed (f : Option PendingIngressTurn → TurnFlow SubmitOutcome)
    (h : ∀ t, (TurnTag.turn key).rely db t → TurnsSound sha t → PendingAt key id t) {env : QueueEnv} {nowMs}
    (hf : ∀ turn, f (some turn) = finishSubmission sha env turn nowMs) :
    (TurnTag.turn key).Upholds sha (pendingIngressTurn id >>= f) db := by
  apply keeps_pendingIngressTurn h
  intro turn t hKey hPending
  rw [hf turn]
  apply keeps_finishPending turn hKey
  intro u hU _
  rw [← hKey] at hU
  exact hPending.congr hU

theorem keeps_submitted (sub : Submission) (viaChannel : Bool) (db : TurnDb) :
    (TurnTag.turn sub.ingress.dedupeKey).Upholds sha
      (bif viaChannel then submitChannelTurn sha sub else submitConversationTurn sha sub) db := by
  -- The two differ in what they answer for a turn that is not pending any more.
  cases viaChannel
  all_goals
    apply Keeps.ofExcept
    intro _ _
    apply Keeps.ofExcept
    intro ingress hFrozen
    rw [← dedupeKey_freeze hFrozen]
    apply Safe.seq (safe_acceptIngressTurn _ ingress sub.params _ db)
    · intro acceptance t hAfter
      cases acceptance with
      | accepted id => exact keeps_finishPending ⟨id, ingress, sub.params, 0⟩ rfl hAfter _ _
      | existing id state jobId =>
        dsimp only
        split
        next hAccepted =>
          exact keeps_resumed _ (fun u hU hSound => hAfter u hU hSound hAccepted) fun _ => rfl
        · exact Keeps.done _
    · exact fun _ _ _ _ => trivial

theorem keeps_resumeChannelTurn (env : QueueEnv) (key : String) (nowMs : Int) (db : TurnDb) :
    (TurnTag.turn key).Upholds sha (resumeChannelTurn sha env key nowMs) db := by
  apply Safe.inspect fun _ _ _ => rfl
  intro t _ hSound
  cases hTurn : t.turnOf key with
  | none => exact Keeps.done _
  | some found =>
    obtain ⟨id, row⟩ := found
    have hStill : ∀ u, (TurnTag.turn key).rely t u → TurnsSound sha u →
        u.turns.lookup id = some row ∧ row.ingress.dedupeKey = key :=
      fun u hU hSound' => (turnOf_eq_some hSound').mp (Eq.trans hU hTurn)
    by_cases hAccepted : row.state = .accepted
    · apply keeps_resumed _ _ fun _ => rfl
      intro u hU hSound'
      obtain ⟨hRow, hKey⟩ := hStill u hU hSound'
      exact ⟨_, pending_of_lookup hSound' hRow hAccepted, rfl, hKey⟩
    · apply Safe.inspect fun _ _ _ => rfl
      intro u hU hSound'
      have hNone : (u.turns.lookup id).bind (·.pending id) = none := by
        rw [(hStill u hU hSound').1]
        simp [TurnRow.pending, hAccepted]
      rw [hNone]
      exact Keeps.done _

/-! ### Recovery -/

theorem pending_of_mem (h : TurnsSound sha db) {limit : Nat}
    {turn} (hTurn : turn ∈ db.pendingTurns limit) : Pending turn db := by
  obtain ⟨⟨id, row⟩, hEntry, hPending⟩ := mem_filterMap.mp (mem_of_mem_take hTurn)
  have hRow := mem_lookup_iff.mpr ((perm_insertionSort _ _).mem_iff.mp hEntry)
  obtain ⟨hAccepted, rfl⟩ := pending_iff.mp hPending
  exact pending_of_lookup h hRow hAccepted

theorem pendingTurns_pairwise_id (db : TurnDb) (limit : Nat) :
    (db.pendingTurns limit).Pairwise (·.ingressId ≠ ·.ingressId) := by
  have hEntries : db.turns.entries.Pairwise (·.1 ≠ ·.1) := pairwise_map.mp db.turns.nodupKeys
  have hSorted := (perm_insertionSort (fun a b : Sigma fun _ : String => TurnRow =>
    a.2.createdAtMs ≤ b.2.createdAtMs) db.turns.entries).pairwise_iff (.symm)
      |>.mpr hEntries
  apply List.Pairwise.sublist (take_sublist _ _)
  apply pairwise_filterMap.mpr
  refine hSorted.imp fun {a b} hNe turn hTurn other hOther => ?_
  rw [(pending_iff.mp hTurn).2, (pending_iff.mp hOther).2]
  exact hNe

theorem pendingTurns_pairwise_key (h : TurnsSound sha db) (limit : Nat) :
    (db.pendingTurns limit).Pairwise (·.ingress.dedupeKey ≠ ·.ingress.dedupeKey) := by
  apply (pendingTurns_pairwise_id db limit).imp_of_mem
  intro a b ha hb hNe hKey
  obtain ⟨rowA, hA, -⟩ := pending_of_mem h ha
  obtain ⟨rowB, hB, -⟩ := pending_of_mem h hb
  rw [hKey, hB] at hA
  exact hNe (congrArg Prod.fst (Option.some.inj hA)).symm

theorem keeps_recoverEach (env : String → QueueEnv) (nowMs : Int) (turns : List PendingIngressTurn)
    (db : TurnDb) (hKeys : turns.Pairwise (·.ingress.dedupeKey ≠ ·.ingress.dedupeKey))
    (hPending : ∀ t, TurnTag.recovery.rely db t → TurnsSound sha t → ∀ turn ∈ turns, Pending turn t) :
    Keeps (TurnsSound sha) TurnTag.recovery.rely TurnTag.recovery.guarantee (Prog.forEach (fun turn => do
        let _ ← finishSubmission sha (env turn.ingressId) turn nowMs) turns) db := by
  induction turns generalizing db with
  | nil => exact .done _
  | cons turn rest ih =>
    obtain ⟨hFirst, hRest⟩ := pairwise_cons.mp hKeys
    let Later : TurnDb → Prop := fun t => ∀ other ∈ rest, Pending other t
    have hOnly : ∀ {a b : TurnDb}, OnlyAt turn.ingress.dedupeKey a b → Later a → Later b := by
      intro a b hab hLater other hOther
      exact (hLater other hOther).congr (hab _ (hFirst other hOther).symm)
    have hStable : ∀ a b, TurnTag.recovery.rely a b → Later a → Later b :=
      fun a b hab hLater other hOther => (hLater other hOther).congr (hab _)
    have hFinish : Keeps (fun t => TurnsSound sha t ∧ Later t) TurnTag.recovery.rely
        TurnTag.recovery.guarantee (finishSubmission sha (env turn.ingressId) turn nowMs) db :=
      keeps_finishSubmission (covers_recovery _) hOnly
        (fun t hT hI => hPending t hT hI.1 turn mem_cons_self) _ _
    apply Safe.seq (Safe.carrying hStable (Keeps.seq hFinish fun _ _ => Keeps.done _) ?_)
    · intro _ t hAfter
      exact ih t hRest fun u hU hSound => (hAfter u hU hSound).2
    · exact fun _ _ _ _ => trivial
    · intro t hT hSound other hOther
      exact hPending t hT hSound other (mem_cons_of_mem turn hOther)

theorem keeps_recoverPendingIngress (env : String → QueueEnv) (nowMs : Int) (db : TurnDb) :
    Keeps (TurnsSound sha) TurnTag.recovery.rely TurnTag.recovery.guarantee
      (recoverPendingIngress sha env nowMs) db := by
  intro t _ hSound
  refine ⟨hSound, trivial, ?_⟩
  apply keeps_recoverEach env nowMs (t.pendingTurns recoveryBatch) t
    (pendingTurns_pairwise_key hSound recoveryBatch)
  intro u hU _ turn hTurn
  exact (pending_of_mem hSound hTurn).congr (hU _)

theorem keeps_program (call : TurnCall) (db : TurnDb) :
    Keeps (TurnsSound sha) call.tag.rely call.tag.guarantee (call.program sha) db := by
  cases call with
  | submit sub =>
    exact .seq (keeps_submitted sub false db) fun _ _ => .done _
  | channel sub =>
    exact .seq (keeps_submitted sub true db) fun _ _ => .done _
  | resume env dedupeKey nowMs =>
    exact .seq (keeps_resumeChannelTurn env dedupeKey nowMs db) fun _ _ => .done _
  | recover env nowMs => exact keeps_recoverPendingIngress env nowMs db

end

/-! ## Runs -/

def Serves (tag : TurnTag) (p : TurnFlow Unit) : Prop :=
  ∃ call : TurnCall, call.tag = tag ∧ p = call.program sha

/-- Workers begin at any time, interleave their statements and stop anywhere. -/
def Anyhow (_ : Pool String TurnDb Unit) :
    Move String TurnDb Unit → Prop
  | .spawn p => ∃ call : TurnCall, p = call.program sha
  | .act _ | .stop _ => True

/-- A submission begins only when no other submission of its turn, and no recovery pass, is in
progress, and a recovery pass only when nothing is. -/
def OneAtATime (pool : Pool String TurnDb Unit) :
    Move String TurnDb Unit → Prop
  | .spawn p => ∃ call : TurnCall, p = call.program sha ∧
      Clear (Serves sha) TurnTag.conflict pool call.tag
  | .act _ | .stop _ => True

theorem conflict_symm (a b : TurnTag) (h : a.conflict b) : b.conflict a := by
  cases a with
  | recovery => cases b <;> trivial
  | turn key =>
    cases b with
    | recovery => trivial
    | turn other => exact Eq.symm h

theorem rely_of_guarantee (a b : TurnTag) (db db' : TurnDb) (h : ¬ a.conflict b)
    (hGuarantee : a.guarantee db db') : b.rely db db' := by
  cases a with
  | recovery => exact absurd trivial h
  | turn key =>
    cases b with
    | recovery => exact absurd trivial h
    | turn other => exact hGuarantee other fun hKey => h hKey.symm

theorem turnsSound_of_arises {sha pool}
    (h : Arises (OneAtATime sha) .empty pool) : TurnsSound sha pool.state := by
  have hSpawn : ∀ (pool : Pool String TurnDb Unit) p, TurnsSound sha pool.state →
      OneAtATime sha pool (.spawn p) → ∃ a, Serves sha a p ∧ Clear (Serves sha) TurnTag.conflict pool a ∧
        Keeps (TurnsSound sha) a.rely a.guarantee p pool.state := by
    rintro pool p hSound ⟨call, rfl, hClear⟩
    exact ⟨call.tag, ⟨call, rfl, rfl⟩, hClear, keeps_program call pool.state⟩
  refine (Arises.tame (R := TurnTag.rely) (G := TurnTag.guarantee) conflict_symm ?_ ?_
    rely_of_guarantee (turnsSound_empty sha) hSpawn h).1
  · intro a db
    cases a with
    | turn key => exact rfl
    | recovery => exact fun _ => rfl
  · intro a s t u hst htu
    cases a with
    | turn key => exact Eq.trans htu hst
    | recovery => exact fun key => (htu key).trans (hst key)

theorem TurnsSound.accepted_eq {sha db} (h : TurnsSound sha db)
    {a b} (ha : a ∈ db.accepted) (hb : b ∈ db.accepted) (hKey : a.1.dedupeKey = b.1.dedupeKey) : a = b := by
  obtain ⟨idA, rowA, hA, hIngressA, hParamsA⟩ := (h.accepted a.1 a.2).mp ha
  obtain ⟨idB, rowB, hB, hIngressB, hParamsB⟩ := (h.accepted b.1 b.2).mp hb
  have hSame : idA = idB := by
    apply h.unique idA idB rowA rowB b.1.dedupeKey hA hB
    · simp only [hIngressA, hKey]
    · simp only [hIngressB]
  subst hSame
  rw [hA] at hB
  cases hB
  rw [Prod.ext_iff]
  exact ⟨hIngressA.symm.trans hIngressB, hParamsA.symm.trans hParamsB⟩

/-- In every run in which no two submissions of a turn are in progress together: the jobs
enqueued for a dedupe key have one id, each runs the context and the parameters of the one
acceptance of that key, and a turn that was marked as queued is queued. -/
theorem one_turn_one_job {sha : Bytes → Bytes} {pool : Pool String TurnDb Unit}
    (h : Arises (OneAtATime sha) .empty pool) :
    (∀ a ∈ pool.state.enqueued, ∀ b ∈ pool.state.enqueued, a.dedupeKey = b.dedupeKey → a.jobId = b.jobId) ∧
    (∀ turn ∈ pool.state.enqueued, ∃ ingress, ingress.execution = some turn.execution ∧
      ∀ accepted, accepted ∈ pool.state.accepted ∧ accepted.1.dedupeKey = turn.dedupeKey ↔
        accepted = (ingress, turn.params)) ∧
    ∀ id ∈ pool.state.markedQueued, ∃ row, pool.state.turns.lookup id = some row ∧ row.state = .queued := by
  have hSound := turnsSound_of_arises h
  refine ⟨fun a ha b hb hKey => ?_, fun turn hTurn => ?_, hSound.queued⟩
  · obtain ⟨ingressA, hA, hKeyA, hJobA, -⟩ := hSound.enqueued a ha
    obtain ⟨ingressB, hB, hKeyB, hJobB, -⟩ := hSound.enqueued b hb
    have hSame := hSound.accepted_eq hA hB (hKeyA.trans (hKey.trans hKeyB.symm))
    have hIngress : ingressA = ingressB := congrArg Prod.fst hSame
    rw [hJobA, hJobB, hIngress]
  · obtain ⟨ingress, hAccepted, hKey, -, hExecution⟩ := hSound.enqueued turn hTurn
    refine ⟨ingress, hExecution, fun accepted => ⟨fun hOther => ?_, ?_⟩⟩
    · exact hSound.accepted_eq hOther.1 hAccepted (hOther.2.trans hKey.symm)
    · rintro rfl
      exact ⟨hAccepted, hKey⟩

/-! ### A message delivered more than once -/

/-- SHA-256 at the recipe `{}` and at the job keys of the turn under two routes. -/
def turnDigest (bytes : Bytes) : Bytes :=
  if bytes = textBytes "messaging_channel:acct:42" ++ [0] ++ textBytes "chat-v1" then
    [37, 164, 95, 121, 82, 204, 222, 56, 103, 8, 24, 194, 146, 190, 132, 119, 61, 120, 127, 201, 77, 22, 189, 88, 48, 181, 240, 228, 145, 28, 73, 14]
  else if bytes = textBytes "messaging_channel:acct:42" ++ [0] ++ textBytes "chat-v2" then
    [239, 97, 52, 25, 64, 10, 234, 177, 210, 147, 22, 139, 107, 237, 207, 214, 232, 234, 181, 193, 88, 216, 191, 37, 22, 227, 208, 224, 226, 183, 252, 63]
  else [104, 233, 232, 107, 105, 38, 204, 43, 55, 223, 150, 181, 230, 27, 184, 202, 189, 171, 39, 98, 114, 187, 115, 246, 118, 126, 66, 12, 62, 173, 6, 99]

def frozenUnder (routeDigest : String) : FrozenExecution where
  recipeRef := "chat"
  recipeJson := "\x7b\x7d"
  recipeDigest := "68e9e86b6926cc2b37df96b5e61bb8cabdab276272bb73f6767e420c3ead0663"
  recipeSourcePath := none
  workspacePath := none
  modelTarget := "local"
  permissionMode := "ask"
  credentialRef := none
  routeId := some "chat"
  routeDigest := routeDigest
  digest := routeDigest

def delivery42 (routeDigest : String) : ConversationIngress :=
  ⟨.messagingChannel, "acct", "42", "session", "hello", [], routeDigest, some (frozenUnder routeDigest)⟩

def queueOf (refusal : Option String) : QueueEnv :=
  ⟨none, false, refusal, 8, fun _ _ => .ok (), fun jobId => .ok ("run-" ++ jobId)⟩

def delivered (routeDigest ingressId : String) (refusal : Option String) (nowMs : Int) : TurnCall :=
  .submit ⟨delivery42 routeDigest, ["hello"], ingressId, fun _ => .error "unresolved", queueOf refusal, nowMs⟩

/-- The queue refuses the first delivery; the second one comes after the route was changed. -/
def deferredPool : Pool String TurnDb Unit :=
  let first := ((delivered "chat-v1" "turn-a" (some "Daemon queue is full") 1).program turnDigest).run
    .empty
  let second := ((delivered "chat-v2" "turn-b" none 2).program turnDigest).run first.2
  ⟨second.2, [.done first.1, .done second.1]⟩

theorem deferredPool_arises : Arises (OneAtATime turnDigest) .empty deferredPool := by
  have hAct : ∀ pool i, OneAtATime turnDigest pool (.act i) := fun _ _ => trivial
  have hStart : Arises (OneAtATime turnDigest) .empty ⟨.empty, []⟩ := .start
  have hFirst := hStart.alone hAct
    ⟨delivered "chat-v1" "turn-a" (some "Daemon queue is full") 1, rfl, nofun⟩
  refine hFirst.alone hAct ⟨delivered "chat-v2" "turn-b" none 2, rfl, fun worker hWorker hBusy => ?_⟩
  rw [nil_append, mem_singleton] at hWorker
  subst hWorker
  exact hBusy.elim

/-- The second delivery runs what was frozen at the first one. -/
theorem deferred_turn_one_job : deferredPool.state.enqueued = [⟨"messaging_channel:acct:42",
      "ingress-25a45f7952ccde38670818c292be8477", frozenUnder "chat-v1", ["hello"]⟩] ∧
    ∃ row, deferredPool.state.turns.lookup "turn-a" = some row ∧ row.state = .queued :=
  ⟨by decide +kernel, (one_turn_one_job deferredPool_arises).2.2 "turn-a" (by decide +kernel)⟩

def racingCalls : List TurnCall :=
  [delivered "chat-v1" "turn-a" none 1, delivered "chat-v2" "turn-b" none 2,
    delivered "chat-v1" "turn-c" (some "Daemon queue is full") 3]

/-- All three find the turn accepted.  The first one queues it before the second one reads
what is pending, and the third one reads that before and is refused after. -/
def racingMoves : List (Move String TurnDb Unit) :=
  racingCalls.map (fun call => .spawn (call.program turnDigest)) ++
    [0, 1, 2, 2, 0, 0, 0, 0, 1, 1, 1, 1, 1, 2].map .act

def racingPool : Pool String TurnDb Unit :=
  (Pool.play ⟨.empty, []⟩ racingMoves).getD ⟨.empty, []⟩

theorem racingPool_arises : Arises (Anyhow turnDigest) .empty racingPool := by
  have hPlayed : (Pool.play ⟨TurnDb.empty, []⟩ racingMoves).isSome = true := by decide +kernel
  obtain ⟨pool, hPool⟩ := Option.isSome_iff_exists.mp hPlayed
  rw [racingPool, hPool]
  refine Arises.start.play ?_ hPool
  intro pool move hMove
  rcases mem_append.mp hMove with hSpawn | hAct
  · obtain ⟨call, -, rfl⟩ := mem_map.mp hSpawn
    exact ⟨call, rfl⟩
  · obtain ⟨worker, -, rfl⟩ := mem_map.mp hAct
    trivial

/-- The turn has two jobs, the second one under a context it was never accepted with, and it
is accepted again after it was queued. -/
theorem racing_deliveries_two_jobs : Arises (Anyhow turnDigest) .empty racingPool ∧
    racingPool.state.accepted = [(delivery42 "chat-v1", ["hello"])] ∧ racingPool.state.enqueued =
      [⟨"messaging_channel:acct:42", "ingress-25a45f7952ccde38670818c292be8477",
          frozenUnder "chat-v1", ["hello"]⟩,
        ⟨"messaging_channel:acct:42", "ingress-ef613419400aeab1d293168b6bedcfd6",
          frozenUnder "chat-v2", ["hello"]⟩] ∧
    "turn-a" ∈ racingPool.state.markedQueued ∧
    (racingPool.state.turns.lookup "turn-a").map (·.state) = some .accepted :=
  ⟨racingPool_arises, by decide +kernel⟩

end LittleMonkey.Channel
