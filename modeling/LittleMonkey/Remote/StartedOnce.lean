import LittleMonkey.Remote.DeviceCommands

/-! # A device command is started once

No statement of the queue takes a command that has run, or has ended, back to
`queued` or `leased`, and no statement removes a row.  The guarded update of
`start_device_command` is then the only way to the answer that lets a device act,
and it can be passed once.
-/

namespace LittleMonkey.Remote

open Primitives Guards Transaction Interleaving List

/-! ## What every statement keeps -/

/-- The row stays of its invocation, and once it has left the queue it stays out. -/
structure Calm (row row' : ActionRow) : Prop where
  invocation : row'.invocationId = row.invocationId
  settled : row.waiting = false → row'.waiting = false

theorem Calm.refl (row : ActionRow) : Calm row row := ⟨rfl, id⟩

theorem Calm.trans {a b c} (hab : Calm a b) (hbc : Calm b c) : Calm a c :=
  ⟨hbc.invocation.trans hab.invocation, fun h => hbc.settled (hab.settled h)⟩

def Grows (db db' : RemoteDb) : Prop :=
  ∀ id row, db.actions.lookup id = some row → ∃ row', db'.actions.lookup id = some row' ∧ Calm row row'

theorem Grows.refl (db : RemoteDb) : Grows db db := fun _ row h => ⟨row, h, .refl row⟩

theorem Grows.trans {a b c} (hab : Grows a b) (hbc : Grows b c) : Grows a c := by
  intro id row hRow
  obtain ⟨row', hRow', hCalm⟩ := hab id row hRow
  obtain ⟨row'', hRow'', hCalm'⟩ := hbc id row' hRow'
  exact ⟨row'', hRow'', hCalm.trans hCalm'⟩

theorem grows_interference : Interference Grows Grows := ⟨.refl, .trans, id, .trans⟩

/-- The inserts so far are the rows, one for an id and one for an invocation. -/
structure Listed (db : RemoteDb) : Prop where
  listed : ∀ id invocation, (id, invocation) ∈ db.inserted ↔
    ∃ row, db.actions.lookup id = some row ∧ row.invocationId = invocation
  distinct : db.inserted.Pairwise fun a b => a.1 ≠ b.1 ∧ (a.2.isSome → a.2 ≠ b.2)

theorem listed_empty : Listed .empty := by
  constructor
  · intro id invocation
    simp [RemoteDb.empty]
  · exact .nil

abbrev Queue {α : Type} (p : Flow α) : Prop := ∀ db, Keeps Listed Grows Grows p db

theorem Queue.done {α : Type} (r : Except String α) : Queue (Prog.done r : Flow α) :=
  fun _ => .done r

theorem Queue.bind {α β : Type} {p} {f : α → Flow β} (hp : Queue p)
    (hf : ∀ a, Queue (f a)) : Queue (p >>= f) :=
  fun db => .bind grows_interference (hp db) fun a db' _ => hf a db'

theorem Queue.elsewhere {α : Type} {f : RemoteDb → Except String α × RemoteDb}
    (hActions : ∀ db, (f db).2.actions = db.actions)
    (hInserted : ∀ db, (f db).2.inserted = db.inserted) : Queue (Prog.statement f) := by
  intro db
  apply Keeps.statement
  rintro t r t' - hListed hRun
  have hActions := hActions t
  have hInserted := hInserted t
  rw [hRun] at hActions hInserted
  constructor
  · constructor
    · rw [hActions, hInserted]
      exact hListed.listed
    · rw [hInserted]
      exact hListed.distinct
  · intro id row hRow
    exact ⟨row, hActions ▸ hRow, .refl row⟩

theorem Queue.read {α : Type} (f : RemoteDb → α) : Queue (Prog.read f) :=
  .elsewhere (fun _ => rfl) fun _ => rfl

theorem queue_audit (nowMs : Nat) (dev : Option String) (action : String)
    (target : Option String) (outcome : String) (requestSha256 : Option String) :
    Queue (audit nowMs dev action target outcome requestSha256) := by
  apply Queue.bind (.done _)
  intro now
  exact .elsewhere (fun _ => rfl) fun _ => rfl

/-! ### Updates -/

theorem RemoteDb.lookup_update (db : RemoteDb) (found : String → ActionRow → Bool)
    (set : ActionRow → ActionRow) (id : String) : (db.update found set).actions.lookup id =
      (db.actions.lookup id).map fun row => if found id row then set row else row :=
  lookup_updateRows _ _ _ _

theorem RemoteDb.update_keeps {db} (hListed : Listed db) {found set}
    (h : ∀ id row, db.actions.lookup id = some row → found id row = true → Calm row (set row)) :
    Listed (db.update found set) ∧ Grows db (db.update found set) := by
  have hCalm : ∀ id row, db.actions.lookup id = some row →
      Calm row (if found id row then set row else row) := by
    intro id row hRow
    split
    next hFound =>
      exact h id row hRow hFound
    · exact .refl row
  constructor
  · refine ⟨fun id invocation => ?_, hListed.distinct⟩
    change (id, invocation) ∈ db.inserted ↔ _
    rw [hListed.listed, lookup_update]
    constructor
    · rintro ⟨row, hRow, rfl⟩
      rw [hRow]
      exact ⟨_, rfl, (hCalm id row hRow).invocation⟩
    · rintro ⟨row', hRow', rfl⟩
      obtain ⟨row, hRow, rfl⟩ := Option.map_eq_some_iff.mp hRow'
      exact ⟨row, hRow, (hCalm id row hRow).invocation.symm⟩
  · intro id row hRow
    rw [lookup_update, hRow]
    exact ⟨_, rfl, hCalm id row hRow⟩

theorem queue_updateWhere {found set}
    (h : ∀ id row, found id row = true → Calm row (set row)) : Queue (updateWhere found set) := by
  intro db
  apply Keeps.statement
  rintro t r t' - hListed hRun
  cases hRun
  exact RemoteDb.update_keeps hListed fun id row _ => h id row

theorem calm_of_waiting {row row'} (hWaiting : row.waiting = true)
    (hInvocation : row'.invocationId = row.invocationId) : Calm row row' := by
  refine ⟨hInvocation, fun h => ?_⟩
  rw [hWaiting] at h
  cases h

theorem calm_of_settled {row row'} (hSettled : row'.waiting = false)
    (hInvocation : row'.invocationId = row.invocationId) : Calm row row' :=
  ⟨hInvocation, fun _ => hSettled⟩

theorem waiting_of_terminal {row : ActionRow} (h : row.state.terminal = true) : row.waiting = false := by
  cases hState : row.state <;> simp [hState, DeviceCommandState.terminal] at h <;>
    simp [ActionRow.waiting, hState]

theorem calm_close (row : ActionRow) {state : DeviceCommandState} (h : state.terminal = true)
    (now : Nat) (error : String) : Calm row (row.close state now error) :=
  calm_of_settled (waiting_of_terminal h) rfl

/-! ### Inserts -/

theorem RemoteDb.violation_eq_none {db : RemoteDb} {cid row} (h : db.violation cid row = none) :
    db.actions.lookup cid = none ∧ db.invoked row.invocationId = false := by
  unfold violation at h
  split at h
  · cases h
  · split at h
    · cases h
    next hKey =>
      split at h
      · cases h
      next hInvoked =>
        exact ⟨by simpa using hKey, by simpa using hInvoked⟩

theorem RemoteDb.insertAction_keeps {db : RemoteDb} (hListed : Listed db) {cid row} (h : db.violation cid row = none) :
    Listed (db.insertAction cid row) ∧ Grows db (db.insertAction cid row) := by
  obtain ⟨hKey, hInvoked⟩ := violation_eq_none h
  have hOther : ∀ id old, db.actions.lookup id = some old → id ≠ cid := by
    rintro id old hOld rfl
    rw [hKey] at hOld
    cases hOld
  have hGrows : Grows db (db.insertAction cid row) := by
    intro id old hOld
    refine ⟨old, ?_, .refl old⟩
    change (db.actions.insert cid row).lookup id = some old
    rw [AList.lookup_insert_ne (hOther id old hOld), hOld]
  refine ⟨⟨fun id invocation => ?_, ?_⟩, hGrows⟩
  · change (id, invocation) ∈ db.inserted ++ [(cid, row.invocationId)] ↔
      ∃ found, (db.actions.insert cid row).lookup id = some found ∧ _
    rw [mem_append, mem_singleton, hListed.listed]
    by_cases hId : id = cid
    · subst hId
      rw [hKey]
      simp [eq_comm]
    · simp [hId]
  · apply pairwise_append.mpr
    refine ⟨hListed.distinct, pairwise_singleton _ _, ?_⟩
    rintro ⟨id, invocation⟩ hOld _ hNew
    rw [mem_singleton.mp hNew]
    obtain ⟨old, hRow, rfl⟩ := (hListed.listed id invocation).mp hOld
    refine ⟨hOther id old hRow, fun hSome hSame => ?_⟩
    have hAny := any_eq_false.mp hInvoked ⟨id, old⟩ (AList.mem_lookup_iff.mp hRow)
    dsimp only at hSome hSame hAny
    rw [hSome, hSame] at hAny
    simp at hAny

theorem queue_insertAction (cid : String) (row : ActionRow) : Queue (insertAction cid row) := by
  intro db
  apply Keeps.statement
  rintro t r t' - hListed hRun
  split at hRun
  · cases hRun
    exact ⟨hListed, .refl t⟩
  next hAllowed =>
    cases hRun
    exact RemoteDb.insertAction_keeps hListed hAllowed

/-! ## The operations -/

theorem queue_ofInvocation (request : DeviceCommandRequest) : Queue (ofInvocation request) := by
  unfold ofInvocation
  split
  · exact .done _
  · exact .read _

theorem queue_insertOnce (request : DeviceCommandRequest) (cid : String) (row : ActionRow) :
    Queue (insertOnce request cid row) := by
  apply Queue.bind (queue_insertAction cid row)
  intro failure
  cases failure with
  | none => exact .done _
  | some failure =>
    apply Queue.bind (queue_ofInvocation request)
    intro existing
    cases existing <;> exact .done _

theorem queue_enqueueDeviceCommand (digest : Bytes → Bytes) (request : DeviceCommandRequest)
    (nowMs : Nat) (token : Except String String) :
    Queue (enqueueDeviceCommand digest request nowMs token) := by
  apply Queue.bind (.read _)
  intro found
  apply Queue.bind (.done _)
  intro device
  apply Queue.bind (.done _)
  intro _
  apply Queue.bind (.done _)
  intro _
  apply Queue.bind (.done _)
  intro _
  apply Queue.bind (.done _)
  intro token
  apply Queue.bind (queue_ofInvocation request)
  intro existing
  cases existing with
  | some existing => exact .done _
  | none =>
    apply Queue.bind (.done _)
    intro now
    apply Queue.bind (.done _)
    intro expiresAtMs
    apply Queue.bind (queue_insertOnce _ _ _)
    intro _
    apply Queue.bind (queue_ofInvocation request)
    intro winner
    split
    · exact .done _
    · apply Queue.bind (queue_audit _ _ _ _ _ _)
      intro _
      exact .bind (.read _) fun _ => .done _

theorem queue_expireDeviceCommands (nowMs : Nat) : Queue (expireDeviceCommands nowMs) := by
  apply Queue.bind (.done _)
  intro now
  apply Queue.bind
  · apply queue_updateWhere
    intro id row hFound
    simp only [Bool.and_eq_true] at hFound
    exact calm_of_waiting (by simp [ActionRow.waiting, hFound]) rfl
  · intro requeued
    apply Queue.bind (queue_updateWhere fun _ row _ => calm_close row rfl _ _)
    intro expired
    apply Queue.bind (queue_updateWhere fun _ row _ => calm_close row rfl _ _)
    intro failed
    exact .done _

theorem RemoteDb.queued_of_nextQueued {db : RemoteDb} {dev cid} (h : db.nextQueued dev = some cid) :
    ∃ row, db.actions.lookup cid = some row ∧ row.state = .queued := by
  obtain ⟨⟨id, row⟩, hHead, rfl⟩ := Option.map_eq_some_iff.mp h
  have hMem := (perm_insertionSort _ _).mem_iff.mp (mem_of_mem_head? hHead)
  obtain ⟨hEntry, hQueued⟩ := mem_filter.mp hMem
  simp only [Bool.and_eq_true, decide_eq_true_eq] at hQueued
  exact ⟨row, AList.mem_lookup_iff.mpr hEntry, hQueued.2⟩

theorem queue_lease (dev : String) (leaseMs nowMs : Nat) :
    Queue (Prog.transaction (leaseBody dev leaseMs nowMs)) := by
  intro db
  apply Keeps.statement
  rintro t r t' - hListed hRun
  rcases commit_cases hRun with ⟨next, -, hBody⟩ | ⟨e, _, -, -, rfl⟩
  · simp only [leaseBody, bind_eq_done, pureBody_eq_ok, write_eq_ok, read_eq_ok] at hBody
    obtain ⟨now, _, ⟨-, rfl⟩, _, u, hCancelled, next, _, ⟨hNext, rfl⟩, hRest⟩ := hBody
    have hFirst : Listed u ∧ Grows t u := by
      rw [← hCancelled]
      exact RemoteDb.update_keeps hListed fun _ row _ _ => calm_close row rfl _ _
    cases next with
    | none =>
      cases hRest
      exact hFirst
    | some cid =>
      obtain ⟨queued, hRow, hQueued⟩ := RemoteDb.queued_of_nextQueued hNext
      simp only [bind_eq_done, pureBody_eq_ok, write_eq_ok] at hRest
      obtain ⟨_, _, ⟨-, rfl⟩, _, _, rfl, -, rfl⟩ := hRest
      refine And.imp_right hFirst.2.trans (RemoteDb.update_keeps hFirst.1 ?_)
      intro id row hFound hId
      rw [of_decide_eq_true hId, hRow] at hFound
      cases hFound
      exact calm_of_waiting (by simp [ActionRow.waiting, hQueued]) rfl
  · exact ⟨hListed, .refl _⟩

theorem queue_leaseDeviceCommand (dev : String) (leaseMs nowMs : Nat) :
    Queue (leaseDeviceCommand dev leaseMs nowMs) := by
  apply Queue.bind (queue_expireDeviceCommands nowMs)
  intro _
  apply Queue.bind (queue_lease dev leaseMs nowMs)
  intro next
  cases next with
  | none => exact .done _
  | some cid => exact .read _

theorem queue_ownCommand (dev cid : String) : Queue (ownCommand dev cid) :=
  Queue.bind (.read _) fun _ => .done _

theorem queue_startDeviceCommand (dev cid : String) (executionId : Option String)
    (nowMs : Nat) : Queue (startDeviceCommand dev cid executionId nowMs) := by
  apply Queue.bind (queue_ownCommand dev cid)
  intro record
  split
  · unfold restartRunning
    split
    · exact .bind (queue_audit _ _ _ _ _ _) fun _ => .done _
    · exact .done _
  · split
    · exact .done _
    · split
      · apply Queue.bind (.done _)
        intro now
        apply Queue.bind (queue_updateWhere fun _ row _ => calm_close row rfl _ _)
        intro _
        exact .done _
      · apply Queue.bind (.done _)
        intro now
        apply Queue.bind
        · apply queue_updateWhere
          intro _ row _
          exact calm_of_settled rfl rfl
        · intro changed
          apply Queue.bind (.done _)
          intro _
          exact .bind (queue_audit _ _ _ _ _ _) fun _ => .done _

theorem queue_reportAgain (record : DeviceCommandRecord) (dev cid digest : String)
    (nowMs : Nat) : Queue (reportAgain record dev cid digest nowMs) := by
  unfold reportAgain
  split
  · exact .done _
  · split <;> exact .bind (queue_audit _ _ _ _ _ _) fun _ => .done _

theorem queue_completeDeviceCommand (digest : Bytes → Bytes) (texts : ReportTexts)
    (dev cid : String) (report : DeviceReport) (nowMs : Nat) :
    Queue (completeDeviceCommand digest texts dev cid report nowMs) := by
  unfold completeDeviceCommand
  -- Past the first check the outcome is terminal.
  cases hOutcome : report.outcome.terminal with
  | false => exact .done _
  | true =>
    apply Queue.bind (.done _)
    intro _
    apply Queue.bind (queue_ownCommand dev cid)
    intro record
    split
    · exact queue_reportAgain _ _ _ _ _
    · split
      · exact .bind (queue_audit _ _ _ _ _ _) fun _ => .done _
      · apply Queue.bind (.done _)
        intro now
        apply Queue.bind
        · unfold artifactSize
          split
          · exact .done _
          · exact .bind (.done _) fun _ => .done _
        · intro _
          apply Queue.bind
          · apply queue_updateWhere
            intro _ row _
            exact calm_of_settled (waiting_of_terminal hOutcome) rfl
          · intro _
            apply Queue.bind (queue_audit _ _ _ _ _ _)
            intro _
            exact .bind (.read _) fun _ => .done _

theorem calm_cancelRow (record : DeviceCommandRecord) (now : Nat) (row : ActionRow) :
    Calm row (cancelRow record now row) := by
  unfold cancelRow
  split
  · exact ⟨rfl, id⟩
  · exact calm_of_settled rfl rfl

theorem queue_requestDeviceCancel (cid : String) (nowMs : Nat) : Queue (requestDeviceCancel cid nowMs) := by
  apply Queue.bind (.read _)
  intro found
  apply Queue.bind (.done _)
  intro record
  split
  · exact .done _
  · apply Queue.bind (.done _)
    intro now
    apply Queue.bind (queue_updateWhere fun _ row _ => calm_cancelRow record now row)
    intro _
    apply Queue.bind (queue_audit _ _ _ _ _ _)
    intro _
    exact .bind (.read _) fun _ => .done _

theorem queue_setDeviceCapabilities (dev : String) (capabilities : List DeviceCapability)
    (nowMs : Nat) : Queue (setDeviceCapabilities dev capabilities nowMs) := by
  apply Queue.bind (.read _)
  intro found
  apply Queue.bind (.done _)
  intro device
  apply Queue.bind (.done _)
  intro _
  apply Queue.bind (.done _)
  intro _
  apply Queue.bind (.elsewhere (fun _ => rfl) fun _ => rfl)
  intro _
  apply Queue.bind
  · unfold cancelWithdrawn
    split
    · exact .done _
    · apply Queue.bind (.done _)
      intro now
      exact .bind (queue_updateWhere fun _ row _ => calm_close row rfl _ _) fun _ => .done _
  · intro _
    exact .bind (queue_audit _ _ _ _ _ _) fun _ => .done _

theorem queue_openTalkCapture (digest : Bytes → Bytes) (dev sessionId : String)
    (arguments : Bytes) (expiresAtMs nowMs : Nat) (token : Except String String) :
    Queue (openTalkCapture digest dev sessionId arguments expiresAtMs nowMs token) := by
  apply Queue.bind (queue_enqueueDeviceCommand _ _ _ _)
  intro record
  apply Queue.bind (.done _)
  intro now
  apply Queue.bind
  · apply queue_updateWhere
    intro _ row _
    exact calm_of_settled rfl rfl
  · intro _
    exact .bind (.read _) fun _ => .done _

/-! ## Workers -/

/-- A call of a connection, or a change of the devices by the pairing code. -/
inductive Call
  | enqueue (request : DeviceCommandRequest) (nowMs : Nat) (token : Except String String)
  | lease (dev : String) (leaseMs nowMs : Nat)
  | start (dev cid : String) (executionId : Option String) (nowMs : Nat)
  | expire (nowMs : Nat)
  | complete (dev cid : String) (report : DeviceReport) (nowMs : Nat)
  | cancel (cid : String) (nowMs : Nat)
  | setCapabilities (dev : String) (capabilities : List DeviceCapability) (nowMs : Nat)
  | openTalk (dev sessionId : String) (arguments : Bytes) (expiresAtMs nowMs : Nat)
      (token : Except String String)
  | closeTalk (dev cid : String) (error : Option String) (nowMs : Nat)
  | devices (change : Table String DeviceRow → Table String DeviceRow)

/-- What the caller is told; only the answer of `start_device_command` matters here. -/
inductive Answer
  | start (cid : String) (start : DeviceCommandStart)
  | other

section

variable (digest : Bytes → Bytes) (texts : ReportTexts)

def Call.program : Call → Flow Answer
  | .enqueue request nowMs token => do
    let _ ← enqueueDeviceCommand digest request nowMs token
    pure .other
  | .lease dev leaseMs nowMs => do
    let _ ← leaseDeviceCommand dev leaseMs nowMs
    pure .other
  | .start dev cid executionId nowMs => do
    let start ← startDeviceCommand dev cid executionId nowMs
    pure (.start cid start)
  | .expire nowMs => do
    let _ ← expireDeviceCommands nowMs
    pure .other
  | .complete dev cid report nowMs => do
    let _ ← completeDeviceCommand digest texts dev cid report nowMs
    pure .other
  | .cancel cid nowMs => do
    let _ ← requestDeviceCancel cid nowMs
    pure .other
  | .setCapabilities dev capabilities nowMs => do
    let _ ← setDeviceCapabilities dev capabilities nowMs
    pure .other
  | .openTalk dev sessionId arguments expiresAtMs nowMs token => do
    let _ ← openTalkCapture digest dev sessionId arguments expiresAtMs nowMs token
    pure .other
  | .closeTalk dev cid error nowMs => do
    closeTalkCapture digest texts dev cid error nowMs
    pure .other
  | .devices change => do
    Prog.write fun db => { db with devices := change db.devices }
    pure .other

/-- Any number of calls begin, interleave their statements, and stop anywhere. -/
def Connected (_ : Pool String RemoteDb Answer) : Move String RemoteDb Answer → Prop
  | .spawn p => ∃ call : Call, p = call.program digest texts
  | .act _ | .stop _ => True

theorem queue_program (call : Call) : Queue (call.program digest texts) := by
  cases call with
  | enqueue => exact .bind (queue_enqueueDeviceCommand _ _ _ _) fun _ => .done _
  | lease => exact .bind (queue_leaseDeviceCommand _ _ _) fun _ => .done _
  | start => exact .bind (queue_startDeviceCommand _ _ _ _) fun _ => .done _
  | expire => exact .bind (queue_expireDeviceCommands _) fun _ => .done _
  | complete => exact .bind (queue_completeDeviceCommand _ _ _ _ _ _) fun _ => .done _
  | cancel => exact .bind (queue_requestDeviceCancel _ _) fun _ => .done _
  | setCapabilities => exact .bind (queue_setDeviceCapabilities _ _ _) fun _ => .done _
  | openTalk => exact .bind (queue_openTalkCapture _ _ _ _ _ _ _) fun _ => .done _
  | closeTalk =>
    apply Queue.bind _ fun _ => .done _
    exact .bind (queue_completeDeviceCommand _ _ _ _ _ _) fun _ => .done _
  | devices => exact .bind (.elsewhere (fun _ => rfl) fun _ => rfl) fun _ => .done _

end

/-! ## The answer that authorises -/

def Settled (cid : String) (db : RemoteDb) : Prop :=
  ∃ row, db.actions.lookup cid = some row ∧ row.waiting = false

theorem Settled.grows {cid db db'} (hGrows : Grows db db') (h : Settled cid db) : Settled cid db' := by
  obtain ⟨row, hRow, hSettled⟩ := h
  obtain ⟨row', hRow', hCalm⟩ := hGrows cid row hRow
  exact ⟨row', hRow', hCalm.settled hSettled⟩

def Begins (r : Except String DeviceCommandStart) : Prop := ∃ start, r = .ok start ∧ start.started

theorem not_begins_error (e : String) : ¬ Begins (.error e) := by
  rintro ⟨start, h, -⟩
  cases h

theorem guarded_startLeased (record : DeviceCommandRecord) (dev cid : String)
    (executionId : Option String) (nowMs : Nat) : Guarded Begins (Settled cid)
      (startLeased record dev cid executionId nowMs) := by
  apply Guarded.bind not_begins_error
  intro now
  apply Guarded.statement not_begins_error
  rintro db changed ⟨⟩
  by_cases hChanged : countRows (isLeased cid) db.actions = 1
  · right
    have hSome : countRows (isLeased cid) db.actions ≠ 0 := by omega
    obtain ⟨id, row, hRow, hLeased⟩ := exists_of_countRows hSome
    simp only [isLeased, Bool.and_eq_true, decide_eq_true_eq] at hLeased
    obtain ⟨rfl, hState⟩ := hLeased
    constructor
    · rintro ⟨row', hRow', hSettled⟩
      rw [hRow] at hRow'
      cases hRow'
      simp [ActionRow.waiting, hState] at hSettled
    · rw [Settled, RemoteDb.lookup_update, hRow]
      simp [isLeased, hState, ActionRow.waiting]
  · left
    have hRefuse : refuse (decide (countRows (isLeased cid) db.actions ≠ 1))
        "The command changed state concurrently" =
          .done (.error "The command changed state concurrently") := by
      simp [refuse, refuseIf, hChanged, Prog.ofExcept]
    rw [hRefuse]
    exact not_begins_error _

theorem guarded_startDeviceCommand (dev cid : String) (executionId : Option String) (nowMs : Nat) :
    Guarded Begins (Settled cid) (startDeviceCommand dev cid executionId nowMs) := by
  apply Guarded.bind not_begins_error
  intro record
  split
  · unfold restartRunning
    split
    · exact .bind not_begins_error fun _ => not_begins_error _
    · rintro ⟨start, ⟨⟩, hStarted⟩
      cases hStarted
  · split
    · exact not_begins_error _
    · split
      · apply Guarded.bind not_begins_error
        intro now
        exact .bind not_begins_error fun _ => not_begins_error _
      · exact guarded_startLeased record dev cid executionId nowMs

def Authorises (cid : String) (r : Except String Answer) : Prop :=
  ∃ start, r = .ok (.start cid start) ∧ start.started

def authorised (cid : String) : Flow Answer → Bool
  | .done (.ok (.start id start)) => id = cid && start.started
  | _ => false

/-- A call that has been answered `started = true` for a command of the invocation. -/
def authorisedFor (db : RemoteDb) (inv : String) : Flow Answer → Bool
  | .done (.ok (.start id start)) => db.inserted.contains (id, some inv) && start.started
  | _ => false

theorem not_authorises_error (cid e : String) : ¬ Authorises cid (.error e) := by
  rintro ⟨start, h, -⟩
  cases h

theorem not_authorises_other (cid : String) : ¬ Authorises cid (.ok .other) := by
  rintro ⟨start, h, -⟩
  cases h

theorem guarded_program (digest : Bytes → Bytes) (texts : ReportTexts) (cid : String) (call : Call) :
    Guarded (Authorises cid) (Settled cid) (call.program digest texts) := by
  have hOther : ∀ {α : Type} (p : Flow α), Guarded (Authorises cid) (Settled cid)
      (p >>= fun _ => pure .other) :=
    fun p => .bind (not_authorises_error cid) fun _ => not_authorises_other cid
  cases call with
  | start dev id executionId nowMs =>
    by_cases hId : id = cid
    · subst hId
      apply Guarded.andThen (not_authorises_error id)
        (guarded_startDeviceCommand dev id executionId nowMs)
      rintro start hNot ⟨_, ⟨⟩, hStarted⟩
      exact hNot ⟨start, rfl, hStarted⟩
    · apply Guarded.bind (not_authorises_error cid)
      rintro start ⟨_, ⟨⟩, -⟩
      exact hId rfl
  | enqueue => exact hOther _
  | lease => exact hOther _
  | expire => exact hOther _
  | complete => exact hOther _
  | cancel => exact hOther _
  | setCapabilities => exact hOther _
  | openTalk => exact hOther _
  | closeTalk => exact hOther _
  | devices => exact hOther _

section

variable {digest : Bytes → Bytes} {texts : ReportTexts} {pool : Pool String RemoteDb Answer}

theorem listed_of_arises (h : Arises (Connected digest texts) .empty pool) : Listed pool.state := by
  refine (Arises.safe (Q := fun _ _ => True) grows_interference listed_empty ?_ h).1
  rintro pool _ hListed ⟨call, rfl⟩
  exact queue_program digest texts call pool.state

theorem authorised_le_one (h : Arises (Connected digest texts) .empty pool) (cid : String) :
    pool.workers.countP (authorised cid) ≤ 1 := by
  classical
  have hClaims : pool.claims (Authorises cid) (Settled cid) ≤ 1 := by
    refine (Arises.claims_le_one (Q := fun _ _ => True) grows_interference Settled.grows
      listed_empty ?_ h).1
    rintro pool _ hListed ⟨call, rfl⟩
    exact ⟨queue_program digest texts call pool.state, guarded_program digest texts cid call⟩
  apply Nat.le_trans _ hClaims
  apply countP_mono_left
  intro p _ hAuthorised
  rw [decide_eq_true_eq]
  cases p with
  | call write next => cases hAuthorised
  | done r =>
    intro hGuarded
    apply hGuarded
    cases r with
    | error e => cases hAuthorised
    | ok answer =>
      cases answer with
      | other => cases hAuthorised
      | start id start =>
        simp only [authorised, Bool.and_eq_true, decide_eq_true_eq] at hAuthorised
        obtain ⟨rfl, hStarted⟩ := hAuthorised
        exact ⟨start, rfl, hStarted⟩

theorem Listed.inserted_le_one {db} (h : Listed db) (inv : String) :
    db.inserted.countP (·.2 = some inv) ≤ 1 := by
  apply Lists.countP_le_one_of_pairwise h.distinct
  rintro ⟨a, _⟩ ⟨b, _⟩ ha hb ⟨-, hNe⟩
  have ha := of_decide_eq_true ha
  have hb := of_decide_eq_true hb
  subst ha hb
  exact hNe rfl rfl

theorem Listed.same {db} (h : Listed db) {a b inv}
    (ha : (a, some inv) ∈ db.inserted) (hb : (b, some inv) ∈ db.inserted) : a = b := by
  by_contra hNe
  have hSymmetric : Std.Symm fun a b : String × Option String =>
      a.1 ≠ b.1 ∧ (a.2.isSome → a.2 ≠ b.2) := by
    constructor
    rintro a b ⟨hIds, hInvocations⟩
    refine ⟨hIds.symm, fun hSome hSame => ?_⟩
    rw [hSame] at hSome
    exact hInvocations hSome hSame.symm
  have hApart := h.distinct.forall ha hb fun hSame => hNe (congrArg Prod.fst hSame)
  exact hApart.2 rfl rfl

theorem authorisedFor_le_one (h : Arises (Connected digest texts) .empty pool)
    (inv : String) : pool.workers.countP (authorisedFor pool.state inv) ≤ 1 := by
  have hListed := listed_of_arises h
  by_cases hCommand : ∃ id, (id, some inv) ∈ pool.state.inserted
  · obtain ⟨id, hId⟩ := hCommand
    apply Nat.le_trans _ (authorised_le_one h id)
    apply countP_mono_left
    intro p _ hAuthorised
    unfold authorisedFor at hAuthorised
    split at hAuthorised
    · rw [Bool.and_eq_true, contains_iff_mem] at hAuthorised
      rw [authorised, hListed.same hAuthorised.1 hId, hAuthorised.2]
      simp
    · cases hAuthorised
  · have hNone : pool.workers.countP (authorisedFor pool.state inv) = 0 := by
      apply countP_eq_zero.mpr
      intro p _ hAuthorised
      unfold authorisedFor at hAuthorised
      split at hAuthorised
      · rw [Bool.and_eq_true, contains_iff_mem] at hAuthorised
        exact hCommand ⟨_, hAuthorised.1⟩
      · cases hAuthorised
    omega

end

/-- Any number of connections run the operations of the queue on any clock values,
statement by statement, and stop anywhere.  A command is answered `started = true`
at most once, at most one row is ever inserted for an invocation, every row of an
invocation is that row, and so at most one start is authorised for an invocation. -/
theorem device_action_authorised_once (digest : Bytes → Bytes) (texts : ReportTexts)
    {pool : Pool String RemoteDb Answer} (h : Arises (Connected digest texts) .empty pool) :
    (∀ cid, pool.workers.countP (authorised cid) ≤ 1) ∧
    ∀ inv, pool.state.inserted.countP (·.2 = some inv) ≤ 1 ∧
      (∀ id row, pool.state.actions.lookup id = some row → row.invocationId = some inv →
        (id, some inv) ∈ pool.state.inserted) ∧
      pool.workers.countP (authorisedFor pool.state inv) ≤ 1 := by
  have hListed := listed_of_arises h
  refine ⟨authorised_le_one h, fun inv => ⟨hListed.inserted_le_one inv, ?_, authorisedFor_le_one h inv⟩⟩
  intro id row hRow hInvocation
  exact (hListed.listed id (some inv)).mpr ⟨row, hRow, hInvocation⟩

/-! ### A photograph, asked for twice -/

def photoDigest : Bytes → Bytes := fun _ => [68, 19, 111, 163, 85, 179, 103, 138, 17, 70, 173, 22, 247, 232, 100, 158, 148, 251, 79, 194, 31, 231, 126, 131, 16, 192, 96, 246, 28, 170, 255, 138]

def plainTexts : ReportTexts := ⟨fun _ => "null", fun _ => "null", fun _ => "null"⟩

def photoRequest : DeviceCommandRequest :=
  ⟨"phone", .cameraCapture, [123, 125], some "run", none, some "call", some "run:call", 60000⟩

def photoCalls : List Call :=
  [.devices (·.insert "phone" ⟨[], none⟩), .enqueue photoRequest 1 (.ok "a"),
    .enqueue photoRequest 2 (.ok "b"), .lease "phone" 30000 3, .start "phone" "dcmd-a" (some "x") 4,
    .start "phone" "dcmd-a" (some "y") 5]

/-- Every call begins before any of them takes a statement; then the first takes all of
its statements, then the next one. -/
def photoMoves : List (Move String RemoteDb Answer) :=
  photoCalls.map (fun call => .spawn (call.program photoDigest plainTexts)) ++
    (List.range 6).flatMap fun worker => List.replicate ([1, 6, 2, 5, 3, 2].getD worker 0) (.act worker)

def photoPool : Pool String RemoteDb Answer := (Pool.play ⟨.empty, []⟩ photoMoves).getD ⟨.empty, []⟩

theorem photoPool_arises : Arises (Connected photoDigest plainTexts) .empty photoPool := by
  have hPlayed : (Pool.play ⟨RemoteDb.empty, []⟩ photoMoves).isSome = true := by decide +kernel
  obtain ⟨pool, hPool⟩ := Option.isSome_iff_exists.mp hPlayed
  rw [photoPool, hPool]
  refine Arises.start.play ?_ hPool
  intro pool move hMove
  rcases mem_append.mp hMove with hSpawn | hAct
  · obtain ⟨call, -, rfl⟩ := mem_map.mp hSpawn
    exact ⟨call, rfl⟩
  · obtain ⟨worker, -, hWorker⟩ := mem_flatMap.mp hAct
    rw [eq_of_mem_replicate hWorker]
    trivial

theorem photograph_authorised_once : photoPool.workers.countP (authorised "dcmd-a") = 1 ∧
    photoPool.state.inserted = [("dcmd-a", some "run:call")] ∧
    photoPool.workers.countP (authorisedFor photoPool.state "run:call") ≤ 1 :=
  ⟨by decide +kernel, by decide +kernel,
    ((device_action_authorised_once photoDigest plainTexts photoPool_arises).2 "run:call").2.2⟩

end LittleMonkey.Remote
