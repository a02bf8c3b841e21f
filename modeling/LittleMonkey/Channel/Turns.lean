import LittleMonkey.Daemon.Deliveries

/-! # Conversation turns and the jobs that run them

A turn is accepted under its dedupe key, with the execution context it was resolved
to, before anything runs it.  Submitting it to the daemon's queue and recording what
came of that are further statements; a redelivery or a recovery pass picks up a turn
that is still `accepted`.
-/

namespace LittleMonkey.Channel

open Primitives Guards Transaction Interleaving
open Daemon (JobState)
open Daemon.Trigger (sha256Hex JobRow refuse?)

/-! ## Turns -/

inductive ConversationSource
  | desktop | mobile | messagingChannel | peer | voice | telephone
  deriving DecidableEq

def ConversationSource.asStr : ConversationSource → String
  | .desktop => "desktop"
  | .mobile => "mobile"
  | .messagingChannel => "messaging_channel"
  | .peer => "peer"
  | .voice => "voice"
  | .telephone => "telephone"

structure FrozenExecution where
  (recipeRef recipeJson recipeDigest : String)
  (recipeSourcePath workspacePath : Option String)
  (modelTarget permissionMode : String)
  (credentialRef routeId : Option String)
  (routeDigest digest : String)
  deriving DecidableEq

variable (digest : Bytes → Bytes)

def hexDigest (parts : List Bytes) : String :=
  sha256Hex digest (parts.flatMap (· ++ [0]))

def FrozenExecution.recipeMatchesDigest (frozen : FrozenExecution) : Bool :=
  hexDigest digest [textBytes frozen.recipeJson] = frozen.recipeDigest

structure ConversationIngress where
  source : ConversationSource
  (sourceAccountId sourceEventId sessionKey text : String)
  attachments : List String
  routeDigest : String
  execution : Option FrozenExecution
  deriving DecidableEq

def dedupeKeyFor (source : ConversationSource) (sourceAccountId sourceEventId : String) : String :=
  let token := source.asStr
  s!"{token}:{sourceAccountId}:{sourceEventId}"

variable (ingress : ConversationIngress)

def ConversationIngress.dedupeKey : String :=
  dedupeKeyFor ingress.source ingress.sourceAccountId ingress.sourceEventId

/-- `ingress-` and 32 digits of the hash of the dedupe key and the route. -/
def ConversationIngress.deterministicJobId : String :=
  let hash := sha256Hex digest
    (textBytes ingress.dedupeKey ++ [0] ++ textBytes ingress.routeDigest)
  "ingress-" ++ String.ofList (hash.toList.take 32)

def ConversationIngress.hasContent : Bool :=
  !isBlank ingress.text || !ingress.attachments.isEmpty

def validateIngress : Except String Unit := do
  refuseIf (isBlank ingress.sourceAccountId)
    "A conversation turn must name the account it arrived on"
  refuseIf (isBlank ingress.sourceEventId)
    "A conversation turn must carry its origin's own event id, or it cannot be deduplicated"
  refuseIf (isBlank ingress.sessionKey)
    "A conversation turn must name the session it continues"
  refuseIf (!ingress.hasContent)
    "A conversation turn with no text and no attachments has nothing to run"

inductive IngressState
  | accepted | queued | failed
  deriving DecidableEq

structure TurnRow where
  ingress : ConversationIngress
  params : List String
  state : IngressState
  jobId : Option String
  attempts : Nat
  lastError : Option String
  (createdAtMs updatedAtMs : Int)

/-- A job row that was inserted, with the turn it was inserted for and what it runs. -/
structure EnqueuedTurn where
  (dedupeKey jobId : String)
  execution : FrozenExecution
  params : List String
  deriving DecidableEq

/-- The daemon's database.  The last three fields record what was ever accepted,
enqueued and marked as queued. -/
structure TurnDb where
  turns : Table String TurnRow
  jobs : Table String JobRow
  accepted : List (ConversationIngress × List String)
  enqueued : List EnqueuedTurn
  markedQueued : List String

def TurnDb.empty : TurnDb := ⟨∅, ∅, [], [], []⟩

abbrev TurnFlow := Prog String TurnDb

def TurnDb.turnOf (db : TurnDb) (dedupeKey : String) : Option (String × TurnRow) :=
  (db.turns.entries.find? fun entry => entry.2.ingress.dedupeKey = dedupeKey).map
    fun entry => (entry.1, entry.2)

def TurnDb.setTurn (db : TurnDb) (ingressId : String) (row : TurnRow) : TurnDb :=
  { db with turns := db.turns.insert ingressId row }

/-! ## Acceptance -/

inductive IngressAcceptance
  | accepted (ingressId : String)
  | existing (ingressId : String) (state : IngressState) (jobId : Option String)

def newTurn (params : List String) (nowMs : Int) : TurnRow :=
  ⟨ingress, params, .accepted, none, 0, none, max nowMs 1, max nowMs 1⟩

/-- `ON CONFLICT(dedupe_key) DO NOTHING`, under the id the generator gave. -/
def insertIngressTurn (ingressId : String) (ingress : ConversationIngress) (params : List String)
    (nowMs : Int) : Body String TurnDb IngressAcceptance := do
  let db ← read id
  match db.turnOf ingress.dedupeKey with
  | some (existingId, row) => pure (.existing existingId row.state row.jobId)
  | none => do
    require (db.turns.lookup ingressId).isSome
      "Failed to record the accepted turn: UNIQUE constraint failed: ingress_turns.ingress_id"
    write fun db => { db.setTurn ingressId (newTurn ingress params nowMs) with
      accepted := db.accepted ++ [(ingress, params)] }
    pure (.accepted ingressId)

theorem insertIngressTurn_cases {ingressId ingress params nowMs db db' acceptance}
    (h : insertIngressTurn ingressId ingress params nowMs db = .ok acceptance db') :
    (∃ id row, db.turnOf ingress.dedupeKey = some (id, row) ∧
      acceptance = .existing id row.state row.jobId ∧ db' = db) ∨
    (db.turnOf ingress.dedupeKey = none ∧ db.turns.lookup ingressId = none ∧
      acceptance = .accepted ingressId ∧
      db' = { db.setTurn ingressId (newTurn ingress params nowMs) with
        accepted := db.accepted ++ [(ingress, params)] }) := by
  simp only [insertIngressTurn, bind_eq_done, read_eq_ok, id_eq] at h
  obtain ⟨_, _, ⟨rfl, rfl⟩, h⟩ := h
  cases hTurn : db.turnOf ingress.dedupeKey with
  | some found =>
    simp only [hTurn, pure_eq_done] at h
    exact .inl ⟨found.1, found.2, rfl, h.1.symm, h.2.symm⟩
  | none =>
    simp only [hTurn, bind_eq_done, require_eq_ok, write_eq_ok] at h
    obtain ⟨_, _, ⟨hFree, rfl⟩, _, _, rfl, rfl, rfl⟩ := h
    rw [Option.isSome_eq_false_iff, Option.isNone_iff_eq_none] at hFree
    exact .inr ⟨rfl, hFree, rfl, rfl⟩

def acceptIngressTurn (ingressId : String) (ingress : ConversationIngress) (params : List String)
    (nowMs : Int) : TurnFlow IngressAcceptance :=
  Prog.transaction (insertIngressTurn ingressId ingress params nowMs)

structure PendingIngressTurn where
  ingressId : String
  ingress : ConversationIngress
  params : List String
  attempts : Nat

def TurnRow.pending (row : TurnRow) (ingressId : String) : Option PendingIngressTurn :=
  if row.state = .accepted then some ⟨ingressId, row.ingress, row.params, row.attempts⟩ else none

def pendingIngressTurn (ingressId : String) : TurnFlow (Option PendingIngressTurn) :=
  Prog.read fun db => (db.turns.lookup ingressId).bind (·.pending ingressId)

def recoveryBatch : Nat := 64

def TurnDb.pendingTurns (db : TurnDb) (limit : Nat) : List PendingIngressTurn :=
  ((db.turns.entries.insertionSort fun a b => a.2.createdAtMs ≤ b.2.createdAtMs).filterMap
    fun entry => entry.2.pending entry.1).take limit

def pendingIngressTurns (limit : Nat) : TurnFlow (List PendingIngressTurn) :=
  Prog.read (·.pendingTurns limit)

def updateTurn (ingressId : String) (f : TurnDb → TurnRow → TurnDb) : TurnFlow Unit :=
  Prog.transaction do
    let found ← read (·.turns.lookup ingressId)
    match found with
    | none => pureBody (.error s!"Unknown accepted turn '{ingressId}'")
    | some row => write (f · row)

def TurnRow.queuedAs (row : TurnRow) (jobId : String) (nowMs : Int) : TurnRow :=
  { row with
    state := .queued
    jobId := some jobId
    attempts := row.attempts + 1
    lastError := none
    updatedAtMs := max nowMs 1 }

def TurnRow.submitFailed (row : TurnRow) (error : String) (terminal : Bool) (nowMs : Int) : TurnRow :=
  { row with
    state := if terminal then .failed else .accepted
    attempts := row.attempts + 1
    lastError := some error
    updatedAtMs := max nowMs 1 }

def markIngressQueued (ingressId jobId : String) (nowMs : Int) : TurnFlow Unit :=
  updateTurn ingressId fun db row => { db.setTurn ingressId (row.queuedAs jobId nowMs) with
    markedQueued := db.markedQueued ++ [ingressId] }

def markIngressSubmitFailed (ingressId error : String) (terminal : Bool) (nowMs : Int) :
    TurnFlow Unit :=
  updateTurn ingressId fun db row => db.setTurn ingressId (row.submitFailed error terminal nowMs)

/-! ## The queue -/

/-- What a submission meets outside the database.  `prepare` is everything `enqueue` does with
the frozen recipe before its job row: parameters, workspace and snapshot. -/
structure QueueEnv where
  unconfigured : Option String
  killSwitch : Bool
  refusal : Option String
  maxQueue : Nat
  prepare : FrozenExecution → List String → Except String Unit
  submitQueuedSnapshot : String → Except String String

def deleteTerminalJob (jobId : String) : TurnFlow Unit :=
  Prog.write fun db =>
    if (db.jobs.lookup jobId).any (·.state.isTerminal) then { db with jobs := db.jobs.erase jobId }
    else db

def insertPreparing (turn : EnqueuedTurn) (maxQueue : Nat) : TurnFlow Unit :=
  Prog.transaction do
    let jobs ← read (·.jobs)
    let count := (jobs.entries.filter fun entry => !entry.2.state.isTerminal).length
    require (decide (maxQueue ≤ count))
      s!"Daemon queue is full ({count}/{maxQueue}); wait for a run or cancel one"
    require (jobs.lookup turn.jobId).isSome "Failed to queue daemon job: UNIQUE constraint failed"
    write fun db => { db with
      jobs := db.jobs.insert turn.jobId ⟨none, .preparing⟩
      enqueued := db.enqueued ++ [turn] }

def markQueued (jobId runId : String) : TurnFlow Unit :=
  Prog.transaction do
    let found ← read (·.jobs.lookup jobId)
    match found.filter (·.state == .preparing) with
    | none => pureBody (.error s!"Job '{jobId}' is not preparing")
    | some _ => write fun db => { db with jobs := db.jobs.insert jobId ⟨some runId, .queued⟩ }

def markFailed (jobId : String) : TurnFlow Unit :=
  Prog.transaction do
    let found ← read (·.jobs.lookup jobId)
    match found with
    | none => pureBody (.error s!"Unknown daemon job '{jobId}'")
    | some row => write fun db => { db with jobs := db.jobs.insert jobId { row with state := .failed } }

def enqueueNew (env : QueueEnv) (turn : EnqueuedTurn) : TurnFlow Unit := do
  Prog.ofExcept (refuseIf (!turn.execution.recipeMatchesDigest digest)
    "The frozen recipe for this turn does not match its own digest; refusing to run it")
  Prog.ofExcept (env.prepare turn.execution turn.params)
  insertPreparing turn env.maxQueue
  match env.submitQueuedSnapshot turn.jobId with
  | .error error => do
    markFailed turn.jobId
    Prog.fail error
  | .ok runId => markQueued turn.jobId runId

/-- The queue's `submit` of a turn that has a frozen context: its job may exist already. -/
def submit (env : QueueEnv) (ingress : ConversationIngress) (execution : FrozenExecution)
    (params : List String) : TurnFlow String := do
  Prog.ofExcept (refuse? env.unconfigured fun error =>
    s!"The Little Monkey background runner is not configured: {error}")
  Prog.ofExcept (refuseIf env.killSwitch "Global kill switch is engaged; the message was not run")
  Prog.ofExcept (refuse? env.refusal id)
  let jobId := ingress.deterministicJobId digest
  let turn : EnqueuedTurn := ⟨ingress.dedupeKey, jobId, execution, params⟩
  let existing ← Prog.read (·.jobs.lookup jobId)
  match existing with
  | some ⟨some _, _⟩ => pure jobId
  | some ⟨none, state⟩ =>
    if state.isTerminal then do
      deleteTerminalJob jobId
      enqueueNew digest env turn
      pure jobId
    else Prog.fail s!"Existing job '{jobId}' is still preparing"
  | none => do
    enqueueNew digest env turn
    pure jobId

/-! ## Submission and recovery -/

inductive SubmitOutcome
  | queued (ingressId jobId : String)
  | alreadyQueued (ingressId jobId : String)
  | parked (ingressId : String)
  | deferred (ingressId error : String)
  /-- The channel path's answer to a delivery that is durably finished. -/
  | duplicate

def maxSubmitAttempts : Nat := 5

def noFrozenContextReason : String :=
  "This turn was accepted by a version that did not persist its execution context, and it " ++
  "cannot be run now without executing it against configuration it was never accepted under. " ++
  "Ask again in a new turn."

def recordFailedSubmission (ingressId error : String) (attempts : Nat) (nowMs : Int) :
    TurnFlow SubmitOutcome := do
  let terminal := decide (maxSubmitAttempts ≤ attempts + 1)
  let _ ← (markIngressSubmitFailed ingressId error terminal nowMs).attempt
  pure (if terminal then .parked ingressId else .deferred ingressId error)

/-- Submits a turn under what it was accepted with, and records the outcome; an error of
that last statement is dropped. -/
def finishSubmission (env : QueueEnv) (turn : PendingIngressTurn) (nowMs : Int) :
    TurnFlow SubmitOutcome :=
  match turn.ingress.execution with
  | none => do
    let jobId := turn.ingress.deterministicJobId digest
    let job ← Prog.read (·.jobs.lookup jobId)
    if job.isSome then do
      let _ ← (markIngressQueued turn.ingressId jobId nowMs).attempt
      pure (.alreadyQueued turn.ingressId jobId)
    else do
      let _ ← (markIngressSubmitFailed turn.ingressId noFrozenContextReason true nowMs).attempt
      pure (.parked turn.ingressId)
  | some execution => do
    match ← (submit digest env turn.ingress execution turn.params).attempt with
    | .ok jobId => do
      let _ ← (markIngressQueued turn.ingressId jobId nowMs).attempt
      pure (.queued turn.ingressId jobId)
    | .error error => recordFailedSubmission turn.ingressId error turn.attempts nowMs

/-- The context the caller resolved, or the one the queue resolves now. -/
def freeze (freezeExecution : ConversationIngress → Except String FrozenExecution)
    (ingress : ConversationIngress) : Except String ConversationIngress :=
  if ingress.execution.isSome then .ok ingress
  else (freezeExecution ingress).map fun execution => { ingress with execution := some execution }

structure Submission where
  ingress : ConversationIngress
  params : List String
  ingressId : String
  freezeExecution : ConversationIngress → Except String FrozenExecution
  env : QueueEnv
  nowMs : Int

def settledTurn (ingressId : String) (state : IngressState) (jobId : Option String) : SubmitOutcome :=
  match state, jobId with
  | .queued, some jobId => .alreadyQueued ingressId jobId
  | _, _ => .parked ingressId

def submitConversationTurn (submission : Submission) : TurnFlow SubmitOutcome := do
  Prog.ofExcept (validateIngress submission.ingress)
  let ingress ← Prog.ofExcept (freeze submission.freezeExecution submission.ingress)
  let fresh (ingressId : String) : PendingIngressTurn := ⟨ingressId, ingress, submission.params, 0⟩
  match ← acceptIngressTurn submission.ingressId ingress submission.params submission.nowMs with
  | .accepted ingressId => finishSubmission digest submission.env (fresh ingressId) submission.nowMs
  | .existing ingressId state jobId =>
    if state = .accepted then do
      -- Without a pending row the turn runs what this call resolved.
      let pending ← pendingIngressTurn ingressId
      finishSubmission digest submission.env (pending.getD (fresh ingressId)) submission.nowMs
    else pure (settledTurn ingressId state jobId)

/-- A delivery of the channel path, whose acceptance also writes its event. -/
def submitChannelTurn (submission : Submission) : TurnFlow SubmitOutcome := do
  Prog.ofExcept (validateIngress submission.ingress)
  let ingress ← Prog.ofExcept (freeze submission.freezeExecution submission.ingress)
  match ← acceptIngressTurn submission.ingressId ingress submission.params submission.nowMs with
  | .accepted ingressId =>
    finishSubmission digest submission.env ⟨ingressId, ingress, submission.params, 0⟩
      submission.nowMs
  | .existing ingressId state _ =>
    if state = .accepted then do
      match ← pendingIngressTurn ingressId with
      | some pending => finishSubmission digest submission.env pending submission.nowMs
      | none => pure .duplicate
    else pure .duplicate

def resumeChannelTurn (env : QueueEnv) (dedupeKey : String) (nowMs : Int) :
    TurnFlow SubmitOutcome := do
  match ← Prog.read (·.turnOf dedupeKey) with
  | none => pure .duplicate
  | some (ingressId, _) =>
    match ← pendingIngressTurn ingressId with
    | some pending => finishSubmission digest env pending nowMs
    | none => pure .duplicate

def recoverPendingIngress (env : String → QueueEnv) (nowMs : Int) : TurnFlow Unit := do
  let pending ← pendingIngressTurns recoveryBatch
  Prog.forEach (fun turn => do
    let _ ← finishSubmission digest (env turn.ingressId) turn nowMs) pending

end LittleMonkey.Channel
