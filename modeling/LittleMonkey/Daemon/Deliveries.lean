import LittleMonkey.Lib.Interleaving
import LittleMonkey.Lib.OrderBy
import LittleMonkey.Daemon.Jobs
import LittleMonkey.Daemon.RunLease
import LittleMonkey.Daemon.TriggerConfig

/-! # Trigger deliveries

A delivery is reserved in the daemon's database, accepted in the shared ledger,
activated, and later turned into work by a pass of the daemon.  Each statement
is one transaction of one database; nothing spans two of them.
-/

namespace LittleMonkey.Daemon.Trigger

open Guards Primitives Transaction Interleaving OrderBy RunLease

/-! ## The two databases -/

abbrev Key := String × String

inductive DeliveryStatus
  | received | accepted | duplicate | rejected | submitted
  deriving DecidableEq

def DeliveryStatus.token : DeliveryStatus → String
  | .received => "received"
  | .accepted => "accepted"
  | .duplicate => "duplicate"
  | .rejected => "rejected"
  | .submitted => "submitted"

def DeliveryStatus.wasAccepted : DeliveryStatus → Bool
  | .accepted | .submitted => true
  | _ => false

structure DeliveryRow where
  payloadSha256 : String
  receivedAtMs : Nat
  status : DeliveryStatus
  runId : Option String
  deriving DecidableEq

inductive PayloadStatus
  | reserved | accepted | rejected | submitted
  deriving DecidableEq

structure PayloadRow where
  nonce : Option String
  payloadJson : String
  status : PayloadStatus
  receivedAtMs : Nat
  jobId : Option String
  deriving DecidableEq

/-- A row of `triggers`; `configJson` is what the parser makes of the column. -/
structure StoredTrigger where
  configJson : Except String TriggerConfig
  enabled : Bool
  (nextFireAtMs lastDeliveryAtMs : Option Nat)

structure JobRow where
  runId : Option String
  state : JobState

/-- Both databases.  `enqueued` records every job row inserted for a delivery. -/
structure Stores where
  triggers : Table String StoredTrigger
  deliveries : Table Key DeliveryRow
  payloads : Table Key PayloadRow
  jobs : Table String JobRow
  enqueued : List (Key × String)

def Stores.empty : Stores := ⟨∅, ∅, ∅, ∅, []⟩

abbrev Flow := Prog String Stores

def Stores.setDelivery (s : Stores) (key : Key) (row : DeliveryRow) : Stores :=
  { s with deliveries := s.deliveries.insert key row }

def Stores.setPayload (s : Stores) (key : Key) (row : PayloadRow) : Stores :=
  { s with payloads := s.payloads.insert key row }

def Stores.setTrigger (s : Stores) (triggerId : String) (row : StoredTrigger) : Stores :=
  { s with triggers := s.triggers.insert triggerId row }

/-! ## The daemon's database -/

def Stores.seen (s : Stores) (key : Key) (nonce : Option String) : Bool :=
  s.payloads.entries.any fun entry => entry.1.1 == key.1 &&
    (entry.1.2 == key.2 || (nonce.isSome && entry.2.nonce == nonce))

def reserveDeliveryPayload (key : Key) (nonce : Option String) (payload : String) (now : Nat) :
    Flow Bool :=
  Prog.transaction do
    let seen ← read (·.seen key nonce)
    if seen then pure false
    else do
      let receivedAtMs ← pureBody (toI64 now)
      require (receivedAtMs == 0) "CHECK constraint failed: received_at_ms > 0"
      write (·.setPayload key ⟨nonce, payload, .reserved, receivedAtMs, none⟩)
      pure true

def activateDeliveryPayload (key : Key) : Flow Unit :=
  Prog.transaction do
    let found ← read (·.payloads.lookup key)
    match found.filter (·.status == .reserved) with
    | some row => write (·.setPayload key { row with status := .accepted })
    | none => pureBody (.error s!"Delivery payload '{key.1}/{key.2}' is not reserved")

def discardDeliveryPayload (key : Key) : Flow Unit :=
  Prog.transaction do
    let found ← read (·.payloads.lookup key)
    match found.filter fun row => row.status == .reserved || row.status == .accepted with
    | some row => write (·.setPayload key { row with status := .rejected })
    | none => pure ()

structure PendingDelivery where
  key : Key
  nonce : Option String
  payloadJson : String
  receivedAtMs : Nat

/-- `WHERE status=?1 AND job_id IS NULL ORDER BY received_at_ms ASC`. -/
def Stores.withStatus (s : Stores) (status : PayloadStatus) : List PendingDelivery :=
  orderBy (·.receivedAtMs) (s.payloads.entries.filterMap fun entry =>
    if entry.2.status == status && entry.2.jobId.isNone then
      some ⟨entry.1, entry.2.nonce, entry.2.payloadJson, entry.2.receivedAtMs⟩
    else none)

def deliveryPayloadsWithStatus (status : PayloadStatus) (limit : Nat) : Flow (List PendingDelivery) :=
  .read fun s => (s.withStatus status).take limit

def pendingDeliveryPayloads (limit : Nat) : Flow (List PendingDelivery) :=
  deliveryPayloadsWithStatus .accepted limit

def reservedDeliveryPayloads (limit : Nat) : Flow (List PendingDelivery) :=
  deliveryPayloadsWithStatus .reserved limit

/-- `UPDATE ... SET status='submitted', job_id=? WHERE status='accepted'`: whether a row changed. -/
def submitPayload (key : Key) (jobId : Option String) : Flow Bool :=
  Prog.transaction do
    let found ← read (·.payloads.lookup key)
    match found.filter (·.status == .accepted) with
    | none => pure false
    | some row => do
      let jobs ← read (·.jobs)
      require (jobId.any fun id => (jobs.lookup id).isNone) "FOREIGN KEY constraint failed"
      write (·.setPayload key { row with status := .submitted, jobId := jobId })
      pure true

def markPayloadSubmitted (key : Key) (jobId : String) : Flow Unit := do
  let _ ← submitPayload key (some jobId)
  pure ()

def markPayloadSubmittedExternal (key : Key) : Flow Unit := do
  let changed ← submitPayload key none
  if changed then pure ()
  else do
    let existing ← Prog.read (·.payloads.lookup key)
    if existing.any fun row => row.status == .submitted && row.jobId.isNone then pure ()
    else Prog.fail s!"External delivery payload '{key.1}/{key.2}' is not pending"

/-! ## The shared ledger -/

inductive DeliveryDisposition
  | accepted | duplicate | conflictingDuplicate
  deriving DecidableEq

def insertDelivery (key : Key) (payloadSha256 : String) (now : Nat) (status : DeliveryStatus) :
    Body String Stores Unit := do
  let receivedAtMs ← pureBody (toI64 now)
  require (payloadSha256.length != 64 || receivedAtMs == 0)
    "CHECK constraint failed: trigger_deliveries"
  let trigger ← read (·.triggers.lookup key.1)
  require trigger.isNone "FOREIGN KEY constraint failed"
  write (·.setDelivery key ⟨payloadSha256, receivedAtMs, status, none⟩)

def acceptDelivery (key : Key) (payloadSha256 : String) (now : Nat) : Flow DeliveryDisposition :=
  Prog.transaction do
    let found ← read (·.deliveries.lookup key)
    match found with
    | some existing =>
      pure (if existing.payloadSha256 == payloadSha256 then .duplicate else .conflictingDuplicate)
    | none => do
      insertDelivery key payloadSha256 now .accepted
      pure .accepted

def rejectDelivery (key : Key) (payloadSha256 : String) (now : Nat) : Flow Unit :=
  Prog.transaction do
    let found ← read (·.deliveries.lookup key)
    match found with
    | some _ => pure ()
    | none => insertDelivery key payloadSha256 now .rejected

/-- `UPDATE trigger_deliveries ... WHERE status='accepted'`: whether a row changed. -/
def submitDelivery (key : Key) (runId : Option String) : Flow Bool :=
  Prog.transaction do
    let found ← read (·.deliveries.lookup key)
    match found.filter (·.status == .accepted) with
    | none => pure false
    | some row => do
      write (·.setDelivery key { row with status := .submitted, runId := runId })
      pure true

def touchTrigger (triggerId : String) (now : Nat) : Flow Unit :=
  Prog.transaction do
    let now ← pureBody (toI64 now)
    let found ← read (·.triggers.lookup triggerId)
    match found with
    | none => pure ()
    | some row => write (·.setTrigger triggerId { row with lastDeliveryAtMs := some now })

/-- The two submission markers differ in the run id they write and accept. -/
def markSubmittedAs (key : Key) (runId : Option String) (now : Nat) : Flow Unit := do
  let changed ← submitDelivery key runId
  if changed then touchTrigger key.1 now
  else do
    let existing ← Prog.read (·.deliveries.lookup key)
    if existing.any fun row => row.status == .submitted && row.runId == runId then
      touchTrigger key.1 now
    else Prog.fail s!"Trigger delivery '{key.1}/{key.2}' is not pending"

def markDeliverySubmitted (key : Key) (runId : String) (now : Nat) : Flow Unit :=
  markSubmittedAs key (some runId) now

def markDeliverySubmittedExternal (key : Key) (now : Nat) : Flow Unit :=
  markSubmittedAs key none now

/-! ## Ingestion -/

inductive IngestOutcome
  | accepted | duplicate | rejected

structure SignedDelivery where
  (triggerId deliveryId : String)
  timestampMs : Nat
  (nonce signature : String)
  eventName : Option String
  payload : Bytes

def SignedDelivery.key (delivery : SignedDelivery) : Key := (delivery.triggerId, delivery.deliveryId)

structure Services where
  formats : Formats
  fromSlice : Bytes → Except String Json
  secret : String → Except String String

def validateDeliveryFields (delivery : SignedDelivery) : Except String Unit := do
  [("trigger id", delivery.triggerId, 128), ("delivery id", delivery.deliveryId, 256),
    ("nonce", delivery.nonce, 256)].forM fun field =>
      let label := field.1
      refuseIf (!isBounded field.2.2 isIdentifierChar field.2.1) s!"Invalid webhook {label}"
  refuseIf (decide (maxWebhookBytes < delivery.payload.length))
    s!"Webhook payload exceeds the {maxWebhookBytes}-byte limit"

def TriggerKind.maxSkewMs : TriggerKind → Option Nat
  | .signedWebhook _ maxSkewMs | .github _ maxSkewMs => some maxSkewMs
  | _ => none

variable (digest : Bytes → Bytes) (services : Services)

def webhookConfig (triggerId : String) (stored : Option StoredTrigger) :
    Except String TriggerConfig := do
  let stored ← okOr stored s!"Unknown trigger '{triggerId}'"
  refuseIf (!stored.enabled) s!"Trigger '{triggerId}' is disabled"
  let config ← stored.configJson.mapError fun error => s!"Invalid stored trigger config: {error}"
  config.validate services.formats
  refuseIf config.kind.maxSkewMs.isNone
    s!"Trigger '{triggerId}' does not accept signed webhook deliveries"
  pure config

def isFresh (config : TriggerConfig) (timestampMs now : Nat) : Bool :=
  config.kind.maxSkewMs.any fun maxSkewMs => decide ((now - timestampMs) + (timestampMs - now) ≤ maxSkewMs)

def hasValidSignature (config : TriggerConfig) (secret : Bytes) (delivery : SignedDelivery) :
    Bool :=
  match config.kind with
  | .signedWebhook _ _ =>
    verifyGenericSignature digest secret delivery.timestampMs delivery.nonce delivery.payload
      delivery.signature
  | .github scope _ =>
    verifyGithubSignature digest secret delivery.payload delivery.signature &&
      githubScopeMatches services.fromSlice delivery.payload (delivery.eventName.getD "")
        scope.repository scope.branchPrefixes scope.events
  | _ => false

def authenticate (delivery : SignedDelivery) (now : Nat) (stored : Option StoredTrigger) :
    Except String Bool := do
  let config ← webhookConfig services delivery.triggerId stored
  if !isFresh config delivery.timestampMs now then pure false
  else do
    let secret ← services.secret (config.secretReference delivery.triggerId)
    pure (hasValidSignature digest services config (textBytes secret) delivery)

def payloadText (payload : Bytes) : Except String String := do
  let text ← okOr (String.fromUTF8? ⟨payload.toArray⟩) "Webhook payload must be UTF-8 JSON"
  let _ ← (services.fromSlice payload).mapError fun error =>
    s!"Webhook payload is not valid JSON: {error}"
  pure text

def settlePayload (key : Key) (disposition : DeliveryDisposition) : Flow Unit :=
  if disposition = .accepted then activateDeliveryPayload key else discardDeliveryPayload key

/-- What follows a reservation: the ledger decides, the payload row follows it. -/
def handOver (key : Key) (payloadSha256 : String) (now : Nat) : Flow DeliveryDisposition := do
  let disposition ← acceptDelivery key payloadSha256 now
  settlePayload key disposition
  pure disposition

def DeliveryDisposition.outcome : DeliveryDisposition → IngestOutcome
  | .accepted => .accepted
  | .duplicate => .duplicate
  | .conflictingDuplicate => .rejected

/-- `reserve_delivery_payload` and what follows when the id and the nonce are new. -/
def admitPayload (delivery : SignedDelivery) (now : Nat) (text : String) : Flow IngestOutcome := do
  let reserved ← reserveDeliveryPayload delivery.key (some delivery.nonce) text now
  if reserved then do
    let disposition ← handOver delivery.key (sha256Hex digest delivery.payload) now
    pure disposition.outcome
  else pure .duplicate

def ingestSignedDelivery (delivery : SignedDelivery) (now : Nat) : Flow IngestOutcome := do
  Prog.ofExcept (validateDeliveryFields delivery)
  let stored ← Prog.read (·.triggers.lookup delivery.triggerId)
  let authentic ← Prog.ofExcept (authenticate digest services delivery now stored)
  if authentic then do
    let text ← Prog.ofExcept (payloadText services delivery.payload)
    admitPayload digest delivery now text
  else do
    rejectDelivery delivery.key (sha256Hex digest delivery.payload) now
    pure .rejected

/-! ## Deliveries the daemon generates -/

def acceptGenerated (key : Key) (payload : String) (now : Nat) : Flow Bool := do
  let reserved ← reserveDeliveryPayload key none payload now
  if reserved then do
    let disposition ← handOver key (sha256Hex digest (textBytes payload)) now
    pure (disposition == .accepted)
  else pure false

def upsertTrigger (triggerId : String) (config : TriggerConfig) (nextFireAtMs : Option Nat) :
    Flow Unit :=
  .write fun s =>
    let lastDeliveryAtMs := (s.triggers.lookup triggerId).bind (·.lastDeliveryAtMs)
    s.setTrigger triggerId ⟨.ok config, true, nextFireAtMs, lastDeliveryAtMs⟩

def disableTrigger (triggerId : String) : Flow Unit :=
  .write fun s =>
    match s.triggers.lookup triggerId with
    | none => s
    | some row => s.setTrigger triggerId { row with enabled := false }

def updateTriggerSchedule (triggerId : String) (nextFireAtMs lastDeliveryAtMs : Option Nat) :
    Flow Unit :=
  .write fun s =>
    match s.triggers.lookup triggerId with
    | none => s
    | some row => s.setTrigger triggerId
        { row with nextFireAtMs, lastDeliveryAtMs := lastDeliveryAtMs.or row.lastDeliveryAtMs }

structure Poller where
  formats : Formats
  nextCronMs : String → Nat → Except String Nat
  fingerprint : String → Bool → Option String → Except String String
  cronPayload : String → Nat → String
  filesystemPayload : String → String → String → Nat → String

def pollCron (poller : Poller) (triggerId schedule : String) (stored : StoredTrigger) (now : Nat) :
    Flow Unit := do
  let upcoming ← Prog.ofExcept (poller.nextCronMs schedule now)
  let due := stored.nextFireAtMs.getD upcoming
  if due ≤ now then do
    let _ ← acceptGenerated digest (triggerId, s!"cron-{due}") (poller.cronPayload triggerId due) now
    let next ← Prog.ofExcept (poller.nextCronMs schedule due)
    updateTriggerSchedule triggerId (some next) (some due)
  else if stored.nextFireAtMs.isNone then updateTriggerSchedule triggerId (some due) none
  else pure ()

def pollFilesystem (poller : Poller) (triggerId path : String) (recursive : Bool)
    (pattern lastFingerprint : Option String) (stored : StoredTrigger) (config : TriggerConfig)
    (now : Nat) : Flow Unit := do
  let fingerprint ← Prog.ofExcept (poller.fingerprint path recursive pattern)
  if lastFingerprint.any (· != fingerprint) then do
    let start := String.ofList (fingerprint.toList.take 32)
    let _ ← acceptGenerated digest (triggerId, s!"fs-{start}")
      (poller.filesystemPayload triggerId path fingerprint now) now
  let seen := TriggerKind.filesystem path recursive pattern (some fingerprint)
  upsertTrigger triggerId { config with kind := seen } stored.nextFireAtMs

def pollOnePersistentTrigger (poller : Poller) (triggerId : String) (stored : StoredTrigger)
    (now : Nat) : Flow Unit := do
  let config ← Prog.ofExcept (stored.configJson.mapError fun error =>
    s!"Invalid trigger config: {error}")
  Prog.ofExcept (config.validate poller.formats)
  match config.kind with
  | .cron schedule => pollCron digest poller triggerId schedule stored now
  | .filesystem path recursive pattern lastFingerprint =>
    pollFilesystem digest poller triggerId path recursive pattern lastFingerprint stored config now
  | _ => pure ()

def pollPersistentTriggers (poller : Poller) (now : Nat) : Flow Unit := do
  let triggers ← Prog.read (·.triggers.entries)
  Prog.forEach (fun entry =>
    if entry.2.enabled then do
      let _ ← (pollOnePersistentTrigger digest poller entry.1 entry.2 now).attempt
      pure ()
    else pure ()) triggers

/-! ## Turning a delivery into work -/

/-- What a pass meets outside the two databases.  `refusal` is backpressure, or a
profile that changed; `prepare` is everything `enqueue` does before its job row:
recipe, parameters, worktree and snapshot. -/
structure Surroundings where
  formats : Formats
  now : Nat
  refusal : Option String
  maxQueue : Nat
  prepare : Key → Except String Unit
  submitQueuedSnapshot : Key → Except String String
  (recordWorktreeLease dispatched : Key → Except String Unit)

def deterministicJobId (key : Key) : String :=
  let hash := sha256Hex digest (textBytes (key.1 ++ ":" ++ key.2))
  "trigger-" ++ String.ofList (hash.toList.take 32)

/-- A deleted job leaves no reference: `job_id ... ON DELETE SET NULL`. -/
def Stores.eraseJob (s : Stores) (jobId : String) : Stores :=
  { s with
    jobs := s.jobs.erase jobId
    payloads := mapRows (fun _ row =>
      if row.jobId = some jobId then { row with jobId := none } else row) s.payloads }

def deleteTerminalJob (jobId : String) : Flow Unit :=
  .write fun s =>
    if (s.jobs.lookup jobId).any (·.state.isTerminal) then s.eraseJob jobId else s

def insertPreparing (key : Key) (jobId : String) (maxQueue : Nat) : Flow Unit :=
  Prog.transaction do
    let jobs ← read (·.jobs)
    let count := (jobs.entries.filter fun entry => !entry.2.state.isTerminal).length
    require (decide (maxQueue ≤ count))
      s!"Daemon queue is full ({count}/{maxQueue}); wait for a run or cancel one"
    require (jobs.lookup jobId).isSome "Failed to queue daemon job: UNIQUE constraint failed"
    write fun s => { s with
      jobs := s.jobs.insert jobId ⟨none, .preparing⟩
      enqueued := s.enqueued ++ [(key, jobId)] }

def markQueued (jobId runId : String) : Flow Unit :=
  Prog.transaction do
    let found ← read (·.jobs.lookup jobId)
    match found.filter (·.state == .preparing) with
    | none => pureBody (.error s!"Job '{jobId}' is not preparing")
    | some _ => write fun s => { s with jobs := s.jobs.insert jobId ⟨some runId, .queued⟩ }

def markFailed (jobId : String) : Flow Unit :=
  Prog.transaction do
    let found ← read (·.jobs.lookup jobId)
    match found with
    | none => pureBody (.error s!"Unknown daemon job '{jobId}'")
    | some row => write fun s => { s with jobs := s.jobs.insert jobId { row with state := .failed } }

variable (surroundings : Surroundings)

def enqueueNew (key : Key) (jobId : String) : Flow String := do
  Prog.ofExcept (surroundings.prepare key)
  insertPreparing key jobId surroundings.maxQueue
  match surroundings.submitQueuedSnapshot key with
  | .error error => do
    markFailed jobId
    Prog.fail error
  | .ok runId => do
    markQueued jobId runId
    Prog.ofExcept (surroundings.recordWorktreeLease key)
    pure runId

def enqueue (key : Key) : Flow String := do
  Prog.ofExcept (refuse? surroundings.refusal id)
  let jobId := deterministicJobId digest key
  let existing ← Prog.read (·.jobs.lookup jobId)
  match existing with
  | some ⟨some runId, _⟩ => pure runId
  | some ⟨none, state⟩ =>
    if state.isTerminal then do
      deleteTerminalJob jobId
      enqueueNew surroundings key jobId
    else Prog.fail s!"Existing job '{jobId}' is still preparing"
  | none => enqueueNew surroundings key jobId

/-- Work outside `daemon_jobs`: a workflow run or an extension handler, whose
own history makes a second dispatch of the same id return the first result. -/
def dispatchExternal (what missing : String) (surroundings : Surroundings) (key : Key) :
    Flow Unit := do
  let found ← Prog.read (·.deliveries.lookup key)
  match found with
  | none => Prog.fail missing
  | some row =>
    if row.status = .submitted ∧ row.runId = none then markPayloadSubmittedExternal key
    else if row.status = .accepted ∧ row.runId = none then do
      Prog.ofExcept (surroundings.dispatched key)
      markDeliverySubmittedExternal key surroundings.now
      markPayloadSubmittedExternal key
    else
      let status := row.status.token
      let runId := row.runId.elim "None" fun id => "Some(\"" ++ id ++ "\")"
      Prog.fail s!"{what} delivery has incompatible shared state status={status} run_id={runId}"

def dispatchExtensionDelivery (key : Key) : Flow Unit :=
  dispatchExternal "Extension" "Extension delivery is missing from the replay ledger" surroundings key

def dispatchWorkflowDelivery (key : Key) : Flow Unit :=
  dispatchExternal "Workflow" "Workflow delivery is missing from the shared replay ledger"
    surroundings key

def dispatchRecipeDelivery (config : TriggerConfig) (key : Key) : Flow Unit := do
  let _ ← Prog.ofExcept (okOr config.recipeTarget
    "Trigger target is neither a recipe nor a workflow")
  let runId ← enqueue digest surroundings key
  markDeliverySubmitted key runId surroundings.now
  markPayloadSubmitted key (deterministicJobId digest key)

def processOnePendingDelivery (key : Key) : Flow Unit := do
  let stored ← Prog.read (·.triggers.lookup key.1)
  match stored with
  | none => pure ()
  | some stored => do
    let config ← Prog.ofExcept stored.configJson
    Prog.ofExcept (config.validate surroundings.formats)
    if config.extensionTarget.isSome then dispatchExtensionDelivery surroundings key
    else if config.workflowTarget.isSome then dispatchWorkflowDelivery surroundings key
    else dispatchRecipeDelivery digest surroundings config key

abbrev PausedLines := List (Key × String)

def processEach (digest : Bytes → Bytes) (surroundings : Surroundings) :
    List PendingDelivery → Flow PausedLines
  | [] => pure []
  | pending :: rest => do
    let done ← (processOnePendingDelivery digest surroundings pending.key).attempt
    let paused ← processEach digest surroundings rest
    match done with
    | .ok () => pure paused
    | .error error => pure ((pending.key, error) :: paused)

def processPendingDeliveries : Flow PausedLines := do
  let pending ← pendingDeliveryPayloads 64
  processEach digest surroundings pending

/-! ## Recovery -/

/-- What the ledger says about a payload that was reserved before a crash. -/
def reconcileDisposition (key : Key) (payloadSha256 : String) (receivedAtMs : Nat) :
    Flow DeliveryDisposition := do
  let found ← Prog.read (·.deliveries.lookup key)
  match found with
  | none => acceptDelivery key payloadSha256 receivedAtMs
  | some row =>
    if row.payloadSha256 = payloadSha256 ∧ row.status.wasAccepted then pure .duplicate
    else pure .conflictingDuplicate

def reconcileOne (pending : PendingDelivery) : Flow Unit := do
  let payloadSha256 := sha256Hex digest (textBytes pending.payloadJson)
  let disposition ← reconcileDisposition pending.key payloadSha256 pending.receivedAtMs
  if disposition = .conflictingDuplicate then discardDeliveryPayload pending.key
  else activateDeliveryPayload pending.key

def reconcileReservedDeliveries : Flow Unit := do
  let reserved ← reservedDeliveryPayloads 256
  Prog.forEach (reconcileOne digest) reserved

def reconcileAndProcess : Flow PausedLines := do
  reconcileReservedDeliveries digest
  processPendingDeliveries digest surroundings

end LittleMonkey.Daemon.Trigger
