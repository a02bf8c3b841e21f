import Mathlib.Data.List.Sort
import Mathlib.Data.String.Basic
import LittleMonkey.Lib.Interleaving
import LittleMonkey.Daemon.RunLease
import LittleMonkey.Daemon.Signatures

/-! # The command queue of a paired device

Work the runner queues for a device's own hardware: a command is queued once for
a tool invocation, leased to the device, started by it, and ends in a terminal
state.  Every connection of every process runs these operations on one database,
statement by statement.
-/

namespace LittleMonkey.Remote

open Primitives Guards Transaction Interleaving
open Daemon.RunLease (toI64)
open Daemon.Trigger (sha256Hex)

/-! ## Grants -/

inductive RemoteAction
  | viewRuns | viewEvents | readArtifacts | approve | cancel | pause | kill | controlDesktop

inductive DeviceCapability
  | viewRuns | viewEvents | readArtifacts | approve | cancel | pause | kill | controlDesktop
  | viewSessions | chat | viewTasks | runWorkflows | capture | admin | describeNode | placeRuns
  | peerMessage | peerTaskRequest | peerArtifact | peerMemoryRead | peerMemoryWrite | migrate
  | deviceInfo | cameraCapture | microphoneCapture | locationRead | notificationPost | screenCapture
  | audioPlayback | voiceStream
  deriving DecidableEq

def DeviceCapability.forAction : RemoteAction → DeviceCapability
  | .viewRuns => .viewRuns
  | .viewEvents => .viewEvents
  | .readArtifacts => .readArtifacts
  | .approve => .approve
  | .cancel => .cancel
  | .pause => .pause
  | .kill => .kill
  | .controlDesktop => .controlDesktop

def legacyCapabilities (actions : List RemoteAction) : List DeviceCapability :=
  actions.map DeviceCapability.forAction

def dependency (capabilities : List DeviceCapability) (granted needed : DeviceCapability)
    (message : String) : Except String Unit :=
  refuseIf (capabilities.contains granted && !capabilities.contains needed) message

def validateCapabilities (capabilities : List DeviceCapability) (actions : List RemoteAction) :
    Except String Unit := do
  refuseIf (!(legacyCapabilities actions).all capabilities.contains)
    "Device capabilities must include every granted legacy remote action"
  dependency capabilities .chat .viewSessions "Mobile chat also requires view_sessions"
  dependency capabilities .runWorkflows .viewTasks "Mobile workflow launch also requires view_tasks"
  dependency capabilities .placeRuns .describeNode
    "Placing runs on this node also requires describe_node"
  dependency capabilities .placeRuns .viewRuns "Placing runs on this node also requires view_runs"
  dependency capabilities .migrate .placeRuns
    "Migrating a process onto this node also requires place_runs"
  dependency capabilities .voiceStream .microphoneCapture
    "Streaming voice also requires microphone_capture"

/-! ## The database -/

inductive DeviceCommandState
  | queued | leased | running | succeeded | failed | cancelled | expired
  deriving DecidableEq

def DeviceCommandState.asStr : DeviceCommandState → String
  | .queued => "queued"
  | .leased => "leased"
  | .running => "running"
  | .succeeded => "succeeded"
  | .failed => "failed"
  | .cancelled => "cancelled"
  | .expired => "expired"

def DeviceCommandState.terminal : DeviceCommandState → Bool
  | .succeeded | .failed | .cancelled | .expired => true
  | .queued | .leased | .running => false

structure DeviceArtifact where
  sha256 : String
  bytes : Nat
  mediaType : String

structure DeviceRow where
  actions : List RemoteAction
  revokedAtMs : Option Nat

structure ActionRow where
  deviceId : String
  capability : DeviceCapability
  argumentsJson : Bytes
  argumentsSha256 : String
  (sourceRunId sourceSessionId sourceToolCallId : Option String)
  state : DeviceCommandState
  attempt : Nat
  cancelRequested : Bool
  (createdAtMs updatedAtMs expiresAtMs : Nat)
  (leaseExpiresAtMs startedAtMs completedAtMs : Option Nat)
  resultJson : Option Bytes
  artifact : Option DeviceArtifact
  (error executionId terminalSha256 invocationId : Option String)

structure AuditRow where
  occurredAtMs : Nat
  deviceId : Option String
  action : String
  target : Option String
  outcome : String
  requestSha256 : Option String

structure RemoteDb where
  devices : Table String DeviceRow
  capabilities : Table String (List DeviceCapability)
  actions : Table String ActionRow
  audit : List AuditRow
  /-- The command rows ever inserted, with the invocation each was queued for. -/
  inserted : List (String × Option String)

def RemoteDb.empty : RemoteDb := ⟨∅, ∅, ∅, [], []⟩

structure DeviceCommandRecord where
  commandId : String
  row : ActionRow

structure DeviceRecord where
  deviceId : String
  actions : List RemoteAction
  capabilities : List DeviceCapability
  revokedAtMs : Option Nat

def DeviceRecord.active (device : DeviceRecord) : Bool := device.revokedAtMs.isNone

/-- A device paired before the capability split has no row of capabilities. -/
def RemoteDb.device (db : RemoteDb) (deviceId : String) : Option DeviceRecord :=
  (db.devices.lookup deviceId).map fun row =>
    ⟨deviceId, row.actions, (db.capabilities.lookup deviceId).getD (legacyCapabilities row.actions),
      row.revokedAtMs⟩

def RemoteDb.deviceCommand (db : RemoteDb) (commandId : String) : Option DeviceCommandRecord :=
  (db.actions.lookup commandId).map (⟨commandId, ·⟩)

def RemoteDb.deviceCommandByInvocation (db : RemoteDb) (invocationId : String) :
    Option DeviceCommandRecord :=
  (db.actions.entries.find? fun entry => entry.2.invocationId == some invocationId).map
    fun entry => ⟨entry.1, entry.2⟩

abbrev Flow := Prog String RemoteDb

def device (deviceId : String) : Flow (Option DeviceRecord) := Prog.read (·.device deviceId)

def deviceCommand (commandId : String) : Flow (Option DeviceCommandRecord) :=
  Prog.read (·.deviceCommand commandId)

def deviceCommandByInvocation (invocationId : String) : Flow (Option DeviceCommandRecord) :=
  Prog.read (·.deviceCommandByInvocation invocationId)

def okOr {α : Type} (value : Option α) (message : String) : Flow α :=
  Prog.ofExcept (value.elim (.error message) .ok)

def numeric (value : Nat) : Flow Nat := Prog.ofExcept (toI64 value)

def refuse (bad : Bool) (message : String) : Flow Unit := Prog.ofExcept (refuseIf bad message)

def bounded (value : String) (max : Nat) : String := String.ofList (value.toList.take max)

def audit (nowMs : Nat) (deviceId : Option String) (action : String) (target : Option String)
    (outcome : String) (requestSha256 : Option String) : Flow Unit := do
  let now ← numeric nowMs
  Prog.write fun db => { db with
    audit := db.audit ++ [⟨now, deviceId, bounded action 128, target.map (bounded · 512),
      bounded outcome 128, requestSha256⟩] }

def RemoteDb.update (db : RemoteDb) (found : String → ActionRow → Bool)
    (set : ActionRow → ActionRow) : RemoteDb :=
  { db with actions := updateRows found set db.actions }

def updateWhere (found : String → ActionRow → Bool) (set : ActionRow → ActionRow) : Flow Nat :=
  Prog.statement fun db => (.ok (countRows found db.actions), db.update found set)

/-! ## Queueing -/

structure DeviceCommandRequest where
  deviceId : String
  capability : DeviceCapability
  arguments : Bytes
  (sourceRunId sourceSessionId sourceToolCallId invocationId : Option String)
  expiresAtMs : Nat

def maxDeviceCommandArgBytes : Nat := 8 * 1024

def DeviceCommandRequest.row (request : DeviceCommandRequest) (argumentsSha256 : String)
    (now expiresAtMs : Nat) : ActionRow where
  deviceId := request.deviceId
  capability := request.capability
  argumentsJson := request.arguments
  argumentsSha256 := argumentsSha256
  sourceRunId := request.sourceRunId
  sourceSessionId := request.sourceSessionId
  sourceToolCallId := request.sourceToolCallId
  state := .queued
  attempt := 0
  cancelRequested := false
  createdAtMs := now
  updatedAtMs := now
  expiresAtMs := expiresAtMs
  leaseExpiresAtMs := none
  startedAtMs := none
  completedAtMs := none
  resultJson := none
  artifact := none
  error := none
  executionId := none
  terminalSha256 := none
  invocationId := request.invocationId

/-- Another row has the invocation id: the unique index, which leaves out `NULL`. -/
def RemoteDb.invoked (db : RemoteDb) (invocationId : Option String) : Bool :=
  db.actions.entries.any fun entry =>
    entry.2.invocationId.isSome && entry.2.invocationId == invocationId

/-- The constraint that keeps a row out of `remote_device_actions`. -/
def RemoteDb.violation (db : RemoteDb) (commandId : String) (row : ActionRow) : Option String :=
  if row.argumentsSha256.length ≠ 64 then
    some "CHECK constraint failed: length(arguments_sha256)=64"
  else if (db.actions.lookup commandId).isSome then
    some "UNIQUE constraint failed: remote_device_actions.command_id"
  else if db.invoked row.invocationId then
    some "UNIQUE constraint failed: remote_device_actions.invocation_id"
  else if (db.devices.lookup row.deviceId).isNone then
    some "FOREIGN KEY constraint failed"
  else none

def RemoteDb.insertAction (db : RemoteDb) (commandId : String) (row : ActionRow) : RemoteDb :=
  { db with
    actions := db.actions.insert commandId row
    inserted := db.inserted ++ [(commandId, row.invocationId)] }

/-- The insert; a violated constraint is returned, since the caller looks at it. -/
def insertAction (commandId : String) (row : ActionRow) : Flow (Option String) :=
  Prog.statement fun db =>
    match db.violation commandId row with
    | some failure => (.ok (some failure), db)
    | none => (.ok none, db.insertAction commandId row)

def sameInvocation (request : DeviceCommandRequest) (argumentsSha256 invocationId : String)
    (existing : DeviceCommandRecord) : Except String DeviceCommandRecord :=
  if existing.row.deviceId ≠ request.deviceId || existing.row.capability ≠ request.capability ||
      existing.row.argumentsSha256 ≠ argumentsSha256 then
    .error (s!"Invocation '{invocationId}' already queued a different device command " ++
      s!"({existing.commandId}); refusing to replace it")
  else .ok existing

def ofInvocation (request : DeviceCommandRequest) : Flow (Option DeviceCommandRecord) :=
  match request.invocationId with
  | none => pure none
  | some invocationId => deviceCommandByInvocation invocationId

/-- The insert and its `or_else`: a lost race is answered by the winner's row. -/
def insertOnce (request : DeviceCommandRequest) (commandId : String) (row : ActionRow) :
    Flow Unit := do
  match ← insertAction commandId row with
  | none => pure ()
  | some failure =>
    match ← ofInvocation request with
    | some _ => pure ()
    | none => Prog.fail failure

variable (digest : Bytes → Bytes)

/-- The command id is `dcmd-` and a random token; `token` is what the generator gave. -/
def enqueueDeviceCommand (request : DeviceCommandRequest) (nowMs : Nat)
    (token : Except String String) : Flow DeviceCommandRecord := do
  let found ← device request.deviceId
  let device ← okOr found s!"Unknown remote device '{request.deviceId}'"
  refuse (!device.active) "Remote device is revoked"
  refuse (maxDeviceCommandArgBytes < request.arguments.length)
    "Device command arguments exceed 8 KiB"
  refuse (request.expiresAtMs ≤ nowMs) "Device command expiry must be in the future"
  let token ← Prog.ofExcept token
  let commandId := s!"dcmd-{token}"
  let argumentsSha256 := sha256Hex digest request.arguments
  match ← ofInvocation request with
  | some existing =>
    Prog.ofExcept (sameInvocation request argumentsSha256 (request.invocationId.getD "") existing)
  | none =>
    let now ← numeric nowMs
    let expiresAtMs ← numeric request.expiresAtMs
    insertOnce request commandId (request.row argumentsSha256 now expiresAtMs)
    match (← ofInvocation request).filter (·.commandId ≠ commandId) with
    | some existing => pure existing
    | none =>
      audit nowMs (some request.deviceId) "device_command_queue" (some commandId) "allowed"
        (some argumentsSha256)
      let queued ← deviceCommand commandId
      okOr queued "Queued device command disappeared"

/-! ## Expiry and leases -/

def ActionRow.close (row : ActionRow) (state : DeviceCommandState) (now : Nat) (error : String) :
    ActionRow :=
  { row with
    state := state
    completedAtMs := some now
    updatedAtMs := now
    error := some (row.error.getD error) }

/-- A command in `queued` or `leased`: the device has not said that it started. -/
def ActionRow.waiting (row : ActionRow) : Bool := row.state = .queued || row.state = .leased

/-- A lease that ran out before the command did goes back to the queue; a command
past its expiry ends, and one that was running ends as unproven. -/
def expireDeviceCommands (nowMs : Nat) : Flow Nat := do
  let now ← numeric nowMs
  let requeued ← updateWhere
    (fun _ row => row.state = .leased && row.leaseExpiresAtMs.any (· ≤ now) && now < row.expiresAtMs)
    fun row => { row with state := .queued, leaseExpiresAtMs := none, updatedAtMs := now }
  let expired ← updateWhere (fun _ row => row.waiting && row.expiresAtMs ≤ now)
    (·.close .expired now "The command expired before a device took it")
  let failed ← updateWhere (fun _ row => row.state = .running && row.expiresAtMs ≤ now)
    (·.close .failed now ("The device started this command and never reported back; " ++
      "whether the action happened is unproven"))
  pure (requeued + expired + failed)

def deviceLeaseMs : Nat := 30000

def saturatingAddU64 (a b : Nat) : Nat := min (a + b) (2 ^ 64 - 1)

def RemoteDb.nextQueued (db : RemoteDb) (deviceId : String) : Option String :=
  let queued := db.actions.entries.filter fun entry =>
    entry.2.deviceId = deviceId && entry.2.state = .queued
  (queued.insertionSort fun a b => a.2.createdAtMs < b.2.createdAtMs ∨
    a.2.createdAtMs = b.2.createdAtMs ∧ a.1 ≤ b.1).head?.map (·.1)

def leaseBody (deviceId : String) (leaseMs nowMs : Nat) : Body String RemoteDb (Option String) := do
  let now ← pureBody (toI64 nowMs)
  write (·.update
    (fun _ row => row.deviceId = deviceId && row.state = .queued && row.cancelRequested)
    (·.close .cancelled now "Cancelled before the device took it"))
  let next ← read (·.nextQueued deviceId)
  match next with
  | none => pure none
  | some commandId => do
    let leaseExpiresAtMs ← pureBody (toI64 (saturatingAddU64 nowMs (min leaseMs deviceLeaseMs)))
    write (·.update (fun id _ => id = commandId) fun row => { row with
      state := .leased
      attempt := row.attempt + 1
      updatedAtMs := now
      leaseExpiresAtMs := some (min leaseExpiresAtMs row.expiresAtMs) })
    pure (some commandId)

def leaseDeviceCommand (deviceId : String) (leaseMs nowMs : Nat) :
    Flow (Option DeviceCommandRecord) := do
  let _ ← expireDeviceCommands nowMs
  match ← Prog.transaction (leaseBody deviceId leaseMs nowMs) with
  | none => pure none
  | some commandId => deviceCommand commandId

/-! ## Starting -/

structure DeviceCommandStart where
  (started recoverable : Bool)
  executionId : Option String

def ownCommand (deviceId commandId : String) : Flow DeviceCommandRecord := do
  let found ← deviceCommand commandId
  okOr (found.filter (·.row.deviceId = deviceId)) "Unknown device command"

/-- Whether an execution id contradicts the recorded one; a missing one proves nothing. -/
def otherExecution : Option String → Option String → Bool
  | some held, some offered => held ≠ offered
  | _, _ => false

def restartRunning (record : DeviceCommandRecord) (deviceId commandId : String)
    (executionId : Option String) (nowMs : Nat) : Flow DeviceCommandStart :=
  if otherExecution record.row.executionId executionId then do
    audit nowMs (some deviceId) "device_command_execution_conflict" (some commandId) "denied" none
    Prog.fail ("This command is already running under another execution and will not be " ++ "started again")
  else pure ⟨false, true, record.row.executionId⟩

def isLeased (commandId : String) (id : String) (row : ActionRow) : Bool :=
  id = commandId && row.state = .leased

def startLeased (record : DeviceCommandRecord) (deviceId commandId : String)
    (executionId : Option String) (nowMs : Nat) : Flow DeviceCommandStart := do
  let now ← numeric nowMs
  let changed ← updateWhere (isLeased commandId) fun row => { row with
    state := .running, startedAtMs := some now, updatedAtMs := now, executionId := executionId }
  refuse (changed ≠ 1) "The command changed state concurrently"
  audit nowMs (some deviceId) "device_command_start" (some commandId) "allowed"
    (some record.row.argumentsSha256)
  pure ⟨true, false, executionId⟩

def startDeviceCommand (deviceId commandId : String) (executionId : Option String) (nowMs : Nat) :
    Flow DeviceCommandStart := do
  let record ← ownCommand deviceId commandId
  if record.row.state = .running then restartRunning record deviceId commandId executionId nowMs
  else if record.row.state ≠ .leased then
    let state := record.row.state.asStr
    Prog.fail s!"A {state} command cannot be started"
  else if record.row.cancelRequested then do
    let now ← numeric nowMs
    let _ ← updateWhere (isLeased commandId)
      (·.close .cancelled now "Cancelled before the device started it")
    Prog.fail "The command was cancelled before it started"
  else startLeased record deviceId commandId executionId nowMs

/-! ## Reports, cancellations and grants -/

/-- `json!({..}).to_string()`: the four values in the order of their keys.  The texts are those
the encoder gives for each value, `null` for a missing one. -/
structure ReportTexts where
  (artifactSha256 error : Option String → String)
  result : Option Bytes → String

def terminalDigest (texts : ReportTexts) (outcome : DeviceCommandState) (result : Option Bytes)
    (artifactSha256 error : Option String) : String :=
  let artifactText := texts.artifactSha256 artifactSha256
  let errorText := texts.error error
  let outcomeText := outcome.asStr
  let resultText := texts.result result
  sha256Hex digest (textBytes ("\x7b" ++ s!"\"artifact_sha256\":{artifactText},\"error\":{errorText}"
    ++ s!",\"outcome\":\"{outcomeText}\",\"result\":{resultText}" ++ "\x7d"))

structure DeviceReport where
  outcome : DeviceCommandState
  result : Option Bytes
  artifact : Option DeviceArtifact
  (error executionId : Option String)

def reportAgain (record : DeviceCommandRecord) (deviceId commandId digest : String) (nowMs : Nat) :
    Flow DeviceCommandRecord :=
  match record.row.terminalSha256 with
  | none => pure record
  | some stored =>
    let state := record.row.state.asStr
    if stored = digest then do
      audit nowMs (some deviceId) "device_command_result_replayed" (some commandId) state
        (some digest)
      pure record
    else do
      audit nowMs (some deviceId) "device_command_result_conflict" (some commandId) "denied"
        (some digest)
      Prog.fail (s!"This command already reported {state} and that result is authoritative; a " ++
        "different result cannot replace it")

def artifactSize (artifact : Option DeviceArtifact) : Flow Unit :=
  match artifact with
  | none => pure ()
  | some artifact => do
    let _ ← numeric artifact.bytes

def completeDeviceCommand (texts : ReportTexts) (deviceId commandId : String)
    (report : DeviceReport) (nowMs : Nat) : Flow DeviceCommandRecord := do
  refuse (!report.outcome.terminal) "A device command completes in a terminal state"
  let record ← ownCommand deviceId commandId
  let boundedError := report.error.map (bounded · 4096)
  let terminalSha256 := terminalDigest digest texts report.outcome report.result
    (report.artifact.map (·.sha256)) boundedError
  if record.row.state.terminal then reportAgain record deviceId commandId terminalSha256 nowMs
  else if otherExecution record.row.executionId report.executionId then do
    audit nowMs (some deviceId) "device_command_execution_conflict" (some commandId) "denied" none
    Prog.fail "This result belongs to a different execution of the command"
  else do
    let now ← numeric nowMs
    artifactSize report.artifact
    let _ ← updateWhere (fun id _ => id = commandId) fun row => { row with
      state := report.outcome
      completedAtMs := some now
      updatedAtMs := now
      resultJson := report.result
      artifact := report.artifact
      error := boundedError
      terminalSha256 := some terminalSha256 }
    audit nowMs (some deviceId) "device_command_complete" (some commandId) report.outcome.asStr
      (some record.row.argumentsSha256)
    let completed ← deviceCommand commandId
    okOr completed "Completed device command disappeared"

/-- A running command only gets the flag: the device may already have acted. -/
def cancelRow (record : DeviceCommandRecord) (now : Nat) (row : ActionRow) : ActionRow :=
  if record.row.state = .running then { row with cancelRequested := true, updatedAtMs := now }
  else { row.close .cancelled now "Cancelled before the device started it" with
    cancelRequested := true }

def requestDeviceCancel (commandId : String) (nowMs : Nat) : Flow DeviceCommandRecord := do
  let found ← deviceCommand commandId
  let record ← okOr found "Unknown device command"
  if record.row.state.terminal then pure record
  else do
    let now ← numeric nowMs
    let _ ← updateWhere (fun id _ => id = commandId) (cancelRow record now)
    audit nowMs (some record.row.deviceId) "device_command_cancel" (some commandId)
      (if record.row.state = .running then "requested" else "cancelled") none
    let cancelled ← deviceCommand commandId
    okOr cancelled "Cancelled device command disappeared"

/-- The commands of the device that wait under a capability it no longer has. -/
def cancelWithdrawn (deviceId : String) (withdrawn : List DeviceCapability) (nowMs : Nat) :
    Flow Unit :=
  if withdrawn.isEmpty then pure ()
  else do
    let now ← numeric nowMs
    let _ ← updateWhere
      (fun _ row => row.deviceId = deviceId && row.waiting && withdrawn.contains row.capability)
      (·.close .cancelled now "The capability was revoked")

def setDeviceCapabilities (deviceId : String) (capabilities : List DeviceCapability) (nowMs : Nat) :
    Flow (List DeviceCapability) := do
  let found ← device deviceId
  let device ← okOr found s!"Unknown remote device '{deviceId}'"
  refuse (!device.active) "A revoked device cannot be granted capabilities"
  Prog.ofExcept (validateCapabilities capabilities device.actions)
  Prog.write fun db => { db with capabilities := db.capabilities.insert deviceId capabilities }
  cancelWithdrawn deviceId (device.capabilities.filter (!capabilities.contains ·)) nowMs
  audit nowMs (some deviceId) "device_capabilities_set" (some deviceId) "allowed" none
  pure capabilities

/-! ## Talk captures -/

/-- An open microphone socket, as a command that runs from the beginning; `arguments` is the
JSON that names the conversation. -/
def openTalkCapture (deviceId sessionId : String) (arguments : Bytes) (expiresAtMs nowMs : Nat)
    (token : Except String String) : Flow DeviceCommandRecord := do
  let record ← enqueueDeviceCommand digest
    ⟨deviceId, .voiceStream, arguments, none, some sessionId, none, none, expiresAtMs⟩ nowMs token
  let now ← numeric nowMs
  let _ ← updateWhere (fun id _ => id = record.commandId) fun row => { row with
    state := .running, startedAtMs := some now, updatedAtMs := now }
  let opened ← deviceCommand record.commandId
  okOr opened "Open Talk capture disappeared"

def closeTalkCapture (texts : ReportTexts) (deviceId commandId : String) (error : Option String)
    (nowMs : Nat) : Flow Unit := do
  let outcome := if error.isSome then DeviceCommandState.failed else .succeeded
  let _ ← completeDeviceCommand digest texts deviceId commandId ⟨outcome, none, none, error, none⟩
    nowMs

end LittleMonkey.Remote
