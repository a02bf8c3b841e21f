import LittleMonkey.Ledger.Chain
import LittleMonkey.Ledger.Protocol
import LittleMonkey.Lib.Transaction

/-! # The run ledger

The tables of the ledger with their keys, checks and triggers, and the two
writers `submit_run` and `append_event`.  A statement the database refuses is a
`sqlite` error; a writer that fails rolls its transaction back.

Signed 64-bit columns are naturals here: every writer goes through
`to_sql_i64`, and the schema keeps them non-negative.
-/

namespace LittleMonkey.Ledger

open Guards Primitives Transaction

/-! ## Tables -/

structure RunRow where
  idempotencyKey : String
  specJson : Bytes
  (createdAtMs updatedAtMs : Nat)
  status : RunStatus
  lastSequence : Nat
  terminalSequence : Option Nat
  maxEventCount : Nat

structure ApprovalRow where
  (toolCallId toolName operationSha256 : String)
  requestedSequence : Nat
  awaitingSequence : Option Nat
  expiresAtMs : Nat
  detail : String
  riskLevel : Option RiskLevel
  decision : Option PermissionDecision
  decidedSequence : Option Nat
  decidedByJson : Option Bytes

structure ArtifactRow where
  runId : String
  eventSequence : Nat
  kind : ArtifactKind
  (name mediaType contentSha256 : String)
  (sizeBytes createdAtMs : Nat)

structure CheckpointRow where
  runId : String
  eventSequence : Nat
  kind : CheckpointKind
  label : String
  contentSha256 : Option String
  createdAtMs : Nat

structure MutationRow where
  toolCallId : String
  kind : MutationKind
  state : ExternalMutationState
  idempotencyKey : Option String
  summary : String
  preparedSequence : Nat
  confirmedSequence : Option Nat
  (confirmationRef reconciliationReason : Option String)
  updatedAtMs : Nat

/-- Approvals and external mutations are keyed by run and their own id. -/
structure Tables where
  runs : Table String RunRow
  runEvents : List EventRow
  approvals : Table (String × String) ApprovalRow
  artifacts : Table String ArtifactRow
  checkpoints : Table String CheckpointRow
  externalMutations : Table (String × String) MutationRow

def Tables.empty : Tables := ⟨∅, [], ∅, ∅, ∅, ∅⟩

def Tables.eventsOf (tables : Tables) (runId : String) : List EventRow :=
  tables.runEvents.filter (·.columns.runId == runId)

def Tables.eventAt (tables : Tables) (runId : String) (sequence : Nat) : Option EventRow :=
  tables.runEvents.find? fun row => row.columns.runId == runId && row.columns.sequence == sequence

/-- Serialization and hashing: serde_json and SHA-256 in hex. -/
structure Codec (S : Snapshots) where
  sha : Bytes → String
  specJson : RunSpec S → Bytes
  readSpec : Bytes → Option (RunSpec S)
  envelopeJson : RunEventEnvelope → Bytes
  identityJson : ClientIdentity → Bytes

abbrev LedgerResult := Except LedgerError
abbrev Statement := Body LedgerError Tables

def toSqlI64 (value : Nat) (field : String) : LedgerResult Nat :=
  if (value : Int) ≤ i64Max then .ok value else .error (.numericOverflow field)

def protocolChecked (result : ProtocolValidationResult) : LedgerResult Unit :=
  result.mapError fun e => .protocol e.display

/-! ## Submitting a run -/

structure StoredRun (S : Snapshots) where
  spec : RunSpec S
  status : RunStatus
  lastSequence : Nat
  terminalSequence : Option Nat
  updatedAtMs : Nat

structure SubmitRunOutcome (S : Snapshots) where
  run : StoredRun S
  inserted : Bool

variable {S : Snapshots}

variable (codec : Codec S)

def loadRunFrom (tables : Tables) (runId : String) : LedgerResult (Option (StoredRun S)) :=
  match tables.runs.lookup runId with
  | none => .ok none
  | some row => do
    let spec ← okOr (codec.readSpec row.specJson) .serialization
    pure (some ⟨spec, row.status, row.lastSequence, row.terminalSequence, row.updatedAtMs⟩)

def loadExisting (runId missing : String) : Statement (StoredRun S) := do
  let loaded ← read (loadRunFrom codec · runId)
  let run ← pureBody loaded
  pureBody (okOr run (.corrupt missing))

def insertRun (runId : String) (row : RunRow) : Statement Unit := do
  let tables ← read id
  require (row.createdAtMs == 0) (.sqlite "CHECK constraint failed: created_at_ms > 0")
  require (row.maxEventCount == 0) (.sqlite "CHECK constraint failed: max_event_count > 0")
  require (tables.runs.lookup runId).isSome (.sqlite "UNIQUE constraint failed: runs.run_id")
  require (tables.runs.entries.any (·.2.idempotencyKey == row.idempotencyKey))
    (.sqlite "UNIQUE constraint failed: runs.idempotency_key")
  write fun tables => { tables with runs := tables.runs.insert runId row }

def submitRunBody (spec : RunSpec S) (createdAtMs maxEventCount : Nat) :
    Statement (SubmitRunOutcome S) := do
  let specJson := codec.specJson spec
  let existing ← read fun tables =>
    tables.runs.entries.find? (·.2.idempotencyKey == spec.idempotencyKey)
  match existing with
  | some ⟨existingRunId, row⟩ => do
    require (row.specJson != specJson)
      (.idempotencyConflict spec.idempotencyKey existingRunId spec.runId)
    let run ← loadExisting codec spec.runId
      s!"idempotency key '{spec.idempotencyKey}' points to missing run '{spec.runId}'"
    pure ⟨run, false⟩
  | none => do
    let taken ← read fun tables => (tables.runs.lookup spec.runId).isSome
    require taken (.runIdConflict spec.runId)
    insertRun spec.runId ⟨spec.idempotencyKey, specJson, createdAtMs, createdAtMs, .queued, 0,
      none, maxEventCount⟩
    let run ← loadExisting codec spec.runId s!"newly inserted run '{spec.runId}' disappeared"
    pure ⟨run, true⟩

/-- What `submit_run` checks and computes before it opens its transaction. -/
def submitRunArguments (spec : RunSpec S) : LedgerResult (Nat × Nat) := do
  protocolChecked spec.validate
  let createdAtMs ← toSqlI64 spec.createdAtMs "created_at_ms"
  let maxEventCount ← toSqlI64 spec.budgets.maxEventCount "max_event_count"
  pure (createdAtMs, maxEventCount)

def submitRun (spec : RunSpec S) (tables : Tables) : LedgerResult (SubmitRunOutcome S) × Tables :=
  guarded (submitRunArguments spec) (fun columns => submitRunBody codec spec columns.1 columns.2)
    tables

/-! ## What an event does -/

inductive Projection
  | none
  | approvalRequested (requestId toolCallId toolName operationSha256 : String)
      (expiresAtMs : Nat) (detail : String) (riskLevel : Option RiskLevel)
  | approvalAwaiting (requestId operationSha256 : String) (expiresAtMs : Nat)
  | approvalDecided (requestId operationSha256 : String) (decision : PermissionDecision)
      (decidedBy : ClientIdentity)
  | artifact (artifactId : String) (kind : ArtifactKind) (name mediaType contentSha256 : String)
      (sizeBytes : Nat)
  | checkpoint (checkpointId : String) (kind : CheckpointKind) (label : String)
      (contentSha256 : Option String)
  | externalPrepared (mutationId toolCallId : String) (kind : MutationKind)
      (idempotencyKey : Option String) (summary : String)
  | externalConfirmed (mutationId : String) (confirmationRef : Option String) (summary : String)
  | externalNeedsReconciliation (mutationId reason : String)

structure EventEffects where
  eventType : String
  status : Option RunStatus
  terminal : Bool
  projection : Projection

/-- The one match over the event kinds: column `event_type`, derived status and
projection. -/
def eventEffects : RunEvent → String × Option RunStatus × Projection
  | .queued .. => ("queued", some .queued, .none)
  | .started .. => ("started", some .running, .none)
  | .modelDelta .. => ("model_delta", none, .none)
  | .toolProposed .. => ("tool_proposed", none, .none)
  | .permissionRequested requestId toolCallId toolName operationSha256 expiresAtMs detail
      riskLevel _ =>
    ("permission_requested", none,
      .approvalRequested requestId toolCallId toolName operationSha256 expiresAtMs detail riskLevel)
  | .permissionDecided requestId operationSha256 decision decidedBy =>
    ("permission_decided", some .running, .approvalDecided requestId operationSha256 decision decidedBy)
  | .routingDecided .. => ("routing_decided", none, .none)
  | .toolStarted .. => ("tool_started", none, .none)
  | .skillInvoked .. => ("skill_invoked", none, .none)
  | .toolFinished .. => ("tool_finished", none, .none)
  | .artifactAdded artifactId kind name mediaType contentSha256 sizeBytes =>
    ("artifact_added", none, .artifact artifactId kind name mediaType contentSha256 sizeBytes)
  | .checkpointLinked checkpointId kind label contentSha256 =>
    ("checkpoint_linked", none, .checkpoint checkpointId kind label contentSha256)
  | .verificationFinished .. => ("verification_finished", none, .none)
  | .usageRecorded .. => ("usage_recorded", none, .none)
  | .cancellationRequested .. => ("cancellation_requested", some .cancelling, .none)
  | .externalMutationPrepared mutationId toolCallId kind idempotencyKey summary =>
    ("external_mutation_prepared", none, .externalPrepared mutationId toolCallId kind idempotencyKey summary)
  | .externalMutationConfirmed mutationId confirmationRef summary =>
    ("external_mutation_confirmed", none, .externalConfirmed mutationId confirmationRef summary)
  | .awaitingApproval requestId operationSha256 expiresAtMs _ =>
    ("awaiting_approval", some .waitingForPermission, .approvalAwaiting requestId operationSha256 expiresAtMs)
  | .paused .. => ("paused", some .paused, .none)
  | .cancelling .. => ("cancelling", some .cancelling, .none)
  | .completed .. => ("completed", some .succeeded, .none)
  | .failed .. => ("failed", some .failed, .none)
  | .cancelled .. => ("cancelled", some .cancelled, .none)
  | .needsReconciliation mutationId reason =>
    ("needs_reconciliation", some .needsReconciliation, .externalNeedsReconciliation mutationId reason)
  | .taskEvent .. => ("task_event", none, .none)
  | .migrationDeparted .. => ("migration_departed", none, .none)
  | .migrationArrived .. => ("migration_arrived", none, .none)

def deriveEventEffects (event : RunEvent) : EventEffects :=
  let (eventType, status, projection) := eventEffects event
  { eventType, status, terminal := event.isTerminal, projection }

def validateStatusTransition (current : RunStatus) (next : Option RunStatus) : LedgerResult Unit :=
  refuseIf (current == .cancelling && (next == some .queued || next == some .running ||
      next == some .waitingForPermission || next == some .paused))
    (.invalidTransition "a cancelling run cannot return to an active state")

/-! ## Projections -/

/-- The foreign key `(run_id, sequence)` of the projected tables. -/
def requireEvent (runId : String) (sequence : Nat) : Statement Unit := do
  let referenced ← read fun tables => (tables.eventAt runId sequence).isSome
  require (!referenced) (.sqlite "FOREIGN KEY constraint failed")

def insertApproval (key : String × String) (row : ApprovalRow) : Statement Unit := do
  require (row.operationSha256.length != 64)
    (.sqlite "CHECK constraint failed: length(operation_sha256) = 64")
  require (row.expiresAtMs == 0) (.sqlite "CHECK constraint failed: expires_at_ms > 0")
  let taken ← read fun tables => (tables.approvals.lookup key).isSome
  require taken (.sqlite "UNIQUE constraint failed: approvals.run_id, approvals.request_id")
  requireEvent key.1 row.requestedSequence
  write fun tables => { tables with approvals := tables.approvals.insert key row }

/-- An update that writes `sequence` into a column with a foreign key. -/
def updateApproval (key : String × String) (row : ApprovalRow) (sequence : Nat) :
    Statement Unit := do
  requireEvent key.1 sequence
  write fun tables => { tables with approvals := tables.approvals.insert key row }

def findApproval (key : String × String) : Statement ApprovalRow := do
  let stored ← read fun tables => tables.approvals.lookup key
  pureBody (okOr stored (.notFound "approval" key.2))

def awaitApproval (key : String × String) (operationSha256 : String) (expiresAtMs sequence : Nat) :
    Statement Unit := do
  let stored ← findApproval key
  require (stored.operationSha256 != operationSha256) (.approvalDigestMismatch key.2)
  require (stored.expiresAtMs != expiresAtMs) (.approvalExpiryMismatch key.2)
  require stored.decision.isSome (.approvalAlreadyDecided key.2)
  updateApproval key { stored with awaitingSequence := some sequence } sequence

def decisionTiming (decision : PermissionDecision) (occurredAtMs expiresAtMs : Nat) :
    Option String :=
  match decision with
  | .expired =>
    if occurredAtMs < expiresAtMs then some "expired decisions are valid only at or after expiry"
    else none
  | .allowOnce | .allowForRun | .deny =>
    if expiresAtMs ≤ occurredAtMs then some "allow or deny decisions must occur before expiry"
    else none

def decideApproval (key : String × String) (operationSha256 : String)
    (decision : PermissionDecision) (decidedByJson : Bytes) (sequence occurredAtMs : Nat) :
    Statement Unit := do
  let existing ← findApproval key
  require (existing.operationSha256 != operationSha256) (.approvalDigestMismatch key.2)
  require existing.decision.isSome (.approvalAlreadyDecided key.2)
  match decisionTiming decision occurredAtMs existing.expiresAtMs with
  | some message => pureBody (.error (.approvalDecisionTiming key.2 message))
  | none =>
    updateApproval key
      { existing with
        decision := some decision
        decidedSequence := some sequence
        decidedByJson := some decidedByJson } sequence

def insertArtifact (artifactId : String) (row : ArtifactRow) : Statement Unit := do
  require (row.contentSha256.length != 64)
    (.sqlite "CHECK constraint failed: length(content_sha256) = 64")
  require (row.createdAtMs == 0) (.sqlite "CHECK constraint failed: created_at_ms > 0")
  let taken ← read fun tables => (tables.artifacts.lookup artifactId).isSome
  require taken (.sqlite "UNIQUE constraint failed: artifacts.artifact_id")
  requireEvent row.runId row.eventSequence
  write fun tables => { tables with artifacts := tables.artifacts.insert artifactId row }

def insertCheckpoint (checkpointId : String) (row : CheckpointRow) : Statement Unit := do
  require (row.contentSha256.any (·.length != 64))
    (.sqlite "CHECK constraint failed: content_sha256 IS NULL OR length(content_sha256) = 64")
  require (row.createdAtMs == 0) (.sqlite "CHECK constraint failed: created_at_ms > 0")
  let taken ← read fun tables => (tables.checkpoints.lookup checkpointId).isSome
  require taken (.sqlite "UNIQUE constraint failed: checkpoints.checkpoint_id")
  requireEvent row.runId row.eventSequence
  write fun tables => { tables with checkpoints := tables.checkpoints.insert checkpointId row }

/-- The partial unique index `external_mutations_idempotency_idx`. -/
def Tables.mutationKeyTaken (tables : Tables) (runId : String) (idempotencyKey : Option String) :
    Bool :=
  idempotencyKey.isSome && tables.externalMutations.entries.any fun entry =>
    entry.1.1 == runId && entry.2.idempotencyKey == idempotencyKey

def insertMutation (key : String × String) (row : MutationRow) : Statement Unit := do
  require (row.updatedAtMs == 0) (.sqlite "CHECK constraint failed: updated_at_ms > 0")
  let taken ← read fun tables => (tables.externalMutations.lookup key).isSome
  require taken
    (.sqlite "UNIQUE constraint failed: external_mutations.run_id, external_mutations.mutation_id")
  let keyTaken ← read (·.mutationKeyTaken key.1 row.idempotencyKey)
  require keyTaken (.sqlite "UNIQUE constraint failed: external_mutations.idempotency_key")
  requireEvent key.1 row.preparedSequence
  write fun tables => { tables with externalMutations := tables.externalMutations.insert key row }

/-- `UPDATE external_mutations ... WHERE state = 'pending'`, refused when no row
changed. -/
def settleMutation (key : String × String) (settle : MutationRow → MutationRow) :
    Statement Unit := do
  let stored ← read fun tables => tables.externalMutations.lookup key
  match stored.filter (·.state == .pending) with
  | none =>
    pureBody (.error (.invalidTransition
      s!"external mutation '{key.2}' is missing or is not pending"))
  | some row =>
    write fun tables =>
      { tables with externalMutations := tables.externalMutations.insert key (settle row) }

def applyProjection (envelope : RunEventEnvelope) (projection : Projection) : Statement Unit := do
  let sequence ← pureBody (toSqlI64 envelope.sequence "sequence")
  let occurredAtMs ← pureBody (toSqlI64 envelope.occurredAtMs "occurred_at_ms")
  match projection with
  | .none => pure ()
  | .approvalRequested requestId toolCallId toolName operationSha256 expiresAtMs detail riskLevel =>
    let expiresAtMs ← pureBody (toSqlI64 expiresAtMs "expires_at_ms")
    insertApproval (envelope.runId, requestId) ⟨toolCallId, toolName, operationSha256, sequence,
      none, expiresAtMs, detail, riskLevel, none, none, none⟩
  | .approvalAwaiting requestId operationSha256 expiresAtMs =>
    awaitApproval (envelope.runId, requestId) operationSha256 expiresAtMs sequence
  | .approvalDecided requestId operationSha256 decision decidedBy =>
    decideApproval (envelope.runId, requestId) operationSha256 decision
      (codec.identityJson decidedBy) sequence envelope.occurredAtMs
  | .artifact artifactId kind name mediaType contentSha256 sizeBytes =>
    let sizeBytes ← pureBody (toSqlI64 sizeBytes "size_bytes")
    insertArtifact artifactId ⟨envelope.runId, sequence, kind, name, mediaType, contentSha256,
      sizeBytes, occurredAtMs⟩
  | .checkpoint checkpointId kind label contentSha256 =>
    insertCheckpoint checkpointId ⟨envelope.runId, sequence, kind, label, contentSha256, occurredAtMs⟩
  | .externalPrepared mutationId toolCallId kind idempotencyKey summary =>
    insertMutation (envelope.runId, mutationId) ⟨toolCallId, kind, .pending, idempotencyKey,
      summary, sequence, none, none, none, occurredAtMs⟩
  | .externalConfirmed mutationId confirmationRef summary =>
    requireEvent envelope.runId sequence
    settleMutation (envelope.runId, mutationId) fun row =>
      { row with
        state := .confirmed
        confirmedSequence := some sequence
        confirmationRef := confirmationRef
        summary := summary
        updatedAtMs := occurredAtMs }
  | .externalNeedsReconciliation mutationId reason =>
    settleMutation (envelope.runId, mutationId) fun row =>
      { row with
        state := .needsReconciliation
        reconciliationReason := some reason
        updatedAtMs := occurredAtMs }

/-! ## Appending an event -/

def eventColumns (previous processId : Option String) (envelope : RunEventEnvelope) :
    EventColumns :=
  let effects := deriveEventEffects envelope.event
  { previous
    eventId := envelope.eventId
    runId := envelope.runId
    sequence := envelope.sequence
    occurredAtMs := envelope.occurredAtMs
    actorId := envelope.actorId
    eventType := effects.eventType
    emitterJson := codec.identityJson envelope.emitter
    envelopeJson := codec.envelopeJson envelope
    derivedStatus := effects.status
    isTerminal := effects.terminal
    processId }

def eventRow (previous processId : Option String) (envelope : RunEventEnvelope) : EventRow :=
  let columns := eventColumns codec previous processId envelope
  ⟨columns, some (eventChainHash codec.sha columns)⟩

/-- The trigger `run_events_project_run`. -/
def RunRow.project (run : RunRow) (e : EventColumns) : RunRow :=
  { run with
    lastSequence := e.sequence
    terminalSequence := if e.isTerminal then some e.sequence else run.terminalSequence
    status := e.derivedStatus.getD run.status
    updatedAtMs := max run.updatedAtMs e.occurredAtMs.toNat }

def RunRow.consistent (run : RunRow) : Bool :=
  (run.terminalSequence.isNone || run.terminalSequence == some run.lastSequence) &&
    run.terminalSequence.isSome == run.status.isTerminal

def EventColumns.terminalConsistent (e : EventColumns) : Bool :=
  if e.isTerminal then e.derivedStatus.any (·.isTerminal)
  else e.derivedStatus.all (!·.isTerminal)

/-- The triggers before an insert into `run_events` and the keys and checks of
the table; the run the event belongs to. -/
def checkEventRow (tables : Tables) (row : EventRow) : LedgerResult RunRow := do
  let e := row.columns
  let run ← okOr (tables.runs.lookup e.runId) (.sqlite "run not found")
  refuseIf run.terminalSequence.isSome (.sqlite "events after terminal are forbidden")
  refuseIf (e.sequence != run.lastSequence + 1) (.sqlite "run event sequence gap")
  refuseIf (decide (run.maxEventCount < e.sequence)) (.sqlite "run event budget exceeded")
  let predecessor := (tables.eventAt e.runId (e.sequence - 1)).bind (·.eventHash)
  refuseIf (predecessor.isSome && e.previous != predecessor)
    (.sqlite "run event must carry its predecessor's hash")
  refuseIf (predecessor.isSome && row.eventHash.isNone)
    (.sqlite "a chained run cannot append an unchained event")
  refuseIf (e.sequence == 0) (.sqlite "CHECK constraint failed: sequence > 0")
  refuseIf (decide (e.occurredAtMs ≤ 0)) (.sqlite "CHECK constraint failed: occurred_at_ms > 0")
  refuseIf (!e.terminalConsistent) (.sqlite "CHECK constraint failed: run_events")
  refuseIf (row.eventHash.any (·.length != 64))
    (.sqlite "CHECK constraint failed: event_hash IS NULL OR length(event_hash) = 64")
  refuseIf (e.previous.any (·.length != 64))
    (.sqlite "CHECK constraint failed: prev_event_hash IS NULL OR length(prev_event_hash) = 64")
  refuseIf (tables.runEvents.any (·.columns.eventId == e.eventId))
    (.sqlite "UNIQUE constraint failed: run_events.event_id")
  refuseIf (tables.eventAt e.runId e.sequence).isSome
    (.sqlite "UNIQUE constraint failed: run_events.run_id, run_events.sequence")
  pure run

def insertRunEvent (row : EventRow) : Statement Unit := do
  let checked ← read (checkEventRow · row)
  let run ← pureBody checked
  write fun tables => { tables with runEvents := tables.runEvents ++ [row] }
  let projected := run.project row.columns
  require (!projected.consistent) (.sqlite "CHECK constraint failed: runs")
  write fun tables => { tables with runs := tables.runs.insert row.columns.runId projected }

structure AppendEventOutcome where
  runId : String
  sequence : Nat
  status : RunStatus
  terminal : Bool

/-- The checks of `append_event` inside its transaction, before the insert; the
status of the run and the hash to link to. -/
def admitEvent (envelope : RunEventEnvelope) (sequence : Nat) (tables : Tables) :
    LedgerResult (RunStatus × Option String) := do
  let run ← okOr (tables.runs.lookup envelope.runId) (.notFound "run" envelope.runId)
  match run.terminalSequence with
  | some terminalSequence => .error (.terminalRun envelope.runId terminalSequence)
  | none =>
    let expected := run.lastSequence + 1
    refuseIf (envelope.sequence != expected)
      (.sequenceMismatch envelope.runId expected envelope.sequence)
    refuseIf (decide (run.maxEventCount < sequence)) (.invalidTransition
      s!"run '{envelope.runId}' exceeded its max_event_count of {run.maxEventCount}")
    refuseIf (tables.runEvents.any (·.columns.eventId == envelope.eventId))
      (.duplicateEvent envelope.eventId)
    validateStatusTransition run.status (deriveEventEffects envelope.event).status
    pure (run.status, (tables.eventAt envelope.runId (sequence - 1)).bind (·.eventHash))

def appendEventBody (processId : Option String) (envelope : RunEventEnvelope) (sequence : Nat) :
    Statement AppendEventOutcome := do
  let effects := deriveEventEffects envelope.event
  let admitted ← read (admitEvent envelope sequence)
  let (currentStatus, previous) ← pureBody admitted
  insertRunEvent (eventRow codec previous processId envelope)
  applyProjection codec envelope effects.projection
  pure ⟨envelope.runId, envelope.sequence, effects.status.getD currentStatus, effects.terminal⟩

def appendEventArguments (envelope : RunEventEnvelope) : LedgerResult Nat := do
  protocolChecked envelope.validate
  let sequence ← toSqlI64 envelope.sequence "sequence"
  let _ ← toSqlI64 envelope.occurredAtMs "occurred_at_ms"
  pure sequence

/-- `processId` is the process of the ambient scope, if there is one. -/
def appendEvent (processId : Option String) (envelope : RunEventEnvelope) (tables : Tables) :
    LedgerResult AppendEventOutcome × Tables :=
  guarded (appendEventArguments envelope) (appendEventBody codec processId envelope) tables

end LittleMonkey.Ledger
