import LittleMonkey.Ledger.Status
import LittleMonkey.Lib.Guards
import LittleMonkey.Lib.Primitives

/-! # The run protocol

The submission record and the append-only events of a run, with the field
checks that run before either reaches the ledger.  A JSON value is kept as its
compact serialization: the protocol only ever measures and stores it.
-/

namespace LittleMonkey.Ledger

open Guards Primitives

def runProtocolSchemaVersion : Nat := 1

def maxIdBytes : Nat := 128
def maxIdempotencyKeyBytes : Nat := 256
def maxLabelBytes : Nat := 1024
def maxTaskBytes : Nat := 1048576
def maxInstructionsBytes : Nat := 262144
def maxEventTextBytes : Nat := 65536
def maxEventJsonBytes : Nat := 262144
def maxReferencesPerEvent : Nat := 256
def maxWallTimeMs : Nat := 7 * 24 * 60 * 60 * 1000
def maxIterations : Nat := 10000
def maxCalls : Nat := 100000
def maxTokens : Nat := 1000000000
def maxArtifactBytes : Nat := 1099511627776
def maxEventCountLimit : Nat := 10000000

structure ProtocolValidationError where
  (field message : String)

def ProtocolValidationError.display (e : ProtocolValidationError) : String :=
  e.field ++ ": " ++ e.message

abbrev ProtocolValidationResult := Except ProtocolValidationError Unit

/-! ## Field checks -/

def validateSchemaVersion (version : Nat) : ProtocolValidationResult :=
  refuseIf (version != runProtocolSchemaVersion) ⟨"schema_version",
    s!"unsupported run protocol version {version}; expected {runProtocolSchemaVersion}"⟩

def idPunctuation (byte : UInt8) : Bool := byte == 45 || byte == 95 || byte == 46 || byte == 58

variable (field value : String)

def validateProtocolId : ProtocolValidationResult := do
  let bytes := textBytes value
  refuseIf (bytes.isEmpty || decide (maxIdBytes < bytes.length))
    ⟨field, s!"must contain 1..={maxIdBytes} bytes"⟩
  refuseIf (!bytes.head?.any isAsciiAlphanumeric || !bytes.getLast?.any isAsciiAlphanumeric)
    ⟨field, "must start and end with an ASCII letter or digit"⟩
  refuseIf (!bytes.all fun byte => isAsciiAlphanumeric byte || idPunctuation byte)
    ⟨field, "contains unsupported characters"⟩

def validateIdempotencyKey : ProtocolValidationResult := do
  let bytes := textBytes value
  refuseIf (bytes.isEmpty || decide (maxIdempotencyKeyBytes < bytes.length))
    ⟨field, s!"must contain 1..={maxIdempotencyKeyBytes} bytes"⟩
  refuseIf (!bytes.all fun byte => isAsciiAlphanumeric byte || idPunctuation byte || byte == 47)
    ⟨field, "contains unsupported characters"⟩

def isWhitespace (c : Char) : Bool :=
  let n := c.toNat
  (9 ≤ n && n ≤ 13) || n == 32 || n == 133 || n == 160 || n == 5760 ||
    (8192 ≤ n && n ≤ 8202) || n == 8232 || n == 8233 || n == 8239 || n == 8287 || n == 12288

def isControl (c : Char) : Bool :=
  let n := c.toNat
  n ≤ 31 || (127 ≤ n && n ≤ 159)

def validateText (maxBytes : Nat) (allowEmpty : Bool) : ProtocolValidationResult := do
  refuseIf (!allowEmpty && value.toList.all isWhitespace) ⟨field, "must not be empty"⟩
  refuseIf (decide (maxBytes < (textBytes value).length))
    ⟨field, s!"exceeds the {maxBytes}-byte limit"⟩
  refuseIf (value.toList.any (·.toNat == 0)) ⟨field, "must not contain NUL"⟩

def validateSingleLine (maxBytes : Nat) : ProtocolValidationResult := do
  validateText field value maxBytes false
  refuseIf (value.toList.any isControl) ⟨field, "must not contain control characters"⟩

def validateSha256 : ProtocolValidationResult :=
  let bytes := textBytes value
  refuseIf (bytes.length != 64 || !bytes.all isAsciiHexdigit)
    ⟨field, "must be a 64-character SHA-256 hex digest"⟩

def validateIdsFrom (field : String) (seen : List String) : List String → ProtocolValidationResult
  | [] => .ok ()
  | value :: rest => do
    validateProtocolId field value
    refuseIf (seen.contains value) ⟨field, "contains a duplicate id"⟩
    validateIdsFrom field (value :: seen) rest

def validateUniqueIds (field : String) (values : List String) (maxCount : Nat) :
    ProtocolValidationResult := do
  refuseIf (decide (maxCount < values.length)) ⟨field, s!"contains more than {maxCount} entries"⟩
  validateIdsFrom field [] values

def validateRangeU64 (field : String) (value min max : Nat) : ProtocolValidationResult :=
  refuseIf (decide (value < min) || decide (max < value))
    ⟨field, s!"must be between {min} and {max}"⟩

def validatePositiveTimestamp (field : String) (value : Nat) : ProtocolValidationResult :=
  refuseIf (value == 0) ⟨field, "must be a positive Unix timestamp in milliseconds"⟩

def validateOptional {α : Type} (value : Option α) (check : α → ProtocolValidationResult) :
    ProtocolValidationResult :=
  match value with
  | some a => check a
  | none => .ok ()

def validateOptionalEventText (field : String) (value : Option String) :
    ProtocolValidationResult :=
  validateOptional value fun text => validateText field text maxEventTextBytes false

/-! ## Parts of specs and events -/

inductive ClientKind
  | desktop | cli | acp | scheduler | daemon | workflow | remoteRunner | test

structure ClientIdentity where
  (clientId instanceId : String)
  kind : ClientKind
  version : String

def ClientIdentity.validate (client : ClientIdentity) : ProtocolValidationResult := do
  validateProtocolId "client.client_id" client.clientId
  validateProtocolId "client.instance_id" client.instanceId
  validateSingleLine "client.version" client.version 128

inductive OutputChannel
  | assistant | status

inductive PermissionDecision
  | allowOnce | allowForRun | deny | expired

inductive RiskLevel
  | low | medium | high

inductive ToolOutcome
  | succeeded | failed | denied | cancelled

inductive ArtifactKind
  | file | document | image | audio | video | archive | report | other

inductive CheckpointKind
  | workspace | git | conversation | externalState

inductive ExternalMutationState
  | pending | confirmed | needsReconciliation
  deriving DecidableEq

inductive MutationKind
  | filesystem | git | network | externalService | other

inductive RedactionState
  | applied | notNeeded

abbrev Json := Bytes

structure RedactedPayload where
  value : Json
  redaction : RedactionState

def RedactedPayload.validate (payload : RedactedPayload) (field : String) :
    ProtocolValidationResult :=
  refuseIf (decide (maxEventJsonBytes < payload.value.length))
    ⟨field, s!"serialized payload exceeds the {maxEventJsonBytes}-byte limit"⟩

structure UsageSnapshot where
  (inputTokens outputTokens cachedInputTokens modelCalls toolCalls : Nat)
  costMicros : Option Nat

def UsageSnapshot.validate (usage : UsageSnapshot) : ProtocolValidationResult := do
  refuseIf (decide (maxTokens < usage.inputTokens) || decide (maxTokens < usage.outputTokens) ||
      decide (maxTokens < usage.cachedInputTokens))
    ⟨"event.usage", "token count exceeds the protocol limit"⟩
  refuseIf (decide (maxCalls < usage.modelCalls) || decide (maxCalls < usage.toolCalls))
    ⟨"event.usage", "call count exceeds the protocol limit"⟩

/-! ## Run events -/

inductive RunEvent
  | queued (queue : Option String)
  | started (engineId : String)
  | modelDelta (messageId : String) (channel : OutputChannel) (text : String)
  | toolProposed (toolCallId toolName : String) (arguments : RedactedPayload)
      (argumentsSha256 : String) (mutation : Bool)
  | permissionRequested (requestId toolCallId toolName operationSha256 : String)
      (expiresAtMs : Nat) (detail : String) (riskLevel : Option RiskLevel)
      (riskReason : Option String)
  | permissionDecided (requestId operationSha256 : String) (decision : PermissionDecision)
      (decidedBy : ClientIdentity)
  | routingDecided (taskClass : String) (policyId policyName chosenKey : Option String)
      (changedFromActive : Bool) (reason : String)
  | toolStarted (toolCallId : String)
  | skillInvoked (command scope sha256 : String)
  | toolFinished (toolCallId : String) (outcome : ToolOutcome)
      (outputExcerpt outputSha256 : Option String) (durationMs : Nat)
  | artifactAdded (artifactId : String) (kind : ArtifactKind)
      (name mediaType contentSha256 : String) (sizeBytes : Nat)
  | checkpointLinked (checkpointId : String) (kind : CheckpointKind) (label : String)
      (contentSha256 : Option String)
  | verificationFinished (verificationId name : String) (passed : Bool) (summary : String)
      (artifactIds : List String) (durationMs : Nat)
  | usageRecorded (usage : UsageSnapshot)
  | cancellationRequested (requestedBy : ClientIdentity) (reason : Option String)
  | externalMutationPrepared (mutationId toolCallId : String) (kind : MutationKind)
      (idempotencyKey : Option String) (summary : String)
  | externalMutationConfirmed (mutationId : String) (confirmationRef : Option String)
      (summary : String)
  | awaitingApproval (requestId operationSha256 : String) (expiresAtMs : Nat)
      (reason : Option String)
  | paused (reason : Option String)
  | cancelling (reason : Option String)
  | completed (summary : Option String) (resultArtifactIds : List String) (usage : UsageSnapshot)
  | failed (code message : String) (retryable : Bool)
  | cancelled (reason : Option String)
  | needsReconciliation (mutationId reason : String)
  | taskEvent (taskId eventType : String) (payload : Json)
  | migrationDeparted (targetNodeId payloadSha256 checkpointId : String)
  | migrationArrived (originNodeId : String) (originLastSequence : Nat)
      (originLastEventHash payloadSha256 : String)

namespace RunEvent

def terminalStatus : RunEvent → Option RunStatus
  | completed .. => some .succeeded
  | failed .. => some .failed
  | cancelled .. => some .cancelled
  | needsReconciliation .. => some .needsReconciliation
  | _ => none

def isTerminal (event : RunEvent) : Bool := event.terminalStatus.isSome

def approvalExpiryMs : RunEvent → Option Nat
  | permissionRequested _ _ _ _ expiresAtMs _ _ _ => some expiresAtMs
  | awaitingApproval _ _ expiresAtMs _ => some expiresAtMs
  | _ => none

def validate : RunEvent → ProtocolValidationResult
  | queued queue => validateOptional queue (validateProtocolId "event.queue")
  | started engineId => validateProtocolId "event.engine_id" engineId
  | modelDelta messageId _ text => do
    validateProtocolId "event.message_id" messageId
    -- a chunk of only whitespace is content, a chunk of no bytes is not
    refuseIf text.isEmpty ⟨"event.text", "must not be empty"⟩
    validateText "event.text" text maxEventTextBytes true
  | toolProposed toolCallId toolName arguments argumentsSha256 _ => do
    validateProtocolId "event.tool_call_id" toolCallId
    validateProtocolId "event.tool_name" toolName
    arguments.validate "event.arguments"
    validateSha256 "event.arguments_sha256" argumentsSha256
  | permissionRequested requestId toolCallId toolName operationSha256 expiresAtMs detail _
      riskReason => do
    validateProtocolId "event.request_id" requestId
    validateProtocolId "event.tool_call_id" toolCallId
    validateProtocolId "event.tool_name" toolName
    validateSha256 "event.operation_sha256" operationSha256
    validatePositiveTimestamp "event.expires_at_ms" expiresAtMs
    validateText "event.detail" detail maxEventTextBytes false
    validateOptionalEventText "event.risk_reason" riskReason
  | permissionDecided requestId operationSha256 _ decidedBy => do
    validateProtocolId "event.request_id" requestId
    validateSha256 "event.operation_sha256" operationSha256
    decidedBy.validate
  | routingDecided taskClass _ _ _ _ reason => do
    validateText "event.task_class" taskClass maxLabelBytes false
    validateText "event.reason" reason maxEventTextBytes false
  | toolStarted toolCallId => validateProtocolId "event.tool_call_id" toolCallId
  | skillInvoked command scope sha256 => do
    validateSingleLine "event.command" command maxLabelBytes
    refuseIf (!(scope == "global" || scope == "workspace"))
      ⟨"event.scope", "must be global or workspace"⟩
    validateSha256 "event.sha256" sha256
  | toolFinished toolCallId _ outputExcerpt outputSha256 durationMs => do
    validateProtocolId "event.tool_call_id" toolCallId
    validateOptionalEventText "event.output_excerpt" outputExcerpt
    validateOptional outputSha256 (validateSha256 "event.output_sha256")
    validateRangeU64 "event.duration_ms" durationMs 0 maxWallTimeMs
  | artifactAdded artifactId _ name mediaType contentSha256 sizeBytes => do
    validateProtocolId "event.artifact_id" artifactId
    validateSingleLine "event.name" name maxLabelBytes
    validateSingleLine "event.media_type" mediaType 256
    validateSha256 "event.content_sha256" contentSha256
    validateRangeU64 "event.size_bytes" sizeBytes 0 maxArtifactBytes
  | checkpointLinked checkpointId _ label contentSha256 => do
    validateProtocolId "event.checkpoint_id" checkpointId
    validateSingleLine "event.label" label maxLabelBytes
    validateOptional contentSha256 (validateSha256 "event.content_sha256")
  | verificationFinished verificationId name _ summary artifactIds durationMs => do
    validateProtocolId "event.verification_id" verificationId
    validateSingleLine "event.name" name maxLabelBytes
    validateText "event.summary" summary maxEventTextBytes false
    validateUniqueIds "event.artifact_ids" artifactIds maxReferencesPerEvent
    validateRangeU64 "event.duration_ms" durationMs 0 maxWallTimeMs
  | usageRecorded usage => usage.validate
  | cancellationRequested requestedBy reason => do
    requestedBy.validate
    validateOptionalEventText "event.reason" reason
  | externalMutationPrepared mutationId toolCallId _ idempotencyKey summary => do
    validateProtocolId "event.mutation_id" mutationId
    validateProtocolId "event.tool_call_id" toolCallId
    validateOptional idempotencyKey (validateIdempotencyKey "event.idempotency_key")
    validateText "event.summary" summary maxEventTextBytes false
  | externalMutationConfirmed mutationId confirmationRef summary => do
    validateProtocolId "event.mutation_id" mutationId
    validateOptional confirmationRef fun reference =>
      validateSingleLine "event.confirmation_ref" reference maxLabelBytes
    validateText "event.summary" summary maxEventTextBytes false
  | awaitingApproval requestId operationSha256 expiresAtMs reason => do
    validateProtocolId "event.request_id" requestId
    validateSha256 "event.operation_sha256" operationSha256
    validatePositiveTimestamp "event.expires_at_ms" expiresAtMs
    validateOptionalEventText "event.reason" reason
  | paused reason | cancelling reason | cancelled reason =>
    validateOptionalEventText "event.reason" reason
  | completed summary resultArtifactIds usage => do
    validateOptionalEventText "event.summary" summary
    validateUniqueIds "event.result_artifact_ids" resultArtifactIds maxReferencesPerEvent
    usage.validate
  | failed code message _ => do
    validateProtocolId "event.code" code
    validateText "event.message" message maxEventTextBytes false
  | needsReconciliation mutationId reason => do
    validateProtocolId "event.mutation_id" mutationId
    validateText "event.reason" reason maxEventTextBytes false
  | taskEvent taskId eventType payload => do
    validateProtocolId "event.task_id" taskId
    validateSingleLine "event.event_type" eventType maxLabelBytes
    refuseIf (decide (maxEventJsonBytes < payload.length))
      ⟨"event.payload", s!"exceeds the {maxEventJsonBytes}-byte limit"⟩
  | migrationDeparted targetNodeId payloadSha256 checkpointId => do
    validateProtocolId "event.target_node_id" targetNodeId
    validateSha256 "event.payload_sha256" payloadSha256
    validateProtocolId "event.checkpoint_id" checkpointId
  | migrationArrived originNodeId originLastSequence originLastEventHash payloadSha256 => do
    validateProtocolId "event.origin_node_id" originNodeId
    refuseIf (originLastSequence == 0)
      ⟨"event.origin_last_sequence", "must name a real event on the origin's chain"⟩
    validateSha256 "event.origin_last_event_hash" originLastEventHash
    validateSha256 "event.payload_sha256" payloadSha256

end RunEvent

structure RunEventEnvelope where
  schemaVersion : Nat
  (eventId runId : String)
  (sequence occurredAtMs : Nat)
  actorId : Option String
  emitter : ClientIdentity
  event : RunEvent

def RunEventEnvelope.validate (envelope : RunEventEnvelope) : ProtocolValidationResult := do
  validateSchemaVersion envelope.schemaVersion
  validateProtocolId "event_id" envelope.eventId
  validateProtocolId "run_id" envelope.runId
  refuseIf (envelope.sequence == 0) ⟨"sequence", "must start at 1"⟩
  refuseIf (envelope.occurredAtMs == 0)
    ⟨"occurred_at_ms", "must be a positive Unix timestamp in milliseconds"⟩
  validateOptional envelope.actorId (validateProtocolId "actor_id")
  envelope.emitter.validate
  envelope.event.validate
  validateOptional envelope.event.approvalExpiryMs fun expiresAtMs =>
    refuseIf (decide (expiresAtMs ≤ envelope.occurredAtMs))
      ⟨"event.expires_at_ms", "must be later than the event timestamp"⟩

/-! ## Run specs -/

inductive RunKind
  | interactive | comparisonBranch | comparisonSynthesis | crewMember | crewCoordinator
  | workflow | scheduled | browser | acp | background | autonomousTask | remoteDesktopControl
  | sandboxed

structure RunBudgets where
  (wallTimeMs maxIterations maxModelCalls maxToolCalls maxInputTokens maxOutputTokens : Nat)
  maxCostMicros : Option Nat
  (maxArtifactBytes maxEventCount : Nat)

def RunBudgets.validate (budgets : RunBudgets) : ProtocolValidationResult := do
  validateRangeU64 "budgets.wall_time_ms" budgets.wallTimeMs 1 maxWallTimeMs
  validateRangeU64 "budgets.max_iterations" budgets.maxIterations 1 Ledger.maxIterations
  validateRangeU64 "budgets.max_model_calls" budgets.maxModelCalls 1 maxCalls
  validateRangeU64 "budgets.max_tool_calls" budgets.maxToolCalls 0 maxCalls
  validateRangeU64 "budgets.max_input_tokens" budgets.maxInputTokens 1 maxTokens
  validateRangeU64 "budgets.max_output_tokens" budgets.maxOutputTokens 1 maxTokens
  refuseIf (budgets.maxCostMicros == some 0)
    ⟨"budgets.max_cost_micros", "must be positive when present"⟩
  validateRangeU64 "budgets.max_artifact_bytes" budgets.maxArtifactBytes 1 Ledger.maxArtifactBytes
  validateRangeU64 "budgets.max_event_count" budgets.maxEventCount 1 maxEventCountLimit

/-- The snapshots a spec freezes, each with its own check: the model target, the
workspace, the permission policy, the executor and the workspace transfer. -/
structure Snapshots where
  (Target Workspace Policy ExecutionTarget WorkspaceTransfer : Type)
  validateTarget : Target → ProtocolValidationResult
  validateWorkspace : Workspace → ProtocolValidationResult
  validatePolicy : Policy → ProtocolValidationResult
  validateExecutionTarget : ExecutionTarget → Except String Unit
  validateWorkspaceTransfer : WorkspaceTransfer → Except String Unit

structure RunSpec (S : Snapshots) where
  schemaVersion : Nat
  (runId idempotencyKey : String)
  createdAtMs : Nat
  kind : RunKind
  submittedBy : ClientIdentity
  task : String
  instructions : Option String
  inputArtifactIds : List String
  target : S.Target
  workspace : Option S.Workspace
  permissionPolicy : S.Policy
  budgets : RunBudgets
  autonomousTask : Option Json
  executionTarget : Option S.ExecutionTarget
  workspaceTransfer : Option S.WorkspaceTransfer

def RunSpec.validate {S : Snapshots} (spec : RunSpec S) : ProtocolValidationResult := do
  validateSchemaVersion spec.schemaVersion
  validateProtocolId "run_id" spec.runId
  validateIdempotencyKey "idempotency_key" spec.idempotencyKey
  refuseIf (spec.createdAtMs == 0)
    ⟨"created_at_ms", "must be a positive Unix timestamp in milliseconds"⟩
  spec.submittedBy.validate
  validateText "task" spec.task maxTaskBytes false
  validateOptional spec.instructions fun text =>
    validateText "instructions" text maxInstructionsBytes false
  validateUniqueIds "input_artifact_ids" spec.inputArtifactIds maxReferencesPerEvent
  S.validateTarget spec.target
  validateOptional spec.workspace S.validateWorkspace
  S.validatePolicy spec.permissionPolicy
  spec.budgets.validate
  validateOptional spec.autonomousTask fun snapshot =>
    refuseIf (decide (512 * 1024 < snapshot.length))
      ⟨"autonomous_task", "exceeds the 512 KiB limit"⟩
  validateOptional spec.executionTarget fun target =>
    (S.validateExecutionTarget target).mapError fun message => ⟨"execution_target", message⟩
  validateOptional spec.workspaceTransfer fun transfer =>
    (S.validateWorkspaceTransfer transfer).mapError fun message => ⟨"workspace_transfer", message⟩

end LittleMonkey.Ledger
