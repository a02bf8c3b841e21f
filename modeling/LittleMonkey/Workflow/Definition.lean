import LittleMonkey.Lib.Guards
import LittleMonkey.Lib.Maps

/-! # Workflow definitions

The typed nodes of a workflow and the checks of one node: its signature, the capability it
names, its retry, approval, replay and secret rules.  A `BTreeMap` is a table, walked in the
order of its keys; a `BTreeSet` is the list of its members.
-/

namespace LittleMonkey.Workflow

open Guards Primitives

inductive WorkflowError
  | invalidDefinition (message : String)
  | typeMismatch (message : String)
  | cycle (message : String)
  | missingApproval (message : String)
  | invalidSecret (message : String)
  | unsupportedTrigger (message : String)
  | budgetExceeded (message : String)
  | execution (message : String)
  | cancelled
  | needsReconciliation (message : String)
  | replay (message : String)
  deriving DecidableEq

abbrev Fallible := Except WorkflowError

def isIdByte (c : UInt8) : Bool :=
  isAsciiAlphanumeric c || c == 45 || c == 95 || c == 46 || c == 58

def validateId (label value : String) : Fallible Unit :=
  refuseIf (value.isEmpty || 160 < value.utf8ByteSize || !(textBytes value).all isIdByte)
    (.invalidDefinition s!"{label} must be a bounded ASCII identifier")

/-! ## Values -/

inductive WorkflowValueType
  | string
  | integer
  | decimal
  | boolean
  | json
  | artifact
  | unit
  | array (item : WorkflowValueType)
  deriving DecidableEq

def WorkflowValueType.debug : WorkflowValueType → String
  | .string => "String"
  | .integer => "Integer"
  | .decimal => "Decimal"
  | .boolean => "Boolean"
  | .json => "Json"
  | .artifact => "Artifact"
  | .unit => "Unit"
  | .array item => "Array \x7b item: " ++ item.debug ++ " \x7d"

structure ArtifactReference where
  (artifactId sha256 mediaType : String)

def ArtifactReference.validate (reference : ArtifactReference) : Fallible Unit := do
  validateId "artifact_id" reference.artifactId
  refuseIf (reference.sha256.utf8ByteSize ≠ 64 || !(textBytes reference.sha256).all isAsciiHexdigit ||
      reference.mediaType.isEmpty || 160 < reference.mediaType.utf8ByteSize)
    (.typeMismatch "artifact reference is malformed")

/-- A decimal is kept as its bits, a JSON value as its text. -/
inductive WorkflowValue
  | string (value : String)
  | integer (value : Int)
  | decimal (bits : UInt64)
  | boolean (value : Bool)
  | json (text : String)
  | artifact (reference : ArtifactReference)
  | unit
  | array (values : List WorkflowValue)

def isFinite (bits : UInt64) : Bool := bits.toNat / 2 ^ 52 % 2 ^ 11 ≠ 2 ^ 11 - 1

def arrayType : List (Fallible WorkflowValueType) → Fallible WorkflowValueType
  | [] => .error (.typeMismatch "empty array literal needs an explicit typed workflow input")
  | first :: rest => do
    let item ← first
    refuseIf (rest.any fun type => type.toOption ≠ some item)
      (.typeMismatch "array contains mixed value types")
    pure (.array item)

mutual

def WorkflowValue.valueType : WorkflowValue → Fallible WorkflowValueType
  | .string _ => .ok .string
  | .integer _ => .ok .integer
  | .decimal bits =>
    if isFinite bits then .ok .decimal else .error (.typeMismatch "non-finite decimal value")
  | .boolean _ => .ok .boolean
  | .json _ => .ok .json
  | .artifact reference => do
    reference.validate
    pure .artifact
  | .unit => .ok .unit
  | .array values => arrayType (valueTypes values)

def valueTypes : List WorkflowValue → List (Fallible WorkflowValueType)
  | [] => []
  | value :: rest => value.valueType :: valueTypes rest

end

def WorkflowValue.isBoolean (value : WorkflowValue) (expected : Bool) : Bool :=
  match value with
  | .boolean found => found == expected
  | _ => false

inductive InputBinding
  | workflowInput (inputId : String)
  | nodeOutput (nodeId port : String)
  | literal (value : WorkflowValue)

/-! ## Nodes -/

structure SecretDeclaration where
  (secretId purpose : String)
  allowedNodeIds : List String

structure SecretBinding where
  (secretId vaultReference : String)

inductive EffectClass
  | pure | readOnly | localMutation | externalMutation
  deriving DecidableEq

def EffectClass.mutates : EffectClass → Bool
  | .localMutation | .externalMutation => true
  | _ => false

inductive FailureClass
  | transient | rateLimited | timeout | validation | permission | permanent
  deriving DecidableEq

structure RetryPolicy where
  (maximumAttempts initialBackoffMs maximumBackoffMs : Nat)
  retryOn : List FailureClass

inductive IdempotencyPolicy
  | none
  | keyed (keyTemplate : String)
  | verifiedState (verifierId : String)
  deriving DecidableEq

inductive ReplayPolicy
  | safe | requiresApproval | never
  deriving DecidableEq

structure ResourceEstimate where
  (modelCalls inputTokens outputTokens costMicrounits : Nat)

structure NodePermissionPolicy where
  permissionIds : List String
  approvalNodeId : Option String

structure ConditionGuard where
  conditionNodeId : String
  expected : Bool

structure LegacyRecipeTarget where
  (provider model ollama localUrl : Option String)

structure LegacyRecipe where
  version : Nat
  name : String
  target : LegacyRecipeTarget
  permissionMode : String
  system : Option String
  prompt : String
  params : Table String (Option String)
  (maximumIterations timeoutSeconds : Option Nat)

def LegacyRecipeTarget.count (target : LegacyRecipeTarget) : Nat :=
  target.provider.toList.length + target.ollama.toList.length + target.localUrl.toList.length

def LegacyRecipe.validate (recipe : LegacyRecipe) : Fallible Unit := do
  refuseIf (recipe.version ≠ 1) (.invalidDefinition "unsupported legacy recipe version")
  validateId "legacy recipe name" recipe.name
  refuseIf (recipe.target.count ≠ 1 || recipe.target.provider.isSome ≠ recipe.target.model.isSome ||
      recipe.permissionMode = "bypass" || recipe.permissionMode.isEmpty || isBlank recipe.prompt ||
      2 * 1024 * 1024 < recipe.prompt.utf8ByteSize ||
      recipe.maximumIterations.any (fun value => value = 0 || 10000 < value) ||
      recipe.timeoutSeconds.any fun value => value = 0 || 86400 < value)
    (.invalidDefinition "legacy recipe violates target, permission, prompt, or bound constraints")
  (ascending recipe.params).forM fun entry => validateId "legacy recipe parameter" entry.1

inductive WorkflowNodeKind
  | promptModel (modelSelector : String)
  | agent (agentProfile : String) (effect : EffectClass)
  | subagent (agentProfile : String) (effect : EffectClass)
  | tool (toolId : String) (effect : EffectClass)
  | mcp (serverId toolName : String) (effect : EffectClass)
  | browser (action : String) (effect : EffectClass)
  | git (action : String) (effect : EffectClass)
  | pullRequest (action : String) (effect : EffectClass)
  | shell (shellProfile : String)
  | verify (verifierId : String)
  | transform (transformId : String)
  | condition
  | boundedLoop (maximumIterations : Nat)
  | humanApproval (approvalPolicyId : String)
  | artifact (mediaType : String)
  | output
  | legacyRecipe (recipe : LegacyRecipe)

def WorkflowNodeKind.effect : WorkflowNodeKind → EffectClass
  | .agent _ effect | .subagent _ effect | .tool _ effect | .mcp _ _ effect | .browser _ effect
  | .git _ effect | .pullRequest _ effect => effect
  | .shell _ => .localMutation
  | _ => .pure

def WorkflowNodeKind.isHumanApproval : WorkflowNodeKind → Bool
  | .humanApproval _ => true
  | _ => false

structure NodeSignature where
  (inputs outputs : Table String WorkflowValueType)

def NodeSignature.single (inputName : String) (inputType outputType : WorkflowValueType) : NodeSignature where
  inputs := AList.insert inputName inputType ∅
  outputs := AList.insert "out" outputType ∅

def signatureWithOptionalApproval (inputName : String) (inputType outputType : WorkflowValueType)
    (effect : EffectClass) : NodeSignature :=
  let signature := NodeSignature.single inputName inputType outputType
  if effect.mutates then { signature with inputs := signature.inputs.insert "approval" .boolean }
  else signature

def WorkflowNodeKind.signature : WorkflowNodeKind → Fallible NodeSignature
  | .promptModel modelSelector => do
    validateId "model_selector" modelSelector
    pure (.single "prompt" .string .string)
  | .agent agentProfile effect => do
    validateId "agent_profile" agentProfile
    pure (signatureWithOptionalApproval "prompt" .string .string effect)
  | .subagent agentProfile effect => do
    validateId "agent_profile" agentProfile
    pure (signatureWithOptionalApproval "prompt" .string .string effect)
  | .tool toolId effect => do
    validateId "tool_id" toolId
    pure (signatureWithOptionalApproval "arguments" .json .json effect)
  | .mcp serverId toolName effect => do
    validateId "MCP server_id" serverId
    validateId "MCP tool_name" toolName
    pure (signatureWithOptionalApproval "arguments" .json .json effect)
  | .browser action effect => do
    validateId "browser action" action
    pure (signatureWithOptionalApproval "arguments" .json .json effect)
  | .git action effect => do
    validateId "Git action" action
    pure (signatureWithOptionalApproval "arguments" .json .json effect)
  | .pullRequest action effect => do
    validateId "pull-request action" action
    pure (signatureWithOptionalApproval "arguments" .json .json effect)
  | .shell shellProfile => do
    validateId "shell_profile" shellProfile
    pure (signatureWithOptionalApproval "command" .string .json .localMutation)
  | .verify verifierId => do
    validateId "verifier_id" verifierId
    pure (.single "input" .json .json)
  | .transform transformId => do
    validateId "transform_id" transformId
    pure (.single "input" .json .json)
  | .condition => pure (.single "condition" .boolean .boolean)
  | .boundedLoop maximumIterations => do
    refuseIf (maximumIterations < 1 || 10000 < maximumIterations)
      (.invalidDefinition "bounded loop maximum_iterations must be 1..=10000")
    pure (.single "input" .json .json)
  | .humanApproval approvalPolicyId => do
    validateId "approval_policy_id" approvalPolicyId
    pure (.single "summary" .string .boolean)
  | .artifact mediaType => do
    refuseIf (mediaType.isEmpty || 160 < mediaType.utf8ByteSize)
      (.invalidDefinition "invalid artifact media type")
    pure (.single "content" .string .artifact)
  | .output => pure (.single "value" .json .json)
  | .legacyRecipe recipe => do
    recipe.validate
    pure ⟨mapValues (fun _ _ => .string) recipe.params, AList.insert "out" .string ∅⟩

structure WorkflowNode where
  nodeId : String
  kind : WorkflowNodeKind
  inputs : Table String InputBinding
  secretIds : List String
  permissionPolicy : NodePermissionPolicy
  retry : RetryPolicy
  timeoutMs : Nat
  estimate : ResourceEstimate
  idempotency : IdempotencyPolicy
  replay : ReplayPolicy
  guard : Option ConditionGuard

end LittleMonkey.Workflow
