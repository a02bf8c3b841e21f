import LittleMonkey.Lib.TopologicalSort
import LittleMonkey.Workflow.Definition

/-! # Compiling a workflow

`compile_workflow`: the checks of the header, of the triggers and of each node, the typing of
every binding, and the order and levels of the nodes.  `Codec` is what the code asks of JSON
and SHA-256.
-/

namespace LittleMonkey.Workflow

open Guards Primitives

/-! ## Definitions -/

structure WorkflowOutput where
  valueType : WorkflowValueType
  binding : InputBinding

structure WorkflowBudgets where
  (maximumNodeExecutions maximumModelCalls maximumInputTokens maximumOutputTokens : Nat)
  (maximumCostMicrounits maximumWallTimeMs : Nat)

inductive DaemonCapability
  | persistentCron | filesystemWatch | signedWebhook | eventIngestion
  deriving DecidableEq

def DaemonCapability.debug : DaemonCapability → String
  | .persistentCron => "PersistentCron"
  | .filesystemWatch => "FilesystemWatch"
  | .signedWebhook => "SignedWebhook"
  | .eventIngestion => "EventIngestion"

inductive WorkflowTrigger
  | manual
  | inAppCron (expression : String)
  | persistentCron (expression : String)
  | filesystem (canonicalRoot pattern : String)
  | signedWebhook (webhookId secretReference : String) (replayWindowMs : Nat)
  | eventIngestion (topic consumerId : String)
  deriving DecidableEq

structure WorkflowDefinition where
  schemaVersion : Nat
  workflowId : String
  workflowVersion : Nat
  name : String
  inputs : Table String WorkflowValueType
  secrets : Table String SecretDeclaration
  nodes : List WorkflowNode
  outputs : Table String WorkflowOutput
  budgets : WorkflowBudgets
  maximumConcurrency : Nat
  triggers : List WorkflowTrigger

structure WorkflowIrNode where
  node : WorkflowNode
  dependencies : List String
  level : Nat
  (inputTypes outputTypes : Table String WorkflowValueType)

structure WorkflowIr where
  irVersion : Nat
  workflowId : String
  workflowVersion : Nat
  definitionSha256 : String
  inputs : Table String WorkflowValueType
  secrets : Table String SecretDeclaration
  nodes : List WorkflowIrNode
  outputs : Table String WorkflowOutput
  budgets : WorkflowBudgets
  maximumConcurrency : Nat
  triggers : List WorkflowTrigger

structure WorkflowCapabilityCatalog where
  modelBackends : List String
  (agents subagents tools mcpTools browserActions gitActions : Table String EffectClass)
  pullRequestActions : Table String EffectClass
  (shellProfiles transforms verifiers : List String)

structure Codec where
  /-- SHA-256, in lowercase hex, of the JSON of a definition whose nodes are in order. -/
  definitionSha256 : WorkflowDefinition → String
  /-- The length of the JSON of a map of values. -/
  valuesLength : Table String WorkflowValue → Nat

/-! ## Checks of a node -/

def backendOf (modelSelector : String) : String :=
  String.ofList (modelSelector.toList.takeWhile (· ≠ ':'))

def declaredEffect (nodeId label : String) (catalog : Option EffectClass) (declared : EffectClass) :
    Fallible Unit :=
  refuseIf (catalog ≠ some declared)
    (.invalidDefinition s!"node {nodeId} {label} effect/capability is unknown or mismatched")

def available (present : Bool) (nodeId label value : String) : Fallible Unit :=
  refuseIf (!present) (.invalidDefinition s!"node {nodeId} {label} is unavailable: {value}")

def validateDeclaredCapability (node : WorkflowNode) (capabilities : WorkflowCapabilityCatalog) :
    Fallible Unit :=
  match node.kind with
  | .promptModel modelSelector =>
    available (capabilities.modelBackends.contains (backendOf modelSelector)) node.nodeId "model backend"
      (backendOf modelSelector)
  | .agent profile effect => declaredEffect node.nodeId "agent" (capabilities.agents.lookup profile) effect
  | .subagent profile effect =>
    declaredEffect node.nodeId "subagent" (capabilities.subagents.lookup profile) effect
  | .tool toolId effect => declaredEffect node.nodeId "tool" (capabilities.tools.lookup toolId) effect
  | .mcp serverId toolName effect =>
    declaredEffect node.nodeId "MCP" (capabilities.mcpTools.lookup (serverId ++ ":" ++ toolName)) effect
  | .browser action effect =>
    declaredEffect node.nodeId "browser action" (capabilities.browserActions.lookup action) effect
  | .git action effect =>
    declaredEffect node.nodeId "Git action" (capabilities.gitActions.lookup action) effect
  | .pullRequest action effect =>
    declaredEffect node.nodeId "pull-request action" (capabilities.pullRequestActions.lookup action) effect
  | .shell profile =>
    available (capabilities.shellProfiles.contains profile) node.nodeId "shell profile" profile
  | .transform transformId =>
    available (capabilities.transforms.contains transformId) node.nodeId "transform" transformId
  | .verify verifierId =>
    available (capabilities.verifiers.contains verifierId) node.nodeId "verifier" verifierId
  | _ => .ok ()

/-- A mutation has permissions, an approval node and the input for it. -/
def validateApproval (node : WorkflowNode) (signature : NodeSignature) : Fallible Unit :=
  if node.kind.effect.mutates then do
    refuseIf (node.permissionPolicy.permissionIds.isEmpty || node.permissionPolicy.approvalNodeId.isNone ||
        (signature.inputs.lookup "approval").isNone)
      (.missingApproval s!"mutation node {node.nodeId} needs permissions and HumanApproval binding")
    refuseIf (1 < node.retry.maximumAttempts && node.idempotency = .none)
      (.invalidDefinition
        s!"mutation node {node.nodeId} cannot retry without idempotency/verified-state policy")
  else
    refuseIf (node.permissionPolicy.approvalNodeId.isSome && (signature.inputs.lookup "approval").isNone)
      (.invalidDefinition s!"pure/read node {node.nodeId} declares an unsupported approval input")

def validateSecret (node : WorkflowNode) (definition : WorkflowDefinition) (secretId : String) :
    Fallible Unit := do
  let secret ← okOr (definition.secrets.lookup secretId)
    (.invalidSecret s!"node {node.nodeId} references undeclared secret {secretId}")
  refuseIf (!secret.allowedNodeIds.contains node.nodeId)
    (.invalidSecret s!"secret {secretId} is not scoped to node {node.nodeId}")

def validateIdempotency : IdempotencyPolicy → Fallible Unit
  | .keyed keyTemplate =>
    refuseIf (isBlank keyTemplate) (.invalidDefinition "idempotency key template cannot be empty")
  | .verifiedState verifierId => validateId "state verifier id" verifierId
  | .none => .ok ()

def validateNodeStatic (node : WorkflowNode) (signature : NodeSignature)
    (definition : WorkflowDefinition) : Fallible Unit := do
  refuseIf (node.timeoutMs = 0 || definition.budgets.maximumWallTimeMs < node.timeoutMs)
    (.invalidDefinition s!"node {node.nodeId} timeout is zero or over workflow wall budget")
  refuseIf (node.retry.maximumAttempts = 0 || 100 < node.retry.maximumAttempts ||
      node.retry.maximumBackoffMs < node.retry.initialBackoffMs ||
      60 * 60 * 1000 < node.retry.maximumBackoffMs ||
      1 < node.retry.maximumAttempts && node.retry.retryOn.isEmpty)
    (.invalidDefinition s!"node {node.nodeId} retry policy is invalid")
  validateApproval node signature
  refuseIf (node.kind.effect = .externalMutation && node.retry.retryOn.contains .timeout)
    (.invalidDefinition
      s!"external mutation node {node.nodeId} cannot blindly retry timeout/ambiguous effects")
  refuseIf (node.replay = .safe && node.kind.effect.mutates)
    (.invalidDefinition s!"mutation node {node.nodeId} cannot declare replay-safe")
  node.secretIds.forM (validateSecret node definition)
  node.permissionPolicy.permissionIds.forM (validateId "permission id")
  validateIdempotency node.idempotency

/-! ## Checks of the header -/

def countFields (inside : Bool) : List Char → Nat
  | [] => 0
  | c :: rest =>
    if isWhitespace c then countFields false rest
    else (if inside then 0 else 1) + countFields true rest

def isCronByte (c : UInt8) : Bool :=
  isAsciiDigit c || c == 32 || c == 42 || c == 44 || c == 45 || c == 47

def validateCron (expression : String) : Fallible Unit :=
  refuseIf (countFields false expression.toList ≠ 5 || 256 < expression.utf8ByteSize ||
      (textBytes expression).any (!isCronByte ·))
    (.unsupportedTrigger "cron expression must be a bounded five-field numeric expression")

def climbs (root : String) : Bool := root.toList.tails.any ("/../".toList.isPrefixOf ·)

/-- The checks of one trigger, and what the daemon must be able to do for it. -/
def WorkflowTrigger.required : WorkflowTrigger → Fallible (Option DaemonCapability)
  | .manual => .ok none
  | .inAppCron expression => do
    validateCron expression
    pure none
  | .persistentCron expression => do
    validateCron expression
    pure (some .persistentCron)
  | .filesystem canonicalRoot pattern => do
    refuseIf (canonicalRoot.toList.head? ≠ some '/' || climbs canonicalRoot || pattern.isEmpty ||
        512 < pattern.utf8ByteSize)
      (.unsupportedTrigger "filesystem trigger root/pattern is invalid")
    pure (some .filesystemWatch)
  | .signedWebhook webhookId secretReference replayWindowMs => do
    validateId "webhook_id" webhookId
    validateId "webhook secret reference" secretReference
    refuseIf (replayWindowMs < 1000 || 15 * 60000 < replayWindowMs)
      (.unsupportedTrigger "signed webhook replay window is invalid")
    pure (some .signedWebhook)
  | .eventIngestion topic consumerId => do
    validateId "event topic" topic
    validateId "event consumer_id" consumerId
    pure (some .eventIngestion)

def validateTrigger (capabilities : List DaemonCapability) (trigger : WorkflowTrigger) :
    Fallible Unit := do
  match ← trigger.required with
  | none => pure ()
  | some capability =>
    refuseIf (!capabilities.contains capability)
      (.unsupportedTrigger ("resident daemon capability Some(" ++ capability.debug ++ ") is unavailable"))

def validateSecretDeclaration (secretId : String) (secret : SecretDeclaration) : Fallible Unit := do
  validateId "secret_id" secretId
  refuseIf (secret.secretId ≠ secretId || isBlank secret.purpose || secret.allowedNodeIds.isEmpty)
    (.invalidSecret s!"invalid secret declaration {secretId}")

variable (definition : WorkflowDefinition)

def validateWorkflowHeader : Fallible Unit := do
  refuseIf (definition.schemaVersion ≠ 1 || definition.workflowVersion = 0 || isBlank definition.name ||
      256 < definition.name.utf8ByteSize || definition.nodes.isEmpty || 10000 < definition.nodes.length ||
      definition.outputs.entries.isEmpty || definition.maximumConcurrency < 1 ||
      64 < definition.maximumConcurrency || definition.triggers.isEmpty)
    (.invalidDefinition "workflow header, counts, outputs, concurrency, or triggers are invalid")
  validateId "workflow_id" definition.workflowId
  (ascending definition.inputs).forM fun entry => validateId "workflow input" entry.1
  (ascending definition.secrets).forM fun entry => validateSecretDeclaration entry.1 entry.2
  refuseIf (definition.budgets.maximumNodeExecutions = 0 || definition.budgets.maximumWallTimeMs = 0)
    (.invalidDefinition "workflow execution/wall budgets must be positive")

/-! ## Bindings and dependencies -/

abbrev NodeTable := Table String (WorkflowNode × NodeSignature)

def gatherNodes (definition : WorkflowDefinition) (capabilities : WorkflowCapabilityCatalog)
    (nodes : NodeTable) : List WorkflowNode → Fallible NodeTable
  | [] => .ok nodes
  | node :: rest => do
    validateId "node_id" node.nodeId
    refuseIf (nodes.lookup node.nodeId).isSome (.invalidDefinition s!"duplicate node id: {node.nodeId}")
    let signature ← node.kind.signature
    validateDeclaredCapability node capabilities
    validateNodeStatic node signature definition
    gatherNodes definition capabilities (nodes.insert node.nodeId (node, signature)) rest

variable (nodes : NodeTable)

def NodeTable.outputType (nodeId port : String) : Option WorkflowValueType :=
  (nodes.lookup nodeId).bind fun entry => entry.2.outputs.lookup port

def bindingType :
    InputBinding → Fallible WorkflowValueType
  | .workflowInput inputId =>
    okOr (definition.inputs.lookup inputId) (.typeMismatch s!"unknown workflow input {inputId}")
  | .nodeOutput nodeId port =>
    okOr (nodes.outputType nodeId port) (.typeMismatch s!"unknown node output {nodeId}.{port}")
  | .literal value => value.valueType

def InputBinding.dependency : InputBinding → Option String
  | .nodeOutput nodeId _ => some nodeId
  | _ => none

def includeDependency (dependencies : List String) (dependency : Option String) : List String :=
  match dependency with
  | some nodeId => dependencies.insert nodeId
  | none => dependencies

def bindPorts (definition : WorkflowDefinition) (nodes : NodeTable) (nodeId : String)
    (inputs : Table String InputBinding) (dependencies : List String) :
    List (Sigma fun _ : String => WorkflowValueType) → Fallible (List String)
  | [] => .ok dependencies
  | ⟨port, expected⟩ :: rest => do
    let binding ← okOr (inputs.lookup port) (.typeMismatch "key set checked")
    let actual ← bindingType definition nodes binding
    refuseIf (actual ≠ expected) (.typeMismatch
      (s!"node {nodeId}.{port} expects " ++ expected.debug ++ ", found " ++ actual.debug))
    bindPorts definition nodes nodeId inputs (includeDependency dependencies binding.dependency) rest

def bindGuard (nodeId : String) (dependencies : List String) :
    Option ConditionGuard → Fallible (List String)
  | none => .ok dependencies
  | some guard => do
    let found ← okOr (nodes.lookup guard.conditionNodeId) (.invalidDefinition
      s!"node {nodeId} guard references missing node {guard.conditionNodeId}")
    refuseIf (found.2.outputs.lookup "out" ≠ some .boolean)
      (.typeMismatch "condition guard must reference a Boolean output")
    pure (dependencies.insert guard.conditionNodeId)

def InputBinding.isOutputOf (nodeId : String) : InputBinding → Bool
  | .nodeOutput found port => found = nodeId && port = "out"
  | _ => false

def bindApproval (nodeId : String) (inputs : Table String InputBinding)
    (dependencies : List String) : Option String → Fallible (List String)
  | none => .ok dependencies
  | some approvalNodeId => do
    let found ← okOr (nodes.lookup approvalNodeId) (.missingApproval
      s!"node {nodeId} references missing approval node {approvalNodeId}")
    refuseIf (!found.1.kind.isHumanApproval || found.2.outputs.lookup "out" ≠ some .boolean ||
        !(inputs.lookup "approval").any (·.isOutputOf approvalNodeId))
      (.missingApproval
        s!"node {nodeId} approval must bind directly to HumanApproval {approvalNodeId}.out")
    pure (dependencies.insert approvalNodeId)

def nodeDependencies (nodeId : String) (node : WorkflowNode) (signature : NodeSignature) :
    Fallible (List String) := do
  refuseIf (node.inputs.entries.length ≠ signature.inputs.entries.length ||
      node.inputs.keys.any fun port => (signature.inputs.lookup port).isNone)
    (.typeMismatch s!"node {nodeId} input ports differ from its typed signature")
  let bound ← bindPorts definition nodes nodeId node.inputs [] (ascending signature.inputs)
  let guarded ← bindGuard nodes nodeId bound node.guard
  bindApproval nodes nodeId node.inputs guarded node.permissionPolicy.approvalNodeId

def gatherDependencies (definition : WorkflowDefinition) (nodes : NodeTable)
    (dependencies : Table String (List String)) :
    List (Sigma fun _ : String => WorkflowNode × NodeSignature) → Fallible (Table String (List String))
  | [] => .ok dependencies
  | ⟨nodeId, node, signature⟩ :: rest => do
    let found ← nodeDependencies definition nodes nodeId node signature
    gatherDependencies definition nodes (dependencies.insert nodeId found) rest

/-! ## Order -/

variable (dependencies : Table String (List String))

def dependenciesOf (nodeId : String) : List String :=
  (dependencies.lookup nodeId).getD []

def checkDependencies (dependencies : Table String (List String)) :
    List (Sigma fun _ : String => List String) → Fallible Unit
  | [] => .ok ()
  | ⟨nodeId, found⟩ :: rest => do
    refuseIf (found.contains nodeId || found.any fun d => (dependencies.lookup d).isNone)
      (.cycle s!"node {nodeId} has a self or missing dependency")
    checkDependencies dependencies rest

def sortNodes : TopologicalSort.State String :=
  TopologicalSort.sort (fun a b => textBytes a ≤ textBytes b) ((ascending dependencies).map Sigma.fst)
    (dependenciesOf dependencies)

def topologicalOrder : Fallible (List String × (String → Nat)) := do
  checkDependencies dependencies (ascending dependencies)
  let sorted := sortNodes dependencies
  refuseIf (sorted.order.length ≠ dependencies.entries.length)
    (.cycle ("cycle includes: " ++ ", ".intercalate
      (((ascending dependencies).map Sigma.fst).filter fun nodeId => 0 < sorted.count nodeId)))
  pure (sorted.order, sorted.level)

/-! ## The compiler -/

def checkOutputs (definition : WorkflowDefinition) (nodes : NodeTable) :
    List (Sigma fun _ : String => WorkflowOutput) → Fallible Unit
  | [] => .ok ()
  | ⟨outputId, output⟩ :: rest => do
    validateId "workflow output id" outputId
    let actual ← bindingType definition nodes output.binding
    refuseIf (actual ≠ output.valueType) (.typeMismatch
      (s!"workflow output {outputId} declares " ++ output.valueType.debug ++ ", found " ++ actual.debug))
    checkOutputs definition nodes rest

def WorkflowDefinition.canonical : WorkflowDefinition :=
  { definition with
    nodes := definition.nodes.insertionSort fun a b => textBytes a.nodeId ≤ textBytes b.nodeId }

def irNode (level : String → Nat) (nodeId : String) : Option WorkflowIrNode :=
  (nodes.lookup nodeId).map fun entry =>
    ⟨entry.1, dependenciesOf dependencies nodeId, level nodeId, entry.2.inputs, entry.2.outputs⟩

def compileWorkflow (codec : Codec) (definition : WorkflowDefinition)
    (daemonCapabilities : List DaemonCapability) (capabilities : WorkflowCapabilityCatalog) :
    Fallible WorkflowIr := do
  validateWorkflowHeader definition
  definition.triggers.forM (validateTrigger daemonCapabilities)
  let nodes ← gatherNodes definition capabilities ∅ definition.nodes
  let dependencies ← gatherDependencies definition nodes ∅ (ascending nodes)
  let (order, level) ← topologicalOrder dependencies
  checkOutputs definition nodes (ascending definition.outputs)
  pure {
    irVersion := 1
    workflowId := definition.workflowId
    workflowVersion := definition.workflowVersion
    definitionSha256 := codec.definitionSha256 definition.canonical
    inputs := definition.inputs
    secrets := definition.secrets
    nodes := order.filterMap (irNode nodes dependencies level)
    outputs := definition.outputs
    budgets := definition.budgets
    maximumConcurrency := definition.maximumConcurrency
    triggers := definition.triggers }

end LittleMonkey.Workflow
