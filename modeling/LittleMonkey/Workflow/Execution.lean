import LittleMonkey.Lib.Durable
import LittleMonkey.Lib.Lists
import LittleMonkey.Workflow.Replay

/-! # Running a workflow

`run` and `replay` of the headless executor.  A level is prepared node by node and then run in
batches, the nodes of a batch at the same time.  `Machine` is everything the run does not
decide.  Besides what the code keeps, a run keeps `calls`: the calls of `execute`, which stay
made however the run ends.
-/

namespace LittleMonkey.Workflow

open Guards Primitives Transaction Durable

def u64Max : Nat := 2 ^ 64 - 1

def saturatingAddU64 (a b : Nat) : Nat := min (a + b) u64Max

def checkedU64 (n : Nat) : Option Nat := if n ≤ u64Max then some n else none

/-! ## Requests and answers -/

def ResourceUsage.zero : ResourceUsage := ⟨0, 0, 0, 0, 0⟩

def ResourceUsage.addAssign (usage other : ResourceUsage) : ResourceUsage where
  modelCalls := saturatingAddU64 usage.modelCalls other.modelCalls
  inputTokens := saturatingAddU64 usage.inputTokens other.inputTokens
  outputTokens := saturatingAddU64 usage.outputTokens other.outputTokens
  costMicrounits := saturatingAddU64 usage.costMicrounits other.costMicrounits
  loopIterations := saturatingAddU64 usage.loopIterations other.loopIterations

def ResourceUsage.withinEstimate (usage : ResourceUsage) (estimate : ResourceEstimate) : Bool :=
  usage.modelCalls ≤ estimate.modelCalls && usage.inputTokens ≤ estimate.inputTokens &&
    usage.outputTokens ≤ estimate.outputTokens && usage.costMicrounits ≤ estimate.costMicrounits

structure NodeExecutionRequest where
  (runId workflowId : String)
  node : WorkflowNode
  inputs : Table String WorkflowValue
  secrets : Table String SecretBinding
  (attempt deadlineUnixMs : Nat)
  idempotencyKey : Option String

inductive NodeAdapterResult
  | succeeded (outputs : Table String WorkflowValue) (usage : ResourceUsage)
  | failed (failure : FailureClass) (message : String) (retryable : Bool) (usage : ResourceUsage)
  | ambiguousExternalEffect (receipt : String) (pendingOutputs : Table String WorkflowValue)
      (usage : ResourceUsage)

structure WorkflowRunRequest where
  runId : String
  inputs : Table String WorkflowValue
  secretBindings : Table String SecretBinding
  trigger : WorkflowTrigger

structure SignalIntent where
  (suspendRequested stopRequested : Bool)

/-- The points of a run at which it looks at the clock or the cancellation flag, or sleeps. -/
inductive Moment
  | requested
  | started
  | reusing (nodeId : String)
  | level (level : Nat)
  | polled (level poll : Nat)
  | resumed (level : Nat)
  | skipping (nodeId : String)
  | entering (nodeId : String)
  | attempting (nodeId : String) (attempt : Nat)
  | answered (nodeId : String) (attempt : Nat)
  | leaving (nodeId : String)
  | finishing

structure Machine where
  execute : NodeExecutionRequest → Except String NodeAdapterResult
  now : Moment → Nat
  cancelled : Moment → Bool
  sleep : Moment → Nat → Except String Unit
  /-- What the polls of a level find until the run is no longer suspended, if there is a source
  of signals. -/
  signals : Option (Nat → List (Option SignalIntent))
  /-- The nodes of a batch come back in the order of these. -/
  arrival : String → Nat
  sha : Bytes → String
  codec : Codec

/-! ## Budgets -/

structure BudgetTracker where
  budgets : WorkflowBudgets
  (reservedExecutions reservedModelCalls reservedInputTokens reservedOutputTokens reservedCost : Nat)

def BudgetTracker.new (budgets : WorkflowBudgets) : BudgetTracker := ⟨budgets, 0, 0, 0, 0, 0⟩

def estimated (estimate attempts : Nat) : Fallible Nat :=
  okOr (checkedU64 (estimate * attempts)) (.budgetExceeded "node retry estimate overflow")

def reserved (total amount : Nat) : Fallible Nat :=
  okOr (checkedU64 (total + amount)) (.budgetExceeded "workflow reservation overflow")

def BudgetTracker.reserve (tracker : BudgetTracker) (node : WorkflowNode) : Fallible BudgetTracker := do
  let attempts := node.retry.maximumAttempts
  let modelCalls ← estimated node.estimate.modelCalls attempts
  let inputTokens ← estimated node.estimate.inputTokens attempts
  let outputTokens ← estimated node.estimate.outputTokens attempts
  let cost ← estimated node.estimate.costMicrounits attempts
  let nextExecutions ← reserved tracker.reservedExecutions attempts
  let nextModel ← reserved tracker.reservedModelCalls modelCalls
  let nextInput ← reserved tracker.reservedInputTokens inputTokens
  let nextOutput ← reserved tracker.reservedOutputTokens outputTokens
  let nextCost ← reserved tracker.reservedCost cost
  refuseIf (tracker.budgets.maximumNodeExecutions < nextExecutions ||
      tracker.budgets.maximumModelCalls < nextModel || tracker.budgets.maximumInputTokens < nextInput ||
      tracker.budgets.maximumOutputTokens < nextOutput ||
      tracker.budgets.maximumCostMicrounits < nextCost)
    (.budgetExceeded s!"node {node.nodeId} worst-case retry reservation exceeds workflow budgets")
  pure ⟨tracker.budgets, nextExecutions, nextModel, nextInput, nextOutput, nextCost⟩

/-! ## Checks of values -/

def samePorts {ρ τ : Type} (values : Table String ρ) (types : Table String τ) : Bool :=
  values.entries.length = types.entries.length && values.keys.all fun port => (types.lookup port).isSome

def checkTypes (values : Table String WorkflowValue) (types : Table String WorkflowValueType)
    (wrong : String → WorkflowError) : Fallible Unit :=
  (ascending types).forM fun entry => do
    let value ← okOr (values.lookup entry.1) (.typeMismatch "key set checked")
    let type ← value.valueType
    refuseIf (type ≠ entry.2) (wrong entry.1)

def checkSecretBinding (entry : Sigma fun _ : String => SecretBinding) : Fallible Unit := do
  refuseIf (entry.2.secretId ≠ entry.1) (.invalidSecret "secret binding identity mismatch")
  validateId "secret vault reference" entry.2.vaultReference

def validateRunRequest (codec : Codec) (ir : WorkflowIr) (request : WorkflowRunRequest) :
    Fallible Unit := do
  validateId "run_id" request.runId
  refuseIf (!samePorts request.inputs ir.inputs)
    (.typeMismatch "run inputs differ from workflow input declaration")
  checkTypes request.inputs ir.inputs fun inputId => .typeMismatch s!"run input {inputId} has wrong type"
  refuseIf (!samePorts request.secretBindings ir.secrets)
    (.invalidSecret "run secret references differ from workflow declarations")
  (ascending request.secretBindings).forM checkSecretBinding
  refuseIf (!ir.triggers.contains request.trigger)
    (.unsupportedTrigger "run trigger is not declared by workflow")
  refuseIf (16 * 1024 * 1024 < codec.valuesLength request.inputs)
    (.typeMismatch "run input snapshot exceeds 16 MiB")

def validateNodeOutputs (codec : Codec) (irNode : WorkflowIrNode) (outputs : Table String WorkflowValue) :
    Fallible Unit := do
  refuseIf (!samePorts outputs irNode.outputTypes)
    (.typeMismatch s!"node {irNode.node.nodeId} returned wrong output ports")
  checkTypes outputs irNode.outputTypes fun port =>
    .typeMismatch s!"node {irNode.node.nodeId}.{port} returned wrong type"
  refuseIf (32 * 1024 * 1024 < codec.valuesLength outputs) (.typeMismatch "node output exceeds 32 MiB")

def validateLoopIterations (node : WorkflowNode) (iterations : Nat) : Fallible Unit :=
  match node.kind with
  | .boundedLoop maximumIterations =>
    refuseIf (maximumIterations < iterations)
      (.budgetExceeded s!"bounded loop {node.nodeId} exceeded maximum_iterations")
  | _ => refuseIf (iterations ≠ 0) (.execution "non-loop node reported loop iterations")

def validateNodeUsage (node : WorkflowNode) (usage : ResourceUsage) : Fallible Unit := do
  refuseIf (!usage.withinEstimate node.estimate)
    (.budgetExceeded s!"node {node.nodeId} exceeded its declared per-attempt resource estimate")
  validateLoopIterations node usage.loopIterations

/-! ## Preparing a node -/

abbrev Values := Table (String × String) WorkflowValue

def resolveBindingValue (workflowInputs : Table String WorkflowValue) (values : Values) :
    InputBinding → Fallible WorkflowValue
  | .workflowInput inputId =>
    okOr (workflowInputs.lookup inputId) (.execution s!"missing workflow input {inputId}")
  | .nodeOutput nodeId port =>
    okOr (values.lookup (nodeId, port)) (.execution s!"missing output {nodeId}.{port}")
  | .literal value => .ok value

def resolveInputs (irNode : WorkflowIrNode) (workflowInputs : Table String WorkflowValue) (values : Values)
    (resolved : Table String WorkflowValue) :
    List (Sigma fun _ : String => InputBinding) → Fallible (Table String WorkflowValue)
  | [] => .ok resolved
  | ⟨port, binding⟩ :: rest => do
    let value ← resolveBindingValue workflowInputs values binding
    let type ← value.valueType
    refuseIf (irNode.inputTypes.lookup port ≠ some type)
      (.typeMismatch s!"runtime input {irNode.node.nodeId}.{port} has wrong type")
    resolveInputs irNode workflowInputs values (resolved.insert port value) rest

def resolveNodeInputs (irNode : WorkflowIrNode) (workflowInputs : Table String WorkflowValue)
    (values : Values) : Fallible (Table String WorkflowValue) :=
  resolveInputs irNode workflowInputs values ∅ (ascending irNode.node.inputs)

def gatherSecrets (bindings : Table String SecretBinding) (gathered : Table String SecretBinding) :
    List String → Fallible (Table String SecretBinding)
  | [] => .ok gathered
  | secretId :: rest => do
    let binding ← okOr (bindings.lookup secretId)
      (.invalidSecret s!"run has no vault reference for {secretId}")
    gatherSecrets bindings (gathered.insert secretId binding) rest

structure PreparedNode where
  irNode : WorkflowIrNode
  inputs : Table String WorkflowValue
  secrets : Table String SecretBinding

def prepareInputs (request : WorkflowRunRequest) (values : Values) (irNode : WorkflowIrNode) :
    Fallible PreparedNode := do
  let inputs ← resolveNodeInputs irNode request.inputs values
  refuseIf (irNode.node.kind.effect.mutates && !(inputs.lookup "approval").any (·.isBoolean true))
    (.missingApproval s!"node {irNode.node.nodeId} did not receive an affirmative approval")
  let secrets ← gatherSecrets request.secretBindings ∅ irNode.node.secretIds
  pure ⟨irNode, inputs, secrets⟩

def guardMatches (values : Values) (node : WorkflowNode) : Fallible Bool :=
  match node.guard with
  | none => .ok true
  | some guard => do
    let value ← okOr (values.lookup (guard.conditionNodeId, "out"))
      (.execution s!"guard value for {node.nodeId} is unavailable")
    pure (value.isBoolean guard.expected)

/-! ## Running a node -/

structure NodeCompletion where
  nodeId : String
  status : NodeRunStatus
  inputs : Table String WorkflowValue
  secrets : Table String SecretBinding
  (outputs pendingOutputs : Table String WorkflowValue)
  (attempts startedUnixMs finishedUnixMs : Nat)
  usage : ResourceUsage

def idempotencyKey (machine : Machine) (runId : String) (node : WorkflowNode) : Option String :=
  match node.idempotency with
  | .none => none
  | .keyed keyTemplate => some (machine.sha (textBytes s!"{runId}:{node.nodeId}:{keyTemplate}"))
  | .verifiedState verifierId => some (machine.sha (textBytes s!"{runId}:{node.nodeId}:verify:{verifierId}"))

section

variable (machine : Machine) (runId workflowId : String) (prepared : PreparedNode)

def PreparedNode.node : WorkflowNode := prepared.irNode.node

def attemptRequest (attempt : Nat) : NodeExecutionRequest where
  runId := runId
  workflowId := workflowId
  node := prepared.node
  inputs := prepared.inputs
  secrets := prepared.secrets
  attempt := attempt
  deadlineUnixMs :=
    saturatingAddU64 (machine.now (.attempting prepared.node.nodeId attempt)) prepared.node.timeoutMs
  idempotencyKey := idempotencyKey machine runId prepared.node

def lateResult (node : WorkflowNode) : NodeAdapterResult :=
  if node.kind.effect = .externalMutation then
    .ambiguousExternalEffect "timeout-without-verified-external-state" ∅ .zero
  else .failed .timeout "node exceeded cooperative deadline" true .zero

def adapterResult (request : NodeExecutionRequest) (answer : NodeAdapterResult) : NodeAdapterResult :=
  if request.deadlineUnixMs < machine.now (.answered request.node.nodeId request.attempt) then
    lateResult request.node
  else answer

def completion (attempt : Nat) (status : NodeRunStatus) (usage : ResourceUsage) : NodeCompletion where
  nodeId := prepared.node.nodeId
  status := status
  inputs := prepared.inputs
  secrets := prepared.secrets
  outputs := ∅
  pendingOutputs := ∅
  attempts := attempt
  startedUnixMs := machine.now (.entering prepared.node.nodeId)
  finishedUnixMs := machine.now (.leaving prepared.node.nodeId)
  usage := usage

def mayRetry (node : WorkflowNode) (attempt : Nat) (failure : FailureClass) (retryable : Bool) : Bool :=
  retryable && attempt < node.retry.maximumAttempts && node.retry.retryOn.contains failure &&
    (!node.kind.effect.mutates || node.idempotency ≠ .none)

/-- An attempt ends the node, or is followed by another. -/
inductive Next
  | done (completion : NodeCompletion)
  | again (usage : ResourceUsage)

def checkPending (pendingOutputs : Table String WorkflowValue) : Fallible Unit :=
  if pendingOutputs.entries.isEmpty then .ok ()
  else validateNodeOutputs machine.codec prepared.irNode pendingOutputs

def settle (attempt : Nat) (usage : ResourceUsage) (backoff : Nat) : NodeAdapterResult → Fallible Next
  | .succeeded outputs attemptUsage => do
    validateNodeOutputs machine.codec prepared.irNode outputs
    validateNodeUsage prepared.node attemptUsage
    pure (.done { completion machine prepared attempt .succeeded (usage.addAssign attemptUsage) with
      outputs := outputs })
  | .ambiguousExternalEffect receipt pendingOutputs attemptUsage => do
    refuseIf (prepared.node.kind.effect ≠ .externalMutation || isBlank receipt ||
        8192 < receipt.utf8ByteSize)
      (.execution "ambiguous result is only valid for external mutations with a receipt")
    checkPending machine prepared pendingOutputs
    validateNodeUsage prepared.node attemptUsage
    pure (.done { completion machine prepared attempt (.needsReconciliation receipt)
        (usage.addAssign attemptUsage) with
      pendingOutputs := pendingOutputs })
  | .failed failure message retryable attemptUsage => do
    validateNodeUsage prepared.node attemptUsage
    if mayRetry prepared.node attempt failure retryable then do
      (machine.sleep (.attempting prepared.node.nodeId attempt) backoff).mapError .execution
      pure (.again (usage.addAssign attemptUsage))
    else
      pure (.done (completion machine prepared attempt (.failed failure message)
        (usage.addAssign attemptUsage)))

structure Exchange where
  request : NodeExecutionRequest
  answer : Except String NodeAdapterResult

def Exchange.settled (exchange : Exchange) (usage : ResourceUsage) (backoff : Nat) : Fallible Next := do
  let answer ← exchange.answer.mapError .execution
  settle machine prepared exchange.request.attempt usage backoff
    (adapterResult machine exchange.request answer)

def attempts : Nat → Nat → ResourceUsage → Nat → List Exchange × Fallible NodeCompletion
  | 0, _, _, _ => ([], .error (.execution "retry loop exited without a terminal result"))
  | left + 1, attempt, usage, backoff =>
    if machine.cancelled (.attempting prepared.node.nodeId attempt) then ([], .error .cancelled)
    else
      let request := attemptRequest machine runId workflowId prepared attempt
      let exchange : Exchange := ⟨request, machine.execute request⟩
      match exchange.settled machine prepared usage backoff with
      | .error e => ([exchange], .error e)
      | .ok (.done completion) => ([exchange], .ok completion)
      | .ok (.again usage) =>
        let rest := attempts left (attempt + 1) usage
          (min (min (max backoff 1 * 2) u64Max) prepared.node.retry.maximumBackoffMs)
        (exchange :: rest.1, rest.2)

def runPreparedNode : List Exchange × Fallible NodeCompletion :=
  attempts machine runId workflowId prepared prepared.node.retry.maximumAttempts 1 .zero
    prepared.node.retry.initialBackoffMs

end

/-! ## The state of a run -/

/-- A call of `execute`, and the records of the nodes when its batch started. -/
structure Call where
  exchange : Exchange
  before : Table String NodeRunRecord

structure RunState where
  history : WorkflowRunHistory
  values : Values
  reused : List String
  budget : BudgetTracker
  calls : List Call

def WorkflowRunHistory.pushEvent (history : WorkflowRunHistory) (unixMs : Nat) (kind : WorkflowRunEventKind) :
    WorkflowRunHistory :=
  { history with events := history.events ++ [⟨history.events.length + 1, unixMs, kind⟩] }

def finishHistory (history : WorkflowRunHistory) (status : WorkflowRunStatus) (unixMs : Nat) :
    WorkflowRunHistory :=
  { history with status := status, finishedUnixMs := some unixMs }.pushEvent unixMs (.runFinished status)

/-- A run leaves its loop with its history, or fails and drops it. -/
inductive Exit
  | finished
  | failed (e : WorkflowError)

abbrev Execution := Program Exit RunState

def raise {α : Type} (e : WorkflowError) : Execution α := fail (.failed e)

def tryWith {α : Type} : Fallible α → Execution α
  | .ok a => pure a
  | .error e => raise e

section

variable (machine : Machine) (ir : WorkflowIr) (request : WorkflowRunRequest)

def finishWith {α : Type} (status : WorkflowRunStatus) : Execution α := do
  write fun s => { s with history := finishHistory s.history status (machine.now .finishing) }
  fail .finished

/-! ## Levels -/

def skippedRecord (nodeId : String) (now : Nat) : NodeRunRecord where
  nodeId := nodeId
  status := .skipped "condition guard did not match"
  inputs := ∅
  secretReferences := ∅
  outputs := ∅
  pendingOutputs := ∅
  attempts := 0
  startedUnixMs := some now
  finishedUnixMs := some now
  usage := .zero

def RunState.skip (s : RunState) (nodeId : String) (now : Nat) : RunState :=
  let record := skippedRecord nodeId now
  { s with
    history := { s.history with nodes := s.history.nodes.insert nodeId record }.pushEvent now
      (.nodeFinished nodeId record.status) }

def prepareNode (found : RunState × List PreparedNode) (irNode : WorkflowIrNode) :
    Fallible (RunState × List PreparedNode) :=
  let (s, prepared) := found
  let nodeId := irNode.node.nodeId
  if s.reused.contains nodeId then .ok (s, prepared)
  else do
    if ← guardMatches s.values irNode.node then
      let node ← prepareInputs request s.values irNode
      let budget ← s.budget.reserve irNode.node
      pure ({ s with budget := budget }, prepared ++ [node])
    else
      pure (s.skip nodeId (machine.now (.skipping nodeId)), prepared)

def WorkflowIr.atLevel (level : Nat) : List WorkflowIrNode := ir.nodes.filter fun n => n.level = level

def prepareLevel (s : RunState) (level : Nat) : Fallible (RunState × List PreparedNode) :=
  (ir.atLevel level).foldlM (prepareNode machine request) (s, [])

/-! ## Batches -/

def insertOutputs (values : Values) (nodeId : String) (outputs : Table String WorkflowValue) : Values :=
  insertAll (fun port => (nodeId, port)) values (ascending outputs)

def NodeCompletion.record (c : NodeCompletion) : NodeRunRecord where
  nodeId := c.nodeId
  status := c.status
  inputs := c.inputs
  secretReferences := c.secrets
  outputs := c.outputs
  pendingOutputs := c.pendingOutputs
  attempts := c.attempts
  startedUnixMs := some c.startedUnixMs
  finishedUnixMs := some c.finishedUnixMs
  usage := c.usage

def RunState.complete (s : RunState) (c : NodeCompletion) : RunState :=
  { s with
    values := insertOutputs s.values c.nodeId c.outputs
    history := { s.history with
      usage := s.history.usage.addAssign c.usage
      nodes := s.history.nodes.insert c.nodeId c.record }.pushEvent c.finishedUnixMs
        (.nodeFinished c.nodeId c.status) }

def terminalFailure (found : Option WorkflowRunStatus) (c : NodeCompletion) : Option WorkflowRunStatus :=
  match c.status with
  | .failed _ _ => found.orElse fun _ => some .failed
  | .needsReconciliation _ => some .needsReconciliation
  | _ => found

/-- The results in the order in which they came, up to the first error. -/
def collect : List (Fallible NodeCompletion) → Fallible (List NodeCompletion)
  | [] => .ok []
  | result :: rest => do
    let c ← result
    let completed ← collect rest
    pure (c :: completed)

def byArrival (batch : List PreparedNode) : List PreparedNode :=
  batch.insertionSort fun a b => machine.arrival a.node.nodeId ≤ machine.arrival b.node.nodeId

def runNode (prepared : PreparedNode) : List Exchange × Fallible NodeCompletion :=
  runPreparedNode machine request.runId ir.workflowId prepared

def batchCalls (s : RunState) (batch : List PreparedNode) : List Call :=
  batch.flatMap fun prepared => (runNode machine ir request prepared).1.map fun exchange =>
    ⟨exchange, s.history.nodes⟩

def batchResult (batch : List PreparedNode) : Fallible (List NodeCompletion) := do
  let completed ← collect ((byArrival machine batch).map fun prepared => (runNode machine ir request prepared).2)
  pure (completed.insertionSort fun a b => textBytes a.nodeId ≤ textBytes b.nodeId)

def runBatch (batch : List PreparedNode) : Execution Unit := do
  write fun s => { s with calls := s.calls ++ batchCalls machine ir request s batch }
  let completed ← tryWith (batchResult machine ir request batch)
  write fun s => completed.foldl RunState.complete s
  match completed.foldl terminalFailure none with
  | none => pure ()
  | some status => finishWith machine status

/-! ## The loop over the levels -/

def finishIf (condition : Bool) : Execution Unit :=
  if condition then finishWith machine .cancelled else pure ()

def stopRequested (intent : Option SignalIntent) : Bool := intent.any (·.stopRequested)
def suspendRequested (intent : Option SignalIntent) : Bool := intent.any (·.suspendRequested)

/-- The polls of a level; it is left when the run is not suspended or the sleep is cut short. -/
def park (level : Nat) : Nat → List (Option SignalIntent) → Execution Unit
  | poll, [] => finishIf machine (machine.cancelled (.polled level poll))
  | poll, intent :: rest => do
    finishIf machine (stopRequested intent || machine.cancelled (.polled level poll))
    if suspendRequested intent && (machine.sleep (.polled level poll) 500).isOk then
      park level (poll + 1) rest
    else pure ()

def levelBoundary (level : Nat) : Execution Unit := do
  finishIf machine (machine.cancelled (.level level))
  match machine.signals with
  | none => pure ()
  | some signals => do
    park machine level 0 (signals level)
    finishIf machine (machine.cancelled (.resumed level))

def wallTimeElapsed (level : Nat) : Bool :=
  ir.budgets.maximumWallTimeMs < machine.now (.level level) - machine.now .started

def checkWallTime (level : Nat) : Execution Unit :=
  if wallTimeElapsed machine ir level then do
    write fun s => { s with history := finishHistory s.history .failed (machine.now .finishing) }
    raise (.budgetExceeded "workflow wall-time budget elapsed")
  else pure ()

def prepare (level : Nat) : Execution (List PreparedNode) := do
  let s ← read id
  let found ← tryWith (prepareLevel machine ir request s level)
  write fun _ => found.1
  pure found.2

def runLevel (level : Nat) : Execution Unit := do
  levelBoundary machine level
  checkWallTime machine ir level
  let prepared ← prepare machine ir request level
  (Lists.chunks ir.maximumConcurrency prepared.length prepared).forM (runBatch machine ir request)

def WorkflowIr.maxLevel : Nat := (ir.nodes.map (·.level)).foldl max 0

/-! ## The run -/

def resolveOutput (values : Values) (output : WorkflowOutput) (outputId : String) :
    Fallible WorkflowValue := do
  let value ← resolveBindingValue request.inputs values output.binding
  let type ← value.valueType
  refuseIf (type ≠ output.valueType)
    (.typeMismatch s!"runtime workflow output {outputId} has wrong type")
  pure value

def writeOutput (entry : Sigma fun _ : String => WorkflowOutput) : Execution Unit := do
  let s ← read id
  let value ← tryWith (resolveOutput request s.values entry.2 entry.1)
  write fun s => { s with history := { s.history with outputs := s.history.outputs.insert entry.1 value } }

def runLevels : Execution Unit := do
  (List.range (ir.maxLevel + 1)).forM (runLevel machine ir request)
  (ascending ir.outputs).forM (writeOutput request)
  write fun s => { s with history := finishHistory s.history .succeeded (machine.now .finishing) }

/-- What a run starts with: nothing, or the outputs of a source run. -/
inductive Origin
  | fresh
  | replay (source : WorkflowRunHistory) (plan : ReplayPlan)

def initialHistory : WorkflowRunHistory :=
  WorkflowRunHistory.pushEvent {
    schemaVersion := 1
    runId := request.runId
    workflowId := ir.workflowId
    definitionSha256 := ir.definitionSha256
    status := .running
    startedUnixMs := machine.now .started
    finishedUnixMs := none
    trigger := request.trigger
    inputSnapshot := request.inputs
    secretReferenceSnapshot := request.secretBindings
    nodes := ∅
    outputs := ∅
    usage := .zero
    events := [] } (machine.now .started) .runStarted

def initialState : RunState := ⟨initialHistory machine ir request, ∅, [], .new ir.budgets, []⟩

def reuseNode (source : WorkflowRunHistory) (s : RunState) (nodeId : String) : Fallible RunState := do
  let record ← source.inspectNode nodeId
  refuseIf (!record.status.hasOutputs)
    (.replay s!"source node {nodeId} has no successful output to reuse")
  pure { s with
    values := insertOutputs s.values nodeId record.outputs
    history := { s.history with
      nodes := s.history.nodes.insert nodeId { record with status := .reused source.runId } }.pushEvent
        (machine.now (.reusing nodeId)) (.nodeReused nodeId source.runId)
    reused := s.reused ++ [nodeId] }

def reuse (s : RunState) : Origin → Fallible RunState
  | .fresh => .ok s
  | .replay source plan => plan.reusedNodeIds.foldlM (reuseNode machine source) s

structure Ran where
  result : Fallible WorkflowRunHistory
  calls : List Call

def finishRun (r : EStateM.Result (Stop Exit) RunState Unit) : Ran :=
  match r with
  | .ok _ s => ⟨.ok s.history, s.calls⟩
  | .error (.failed .finished) s => ⟨.ok s.history, s.calls⟩
  | .error (.failed (.failed e)) s => ⟨.error e, s.calls⟩
  | .error .crashed s => ⟨.error .cancelled, s.calls⟩

def checkOrigin : Origin → Fallible Unit
  | .fresh => .ok ()
  | .replay source plan =>
    refuseIf (plan.workflowId ≠ ir.workflowId || plan.definitionSha256 ≠ ir.definitionSha256 ||
        plan.sourceRunId ≠ source.runId)
      (.replay "replay plan is not bound to this IR/source run")

/-- What is checked before anything runs, and the state the levels start from. -/
def begin (origin : Origin) : Fallible RunState := do
  checkOrigin ir origin
  validateRunRequest machine.codec ir request
  refuseIf (machine.cancelled .requested) .cancelled
  reuse machine (initialState machine ir request) origin

def execute (origin : Origin) : Ran :=
  match begin machine ir request origin with
  | .error e => ⟨.error e, []⟩
  | .ok s => finishRun (runLevels machine ir request s)

end

end LittleMonkey.Workflow
