import Mathlib.Algebra.GroupWithZero.Nat
import LittleMonkey.Workflow.TypedRuns

/-! # Effects that are lost with their run

`run_workflow` and `replay` of the workflow service store the history of a run only when the
executor returns it.  A run that fails in between drops what its nodes did.  Where nothing
fails but the nodes themselves, every effect is in the stored history.
-/

namespace LittleMonkey.Workflow

open Guards Primitives Durable List AList Option

/-! ## The workflow service -/

inductive M4ServiceError
  | notFound (message : String)
  | conflict (message : String)
  | workflow (e : WorkflowError)

structure WorkflowService where
  definitions : Table String WorkflowDefinition
  histories : Table String WorkflowRunHistory
  cancellations : List String
  daemonCapabilities : List DaemonCapability
  capabilities : WorkflowCapabilityCatalog

namespace WorkflowService

variable (service : WorkflowService)

def load (workflowId : String) : Except M4ServiceError WorkflowDefinition :=
  okOr (service.definitions.lookup workflowId) (.notFound s!"workflow {workflowId}")

def validate (codec : Codec) (wf : WorkflowDefinition) : Except M4ServiceError WorkflowIr :=
  (compileWorkflow codec wf service.daemonCapabilities service.capabilities).mapError .workflow

def history (runId : String) : Except M4ServiceError WorkflowRunHistory :=
  okOr (service.histories.lookup runId) (.notFound s!"workflow run {runId}")

def ensureNewRun (runId : String) : Except M4ServiceError Unit :=
  refuseIf (service.cancellations.contains runId || (service.histories.lookup runId).isSome)
    (.conflict s!"workflow run id {runId} already exists")

def appendHistory (history : WorkflowRunHistory) : WorkflowService :=
  { service with histories := service.histories.insert history.runId history }

end WorkflowService

inductive Launch
  | run
  | replay (sourceRunId boundaryNodeId : String) (replayApprovalGranted : Bool)

structure Launched where
  service : WorkflowService
  calls : List Call
  result : Except M4ServiceError WorkflowRunHistory

section

variable (service : WorkflowService) (m : Machine) (workflowId : String) (req : WorkflowRunRequest)

def Launch.origin (ir : WorkflowIr) : Launch → Except M4ServiceError Origin
  | .run => .ok .fresh
  | .replay sourceRunId boundaryNodeId granted => do
    let source ← service.history sourceRunId
    let plan ← (planReplay ir source boundaryNodeId granted).mapError .workflow
    pure (.replay source plan)

def readLaunch (launch : Launch) : Except M4ServiceError (WorkflowIr × Origin) := do
  let wf ← service.load workflowId
  let ir ← service.validate m.codec wf
  let origin ← launch.origin service ir
  service.ensureNewRun req.runId
  pure (ir, origin)

def storeRun (ran : Ran) : Launched :=
  match ran.result with
  | .error e => ⟨service, ran.calls, .error (.workflow e)⟩
  | .ok history => ⟨service.appendHistory history, ran.calls, .ok history⟩

def launchWorkflow (launch : Launch) : Launched :=
  match readLaunch service m workflowId req launch with
  | .error e => ⟨service, [], .error e⟩
  | .ok (ir, origin) => storeRun service (execute m ir req origin)

end

/-! ## Effects -/

/-- The node answered that it did what it was asked for, or may have. -/
def Exchange.effected (exchange : Exchange) : Bool :=
  match exchange.answer with
  | .ok (.succeeded _ _) | .ok (.ambiguousExternalEffect _ _ _) => true
  | _ => false

def NodeRunStatus.keepsEffect : NodeRunStatus → Bool
  | .succeeded | .needsReconciliation _ => true
  | _ => false

def Call.nodeId (call : Call) : String := call.exchange.request.node.nodeId

/-- The history says of every effect of these calls that it happened or may have. -/
def Recorded (calls : List Call) (history : WorkflowRunHistory) : Prop :=
  ∀ call ∈ calls, call.exchange.effected = true → ∃ record, history.nodes.lookup call.nodeId = some record ∧
    record.status.keepsEffect = true

/-- Every effect of the run is in the history that is stored under its id. -/
def NoEffectLost (req : WorkflowRunRequest) (launched : Launched) : Prop :=
  ∀ call ∈ launched.calls, call.exchange.effected = true → ∃ history,
    launched.service.histories.lookup req.runId = some history ∧
      ∃ record, history.nodes.lookup call.nodeId = some record ∧ record.status.keepsEffect = true

/-! ## Runs that nothing disturbs -/

inductive Meter
  | executions | modelCalls | inputTokens | outputTokens | cost

def WorkflowBudgets.limit (budgets : WorkflowBudgets) : Meter → Nat
  | .executions => budgets.maximumNodeExecutions
  | .modelCalls => budgets.maximumModelCalls
  | .inputTokens => budgets.maximumInputTokens
  | .outputTokens => budgets.maximumOutputTokens
  | .cost => budgets.maximumCostMicrounits

def WorkflowNode.worst (node : WorkflowNode) : Meter → Nat
  | .executions => node.retry.maximumAttempts
  | .modelCalls => node.estimate.modelCalls * node.retry.maximumAttempts
  | .inputTokens => node.estimate.inputTokens * node.retry.maximumAttempts
  | .outputTokens => node.estimate.outputTokens * node.retry.maximumAttempts
  | .cost => node.estimate.costMicrounits * node.retry.maximumAttempts

def BudgetTracker.amount (tracker : BudgetTracker) : Meter → Nat
  | .executions => tracker.reservedExecutions
  | .modelCalls => tracker.reservedModelCalls
  | .inputTokens => tracker.reservedInputTokens
  | .outputTokens => tracker.reservedOutputTokens
  | .cost => tracker.reservedCost

def Proper (m : Machine) (n : WorkflowIrNode) : NodeAdapterResult → Prop
  | .succeeded outputs usage =>
    validateNodeOutputs m.codec n outputs = .ok () ∧ validateNodeUsage n.node usage = .ok () ∧
      (n.node.kind.isHumanApproval = true → outputs.lookup "out" = some (.boolean true))
  | .failed _ _ _ usage => validateNodeUsage n.node usage = .ok ()
  | .ambiguousExternalEffect receipt pendingOutputs usage =>
    n.node.kind.effect = .externalMutation ∧ isBlank receipt = false ∧ receipt.utf8ByteSize ≤ 8192 ∧
      (pendingOutputs.entries.isEmpty = true ∨ validateNodeOutputs m.codec n pendingOutputs = .ok ()) ∧
      validateNodeUsage n.node usage = .ok ()

/-- The node is answered properly and, if it is no external mutation, in time; it is neither
cancelled nor woken while it waits for another attempt. -/
structure Answered (m : Machine) (n : WorkflowIrNode) : Prop where
  answers : ∀ r : NodeExecutionRequest, r.node = n.node → ∃ answer, m.execute r = .ok answer ∧
    Proper m n answer
  inTime : n.node.kind.effect ≠ .externalMutation → ∀ attempt, m.now (.answered n.node.nodeId attempt) ≤
      saturatingAddU64 (m.now (.attempting n.node.nodeId attempt)) n.node.timeoutMs
  uncancelled : ∀ attempt, m.cancelled (.attempting n.node.nodeId attempt) = false
  rested : ∀ attempt backoff, m.sleep (.attempting n.node.nodeId attempt) backoff = .ok ()

/-- The outputs have the types of the node, and an approval is affirmative. -/
def Supplies (n : WorkflowIrNode) (outputs : String → Option WorkflowValue) : Prop :=
  ∀ port type, n.outputTypes.lookup port = some type → ∃ value, outputs port = some value ∧
    value.valueType = .ok type ∧ (n.node.kind.isHumanApproval = true → port = "out" → value = .boolean true)

theorem Supplies.congr {n f g} (h : Supplies n f) (hSame : ∀ port, g port = f port) : Supplies n g :=
  (funext hSame : g = f) ▸ h

/-- Another node, a guard or an output of the workflow reads this node. -/
def WorkflowIr.Reads (ir : WorkflowIr) (nodeId : String) : Prop :=
  (∃ m ∈ ir.nodes, nodeId ∈ m.dependencies) ∨
    ∃ outputId output, ir.outputs.lookup outputId = some output ∧ output.binding.dependency = some nodeId

structure Undisturbed (m : Machine) (ir : WorkflowIr) (origin : Origin) : Prop where
  answered : ∀ n ∈ ir.nodes, Answered m n
  /-- What is read has no guard, so that it is never skipped. -/
  unguarded : ∀ n ∈ ir.nodes, ir.Reads n.node.nodeId → n.node.guard = none
  budgets : ∀ meter, (ir.nodes.map fun n => n.node.worst meter).sum ≤ min (ir.budgets.limit meter) u64Max
  wallTime : ∀ level, wallTimeElapsed m ir level = false
  reused : ∀ source plan, origin = .replay source plan → ∀ n ∈ ir.nodes,
    n.node.nodeId ∈ plan.reusedNodeIds → ∀ record, source.nodes.lookup n.node.nodeId = some record →
      Supplies n record.outputs.lookup

/-! ## Nodes that are answered -/

theorem checkTypes_ok {values} {types : Table String WorkflowValueType}
    {wrong u} (h : checkTypes values types wrong = .ok u) {port}
    {type : WorkflowValueType} (hPort : types.lookup port = some type) :
    ∃ value, values.lookup port = some value ∧ value.valueType = .ok type := by
  have hEntry := forM_eq_ok.mp h ⟨port, type⟩ (mem_ascending.mpr hPort)
  simp only [bind_eq_ok, okOr_eq_ok, refuseIf_eq_ok, decide_eq_false_iff_not, not_not] at hEntry
  obtain ⟨value, hValue, _, hType, rfl⟩ := hEntry
  exact ⟨value, hValue, hType⟩

theorem validateNodeUsage_zero (node : WorkflowNode) : validateNodeUsage node .zero = .ok () := by
  have hLoop : validateLoopIterations node 0 = .ok () := by
    unfold validateLoopIterations
    split <;> simp
  simp [validateNodeUsage, ResourceUsage.withinEstimate, ResourceUsage.zero, hLoop]

variable {m : Machine}

section

variable {runId workflowId : String} {p : PreparedNode}

/-- What a completion says of the calls that were made for it. -/
structure Concludes (p : PreparedNode) (exchanges : List Exchange) (c : NodeCompletion) : Prop where
  effects : ∀ exchange ∈ exchanges, exchange.effected = true → c.status.keepsEffect = true
  outputs : terminalFailure none c = none → Supplies p.irNode c.outputs.lookup

theorem supplies_of_proper {n outputs usage}
    (h : Proper m n (.succeeded outputs usage)) : Supplies n outputs.lookup := by
  obtain ⟨hOutputs, -, hApproval⟩ := h
  simp only [validateNodeOutputs, bind_eq_ok] at hOutputs
  obtain ⟨_, -, _, hTypes, -⟩ := hOutputs
  intro port type hPort
  obtain ⟨value, hValue, hType⟩ := checkTypes_ok hTypes hPort
  refine ⟨value, hValue, hType, fun hHuman hOut => ?_⟩
  subst hOut
  rw [hApproval hHuman] at hValue
  exact (Option.some.inj hValue).symm

theorem settle_proper (h : Answered m p.irNode) (attempt backoff : Nat) (usage : ResourceUsage)
    {result} (hProper : Proper m p.irNode result) :
    (∃ c, settle m p attempt usage backoff result = .ok (.done c) ∧
      (Exchange.effected ⟨attemptRequest m runId workflowId p attempt, .ok result⟩ = true →
        c.status.keepsEffect = true) ∧
      (terminalFailure none c = none → Supplies p.irNode c.outputs.lookup)) ∨
    ∃ failure message retryable attemptUsage, result = .failed failure message retryable attemptUsage ∧
      attempt < p.node.retry.maximumAttempts ∧
      settle m p attempt usage backoff result = .ok (.again (usage.addAssign attemptUsage)) := by
  cases result with
  | succeeded outputs attemptUsage =>
    have hSupplies := supplies_of_proper hProper
    obtain ⟨hOutputs, hUsage, -⟩ := hProper
    refine .inl ⟨{ completion m p attempt .succeeded (usage.addAssign attemptUsage) with
      outputs := outputs }, ?_, fun _ => rfl, fun _ => hSupplies⟩
    simp only [settle, bind_eq_ok, pure_eq_ok]
    exact ⟨(), hOutputs, (), hUsage, trivial⟩
  | ambiguousExternalEffect receipt pendingOutputs attemptUsage =>
    obtain ⟨hEffect, hBlank, hSize, hPending, hUsage⟩ := hProper
    have hChecked : checkPending m p pendingOutputs = .ok () := by
      unfold checkPending
      split
      · rfl
      · next hSome => exact hPending.resolve_left hSome
    refine .inl ⟨{ completion m p attempt (.needsReconciliation receipt)
      (usage.addAssign attemptUsage) with pendingOutputs := pendingOutputs }, ?_, fun _ => rfl, ?_⟩
    · simp only [settle, bind_eq_ok, pure_eq_ok]
      exact ⟨(), by simp [PreparedNode.node, hEffect, hBlank, hSize], (), hChecked, (), hUsage, trivial⟩
    · intro hStatus
      cases hStatus
  | failed failure message retryable attemptUsage =>
    by_cases hRetry : mayRetry p.node attempt failure retryable = true
    · right
      refine ⟨failure, message, retryable, attemptUsage, rfl, ?_, ?_⟩
      · simp only [mayRetry, Bool.and_eq_true, decide_eq_true_eq] at hRetry
        exact hRetry.1.1.2
      · simp only [settle, bind_eq_ok, hRetry, if_true]
        exact ⟨(), hProper, (), by rw [PreparedNode.node, h.rested]; rfl, rfl⟩
    · left
      refine ⟨completion m p attempt (.failed failure message) (usage.addAssign attemptUsage), ?_, ?_, ?_⟩
      · simp only [settle, bind_eq_ok]
        refine ⟨(), hProper, ?_⟩
        rw [if_neg hRetry]
        rfl
      · intro hEffected
        cases hEffected
      · intro hStatus
        cases hStatus

theorem adapterResult_proper (h : Answered m p.irNode) (runId workflowId : String) (attempt : Nat) {answer}
    (hProper : Proper m p.irNode answer) : let req := attemptRequest m runId workflowId p attempt
    Proper m p.irNode (adapterResult m req answer) ∧ (Exchange.effected ⟨req, .ok answer⟩ = true →
        Exchange.effected ⟨req, .ok (adapterResult m req answer)⟩ = true) := by
  dsimp only
  unfold adapterResult
  split
  · next hLate =>
    have hEffect : p.irNode.node.kind.effect = .externalMutation := by
      by_contra hOther
      exact absurd (h.inTime hOther attempt) (Nat.not_le_of_lt hLate)
    have hResult : lateResult (attemptRequest m runId workflowId p attempt).node =
        .ambiguousExternalEffect "timeout-without-verified-external-state" ∅ .zero := if_pos hEffect
    rw [hResult]
    exact ⟨⟨hEffect, by decide, by decide, .inl rfl, validateNodeUsage_zero _⟩, fun _ => rfl⟩
  · exact ⟨hProper, fun hEffected => hEffected⟩

theorem attempts_concludes (h : Answered m p.irNode) {left attempt backoff usage}
    (hLeft : 0 < left) (hAttempts : attempt + left = p.node.retry.maximumAttempts + 1) :
    ∃ c, (attempts m runId workflowId p left attempt usage backoff).2 = .ok c ∧
      Concludes p (attempts m runId workflowId p left attempt usage backoff).1 c := by
  induction left generalizing attempt usage backoff with
  | zero => omega
  | succ left ih =>
    obtain ⟨answer, hAnswer, hProper⟩ := h.answers (attemptRequest m runId workflowId p attempt) rfl
    obtain ⟨hResult, hEffect⟩ := adapterResult_proper h runId workflowId attempt hProper
    have hCancelled : m.cancelled (.attempting p.node.nodeId attempt) = false := h.uncancelled attempt
    rw [attempts, if_neg (by rw [hCancelled]; simp)]
    dsimp only
    rw [hAnswer]
    rcases settle_proper h attempt backoff usage hResult with
      ⟨c, hSettled, hKeeps, hOutputs⟩ | ⟨failure, message, retryable, attemptUsage, hFailed, hMore, hSettled⟩
    · have hExchange : Exchange.settled m p
          ⟨attemptRequest m runId workflowId p attempt, .ok answer⟩ usage backoff = .ok (.done c) := hSettled
      rw [hExchange]
      refine ⟨c, rfl, ?_, hOutputs⟩
      intro exchange hMem hEffected
      obtain rfl := mem_singleton.mp hMem
      exact hKeeps (hEffect hEffected)
    · have hExchange : Exchange.settled m p
          ⟨attemptRequest m runId workflowId p attempt, .ok answer⟩ usage backoff =
            .ok (.again (usage.addAssign attemptUsage)) := hSettled
      rw [hExchange]
      obtain ⟨c, hOk, hRest⟩ := @ih (attempt + 1)
        (min (min (max backoff 1 * 2) u64Max) p.node.retry.maximumBackoffMs) (usage.addAssign attemptUsage)
        (by omega) (by omega)
      refine ⟨c, hOk, ?_, hRest.outputs⟩
      intro exchange hMem hEffected
      rcases mem_cons.mp hMem with rfl | hLater
      · -- An answer that may be retried is no effect.
        have hNot := hEffect hEffected
        rw [hFailed] at hNot
        cases hNot
      · exact hRest.effects exchange hLater hEffected

end

/-! ## Nodes that can be prepared -/

def Available (values : Values) (n : WorkflowIrNode) : Prop :=
  Supplies n fun port => values.lookup (n.node.nodeId, port)

/-- The request gives what the workflow declares. -/
structure Fed (ir : WorkflowIr) (req : WorkflowRunRequest) : Prop where
  inputs : ∀ inputId type, ir.inputs.lookup inputId = some type → ∃ value,
    req.inputs.lookup inputId = some value ∧ value.valueType = .ok type
  secrets : ∀ secretId, (req.secretBindings.lookup secretId).isSome = (ir.secrets.lookup secretId).isSome

theorem samePorts_lookup {ρ τ : Type} {values : Table String ρ} {types : Table String τ}
    (h : samePorts values types = true) (port : String) :
    (values.lookup port).isSome = (types.lookup port).isSome := by
  simp only [samePorts, Bool.and_eq_true, decide_eq_true_eq, List.all_eq_true] at h
  apply lookup_isSome_eq h.1
  rw [List.any_eq_false]
  intro key hKey
  simp [Option.isSome_iff_ne_none.mp (h.2 key hKey)]

theorem validateRunRequest_ok {codec ir req u}
    (h : validateRunRequest codec ir req = .ok u) : Fed ir req := by
  simp only [validateRunRequest, bind_eq_ok] at h
  obtain ⟨_, -, _, -, _, hTypes, _, hSecrets, -⟩ := h
  exact ⟨fun inputId type hInput => checkTypes_ok hTypes hInput, samePorts_lookup (by simpa using hSecrets)⟩

variable {wf : WorkflowDefinition} {ir : WorkflowIr} {req : WorkflowRunRequest}

section

variable {values : Values} {n : WorkflowIrNode}

theorem resolve_of_yields (hFed : Fed ir req) {type : WorkflowValueType} {binding}
    (h : ir.Yields type binding)
    (hNodes : ∀ m ∈ ir.nodes, binding.dependency = some m.node.nodeId → Available values m) :
    ∃ value, resolveBindingValue req.inputs values binding = .ok value ∧ value.valueType = .ok type := by
  cases binding with
  | workflowInput inputId =>
    obtain ⟨value, hValue, hType⟩ := hFed.inputs inputId type h
    exact ⟨value, okOr_eq_ok.mpr hValue, hType⟩
  | nodeOutput nodeId port =>
    obtain ⟨m, hm, rfl, hPort⟩ := h
    obtain ⟨value, hValue, hType, -⟩ := hNodes m hm rfl port type hPort
    exact ⟨value, okOr_eq_ok.mpr hValue, hType⟩
  | literal value => exact ⟨value, rfl, h⟩

theorem resolveInputs_progress {irNode workflowInputs list} (resolved : Table String WorkflowValue)
    (h : ∀ entry ∈ list, ∃ value type, resolveBindingValue workflowInputs values entry.2 = .ok value ∧
      value.valueType = .ok type ∧ irNode.inputTypes.lookup entry.1 = some type) :
    ∃ inputs, resolveInputs irNode workflowInputs values resolved list = .ok inputs := by
  induction list generalizing resolved with
  | nil => exact ⟨resolved, rfl⟩
  | cons entry rest ih =>
    rw [forall_mem_cons] at h
    obtain ⟨⟨value, type, hValue, hType, hExpected⟩, hRest⟩ := h
    obtain ⟨inputs, hInputs⟩ := ih (resolved.insert entry.1 value) hRest
    refine ⟨inputs, ?_⟩
    simp only [resolveInputs, bind_eq_ok]
    exact ⟨value, hValue, type, hType, (), by simp [hExpected], hInputs⟩

theorem gatherSecrets_progress {bindings ids}
    (gathered : Table String SecretBinding) (h : ∀ secretId ∈ ids, (bindings.lookup secretId).isSome = true) :
    ∃ secrets, gatherSecrets bindings gathered ids = .ok secrets := by
  induction ids generalizing gathered with
  | nil => exact ⟨gathered, rfl⟩
  | cons secretId rest ih =>
    rw [forall_mem_cons] at h
    obtain ⟨binding, hBinding⟩ := isSome_iff_exists.mp h.1
    obtain ⟨secrets, hSecrets⟩ := ih (gathered.insert secretId binding) h.2
    refine ⟨secrets, ?_⟩
    simp only [gatherSecrets, bind_eq_ok, okOr_eq_ok]
    exact ⟨binding, hBinding, hSecrets⟩

theorem guardMatches_progress (hAccepted : Accepted wf ir n)
    (hNodes : ∀ m ∈ ir.nodes, m.node.nodeId ∈ n.dependencies → Available values m) :
    ∃ runs, guardMatches values n.node = .ok runs := by
  unfold guardMatches
  cases hGuard : n.node.guard with
  | none => exact ⟨true, rfl⟩
  | some g =>
    obtain ⟨m, hm, hId, hPort⟩ := hAccepted.guarded g hGuard
    have hDepends : m.node.nodeId ∈ n.dependencies := (hAccepted.depends _).mpr (.inr ⟨g, hGuard, hId.symm⟩)
    obtain ⟨value, hValue, -⟩ := hNodes m hm hDepends "out" _ hPort
    refine ⟨value.isBoolean g.expected, ?_⟩
    simp only [bind_eq_ok, okOr_eq_ok]
    exact ⟨value, hId ▸ hValue, rfl⟩

theorem prepareInputs_progress (hIr : Compiled wf ir) (hFed : Fed ir req) (hn : n ∈ ir.nodes)
    (hNodes : ∀ m ∈ ir.nodes, m.node.nodeId ∈ n.dependencies → Available values m) :
    ∃ p, prepareInputs req values n = .ok p ∧ p.irNode = n := by
  have hAccepted := hIr.accepted n hn
  have hBindings : ∀ entry ∈ ascending n.node.inputs, ∃ value type,
      resolveBindingValue req.inputs values entry.2 = .ok value ∧ value.valueType = .ok type ∧
        n.inputTypes.lookup entry.1 = some type := by
    rintro ⟨port, binding⟩ hEntry
    have hBinding := mem_ascending.mp hEntry
    have hPorts := hAccepted.ports port
    rw [hBinding] at hPorts
    obtain ⟨type, hType⟩ := isSome_iff_exists.mp hPorts.symm
    obtain ⟨found, hFound, hYields⟩ := hAccepted.typed port type hType
    rw [hBinding] at hFound
    obtain rfl := Option.some.inj hFound
    obtain ⟨value, hValue, hValueType⟩ := resolve_of_yields hFed hYields fun m hm hDependency => by
      obtain ⟨out, rfl⟩ := dependency_eq_some.mp hDependency
      exact hNodes m hm ((hAccepted.depends _).mpr (.inl ⟨port, out, hBinding⟩))
    exact ⟨value, type, hValue, hValueType, hType⟩
  obtain ⟨inputs, hInputs⟩ := resolveInputs_progress ∅ hBindings
  obtain ⟨secrets, hSecrets⟩ := gatherSecrets_progress ∅ fun secretId hMem => by
    obtain ⟨secret, hSecret, -⟩ := hAccepted.scoped hMem
    rw [hFed.secrets, hIr.secrets, hSecret]
    rfl
  refine ⟨⟨n, inputs, secrets⟩, ?_, rfl⟩
  simp only [prepareInputs, bind_eq_ok]
  refine ⟨inputs, hInputs, (), ?_, secrets, hSecrets, rfl⟩
  -- A mutation is bound to its approval node, which answered with true.
  cases hMutates : n.node.kind.effect.mutates with
  | false => rfl
  | true =>
    obtain ⟨a, ha⟩ := hAccepted.approvalNode hMutates
    obtain ⟨hBinding, m, hm, rfl, hHuman⟩ := hAccepted.approved a ha
    obtain ⟨value, type, hValue, hResolved, -, hExpected⟩ := (resolveNodeInputs_ok hInputs).2 _ _ hBinding
    obtain ⟨found, hFound, hYields⟩ := hAccepted.typed _ type hExpected
    rw [hBinding] at hFound
    obtain rfl := Option.some.inj hFound
    obtain ⟨m', hm', hSame, hPort⟩ := hYields
    obtain rfl := hIr.unique hm' hm hSame
    have hDepends : m'.node.nodeId ∈ n.dependencies :=
      (hAccepted.depends _).mpr (.inl ⟨"approval", "out", hBinding⟩)
    obtain ⟨output, hOutput, -, hTrue⟩ := hNodes m' hm' hDepends "out" type hPort
    rw [hTrue hHuman rfl] at hOutput
    dsimp only at hOutput
    have hSame : values.lookup (m'.node.nodeId, "out") = some value := okOr_eq_ok.mp hResolved
    rw [hOutput] at hSame
    obtain rfl := Option.some.inj hSame
    simp [hValue, WorkflowValue.isBoolean]

end

theorem checkedU64_eq {n} (h : n ≤ u64Max) : checkedU64 n = some n := if_pos h

theorem reserve_progress {tracker : BudgetTracker} {node}
    (h : ∀ meter, tracker.amount meter + node.worst meter ≤ min (tracker.budgets.limit meter) u64Max) :
    ∃ next, tracker.reserve node = .ok next ∧ next.budgets = tracker.budgets ∧
      ∀ meter, next.amount meter = tracker.amount meter + node.worst meter := by
  have hLimit := fun meter => (le_min_iff.mp (h meter)).1
  have hTotal := fun meter => (le_min_iff.mp (h meter)).2
  have hWorst := fun meter => (Nat.le_add_left _ _).trans (hTotal meter)
  refine ⟨⟨tracker.budgets, tracker.amount .executions + node.worst .executions,
    tracker.amount .modelCalls + node.worst .modelCalls, tracker.amount .inputTokens + node.worst .inputTokens,
    tracker.amount .outputTokens + node.worst .outputTokens, tracker.amount .cost + node.worst .cost⟩,
    ?_, rfl, fun meter => by cases meter <;> rfl⟩
  simp only [BudgetTracker.reserve, estimated, reserved, bind_eq_ok, okOr_eq_ok, refuseIf_eq_ok]
  refine ⟨_, checkedU64_eq (hWorst .modelCalls), _, checkedU64_eq (hWorst .inputTokens),
    _, checkedU64_eq (hWorst .outputTokens), _, checkedU64_eq (hWorst .cost),
    _, checkedU64_eq (hTotal .executions), _, checkedU64_eq (hTotal .modelCalls),
    _, checkedU64_eq (hTotal .inputTokens), _, checkedU64_eq (hTotal .outputTokens),
    _, checkedU64_eq (hTotal .cost), (), ?_, rfl⟩
  have hExecutions := hLimit .executions
  have hModelCalls := hLimit .modelCalls
  have hInputTokens := hLimit .inputTokens
  have hOutputTokens := hLimit .outputTokens
  have hCost := hLimit .cost
  simp only [WorkflowBudgets.limit] at hExecutions hModelCalls hInputTokens hOutputTokens hCost
  simp only [Bool.or_eq_false_iff, decide_eq_false_iff_not, not_lt]
  exact ⟨⟨⟨⟨hExecutions, hModelCalls⟩, hInputTokens⟩, hOutputTokens⟩, hCost⟩

/-! ## What a run has done so far -/

variable (ir req) in
/-- Every node that is not waiting is done with: its effects are recorded, and its outputs are
there if it has no guard. -/
structure Going (reused : List String) (waiting : String → Prop) (s : RunState) : Prop where
  runId : s.history.runId = req.runId
  reuses : s.reused = reused
  available : ∀ n ∈ ir.nodes, ¬ waiting n.node.nodeId → n.node.guard = none ∨ n.node.nodeId ∈ reused →
    Available s.values n
  free : ∀ nodeId, waiting nodeId → Untouched s.values nodeId
  recorded : Recorded s.calls s.history
  called : ∀ call ∈ s.calls, ¬ waiting call.nodeId

def levelWorst (ir : WorkflowIr) (meter : Meter) (levels : List Nat) : Nat :=
  (levels.map fun level => ((ir.atLevel level).map (·.node.worst meter)).sum).sum

theorem levelWorst_le {ir levels} (h : levels.Nodup) (meter : Meter) :
    levelWorst ir meter levels ≤ (ir.nodes.map (·.node.worst meter)).sum :=
  Lists.sum_by_key_le WorkflowIrNode.level (fun n => n.node.worst meter) h ir.nodes

structure Affordable (ir : WorkflowIr) (left : Meter → Nat) (s : RunState) : Prop where
  budgets : s.budget.budgets = ir.budgets
  fits : ∀ meter, s.budget.amount meter + left meter ≤ min (ir.budgets.limit meter) u64Max

variable {reused : List String} {s : RunState}

section

variable {waiting waiting' : String → Prop}

theorem Going.congr (h : Going ir req reused waiting s)
    (hSame : ∀ nodeId, waiting nodeId ↔ waiting' nodeId) : Going ir req reused waiting' s := by
  obtain rfl : waiting = waiting' := funext fun nodeId => propext (hSame nodeId)
  exact h

theorem Going.rebudget (h : Going ir req reused waiting s) (budget : BudgetTracker) :
    Going ir req reused waiting { s with budget := budget } where
  __ := h

theorem recorded_insert {calls history nodeId record now kind} (h : Recorded calls history)
    (hOther : ∀ call ∈ calls, call.nodeId ≠ nodeId) :
    Recorded calls ({ history with nodes := history.nodes.insert nodeId record }.pushEvent now kind) := by
  intro call hCall hEffected
  change ∃ found, (history.nodes.insert nodeId record).lookup call.nodeId = some found ∧ _
  rw [lookup_insert_ne (hOther call hCall)]
  exact h call hCall hEffected

theorem Going.skip (h : Going ir req reused waiting s) {n now}
    (hUnique : ∀ m ∈ ir.nodes, m.node.nodeId = n.node.nodeId → m = n) (hGuard : n.node.guard ≠ none)
    (hWaiting : waiting n.node.nodeId) (hNot : n.node.nodeId ∉ reused)
    (hLess : ∀ nodeId, waiting' nodeId → waiting nodeId)
    (hMore : ∀ nodeId, waiting nodeId → nodeId = n.node.nodeId ∨ waiting' nodeId) :
    Going ir req reused waiting' (s.skip n.node.nodeId now) := by
  refine ⟨h.runId, h.reuses, fun m hm hmWaiting hReads => ?_, fun nodeId hw => h.free nodeId (hLess nodeId hw),
    recorded_insert h.recorded ?_, fun call hCall hw => h.called call hCall (hLess _ hw)⟩
  · by_cases hSame : m.node.nodeId = n.node.nodeId
    · obtain rfl := hUnique m hm hSame
      exact absurd hReads (not_or.mpr ⟨hGuard, hNot⟩)
    · refine h.available m hm (fun hw => ?_) hReads
      rcases hMore _ hw with hIs | hStill
      · exact hSame hIs
      · exact hmWaiting hStill
  · intro call hCall hSame
    exact h.called call hCall (hSame ▸ hWaiting)

end

/-! ## A level is prepared -/

/-- The nodes of this list that are not reused, and those of later levels. -/
def WaitingIn (ir : WorkflowIr) (reused : List String) (levels : List Nat) (nodes : List WorkflowIrNode)
    (nodeId : String) : Prop :=
  (∃ n ∈ nodes, n.node.nodeId = nodeId ∧ nodeId ∉ reused) ∨ Later ir reused levels nodeId

variable (ir req) in
structure Advancing (reused : List String) (level : Nat)
    (levels : List Nat) (found : RunState × List PreparedNode) (rest : List WorkflowIrNode) : Prop where
  going : Going ir req reused (WaitingIn ir reused levels (found.2.map (·.irNode) ++ rest)) found.1
  order : (found.2.map (·.irNode) ++ rest).Sublist (ir.atLevel level)
  fits : Affordable ir (fun meter => (rest.map (·.node.worst meter)).sum + levelWorst ir meter levels) found.1
  prepared : ∀ p ∈ found.2, p.node.nodeId ∉ reused

/-- A run of a compiled workflow on the inputs it asks for, which nothing disturbs. -/
structure Calm (m : Machine) (wf : WorkflowDefinition) (ir : WorkflowIr) (req : WorkflowRunRequest)
    (origin : Origin) : Prop where
  compiled : Compiled wf ir
  quiet : Undisturbed m ir origin
  fed : Fed ir req

variable {levels : List Nat} {origin : Origin} (hCalm : Calm m wf ir req origin)

section

variable {level : Nat}

include hCalm in
theorem Advancing.available (hOrder : (level :: levels).Pairwise (· < ·)) {found n rest}
    (h : Advancing ir req reused level levels found (n :: rest)) (hn : n ∈ ir.atLevel level) {m} (hm : m ∈ ir.nodes)
    (hDepends : m.node.nodeId ∈ n.dependencies) : Available found.1.values m := by
  have hNode := mem_of_mem_filter hn
  have hLevel : n.level = level := of_decide_eq_true (mem_filter.mp hn).2
  obtain ⟨m', hm', hSame, hLower⟩ := (hCalm.compiled.accepted n hNode).lower _ hDepends
  obtain rfl := hCalm.compiled.unique hm' hm hSame
  apply h.going.available m' hm
  · rintro (⟨k, hk, hId, -⟩ | ⟨k, hk, hkLevel, hId, -⟩)
    · have hkAt := mem_filter.mp (h.order.subset hk)
      obtain rfl := hCalm.compiled.unique hkAt.1 hm hId
      have := of_decide_eq_true hkAt.2
      omega
    · obtain rfl := hCalm.compiled.unique hk hm hId
      have := rel_of_pairwise_cons hOrder hkLevel
      omega
  · exact .inl (hCalm.quiet.unguarded m' hm (.inl ⟨n, hNode, hDepends⟩))

theorem Affordable.less {left s} (h : Affordable ir left s) (left' : Meter → Nat)
    (hLess : ∀ meter, left' meter ≤ left meter) : Affordable ir left' s := by
  refine ⟨h.budgets, fun meter => ?_⟩
  have hFits := h.fits meter
  have hMeter := hLess meter
  omega

theorem prepareNode_run {s prepared n p budget} (hReused : n.node.nodeId ∉ s.reused)
    (hGuard : guardMatches s.values n.node = .ok true) (hp : prepareInputs req s.values n = .ok p)
    (hBudget : s.budget.reserve n.node = .ok budget) :
    prepareNode m req (s, prepared) n = .ok ({ s with budget := budget }, prepared ++ [p]) := by
  simp only [prepareNode, contains_iff_mem, hReused, hGuard]
  rw [hp, hBudget]
  rfl

theorem prepareNode_skip {s prepared n}
    (hReused : n.node.nodeId ∉ s.reused) (hGuard : guardMatches s.values n.node = .ok false) :
    prepareNode m req (s, prepared) n =
      .ok (s.skip n.node.nodeId (m.now (.skipping n.node.nodeId)), prepared) := by
  simp only [prepareNode, contains_iff_mem, hReused, hGuard]
  rfl

theorem prepareNode_reused {s prepared n} (hReused : n.node.nodeId ∈ s.reused) :
    prepareNode m req (s, prepared) n = .ok (s, prepared) := by
  simp only [prepareNode, contains_iff_mem, hReused, if_true]

theorem guard_of_skipped {values node} (h : guardMatches values node = .ok false) : node.guard ≠ none := by
  intro hNone
  simp [guardMatches, hNone] at h

include hCalm in
theorem Advancing.step (hOrder : (level :: levels).Pairwise (· < ·)) {found n rest}
    (h : Advancing ir req reused level levels found (n :: rest)) :
    ∃ found', prepareNode m req found n = .ok found' ∧ Advancing ir req reused level levels found' rest := by
  obtain ⟨s, prepared⟩ := found
  have hn : n ∈ ir.atLevel level := h.order.subset (mem_append_right _ mem_cons_self)
  have hNode : n ∈ ir.nodes := mem_of_mem_filter hn
  have hNodes : ∀ m ∈ ir.nodes, m.node.nodeId ∈ n.dependencies → Available s.values m :=
    fun m hm hDepends => h.available hCalm hOrder hn hm hDepends
  have hShorter : (prepared.map (·.irNode) ++ rest).Sublist (ir.atLevel level) :=
    ((sublist_cons_self n rest).append_left _).trans h.order
  have hFits : ∀ meter, s.budget.amount meter + n.node.worst meter +
      ((rest.map (·.node.worst meter)).sum + levelWorst ir meter levels) ≤
        min (ir.budgets.limit meter) u64Max := by
    intro meter
    have hLeft := h.fits.fits meter
    simp only [map_cons, sum_cons] at hLeft
    omega
  have hRest := h.fits.less (fun meter => (rest.map (·.node.worst meter)).sum + levelWorst ir meter levels)
    (fun meter => by simp only [map_cons, sum_cons]; omega)
  have hReuses : s.reused = reused := h.going.reuses
  by_cases hReused : n.node.nodeId ∈ reused
  · refine ⟨_, prepareNode_reused (hReuses ▸ hReused), h.going.congr fun nodeId => ?_, hShorter, hRest,
      h.prepared⟩
    simp only [WaitingIn, mem_append, mem_cons]
    grind
  obtain ⟨runs, hRuns⟩ := guardMatches_progress (hCalm.compiled.accepted n hNode) hNodes
  cases runs with
  | true =>
    obtain ⟨p, hp, hpNode⟩ := prepareInputs_progress hCalm.compiled hCalm.fed hNode hNodes
    have hRoom : ∀ meter, s.budget.amount meter + n.node.worst meter ≤
        min (s.budget.budgets.limit meter) u64Max := by
      intro meter
      have hLeft := hFits meter
      rw [h.fits.budgets]
      omega
    obtain ⟨budget, hBudget, hSame, hAmount⟩ := reserve_progress hRoom
    refine ⟨_, prepareNode_run (hReuses ▸ hReused) hRuns hp hBudget, ?_, ?_,
      ⟨hSame.trans h.fits.budgets, fun meter => ?_⟩, ?_⟩
    · apply (h.going.rebudget budget).congr
      intro nodeId
      simp [hpNode]
    · simpa [hpNode] using h.order
    · rw [hAmount]
      exact hFits meter
    · intro p' hp'
      rcases mem_append.mp hp' with hOld | hNew
      · exact h.prepared p' hOld
      · obtain rfl := mem_singleton.mp hNew
        rwa [PreparedNode.node, hpNode]
  | false =>
    refine ⟨_, prepareNode_skip (hReuses ▸ hReused) hRuns, ?_, hShorter, ⟨hRest.budgets, hRest.fits⟩, h.prepared⟩
    apply h.going.skip (fun m hm hSame => hCalm.compiled.unique hm hNode hSame) (guard_of_skipped hRuns)
    · exact .inl ⟨n, mem_append_right _ mem_cons_self, rfl, hReused⟩
    · exact hReused
    · rintro nodeId (⟨m, hm, hId⟩ | hLater)
      · exact .inl ⟨m, ((sublist_cons_self n rest).append_left _).subset hm, hId⟩
      · exact .inr hLater
    · rintro nodeId (⟨m, hm, hId, hNot⟩ | hLater)
      · rcases mem_append.mp hm with hOld | hCons
        · exact .inr (.inl ⟨m, mem_append_left _ hOld, hId, hNot⟩)
        · rcases mem_cons.mp hCons with rfl | hTail
          · exact .inl hId.symm
          · exact .inr (.inl ⟨m, mem_append_right _ hTail, hId, hNot⟩)
      · exact .inr (.inr hLater)

variable (ir req) in
/-- The levels that are still to be run, from a state that is done with the others. -/
structure Reaching (reused : List String) (levels : List Nat) (s : RunState) : Prop where
  going : Going ir req reused (Later ir reused levels) s
  fits : Affordable ir (fun meter => levelWorst ir meter levels) s
  ordered : levels.Pairwise (· < ·)

variable (ir req) in
/-- The batches of a level that are still to be run. -/
structure Batching (reused : List String)
    (levels : List Nat) (batches : List (List PreparedNode)) (s : RunState) : Prop where
  going : Going ir req reused
    (fun nodeId => (∃ p ∈ batches.flatten, p.node.nodeId = nodeId) ∨ Later ir reused levels nodeId) s
  fits : Affordable ir (fun meter => levelWorst ir meter levels) s
  ordered : levels.Pairwise (· < ·)
  nodes : ∀ p ∈ batches.flatten, p.irNode ∈ ir.nodes ∧ p.irNode.level ∉ levels
  nodup : (batches.flatten.map (·.node.nodeId)).Nodup

theorem foldlM_progress {α β ε : Type} {I : β → List α → Prop} {f : β → α → Except ε β}
    (hStep : ∀ b x xs, I b (x :: xs) → ∃ b', f b x = .ok b' ∧ I b' xs) (xs : List α) (b : β) (hI : I b xs) :
    ∃ b', xs.foldlM f b = .ok b' ∧ I b' [] := by
  induction xs generalizing b with
  | nil => exact ⟨b, rfl, hI⟩
  | cons x xs ih =>
    obtain ⟨b₁, hFirst, hRest⟩ := hStep b x xs hI
    obtain ⟨b', hLast, hEnd⟩ := ih b₁ hRest
    refine ⟨b', ?_, hEnd⟩
    rw [foldlM_cons, hFirst]
    exact hLast

theorem later_cons (nodeId : String) :
    Later ir reused (level :: levels) nodeId ↔ WaitingIn ir reused levels (ir.atLevel level) nodeId := by
  constructor
  · rintro ⟨m, hm, hLevel, hId, hNot⟩
    rcases mem_cons.mp hLevel with hHere | hThere
    · exact .inl ⟨m, mem_filter.mpr ⟨hm, by simp [hHere]⟩, hId, hNot⟩
    · exact .inr ⟨m, hm, hThere, hId, hNot⟩
  · rintro (⟨m, hm, hId, hNot⟩ | ⟨m, hm, hLevel, hId, hNot⟩)
    · have hAt := mem_filter.mp hm
      exact ⟨m, hAt.1, by simp [of_decide_eq_true hAt.2], hId, hNot⟩
    · exact ⟨m, hm, mem_cons_of_mem level hLevel, hId, hNot⟩

include hCalm in
theorem Reaching.prepared {s : RunState} (h : Reaching ir req reused (level :: levels) s) :
    ∃ s' prepared, prepareLevel m ir req s level = .ok (s', prepared) ∧ Batching ir req reused levels
        (Lists.chunks ir.maximumConcurrency prepared.length prepared) s' := by
  have hStart : Advancing ir req reused level levels (s, []) (ir.atLevel level) := by
    refine ⟨h.going.congr later_cons, List.Sublist.refl _, h.fits.less _ fun meter => ?_,
      fun _ hp => absurd hp not_mem_nil⟩
    simp [levelWorst]
  obtain ⟨⟨s', prepared⟩, hOk, hEnd⟩ := foldlM_progress (I := Advancing ir req reused level levels)
    (fun found n rest hFound => hFound.step hCalm h.ordered) _ _ hStart
  refine ⟨s', prepared, hOk, ?_⟩
  obtain ⟨hGoing, hOrder, hFits, hPrepared⟩ := hEnd
  rw [append_nil] at hGoing hOrder
  have hLevels : ∀ p ∈ prepared, p.irNode ∈ ir.nodes ∧ p.irNode.level ∉ levels := by
    intro p hp
    have hAt := mem_filter.mp (hOrder.subset (mem_map_of_mem hp))
    refine ⟨hAt.1, fun hLater => ?_⟩
    have hLess := rel_of_pairwise_cons h.ordered hLater
    have hLevel := of_decide_eq_true hAt.2
    omega
  have hIds : (prepared.map (·.node.nodeId)).Sublist (ir.nodes.map (·.node.nodeId)) := by
    have hMap := (hOrder.trans List.filter_sublist).map (·.node.nodeId)
    rwa [List.map_map] at hMap
  constructor
  · rw [Lists.flatten_chunks hCalm.compiled.concurrency (Nat.le_refl _)]
    apply hGoing.congr
    intro nodeId
    constructor
    · rintro (⟨n, hn, hId, -⟩ | hLater)
      · obtain ⟨p, hp, rfl⟩ := mem_map.mp hn
        exact .inl ⟨p, hp, hId⟩
      · exact .inr hLater
    · rintro (⟨p, hp, rfl⟩ | hLater)
      · exact .inl ⟨p.irNode, mem_map_of_mem hp, rfl, hPrepared p hp⟩
      · exact .inr hLater
  · exact hFits.less _ fun meter => by simp
  · exact h.ordered.of_cons
  · rw [Lists.flatten_chunks hCalm.compiled.concurrency (Nat.le_refl _)]
    exact hLevels
  · rw [Lists.flatten_chunks hCalm.compiled.concurrency (Nat.le_refl _)]
    exact hIds.nodup hCalm.compiled.nodup

end

/-! ## Batches -/

theorem collect_progress (results : List (Fallible NodeCompletion))
    (h : ∀ result ∈ results, ∃ c, result = .ok c) : ∃ completed, collect results = .ok completed := by
  induction results with
  | nil => exact ⟨[], rfl⟩
  | cons result rest ih =>
    rw [forall_mem_cons] at h
    obtain ⟨⟨c, rfl⟩, hRest⟩ := h
    obtain ⟨completed, hCompleted⟩ := ih hRest
    refine ⟨c :: completed, ?_⟩
    simp only [collect, hCompleted]
    rfl

theorem terminalFailure_some (status : WorkflowRunStatus) (c : NodeCompletion) :
    terminalFailure (some status) c ≠ none := by
  unfold terminalFailure
  split <;> simp

theorem terminalFailure_none {completed : List NodeCompletion} (h : completed.foldl terminalFailure none = none) :
    ∀ c ∈ completed, terminalFailure none c = none := by
  have hSome : ∀ (rest : List NodeCompletion) status, rest.foldl terminalFailure (some status) ≠ none := by
    intro rest
    induction rest with
    | nil => exact nofun
    | cons c rest ih =>
      intro status
      obtain ⟨next, hNext⟩ := ne_none_iff_exists'.mp (terminalFailure_some status c)
      rw [foldl_cons, hNext]
      exact ih next
  induction completed with
  | nil => exact nofun
  | cons c rest ih =>
    rw [foldl_cons] at h
    cases hFirst : terminalFailure none c with
    | some status => exact absurd (hFirst ▸ h) (hSome rest status)
    | none =>
      rw [hFirst] at h
      exact forall_mem_cons.mpr ⟨hFirst, ih h⟩

section

variable (req) in
include hCalm in
theorem batch_concludes {batch} (hNodes : ∀ p ∈ batch, p.irNode ∈ ir.nodes) :
    ∃ completed, batchResult m ir req batch = .ok completed ∧
      ∀ p ∈ batch, ∃ c ∈ completed, c.nodeId = p.node.nodeId ∧
        Concludes p (runNode m ir req p).1 c := by
  have hRuns : ∀ p ∈ batch, ∃ c, (runNode m ir req p).2 = .ok c ∧ Concludes p (runNode m ir req p).1 c := by
    intro p hp
    have hStatic := (hCalm.compiled.accepted _ (hNodes p hp)).static
    simp only [validateNodeStatic, bind_eq_ok, refuseIf_eq_ok, Bool.or_eq_false_iff,
      decide_eq_false_iff_not] at hStatic
    obtain ⟨_, -, _, ⟨⟨⟨⟨hPositive, -⟩, -⟩, -⟩, -⟩, -⟩ := hStatic
    have hSome : 0 < p.node.retry.maximumAttempts := Nat.pos_of_ne_zero hPositive
    exact attempts_concludes (hCalm.quiet.answered _ (hNodes p hp)) hSome (by omega)
  obtain ⟨found, hFound⟩ := collect_progress
    ((byArrival m batch).map fun p => (runNode m ir req p).2) fun result hResult => by
      obtain ⟨p, hp, rfl⟩ := mem_map.mp hResult
      obtain ⟨c, hOk, -⟩ := hRuns p ((mem_insertionSort _).mp hp)
      exact ⟨c, hOk⟩
  refine ⟨found.insertionSort fun a b => textBytes a.nodeId ≤ textBytes b.nodeId, ?_, fun p hp => ?_⟩
  · simp only [batchResult, hFound]
    rfl
  · obtain ⟨c, hOk, hConcludes⟩ := hRuns p hp
    have hMem : (Except.ok c : Fallible NodeCompletion) ∈ found.map .ok := by
      rw [← collect_ok hFound, ← hOk]
      exact mem_map_of_mem ((mem_insertionSort _).mpr hp)
    obtain ⟨c', hc', hSame⟩ := mem_map.mp hMem
    cases hSame
    exact ⟨c, (mem_insertionSort _).mpr hc', (attempts_ok hOk).nodeId, hConcludes⟩

def Kept (req : WorkflowRunRequest) (s : RunState) : Prop :=
  s.history.runId = req.runId ∧ Recorded s.calls s.history

theorem Going.kept {waiting : String → Prop} {s} (h : Going ir req reused waiting s) :
    Kept req s := ⟨h.runId, h.recorded⟩

theorem Kept.finish {s status now} (h : Kept req s) :
    Kept req { s with history := finishHistory s.history status now } := h

theorem mem_batchCalls {s batch call} (h : call ∈ batchCalls m ir req s batch) :
    ∃ p ∈ batch, call.exchange ∈ (runNode m ir req p).1 ∧ call.nodeId = p.node.nodeId := by
  simp only [batchCalls, List.mem_flatMap, List.mem_map] at h
  obtain ⟨p, hp, exchange, hExchange, rfl⟩ := h
  obtain ⟨k, hRequest⟩ := attempts_exchange hExchange
  refine ⟨p, hp, hExchange, ?_⟩
  rw [Call.nodeId, hRequest]
  rfl

include hCalm in
theorem Batching.complete {batch batches s} (h : Batching ir req reused levels (batch :: batches) s) :
    ∃ completed, batchResult m ir req batch = .ok completed ∧
      let after := completed.foldl RunState.complete
        { s with calls := s.calls ++ batchCalls m ir req s batch }
      Kept req after ∧
        (completed.foldl terminalFailure none = none → Batching ir req reused levels batches after) := by
  have hMem : ∀ p ∈ batch, p ∈ (batch :: batches).flatten := fun p hp => mem_append_left _ hp
  obtain ⟨completed, hResult, hConcludes⟩ := batch_concludes req hCalm
    fun p hp => (h.nodes p (hMem p hp)).1
  obtain ⟨hPerm, -⟩ := batchResult_ok hResult
  have hNodup := h.nodup
  rw [flatten_cons, map_append, nodup_append] at hNodup
  obtain ⟨hBatch, hRest, hApart⟩ := hNodup
  have hIds : ∀ nodeId, nodeId ∈ completed.map (·.nodeId) ↔ ∃ p ∈ batch, p.node.nodeId = nodeId :=
    fun nodeId => hPerm.mem_iff.trans mem_map
  have hDone := completed_foldl
    (s := { s with calls := s.calls ++ batchCalls m ir req s batch }) (hPerm.nodup_iff.mpr hBatch)
    fun c hc => by
      obtain ⟨p, hp, hId⟩ := (hIds _).mp (mem_map_of_mem hc)
      exact hId ▸ h.going.free _ (.inl ⟨p, hMem p hp, rfl⟩)
  -- Old calls are for nodes outside the batch, new ones are answered for by a completion.
  have hKept : Kept req (completed.foldl RunState.complete
      { s with calls := s.calls ++ batchCalls m ir req s batch }) := by
    refine ⟨hDone.runId.trans h.going.runId, fun call hCall hEffected => ?_⟩
    rw [hDone.calls] at hCall
    rcases mem_append.mp hCall with hOld | hNew
    · rw [hDone.otherRecords]
      · exact h.going.recorded call hOld hEffected
      · rw [hIds]
        rintro ⟨p, hp, hId⟩
        exact h.going.called call hOld (.inl ⟨p, hMem p hp, hId⟩)
    · obtain ⟨p, hp, hExchange, hId⟩ := mem_batchCalls hNew
      obtain ⟨c, hc, hcId, hSays⟩ := hConcludes p hp
      refine ⟨c.record, ?_, hSays.effects _ hExchange hEffected⟩
      rw [hId, ← hcId]
      exact hDone.records c hc
  refine ⟨completed, hResult, hKept, fun hNone => ?_⟩
  have hStill : ∀ p ∈ batches.flatten, p.node.nodeId ∉ completed.map (·.nodeId) := by
    intro p hp hId
    obtain ⟨p', hp', hSame⟩ := (hIds _).mp hId
    exact hApart _ (mem_map_of_mem hp') _ (mem_map_of_mem hp) hSame
  have hLater : ∀ nodeId, Later ir reused levels nodeId → nodeId ∉ completed.map (·.nodeId) := by
    rintro nodeId ⟨m, hm, hLevel, hId, -⟩ hIn
    obtain ⟨p, hp, hSame⟩ := (hIds _).mp hIn
    obtain ⟨hNode, hNot⟩ := h.nodes p (hMem p hp)
    obtain rfl := hCalm.compiled.unique hm hNode (hId.trans hSame.symm)
    exact hNot hLevel
  refine ⟨⟨hKept.1, hDone.reuses.trans h.going.reuses, fun n hn hWaiting hReads => ?_, ?_, hKept.2, ?_⟩,
    ⟨by rw [hDone.budget]; exact h.fits.budgets, by rw [hDone.budget]; exact h.fits.fits⟩,
    h.ordered, fun p hp => h.nodes p (mem_append_right _ hp), hRest⟩
  · by_cases hIn : n.node.nodeId ∈ completed.map (·.nodeId)
    · obtain ⟨p, hp, hId⟩ := (hIds _).mp hIn
      obtain rfl := hCalm.compiled.unique (h.nodes p (hMem p hp)).1 hn hId
      obtain ⟨c, hc, hcId, hSays⟩ := hConcludes p hp
      refine (hSays.outputs (terminalFailure_none hNone c hc)).congr fun port => ?_
      rw [show p.irNode.node.nodeId = c.nodeId from hcId.symm, hDone.values c hc port]
    · refine (h.going.available n hn ?_ hReads).congr fun port => hDone.otherValues _ port hIn
      rintro (⟨p, hp, hId⟩ | hLate)
      · rcases mem_append.mp hp with hHere | hThere
        · exact hIn ((hIds _).mpr ⟨p, hHere, hId⟩)
        · exact hWaiting (.inl ⟨p, hThere, hId⟩)
      · exact hWaiting (.inr hLate)
  · rintro nodeId hWaiting port
    have hNot : nodeId ∉ completed.map (·.nodeId) := by
      rcases hWaiting with ⟨p, hp, rfl⟩ | hLate
      · exact hStill p hp
      · exact hLater nodeId hLate
    rw [hDone.otherValues nodeId port hNot]
    apply h.going.free nodeId _ port
    rcases hWaiting with ⟨p, hp, rfl⟩ | hLate
    · exact .inl ⟨p, mem_append_right _ hp, rfl⟩
    · exact .inr hLate
  · rintro call hCall
    rw [hDone.calls] at hCall
    rcases mem_append.mp hCall with hOld | hNew
    · rintro (⟨p, hp, hId⟩ | hLate)
      · exact h.going.called call hOld (.inl ⟨p, mem_append_right _ hp, hId⟩)
      · exact h.going.called call hOld (.inr hLate)
    · obtain ⟨p, hp, -, hId⟩ := mem_batchCalls hNew
      have hIn : call.nodeId ∈ completed.map (·.nodeId) := (hIds _).mpr ⟨p, hp, hId.symm⟩
      rintro (⟨p', hp', hId'⟩ | hLate)
      · exact hStill p' hp' (hId' ▸ hIn)
      · exact hLater _ hLate hIn

def Ends (req : WorkflowRunRequest) (stop : Stop Exit) (s : RunState) : Prop :=
  stop = .failed .finished ∧ Kept req s

include hCalm

theorem runBatch_batching (batch : List PreparedNode) (batches : List (List PreparedNode)) :
    Triple (Batching ir req reused levels (batch :: batches)) (runBatch m ir req batch)
      (fun _ => Batching ir req reused levels batches) (Ends req) := by
  apply Triple.of_forall
  intro s h
  obtain ⟨completed, hResult, hKept, hNext⟩ := h.complete hCalm
  unfold runBatch
  rw [hResult]
  refine .write_bind (.pure_bind (.write_bind ?_))
  cases hStatus : completed.foldl terminalFailure none with
  | none => exact .pureAt (hNext hStatus)
  | some status => exact Triple.finishWith fun _ hs => ⟨rfl, hs ▸ hKept.finish⟩

theorem prepare_batching {level} : Triple (Reaching ir req reused (level :: levels)) (prepare m ir req level)
      (fun prepared => Batching ir req reused levels
        (Lists.chunks ir.maximumConcurrency prepared.length prepared)) (Ends req) := by
  apply Triple.of_forall
  intro s h
  obtain ⟨s', prepared, hOk, hBatching⟩ := h.prepared hCalm
  unfold prepare
  apply Triple.read_bind
  rw [id, hOk]
  exact .pure_bind (.write_bind (.pureAt hBatching))

theorem runLevel_reaching (level : Nat) (levels : List Nat) :
    Triple (Reaching ir req reused (level :: levels)) (runLevel m ir req level)
      (fun _ => Reaching ir req reused levels) (Ends req) := by
  unfold runLevel
  apply (levelBoundary_keeps (fun s h => ⟨rfl, h.going.kept.finish⟩) level).bind
  intro _
  rw [checkWallTime, hCalm.quiet.wallTime level]
  apply Triple.pure_bind
  apply (prepare_batching hCalm).bind
  intro prepared
  apply (Triple.forM_rest (I := Batching ir req reused levels) (runBatch_batching hCalm) _).weaken
    (fun _ h => h)
  · intro _ s h
    refine ⟨h.going.congr fun nodeId => ?_, h.fits, h.ordered⟩
    simp
  · exact fun _ _ h => h

theorem Reaching.available {s} (h : Reaching ir req reused [] s) {m} (hm : m ∈ ir.nodes)
    (hReads : ir.Reads m.node.nodeId) : Available s.values m := by
  apply h.going.available m hm
  · rintro ⟨_, -, hLevel, -⟩
    cases hLevel
  · exact .inl (hCalm.quiet.unguarded m hm hReads)

theorem writeOutput_reaching {entry} (hEntry : entry ∈ ascending ir.outputs) :
    Triple (Reaching ir req reused []) (writeOutput req entry)
      (fun _ => Reaching ir req reused []) (Ends req) := by
  apply Triple.of_forall
  intro s h
  have hOutput : ir.outputs.lookup entry.1 = some entry.2 := mem_ascending.mp hEntry
  obtain ⟨value, hValue, hType⟩ := resolve_of_yields hCalm.fed (hCalm.compiled.outputsTyped _ _ hOutput)
    fun m hm hDependency => h.available hCalm hm (.inr ⟨_, _, hOutput, hDependency⟩)
  have hOk : resolveOutput req s.values entry.2 entry.1 = .ok value := by
    simp only [resolveOutput, bind_eq_ok]
    exact ⟨value, hValue, _, hType, (), by simp, rfl⟩
  unfold writeOutput
  apply Triple.read_bind
  rw [id, hOk]
  refine .pure_bind (.write ?_)
  rintro _ rfl
  exact ⟨{ h.going with }, { h.fits with }, h.ordered⟩

variable (m) in
theorem runLevels_kept :
    Triple (Reaching ir req reused (List.range (ir.maxLevel + 1))) (runLevels m ir req)
      (fun _ => Kept req) (Ends req) := by
  unfold runLevels
  apply (Triple.forM_rest (I := Reaching ir req reused) (runLevel_reaching hCalm) _).bind
  intro _
  apply (Triple.forM fun entry hEntry => writeOutput_reaching hCalm hEntry).bind
  exact fun _ => Triple.write fun _ h => h.going.kept.finish

end

/-! ## Launches -/

section

variable (ir req) in
structure Reused (source : WorkflowRunHistory) (ids : List String) (s : RunState) : Prop where
  reusing : Reusing source s
  runId : s.history.runId = req.runId
  budget : s.budget = .new ir.budgets
  within : ∀ nodeId ∈ s.reused, nodeId ∈ ids

theorem Reused.step {source ids nodeId s'} (h : Reused ir req source ids s) (hId : nodeId ∈ ids)
    (hStep : reuseNode m source s nodeId = .ok s') : Reused ir req source ids s' := by
  refine ⟨h.reusing.step hStep, ?_, ?_, ?_⟩
  all_goals
    simp only [reuseNode, bind_eq_ok, pure_eq_ok] at hStep
    obtain ⟨record, -, _, -, rfl⟩ := hStep
  · exact h.runId
  · exact h.budget
  · intro found hFound
    rcases mem_append.mp hFound with hOld | hNew
    · exact h.within found hOld
    · exact mem_singleton.mp hNew ▸ hId

theorem reused_of_reuse {source plan} (h : reuse m (initialState m ir req) (.replay source plan) = .ok s) :
    Reused ir req source plan.reusedNodeIds s := by
  have hLoop := foldlM_ok (I := fun s rest => (∀ nodeId ∈ rest, nodeId ∈ plan.reusedNodeIds) ∧
    Reused ir req source plan.reusedNodeIds s) ?_ h
    ⟨fun _ hMem => hMem, reusing_initial source, rfl, rfl, nofun⟩
  · exact hLoop.2
  · rintro s nodeId rest s' ⟨hIds, hBefore⟩ hStep
    rw [forall_mem_cons] at hIds
    exact ⟨hIds.2, hBefore.step hIds.1 hStep⟩

theorem mem_levels {n} (hn : n ∈ ir.nodes) : n.level ∈ List.range (ir.maxLevel + 1) := by
  have hLe : n.level ≤ ir.maxLevel := Lists.le_foldl_max (.inl (mem_map_of_mem hn))
  exact mem_range.mpr (by omega)

section

variable (hQuiet : Undisturbed m ir origin)

include hQuiet

theorem affordable_initial (hBudget : s.budget = .new ir.budgets) :
    Affordable ir (fun meter => levelWorst ir meter (List.range (ir.maxLevel + 1))) s := by
  refine ⟨by rw [hBudget]; rfl, fun meter => ?_⟩
  have hTotal := hQuiet.budgets meter
  have hLevels : levelWorst ir meter (List.range (ir.maxLevel + 1)) ≤ _ :=
    levelWorst_le nodup_range meter
  have hZero : s.budget.amount meter = 0 := by
    rw [hBudget]
    cases meter <;> rfl
  omega

theorem Reused.reaching {source ids} (h : Reused ir req source ids s)
    (hSupplies : ∀ n ∈ ir.nodes, n.node.nodeId ∈ ids → ∀ record,
      source.nodes.lookup n.node.nodeId = some record → Supplies n record.outputs.lookup) :
    Reaching ir req s.reused (List.range (ir.maxLevel + 1)) s := by
  refine ⟨⟨h.runId, rfl, fun n hn hWaiting _ => ?_, fun nodeId hLater => ?_, ?_, ?_⟩,
    affordable_initial hQuiet h.budget, pairwise_lt_range⟩
  · have hReused : n.node.nodeId ∈ s.reused := by
      by_contra hNot
      exact hWaiting ⟨n, hn, mem_levels hn, rfl, hNot⟩
    obtain ⟨record, hRecord, -⟩ := h.reusing.records _ hReused
    intro port type hPort
    obtain ⟨value, hValue, hRest⟩ := hSupplies n hn (h.within _ hReused) record hRecord port type hPort
    exact ⟨value, h.reusing.outputs _ hReused record hRecord port value hValue, hRest⟩
  · obtain ⟨m, -, -, rfl, hNot⟩ := hLater
    intro port
    cases hValue : s.values.lookup (m.node.nodeId, port) with
    | none => rfl
    | some value => exact absurd (h.reusing.values _ port value hValue).1 hNot
  · intro call hCall
    rw [h.reusing.calls] at hCall
    cases hCall
  · intro call hCall
    rw [h.reusing.calls] at hCall
    cases hCall

theorem begin_reaching (h : begin m ir req origin = .ok s) :
    Fed ir req ∧ Reaching ir req s.reused (List.range (ir.maxLevel + 1)) s := by
  simp only [begin, bind_eq_ok] at h
  obtain ⟨_, -, _, hRequest, _, -, hReuse⟩ := h
  refine ⟨validateRunRequest_ok hRequest, ?_⟩
  cases origin with
  | fresh =>
    cases hReuse
    have hInitial : Reused ir req (initialHistory m ir req) [] (initialState m ir req) :=
      ⟨reusing_initial _, rfl, rfl, fun _ hMem => hMem⟩
    exact hInitial.reaching hQuiet fun _ _ hMem => absurd hMem not_mem_nil
  | replay source plan =>
    exact (reused_of_reuse hReuse).reaching hQuiet fun n hn hMem => hQuiet.reused source plan rfl n hn hMem

end

variable (req) in
theorem execute_kept (hIr : Compiled wf ir) (hQuiet : Undisturbed m ir origin) :
    (execute m ir req origin).calls = [] ∨ ∃ history, (execute m ir req origin).result = .ok history ∧
        history.runId = req.runId ∧ Recorded (execute m ir req origin).calls history := by
  unfold execute
  cases hBegin : begin m ir req origin with
  | error e => exact .inl rfl
  | ok s =>
    obtain ⟨hFed, hReaching⟩ := begin_reaching hQuiet hBegin
    have hRun := runLevels_kept m ⟨hIr, hQuiet, hFed⟩ s hReaching
    right
    dsimp only
    cases hEnd : runLevels m ir req s with
    | ok u s' =>
      rw [hEnd] at hRun
      exact ⟨s'.history, rfl, hRun⟩
    | error stop s' =>
      rw [hEnd] at hRun
      obtain ⟨rfl, hKept⟩ := hRun
      exact ⟨s'.history, rfl, hKept⟩

/-- A launch that nothing disturbs loses no effect. -/
theorem no_effect_lost {service : WorkflowService} {workflowId : String} {launch : Launch}
    (hQuiet : ∀ ir origin, readLaunch service m workflowId req launch = .ok (ir, origin) →
      Undisturbed m ir origin) :
    NoEffectLost req (launchWorkflow service m workflowId req launch) := by
  unfold launchWorkflow
  cases hRead : readLaunch service m workflowId req launch with
  | error e =>
    intro call hCall
    cases hCall
  | ok found =>
    obtain ⟨ir, origin⟩ := found
    have hCompile : ∃ wf, Compiled wf ir := by
      simp only [readLaunch, bind_eq_ok] at hRead
      obtain ⟨wf, -, _, hValidate, _, -, _, -, hPair⟩ := hRead
      cases hPair
      unfold WorkflowService.validate at hValidate
      cases hOk : compileWorkflow m.codec wf service.daemonCapabilities service.capabilities with
      | ok ir' =>
        rw [hOk] at hValidate
        cases hValidate
        exact ⟨wf, compileWorkflow_ok hOk⟩
      | error e =>
        rw [hOk] at hValidate
        cases hValidate
    obtain ⟨wf, hIr⟩ := hCompile
    dsimp only
    unfold storeRun
    rcases execute_kept req hIr (hQuiet ir origin hRead) with hNone | ⟨history, hOk, hId, hKept⟩
    · cases hResult : (execute m ir req origin).result
      all_goals
        intro call hCall
        rw [hNone] at hCall
        cases hCall
    · rw [hOk]
      intro call hCall hEffected
      obtain ⟨record, hRecord, hStatus⟩ := hKept call hCall hEffected
      refine ⟨history, ?_, record, hRecord, hStatus⟩
      dsimp only [WorkflowService.appendHistory]
      rw [hId]
      exact lookup_insert _

end

namespace Release

def service : WorkflowService where
  definitions := AList.insert "release" definition ∅
  histories := ∅
  cancellations := []
  daemonCapabilities := []
  capabilities := capabilities

def declining (request : NodeExecutionRequest) : Except String NodeAdapterResult :=
  if request.node.kind.isHumanApproval then .ok (.succeeded (AList.insert "out" (.boolean false) ∅) .zero)
  else .ok (.succeeded (AList.insert "out" (.json "null") ∅) .zero)

/-- A declined approval fails the run, and the run takes with it what was done. -/
theorem declined_run_lost :
    ¬ NoEffectLost request (launchWorkflow service { machine with execute := declining } "release" request .run) := by
  intro h
  have hCall : (launchWorkflow service { machine with execute := declining } "release" request .run).calls.any
      (·.exchange.effected) = true := by decide +kernel
  have hLost : ((launchWorkflow service { machine with execute := declining } "release" request
      .run).service.histories.lookup request.runId).isSome = false := by decide +kernel
  obtain ⟨call, hMem, hEffected⟩ := any_eq_true.mp hCall
  obtain ⟨history, hStored, -⟩ := h call hMem hEffected
  rw [hStored] at hLost
  cases hLost

def answer (n : WorkflowIrNode) : Table String WorkflowValue :=
  AList.insert "out" (if n.node.kind.isHumanApproval then .boolean true else .json "null") ∅

theorem obliging_eq {r n} (h : r.node = n.node) : obliging r = .ok (.succeeded (answer n) .zero) := by
  unfold obliging answer
  rw [h]
  split <;> rfl

def quiet (found : WorkflowIr × Origin) : Bool :=
  found.1.nodes.all (fun n => (validateNodeOutputs codec n (answer n)).isOk && n.node.guard.isNone) &&
    [Meter.executions, .modelCalls, .inputTokens, .outputTokens, .cost].all (fun meter =>
      (found.1.nodes.map fun n => n.node.worst meter).sum ≤ min (found.1.budgets.limit meter) u64Max) &&
    match found.2 with
    | .fresh => true
    | .replay _ _ => false

theorem undisturbed_of_quiet {ir origin} (h : quiet (ir, origin) = true) : Undisturbed machine ir origin := by
  simp only [quiet, Bool.and_eq_true, List.all_eq_true, decide_eq_true_eq] at h
  obtain ⟨⟨hNodes, hBudgets⟩, hFresh⟩ := h
  constructor
  · intro n hn
    refine ⟨fun r hr => ⟨_, obliging_eq hr, ?_, validateNodeUsage_zero _, fun hHuman => ?_⟩, fun _ attempt => ?_,
      fun _ => rfl, fun _ _ => rfl⟩
    · change validateNodeOutputs codec n (answer n) = .ok ()
      have hOk := (hNodes n hn).1
      cases hOutputs : validateNodeOutputs codec n (answer n) with
      | ok u => rfl
      | error e =>
        rw [hOutputs] at hOk
        cases hOk
    · rw [answer, hHuman]
      rfl
    · change 1000 ≤ min (1000 + n.node.timeoutMs) u64Max
      unfold u64Max
      omega
  · intro n hn _
    exact Option.isNone_iff_eq_none.mp (hNodes n hn).2
  · intro meter
    exact hBudgets meter (by cases meter <;> simp)
  · intro level
    change decide (ir.budgets.maximumWallTimeMs < 1000 - 1000) = false
    simp
  · rintro source plan rfl
    cases hFresh

/-- The release that is approved is stored with everything it did. -/
theorem published_run_kept :
    (launchWorkflow service machine "release" request .run).calls.any (·.exchange.effected) = true ∧
      NoEffectLost request (launchWorkflow service machine "release" request .run) := by
  refine ⟨by decide +kernel, no_effect_lost fun ir origin hRead => ?_⟩
  have hQuiet : (readLaunch service machine "release" request .run).toOption.any quiet = true := by decide +kernel
  rw [hRead] at hQuiet
  exact undisturbed_of_quiet hQuiet

end Release

end LittleMonkey.Workflow
