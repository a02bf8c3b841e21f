import LittleMonkey.Lib.Worklist
import LittleMonkey.Workflow.Compiled

/-! # Replay plans

The history of a run, and `plan_replay`: which nodes of a new run take their outputs from a
source run and which are executed again.  What is executed is the boundary and everything
that depends on it, directly or through other nodes.
-/

namespace LittleMonkey.Workflow

open Guards Primitives List

/-! ## Histories -/

structure ResourceUsage where
  (modelCalls inputTokens outputTokens costMicrounits loopIterations : Nat)

inductive WorkflowRunStatus
  | running | succeeded | failed | cancelled | needsReconciliation

inductive NodeRunStatus
  | pending
  | running
  | succeeded
  | failed (failure : FailureClass) (message : String)
  | skipped (reason : String)
  | needsReconciliation (receipt : String)
  | reused (sourceRunId : String)

def NodeRunStatus.hasOutputs : NodeRunStatus → Bool
  | .succeeded | .reused _ => true
  | _ => false

def NodeRunStatus.isUnreconciled : NodeRunStatus → Bool
  | .needsReconciliation _ => true
  | _ => false

structure NodeRunRecord where
  nodeId : String
  status : NodeRunStatus
  inputs : Table String WorkflowValue
  secretReferences : Table String SecretBinding
  (outputs pendingOutputs : Table String WorkflowValue)
  attempts : Nat
  (startedUnixMs finishedUnixMs : Option Nat)
  usage : ResourceUsage

inductive WorkflowRunEventKind
  | runStarted
  | nodeFinished (nodeId : String) (status : NodeRunStatus)
  | nodeReused (nodeId sourceRunId : String)
  | runFinished (status : WorkflowRunStatus)

structure WorkflowRunEvent where
  (sequence unixMs : Nat)
  kind : WorkflowRunEventKind

structure WorkflowRunHistory where
  schemaVersion : Nat
  (runId workflowId definitionSha256 : String)
  status : WorkflowRunStatus
  startedUnixMs : Nat
  finishedUnixMs : Option Nat
  trigger : WorkflowTrigger
  inputSnapshot : Table String WorkflowValue
  secretReferenceSnapshot : Table String SecretBinding
  nodes : Table String NodeRunRecord
  outputs : Table String WorkflowValue
  usage : ResourceUsage
  events : List WorkflowRunEvent

def WorkflowRunHistory.inspectNode (history : WorkflowRunHistory) (nodeId : String) :
    Fallible NodeRunRecord :=
  okOr (history.nodes.lookup nodeId) (.execution s!"run has no node record for {nodeId}")

/-! ## Plans -/

structure ReplayPlan where
  (workflowId definitionSha256 sourceRunId boundaryNodeId : String)
  (reusedNodeIds executeNodeIds : List String)

def WorkflowIr.nodeIds (ir : WorkflowIr) : List String := ir.nodes.map (·.node.nodeId)

def WorkflowIr.childrenOf (ir : WorkflowIr) (nodeId : String) : List String :=
  (ir.nodes.filter fun n => n.dependencies.contains nodeId).map (·.node.nodeId)

def sorted (ids : List String) : List String := ids.insertionSort fun a b => textBytes a ≤ textBytes b

def boundaryPolicy (granted : Bool) : ReplayPolicy → Fallible Unit
  | .never => .error (.replay "boundary node forbids replay")
  | .requiresApproval => refuseIf (!granted) (.replay "boundary node requires replay approval")
  | .safe => .ok ()

def checkReused (source : WorkflowRunHistory) (nodeId : String) : Fallible Unit := do
  let record ← source.inspectNode nodeId
  refuseIf (!record.status.hasOutputs)
    (.replay s!"node {nodeId} is not safe to reuse from its terminal status")

def checkExecuted (source : WorkflowRunHistory) (nodeId : String) : Fallible Unit :=
  refuseIf ((source.nodes.lookup nodeId).any (·.status.isUnreconciled))
    (.replay s!"node {nodeId} has an unreconciled external effect")

def planReplay (ir : WorkflowIr) (source : WorkflowRunHistory) (boundaryNodeId : String)
    (replayApprovalGranted : Bool) : Fallible ReplayPlan := do
  refuseIf (source.workflowId ≠ ir.workflowId || source.definitionSha256 ≠ ir.definitionSha256)
    (.replay "source run was produced by different workflow IR")
  let boundary ← okOr (ir.nodes.find? fun n => n.node.nodeId = boundaryNodeId)
    (.replay "replay boundary node not found")
  boundaryPolicy replayApprovalGranted boundary.node.replay
  let execute := sorted (Worklist.closure ir.childrenOf ir.nodeIds.length boundaryNodeId)
  let reused := sorted (ir.nodeIds.filter fun nodeId => !execute.contains nodeId)
  reused.forM (checkReused source)
  execute.forM (checkExecuted source)
  pure ⟨ir.workflowId, ir.definitionSha256, source.runId, boundaryNodeId, reused, execute⟩

/-! ## What a plan says -/

def WorkflowIr.Feeds (ir : WorkflowIr) (a b : String) : Prop :=
  ∃ n ∈ ir.nodes, n.node.nodeId = b ∧ a ∈ n.dependencies

theorem mem_childrenOf {ir : WorkflowIr} {a b} : b ∈ ir.childrenOf a ↔ ir.Feeds a b := by
  simp only [WorkflowIr.childrenOf, mem_map, mem_filter, contains_iff_mem]
  constructor
  · rintro ⟨n, ⟨hn, hDepends⟩, rfl⟩
    exact ⟨n, hn, rfl, hDepends⟩
  · rintro ⟨n, hn, rfl, hDepends⟩
    exact ⟨n, ⟨hn, hDepends⟩, rfl⟩

theorem mem_sorted {ids nodeId} : nodeId ∈ sorted ids ↔ nodeId ∈ ids :=
  mem_insertionSort _

section

variable {definition : WorkflowDefinition} {ir : WorkflowIr} {source : WorkflowRunHistory}
  {boundary : String} {granted : Bool} {plan : ReplayPlan}

/-- What an accepted plan passed, and what it holds. -/
structure Planned (ir : WorkflowIr) (source : WorkflowRunHistory) (boundary : String) (granted : Bool)
    (plan : ReplayPlan) : Prop where
  policy : ∃ n ∈ ir.nodes, n.node.nodeId = boundary ∧ boundaryPolicy granted n.node.replay = .ok ()
  execute : ∀ nodeId, nodeId ∈ plan.executeNodeIds ↔ Relation.ReflTransGen ir.Feeds boundary nodeId
  reused : ∀ nodeId, nodeId ∈ plan.reusedNodeIds ↔ nodeId ∈ ir.nodeIds ∧ nodeId ∉ plan.executeNodeIds
  reconciled : ∀ nodeId ∈ plan.executeNodeIds, checkExecuted source nodeId = .ok ()

theorem planReplay_ok (h : planReplay ir source boundary granted = .ok plan) :
    Planned ir source boundary granted plan := by
  simp only [planReplay, bind_eq_ok, okOr_eq_ok, pure_eq_ok] at h
  obtain ⟨_, -, n, hFound, _, hPolicy, _, -, _, hExecuted, rfl⟩ := h
  have hNode := mem_of_find?_eq_some hFound
  have hId : n.node.nodeId = boundary := by simpa using List.find?_some hFound
  have hBoundary : boundary ∈ ir.nodeIds := mem_map.mpr ⟨n, hNode, hId⟩
  have hWithin : ∀ a ∈ ir.nodeIds, ir.childrenOf a ⊆ ir.nodeIds := by
    intro a _ b hb
    obtain ⟨m, hm, hmId, -⟩ := mem_childrenOf.mp hb
    exact mem_map.mpr ⟨m, hm, hmId⟩
  constructor
  · exact ⟨n, hNode, hId, hPolicy⟩
  · intro nodeId
    rw [mem_sorted, Worklist.mem_closure hBoundary hWithin]
    simp only [mem_childrenOf]
  · intro nodeId
    simp [mem_sorted]
  · exact forM_eq_ok.mp hExecuted

def WorkflowRunHistory.ran (history : WorkflowRunHistory) (nodeId : String) : Bool :=
  (history.nodes.lookup nodeId).any fun record =>
    match record.status with
    | .pending | .skipped _ => false
    | _ => true

def Permits (source : WorkflowRunHistory) (granted : Bool) (n : WorkflowIrNode) : Prop :=
  (n.node.replay = .never → source.ran n.node.nodeId = false) ∧
    (n.node.replay = .requiresApproval → granted = true)

instance (source : WorkflowRunHistory) (granted : Bool) (n : WorkflowIrNode) :
    Decidable (Permits source granted n) :=
  inferInstanceAs (Decidable (_ ∧ _))

/-- Every node that is executed again may be, and what is reused rests on what is reused. -/
structure Respects (ir : WorkflowIr) (source : WorkflowRunHistory) (granted : Bool) (plan : ReplayPlan) :
    Prop where
  policies : ∀ n ∈ ir.nodes, n.node.nodeId ∈ plan.executeNodeIds → Permits source granted n
  reconciled : ∀ nodeId ∈ plan.executeNodeIds, ∀ record, source.nodes.lookup nodeId = some record →
    record.status.isUnreconciled = false
  closed : ∀ n ∈ ir.nodes, n.node.nodeId ∈ plan.reusedNodeIds → ∀ d ∈ n.dependencies, d ∈ plan.reusedNodeIds

theorem Planned.permits_boundary (h : Planned ir source boundary granted plan)
    (hCompiled : Compiled definition ir) {n} (hn : n ∈ ir.nodes)
    (hId : n.node.nodeId = boundary) : Permits source granted n := by
  obtain ⟨m, hm, hmId, hPolicy⟩ := h.policy
  obtain rfl := hCompiled.unique hn hm (hId.trans hmId.symm)
  unfold Permits
  cases hReplay : n.node.replay with
  | safe => simp
  | requiresApproval =>
    rw [hReplay] at hPolicy
    simpa [boundaryPolicy] using hPolicy
  | never =>
    rw [hReplay] at hPolicy
    cases hPolicy

theorem Planned.closed (h : Planned ir source boundary granted plan) (hCompiled : Compiled definition ir)
    {n} (hn : n ∈ ir.nodes) (hReused : n.node.nodeId ∈ plan.reusedNodeIds) {d}
    (hd : d ∈ n.dependencies) : d ∈ plan.reusedNodeIds := by
  obtain ⟨m, hm, rfl, -⟩ := (hCompiled.accepted n hn).lower d hd
  rw [h.reused] at hReused ⊢
  refine ⟨mem_map.mpr ⟨m, hm, rfl⟩, fun hExecuted => hReused.2 ?_⟩
  rw [h.execute] at hExecuted ⊢
  exact hExecuted.tail ⟨n, hn, rfl, hd⟩

/-- A plan respects the policies of its nodes exactly if those after the boundary permit it: the
policy of the boundary is the only one that is asked for. -/
theorem plan_respects_iff {codec : Codec} {daemonCapabilities : List DaemonCapability}
    {capabilities : WorkflowCapabilityCatalog}
    (hCompile : compileWorkflow codec definition daemonCapabilities capabilities = .ok ir)
    (hPlan : planReplay ir source boundary granted = .ok plan) :
    Respects ir source granted plan ↔ ∀ n ∈ ir.nodes,
      Relation.TransGen ir.Feeds boundary n.node.nodeId → Permits source granted n := by
  have hCompiled := compileWorkflow_ok hCompile
  have h := planReplay_ok hPlan
  constructor
  · intro hRespects n hn hAfter
    exact hRespects.policies n hn ((h.execute _).mpr hAfter.to_reflTransGen)
  · intro hPermits
    constructor
    · intro n hn hExecuted
      rcases Relation.reflTransGen_iff_eq_or_transGen.mp ((h.execute _).mp hExecuted) with hId | hAfter
      · exact h.permits_boundary hCompiled hn hId
      · exact hPermits n hn hAfter
    · intro nodeId hExecuted record hRecord
      have hChecked := h.reconciled nodeId hExecuted
      simpa [checkExecuted, hRecord] using hChecked
    · intro n hn hReused d hd
      exact h.closed hCompiled hn hReused hd

end

/-! ## A release

A draft, an approval, and a tool that publishes the draft once it is approved and that may
never be replayed. -/

namespace Release

def node (nodeId : String) (kind : WorkflowNodeKind) (inputs : Table String InputBinding) : WorkflowNode where
  nodeId := nodeId
  kind := kind
  inputs := inputs
  secretIds := []
  permissionPolicy := ⟨[], none⟩
  retry := ⟨1, 0, 0, []⟩
  timeoutMs := 1000
  estimate := ⟨0, 0, 0, 0⟩
  idempotency := .none
  replay := .safe
  guard := none

def draft : WorkflowNode :=
  node "draft" (.transform "identity") (AList.insert "input" (.literal (.json "null")) ∅)

def approve : WorkflowNode :=
  node "approve" (.humanApproval "release") (AList.insert "summary" (.literal (.string "Publish?")) ∅)

def publish : WorkflowNode :=
  { node "publish" (.tool "publish" .externalMutation)
      (AList.insert "approval" (.nodeOutput "approve" "out")
        (AList.insert "arguments" (.nodeOutput "draft" "out") ∅)) with
    permissionPolicy := ⟨["publish"], some "approve"⟩
    replay := .never }

def definition : WorkflowDefinition where
  schemaVersion := 1
  workflowId := "release"
  workflowVersion := 1
  name := "Release"
  inputs := ∅
  secrets := ∅
  nodes := [draft, approve, publish]
  outputs := AList.insert "result" ⟨.json, .nodeOutput "publish" "out"⟩ ∅
  budgets := ⟨1000, 100, 1000000, 1000000, 100000000, 86400000⟩
  maximumConcurrency := 2
  triggers := [.manual]

def sha256 : String := "b88cf6fc36cfc5c90f36b7c5465ce873604ec27a13b305931c3e221e1a0e45d4"

/-- The digest of this workflow, and the lengths of no values, of a null and of a true output. -/
def codec : Codec where
  definitionSha256 _ := sha256
  valuesLength values :=
    match values.lookup "out" with
    | none => 2
    | some (.boolean _) => 39
    | some _ => 36

def capabilities : WorkflowCapabilityCatalog where
  modelBackends := []
  agents := ∅
  subagents := ∅
  tools := AList.insert "publish" .externalMutation ∅
  mcpTools := ∅
  browserActions := ∅
  gitActions := ∅
  pullRequestActions := ∅
  shellProfiles := []
  transforms := ["identity"]
  verifiers := []

def record (nodeId : String) (inputs : Table String WorkflowValue) (out : WorkflowValue) : NodeRunRecord where
  nodeId := nodeId
  status := .succeeded
  inputs := inputs
  secretReferences := ∅
  outputs := AList.insert "out" out ∅
  pendingOutputs := ∅
  attempts := 1
  startedUnixMs := some 1000
  finishedUnixMs := some 1000
  usage := ⟨0, 0, 0, 0, 0⟩

def cancelled : WorkflowRunHistory where
  schemaVersion := 1
  runId := "release-1"
  workflowId := "release"
  definitionSha256 := sha256
  status := .cancelled
  startedUnixMs := 1000
  finishedUnixMs := some 1000
  trigger := .manual
  inputSnapshot := ∅
  secretReferenceSnapshot := ∅
  nodes := AList.insert "draft" (record "draft" (AList.insert "input" (.json "null") ∅) (.json "null"))
      (AList.insert "approve"
        (record "approve" (AList.insert "summary" (.string "Publish?") ∅) (.boolean true)) ∅)
  outputs := ∅
  usage := ⟨0, 0, 0, 0, 0⟩
  events := [⟨1, 1000, .runStarted⟩, ⟨2, 1000, .nodeFinished "approve" .succeeded⟩,
    ⟨3, 1000, .nodeFinished "draft" .succeeded⟩, ⟨4, 1000, .runFinished .cancelled⟩]

def published : WorkflowRunHistory :=
  { cancelled with
    status := .succeeded
    nodes := cancelled.nodes.insert "publish"
      (record "publish" (AList.insert "approval" (.boolean true) (AList.insert "arguments" (.json "null") ∅))
        (.json "null"))
    outputs := AList.insert "result" (.json "null") ∅
    events := [⟨1, 1000, .runStarted⟩, ⟨2, 1000, .nodeFinished "approve" .succeeded⟩,
      ⟨3, 1000, .nodeFinished "draft" .succeeded⟩, ⟨4, 1000, .nodeFinished "publish" .succeeded⟩,
      ⟨5, 1000, .runFinished .succeeded⟩] }

def planFromDraft (source : WorkflowRunHistory) : Fallible (WorkflowIr × ReplayPlan) := do
  let ir ← compileWorkflow codec definition [] capabilities
  let plan ← planReplay ir source "draft" false
  pure (ir, plan)

theorem planFromDraft_ok {source ir plan} (h : planFromDraft source = .ok (ir, plan)) :
    compileWorkflow codec definition [] capabilities = .ok ir ∧
      planReplay ir source "draft" false = .ok plan := by
  simp only [planFromDraft, bind_eq_ok] at h
  obtain ⟨_, hCompile, _, hPlan, hPair⟩ := h
  cases hPair
  exact ⟨hCompile, hPlan⟩

theorem exists_of_any {α ε : Type} {x : Except ε α} {p} (h : x.toOption.any p = true) :
    ∃ a, x = .ok a ∧ p a = true := by
  cases x with
  | ok a => exact ⟨a, rfl, h⟩
  | error e => cases h

theorem release_acyclic : ∃ ir, compileWorkflow codec definition [] capabilities = .ok ir ∧
    ∀ n, ¬ Relation.TransGen ir.Precedes n n :=
  (exists_of_any (p := fun _ => true) (by decide +kernel)).imp fun _ h => ⟨h.1, compiled_acyclic h.1⟩

/-- A draft that is replayed publishes again, although publishing forbids replay. -/
theorem never_node_replayed : ∃ ir plan, compileWorkflow codec definition [] capabilities = .ok ir ∧
    planReplay ir published "draft" false = .ok plan ∧ ¬ Respects ir published false plan := by
  obtain ⟨⟨ir, plan⟩, hOk, hAny⟩ := exists_of_any (x := planFromDraft published)
    (p := fun found => found.1.nodes.any fun n =>
      found.2.executeNodeIds.contains n.node.nodeId && !decide (Permits published false n)) (by decide +kernel)
  obtain ⟨hCompile, hPlan⟩ := planFromDraft_ok hOk
  refine ⟨ir, plan, hCompile, hPlan, fun hRespects => ?_⟩
  simp only [any_eq_true, Bool.and_eq_true, contains_iff_mem, Bool.not_eq_true',
    decide_eq_false_iff_not] at hAny
  obtain ⟨n, hn, hExecuted, hNot⟩ := hAny
  exact hNot (hRespects.policies n hn hExecuted)

/-- A run that never came to publish can be replayed from the draft on. -/
theorem unpublished_plan_respects : ∃ ir plan, compileWorkflow codec definition [] capabilities = .ok ir ∧
    planReplay ir cancelled "draft" false = .ok plan ∧ Respects ir cancelled false plan := by
  obtain ⟨⟨ir, plan⟩, hOk, hAll⟩ := exists_of_any (x := planFromDraft cancelled)
    (p := fun found => found.1.nodes.all fun n => decide (Permits cancelled false n)) (by decide +kernel)
  obtain ⟨hCompile, hPlan⟩ := planFromDraft_ok hOk
  have hRespects := (plan_respects_iff hCompile hPlan).mpr
    fun n hn _ => of_decide_eq_true (all_eq_true.mp hAll n hn)
  exact ⟨ir, plan, hCompile, hPlan, hRespects⟩

end Release

end LittleMonkey.Workflow
