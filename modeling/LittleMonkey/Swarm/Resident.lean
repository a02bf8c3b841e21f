import LittleMonkey.Daemon.Jobs
import LittleMonkey.Ledger.Protocol
import LittleMonkey.Lib.Durable
import LittleMonkey.Lib.Lists
import LittleMonkey.Lib.OrderBy

/-! # Resident swarm graphs

The frozen specification of a graph, its check at registration, the
deterministic id of a node's job, and the tables a graph lives in.  SHA-256 is
the parameter `sha`, from bytes to lowercase hex.
-/

namespace LittleMonkey.Swarm.Resident

open Daemon Guards Primitives List

def maxSwarmNodes : Nat := 16

structure ResidentSwarmNode where
  (id recipe : String)
  fallbackRecipe : Option String
  dependsOn : List String
  includeDependencyReports : Bool
  maxRuntimeSeconds : Nat
  deriving DecidableEq

structure ResidentSwarmSpec where
  version : Nat
  id : String
  nodes : List ResidentSwarmNode
  clusterId : Option String
  maxParallel : Nat
  deriving DecidableEq

def ResidentSwarmSpec.nodeIds (spec : ResidentSwarmSpec) : List String := spec.nodes.map (·.id)

/-! ## Validation -/

def isIdByte (c : UInt8) : Bool := isAsciiAlphanumeric c || c == 95 || c == 45 || c == 46

def validId (value : String) : Bool :=
  value.utf8ByteSize ≤ 80 && (textBytes value).head?.any isAsciiAlphanumeric &&
    (textBytes value).all isIdByte

def isBlank (value : String) : Bool := value.toList.all Ledger.isWhitespace

def validRecipe (value : String) : Bool := !isBlank value && decide (value.utf8ByteSize ≤ 1024)

def ResidentSwarmNode.fallbackOk (node : ResidentSwarmNode) : Bool :=
  node.fallbackRecipe.all fun recipe =>
    validRecipe recipe && recipe != node.recipe && !node.includeDependencyReports &&
      node.dependsOn.isEmpty

def ResidentSwarmNode.check (node : ResidentSwarmNode) (seen : List String) : Bool :=
  validId node.id && validRecipe node.recipe &&
    !(node.includeDependencyReports && node.dependsOn.isEmpty) && node.fallbackOk &&
    decide (1 ≤ node.maxRuntimeSeconds) && decide (node.maxRuntimeSeconds ≤ 86400) &&
    !seen.contains node.id

def checkNodes (seen : List String) : List ResidentSwarmNode → Except String (List String)
  | [] => .ok seen
  | node :: rest =>
    if node.check seen then checkNodes (node.id :: seen) rest
    else .error s!"Invalid or duplicate swarm node '{node.id}'"

def ResidentSwarmNode.dependenciesOk (node : ResidentSwarmNode) (known : List String) : Bool :=
  decide (node.dependsOn.length ≤ maxSwarmNodes) && node.dependsOn.all known.contains &&
    decide node.dependsOn.Nodup

/-- One pass of the topological order; `order` is its result so far. -/
def orderPass (known order : List String) :
    List ResidentSwarmNode → Except String (List String)
  | [] => .ok order
  | node :: rest =>
    if order.contains node.id then orderPass known order rest
    else if !node.dependenciesOk known then
      .error s!"Invalid task dependencies for '{node.id}'"
    else if node.dependsOn.all order.contains then orderPass known (order ++ [node.id]) rest
    else orderPass known order rest

/-- Every pass places a node or is the last, so `fuel` passes are enough for
`fuel` nodes. -/
def orderLoop (nodes : List ResidentSwarmNode) (known order : List String) :
    Nat → Except String (List String)
  | 0 => .ok order
  | fuel + 1 =>
    if nodes.length ≤ order.length then .ok order
    else do
      let next ← orderPass known order nodes
      if next.length = order.length then .error "Swarm task dependency cycle"
      else orderLoop nodes known next fuel

def validate (spec : ResidentSwarmSpec) : Except String (List String) := do
  refuseIf (spec.version != 1 || !validId spec.id || spec.nodes.isEmpty ||
      decide (maxSwarmNodes < spec.nodes.length) ||
      !(decide (1 ≤ spec.maxParallel) && decide (spec.maxParallel ≤ 6)))
    "Swarm requires version 1, valid id, 1–16 nodes and parallelism 1–6"
  refuseIf (spec.clusterId.any fun group => !validId group) "Invalid cluster leadership group id"
  let known ← checkNodes [] spec.nodes
  orderLoop spec.nodes known [] spec.nodes.length

/-- What the rest of the coordinator relies on. -/
structure ResidentSwarmSpec.Sound (spec : ResidentSwarmSpec) : Prop where
  graphId : validId spec.id = true
  nodeIds : ∀ node ∈ spec.nodeIds, validId node = true
  nodup : spec.nodeIds.Nodup

theorem checkNodes_ok {seen known nodes} (h : checkNodes seen nodes = .ok known) :
    (nodes.map (·.id)).Nodup ∧ ∀ node ∈ nodes, validId node.id = true ∧ node.id ∉ seen := by
  induction nodes generalizing seen with
  | nil => exact ⟨nodup_nil, nofun⟩
  | cons node rest ih =>
    unfold checkNodes at h
    split at h
    case isFalse => cases h
    case isTrue hCheck =>
      obtain ⟨hNodup, hRest⟩ := ih h
      have hNode : validId node.id = true ∧ node.id ∉ seen := by
        simp only [ResidentSwarmNode.check, Bool.and_eq_true, Bool.not_eq_true',
          contains_eq_mem, decide_eq_false_iff_not] at hCheck
        exact ⟨hCheck.1.1.1.1.1.1, hCheck.2⟩
      refine ⟨nodup_cons.mpr ⟨?_, hNodup⟩, ?_⟩
      · intro hMem
        obtain ⟨other, hOther, hEq⟩ := mem_map.mp hMem
        exact (hRest other hOther).2 (hEq ▸ mem_cons_self)
      · intro other hOther
        rcases mem_cons.mp hOther with rfl | hOther
        · exact hNode
        · exact ⟨(hRest other hOther).1, fun hSeen => (hRest other hOther).2 (mem_cons_of_mem _ hSeen)⟩

theorem sound_of_validate {spec order} (h : validate spec = .ok order) : spec.Sound := by
  simp only [validate, bind_eq_ok, refuseIf_eq_ok] at h
  obtain ⟨_, hHead, _, _, known, hNodes, _⟩ := h
  obtain ⟨hNodup, hIds⟩ := checkNodes_ok hNodes
  simp only [Bool.or_eq_false_iff, Bool.not_eq_false'] at hHead
  refine ⟨hHead.1.1.1.2, ?_, hNodup⟩
  intro node hNode
  obtain ⟨row, hRow, rfl⟩ := mem_map.mp hNode
  exact (hIds row hRow).1

/-! ## Job ids -/

inductive Stage
  | primary
  | fallback
  | reassignment (attempt : Nat)
  deriving DecidableEq

structure JobKey where
  (graph node : String)
  stage : Stage
  deriving DecidableEq

def JobKey.task (key : JobKey) : String :=
  match key.stage with
  | .primary => key.node
  | .fallback => "fallback:" ++ key.node
  | .reassignment attempt => key.node ++ ":reassignment:" ++ toString attempt

def JobKey.identity (key : JobKey) : String := "resident-swarm:" ++ key.graph ++ ":" ++ key.task

def JobKey.wellFormed (key : JobKey) : Bool := validId key.graph && validId key.node

theorem notMem_colon_of_validId {value} (h : validId value = true) : ':' ∉ value.toList := by
  intro hColon
  simp only [validId, Bool.and_eq_true, all_eq_true] at h
  have hByte : (58 : UInt8) ∈ textBytes value := by
    rw [textBytes_eq_flatMap]
    exact mem_flatMap.mpr ⟨':', hColon, by decide⟩
  exact absurd (h.2 58 hByte) (by decide)

theorem toString_nat_injective {m n : Nat} (h : toString m = toString n) : m = n := by
  rw [Nat.toString_eq_ofList_toDigits, Nat.toString_eq_ofList_toDigits, String.ofList_inj] at h
  have hValue (k : Nat) : Nat.ofDigitChars 10 (Nat.toDigits 10 k) 0 = k :=
    Nat.ofDigitChars_toDigits (by decide) (by decide)
  rw [← hValue m, h, hValue n]

theorem JobKey.toList_task (key : JobKey) : key.task.toList = match key.stage with
      | .primary => key.node.toList
      | .fallback => "fallback".toList ++ ':' :: key.node.toList
      | .reassignment attempt =>
        key.node.toList ++ ':' :: ("reassignment:".toList ++ (toString attempt).toList) := by
  unfold JobKey.task
  cases key.stage with
  | primary => rfl
  | fallback => simp [String.toList_append]
  | reassignment attempt => simp [String.toList_append]

theorem JobKey.toList_identity (key : JobKey) : key.identity.toList =
      "resident-swarm:".toList ++ (key.graph.toList ++ ':' :: key.task.toList) := by
  simp [JobKey.identity]

theorem JobKey.task_injective {key key' : JobKey} (h : ':' ∉ key.node.toList)
    (h' : ':' ∉ key'.node.toList) (hText : key.task.toList = key'.task.toList) :
    key.node = key'.node ∧ key.stage = key'.stage := by
  rw [key.toList_task, key'.toList_task] at hText
  have hName : ':' ∉ "fallback".toList := by decide
  cases hs : key.stage <;> cases hs' : key'.stage <;> simp only [hs, hs'] at hText
  case primary.primary => exact ⟨String.toList_inj.mp hText, rfl⟩
  case primary.fallback => exact absurd (hText ▸ by simp) h
  case primary.reassignment => exact absurd (hText ▸ by simp) h
  case fallback.primary => exact absurd (hText ▸ by simp) h'
  case fallback.fallback =>
    have hSplit := Lists.append_cons_inj_of_notMem_left hName hName hText
    exact ⟨String.toList_inj.mp hSplit.2, rfl⟩
  case fallback.reassignment =>
    have hSplit := Lists.append_cons_inj_of_notMem_left hName h' hText
    exact absurd (hSplit.2 ▸ by simp) h
  case reassignment.primary => exact absurd (hText ▸ by simp) h'
  case reassignment.fallback =>
    have hSplit := Lists.append_cons_inj_of_notMem_left h hName hText
    exact absurd (hSplit.2 ▸ by simp) h'
  case reassignment.reassignment m n =>
    have hSplit := Lists.append_cons_inj_of_notMem_left h h' hText
    have hAttempt := String.toList_inj.mp (append_cancel_left hSplit.2)
    exact ⟨String.toList_inj.mp hSplit.1, congrArg Stage.reassignment (toString_nat_injective hAttempt)⟩

theorem JobKey.identity_injective {key key' : JobKey} (h : key.wellFormed = true)
    (h' : key'.wellFormed = true) (hText : key.identity = key'.identity) : key = key' := by
  simp only [JobKey.wellFormed, Bool.and_eq_true] at h h'
  have hChars := congrArg String.toList hText
  rw [key.toList_identity, key'.toList_identity] at hChars
  have hSplit := Lists.append_cons_inj_of_notMem_left (notMem_colon_of_validId h.1)
    (notMem_colon_of_validId h'.1) (append_cancel_left hChars)
  have hTask := JobKey.task_injective (notMem_colon_of_validId h.2) (notMem_colon_of_validId h'.2)
    hSplit.2
  cases key'
  obtain ⟨rfl, rfl⟩ := hTask
  obtain rfl := String.toList_inj.mp hSplit.1
  rfl

def stableJobId (sha : Bytes → String) (key : JobKey) : String :=
  "job-" ++ String.ofList ((sha (textBytes key.identity)).toList.take 32)

/-! ## Tables -/

inductive NodeState
  | pending | pendingFallback | preparing | preparingFallback | submitted | submittedFallback
  | succeeded | failed | cancelled
  deriving DecidableEq

namespace NodeState

def isPending : NodeState → Bool
  | pending | pendingFallback => true
  | _ => false

def isOpen : NodeState → Bool
  | pending | pendingFallback | preparing | preparingFallback => true
  | _ => false

def isSubmitted : NodeState → Bool
  | submitted | submittedFallback => true
  | _ => false

def isFallback : NodeState → Bool
  | pendingFallback | preparingFallback | submittedFallback => true
  | _ => false

end NodeState

inductive GraphState
  | running | cancelling | failing | succeeded | failed | cancelled
  deriving DecidableEq

def GraphState.isTerminal : GraphState → Bool
  | succeeded | failed | cancelled => true
  | _ => false

structure NodeRow where
  state : NodeState
  jobId : Option String
  deriving DecidableEq

/-- The rows of one graph.  `dispatched` is the record of its jobs: every job
that was ever inserted for one of its nodes. -/
structure Graph where
  spec : ResidentSwarmSpec
  state : GraphState
  createdAtMs : Nat
  nodes : Table String NodeRow
  reassignments : Table String Nat
  dispatched : List (String × Stage)

structure SwarmJob where
  state : JobState
  cancelRequested : Bool
  runId : Option String

structure Service where
  graphs : Table String Graph
  jobs : Table String SwarmJob

def Graph.attempts (graph : Graph) (node : String) : Nat := (graph.reassignments.lookup node).getD 0

def Graph.stage (graph : Graph) (node : String) (state : NodeState) : Stage :=
  if state.isFallback then .fallback
  else if graph.attempts node = 0 then .primary
  else .reassignment (graph.attempts node)

def Graph.row (graph : Graph) (node : String) : Option NodeRow := graph.nodes.lookup node

def Graph.setNode (graph : Graph) (node : String) (row : NodeRow) : Graph :=
  { graph with nodes := graph.nodes.insert node row }

end LittleMonkey.Swarm.Resident
