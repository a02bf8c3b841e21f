import LittleMonkey.Workflow.Compile

/-! # What a compiled workflow is

The compiler's checks, read as facts about the compiled nodes: their signatures and static
rules, the types of their bindings, where each dependency comes from, and that it lies on a
lower level.
-/

namespace LittleMonkey.Workflow

open Guards Primitives List AList Option

/-! ## Gathered nodes -/

/-- A node under its id, with its signature and its static rules. -/
structure Gathered (wf : WorkflowDefinition) (id : String)
    (entry : WorkflowNode × NodeSignature) : Prop where
  named : entry.1.nodeId = id
  signature : entry.1.kind.signature = .ok entry.2
  static : validateNodeStatic entry.1 entry.2 wf = .ok ()

theorem gatherNodes_ok {wf capabilities list nodes found}
    (h : gatherNodes wf capabilities nodes list = .ok found) (hNodes : Every (Gathered wf) nodes) : Every (Gathered wf) found := by
  induction list generalizing nodes with
  | nil =>
    cases h
    exact hNodes
  | cons node rest ih =>
    simp only [gatherNodes, bind_eq_ok] at h
    obtain ⟨_, -, _, -, signature, hSignature, _, -, _, hStatic, hRest⟩ := h
    exact ih hRest (hNodes.insert ⟨rfl, hSignature, hStatic⟩)

/-! ## Dependencies of a node -/

section

variable {wf : WorkflowDefinition} {nodes : NodeTable} {id : String}
  {inputs : Table String InputBinding} {dependencies found : List String}

theorem bindPorts_ok {ports : List (Sigma fun _ : String => WorkflowValueType)}
    (h : bindPorts wf nodes id inputs dependencies ports = .ok found) :
    (∀ port type, (⟨port, type⟩ : Sigma fun _ => WorkflowValueType) ∈ ports →
      ∃ binding, inputs.lookup port = some binding ∧ bindingType wf nodes binding = .ok type) ∧
    (∀ d, d ∈ found ↔ d ∈ dependencies ∨ ∃ port type binding,
      (⟨port, type⟩ : Sigma fun _ => WorkflowValueType) ∈ ports ∧
        inputs.lookup port = some binding ∧ binding.dependency = some d) ∧
    (dependencies.Nodup → found.Nodup) := by
  induction ports generalizing dependencies with
  | nil =>
    cases h
    simp
  | cons entry rest ih =>
    obtain ⟨port, expected⟩ := entry
    simp only [bindPorts, bind_eq_ok, okOr_eq_ok, refuseIf_eq_ok, decide_eq_false_iff_not, not_not] at h
    obtain ⟨binding, hBinding, actual, hActual, -, rfl, hRest⟩ := h
    obtain ⟨hTyped, hFound, hNodup⟩ := ih hRest
    refine ⟨?_, ?_, ?_⟩
    · intro port' type hMem
      rcases mem_cons.mp hMem with hHead | hTail
      · cases hHead
        exact ⟨binding, hBinding, hActual⟩
      · exact hTyped port' type hTail
    · intro d
      rw [hFound d]
      cases hDependency : binding.dependency with
      | none =>
        simp only [mem_cons]
        constructor
        · rintro (hOld | ⟨port', type, binding', hMem, hRest⟩)
          · exact .inl hOld
          · exact .inr ⟨port', type, binding', .inr hMem, hRest⟩
        · rintro (hOld | ⟨port', type, binding', hHead | hMem, hLookup, hDepends⟩)
          · exact .inl hOld
          · cases hHead
            rw [hBinding, Option.some.injEq] at hLookup
            rw [← hLookup, hDependency] at hDepends
            cases hDepends
          · exact .inr ⟨port', type, binding', hMem, hLookup, hDepends⟩
      | some id =>
        simp only [includeDependency, mem_insert_iff, mem_cons]
        constructor
        · rintro ((rfl | hOld) | ⟨port', type, binding', hMem, hRest⟩)
          · exact .inr ⟨port, actual, binding, .inl rfl, hBinding, hDependency⟩
          · exact .inl hOld
          · exact .inr ⟨port', type, binding', .inr hMem, hRest⟩
        · rintro (hOld | ⟨port', type, binding', hHead | hMem, hLookup, hDepends⟩)
          · exact .inl (.inr hOld)
          · cases hHead
            rw [hBinding, Option.some.injEq] at hLookup
            rw [← hLookup, hDependency, Option.some.injEq] at hDepends
            exact .inl (.inl hDepends.symm)
          · exact .inr ⟨port', type, binding', hMem, hLookup, hDepends⟩
    · intro hDistinct
      apply hNodup
      cases binding.dependency with
      | none => exact hDistinct
      | some id => exact hDistinct.insert

theorem bindGuard_ok {guard} (h : bindGuard nodes id dependencies guard = .ok found) :
    (∀ d, d ∈ found ↔ d ∈ dependencies ∨ ∃ g, guard = some g ∧ g.conditionNodeId = d) ∧
    (∀ g, guard = some g → nodes.outputType g.conditionNodeId "out" = some .boolean) ∧
    (dependencies.Nodup → found.Nodup) := by
  cases guard with
  | none =>
    cases h
    simp
  | some g =>
    simp only [bindGuard, bind_eq_ok, okOr_eq_ok, refuseIf_eq_ok, decide_eq_false_iff_not, not_not,
      pure_eq_ok] at h
    obtain ⟨entry, hEntry, -, hOut, rfl⟩ := h
    refine ⟨?_, ?_, List.Nodup.insert⟩
    · intro d
      simp [or_comm, eq_comm]
    · intro g' hGuard
      cases hGuard
      rw [NodeTable.outputType, hEntry]
      exact hOut

theorem bindApproval_ok {approval} (h : bindApproval nodes id inputs dependencies approval = .ok found) :
    (∀ d, d ∈ found ↔ d ∈ dependencies ∨ approval = some d) ∧
    (∀ a, approval = some a → inputs.lookup "approval" = some (.nodeOutput a "out") ∧
      ∃ entry, nodes.lookup a = some entry ∧ entry.1.kind.isHumanApproval = true) ∧
    (dependencies.Nodup → found.Nodup) := by
  cases approval with
  | none =>
    cases h
    simp
  | some a =>
    simp only [bindApproval, bind_eq_ok, okOr_eq_ok, refuseIf_eq_ok, Bool.or_eq_false_iff,
      Bool.not_eq_false', pure_eq_ok] at h
    obtain ⟨entry, hEntry, -, ⟨⟨hKind, -⟩, hInput⟩, rfl⟩ := h
    refine ⟨?_, ?_, List.Nodup.insert⟩
    · intro d
      simp [or_comm, eq_comm]
    · intro a' hApproval
      cases hApproval
      obtain ⟨binding, hBinding, hOutput⟩ := (any_eq_true _ _).mp hInput
      refine ⟨?_, entry, hEntry, hKind⟩
      cases binding with
      | nodeOutput d port =>
        simp only [InputBinding.isOutputOf, Bool.and_eq_true, decide_eq_true_eq] at hOutput
        rw [hBinding, hOutput.1, hOutput.2]
      | workflowInput i => cases hOutput
      | literal v => cases hOutput

end

/-! ## Dependencies of all nodes -/

/-- What the dependencies of a node are, and what was checked of its inputs. -/
structure Bound (wf : WorkflowDefinition) (nodes : NodeTable) (node : WorkflowNode)
    (signature : NodeSignature) (dependencies : List String) : Prop where
  nodup : dependencies.Nodup
  ports : ∀ port, (node.inputs.lookup port).isSome = (signature.inputs.lookup port).isSome
  typed : ∀ port type, signature.inputs.lookup port = some type →
    ∃ binding, node.inputs.lookup port = some binding ∧ bindingType wf nodes binding = .ok type
  depends : ∀ d, d ∈ dependencies ↔ (∃ port out, node.inputs.lookup port = some (.nodeOutput d out)) ∨
      ∃ g, node.guard = some g ∧ g.conditionNodeId = d
  guarded : ∀ g, node.guard = some g → nodes.outputType g.conditionNodeId "out" = some .boolean
  approved : ∀ a, node.permissionPolicy.approvalNodeId = some a →
    node.inputs.lookup "approval" = some (.nodeOutput a "out") ∧
      ∃ entry, nodes.lookup a = some entry ∧ entry.1.kind.isHumanApproval = true

theorem dependency_eq_some {binding : InputBinding} {d} :
    binding.dependency = some d ↔ ∃ out, binding = .nodeOutput d out := by
  cases binding with
  | nodeOutput id port => simp [InputBinding.dependency]
  | workflowInput i => simp [InputBinding.dependency]
  | literal v => simp [InputBinding.dependency]

theorem lookup_isSome_eq {ρ τ : Type} {table : Table String ρ} {other : Table String τ}
    (hLength : table.entries.length = other.entries.length)
    (hKeys : table.keys.any (fun key => (other.lookup key).isNone) = false) (key : String) :
    (table.lookup key).isSome = (other.lookup key).isSome := by
  have hSubset : table.keys ⊆ other.keys := by
    intro k hk
    have hFound := List.any_eq_false.mp hKeys k hk
    rw [← AList.mem_keys, ← AList.lookup_isSome]
    cases hLookup : other.lookup k with
    | none => simp [hLookup] at hFound
    | some _ => rfl
  have hPerm : table.keys.Perm other.keys := by
    apply List.Subperm.perm_of_length_le (subperm_of_subset table.nodupKeys hSubset)
    simp [AList.keys, List.keys, hLength]
  rw [Bool.eq_iff_iff, lookup_isSome, lookup_isSome]
  exact hPerm.mem_iff

theorem nodeDependencies_ok {wf : WorkflowDefinition} {nodes : NodeTable} {id node signature dependencies}
    (h : nodeDependencies wf nodes id node signature = .ok dependencies) :
    Bound wf nodes node signature dependencies := by
  simp only [nodeDependencies, bind_eq_ok, refuseIf_eq_ok, Bool.or_eq_false_iff,
    decide_eq_false_iff_not, not_not] at h
  obtain ⟨_, ⟨hLength, hKeys⟩, bound, hBound, guarded, hGuarded, hApproval⟩ := h
  have hPorts := lookup_isSome_eq hLength hKeys
  obtain ⟨hTyped, hPortDeps, hPortNodup⟩ := bindPorts_ok hBound
  obtain ⟨hGuardDeps, hGuardType, hGuardNodup⟩ := bindGuard_ok hGuarded
  obtain ⟨hApprovalDeps, hApproved, hApprovalNodup⟩ := bindApproval_ok hApproval
  constructor
  · exact hApprovalNodup (hGuardNodup (hPortNodup nodup_nil))
  · exact hPorts
  · intro port type hType
    exact hTyped port type (mem_ascending.mpr hType)
  · intro d
    rw [hApprovalDeps, hGuardDeps, hPortDeps]
    constructor
    · rintro (((hNone | ⟨port, type, binding, -, hBinding, hDepends⟩) | hGuard) | hApprovalNode)
      · cases hNone
      · obtain ⟨out, rfl⟩ := dependency_eq_some.mp hDepends
        exact .inl ⟨port, out, hBinding⟩
      · exact .inr hGuard
      · exact .inl ⟨"approval", "out", (hApproved d hApprovalNode).1⟩
    · rintro (⟨port, out, hBinding⟩ | hGuard)
      · have hSome : (signature.inputs.lookup port).isSome = true := by
          rw [← hPorts port, hBinding]
          rfl
        obtain ⟨type, hType⟩ := isSome_iff_exists.mp hSome
        exact .inl (.inl (.inr ⟨port, type, _, mem_ascending.mpr hType, hBinding, rfl⟩))
      · exact .inl (.inr hGuard)
  · exact hGuardType
  · exact hApproved

theorem gatherDependencies_ok {wf nodes list dependencies found}
    (h : gatherDependencies wf nodes dependencies list = .ok found) :
    (∀ id deps, found.lookup id = some deps → dependencies.lookup id = some deps ∨
      ∃ node signature, (⟨id, node, signature⟩ : Sigma fun _ : String => WorkflowNode × NodeSignature) ∈ list ∧
        Bound wf nodes node signature deps) ∧
    (∀ id, (found.lookup id).isSome = true ↔
      (dependencies.lookup id).isSome = true ∨ id ∈ list.map Sigma.fst) := by
  induction list generalizing dependencies with
  | nil =>
    cases h
    simp
  | cons entry rest ih =>
    obtain ⟨id, node, signature⟩ := entry
    simp only [gatherDependencies, bind_eq_ok] at h
    obtain ⟨deps, hDeps, hRest⟩ := h
    obtain ⟨hFound, hKeys⟩ := ih hRest
    constructor
    · intro other deps' hOther
      rcases hFound other deps' hOther with hOld | ⟨node', signature', hMem, hBound⟩
      · obtain ⟨rfl, rfl⟩ | ⟨-, hOld⟩ := of_lookup_insert hOld
        · exact .inr ⟨node, signature, mem_cons_self, nodeDependencies_ok hDeps⟩
        · exact .inl hOld
      · exact .inr ⟨node', signature', mem_cons_of_mem _ hMem, hBound⟩
    · intro other
      rw [hKeys other, map_cons]
      by_cases hSame : other = id
      · subst hSame
        simp
      · simp [hSame]

/-! ## Order -/

theorem checkDependencies_ok {dependencies list} (h : checkDependencies dependencies list = .ok ()) :
    ∀ entry ∈ list, entry.1 ∉ entry.2 := by
  induction list with
  | nil => exact nofun
  | cons entry rest ih =>
    simp only [checkDependencies, bind_eq_ok, refuseIf_eq_ok, Bool.or_eq_false_iff] at h
    obtain ⟨_, ⟨hSelf, -⟩, hRest⟩ := h
    intro entry hMem
    rcases mem_cons.mp hMem with rfl | hMem
    · simpa using hSelf
    · exact ih hRest entry hMem

theorem topologicalOrder_ok {dependencies order level} (h : topologicalOrder dependencies = .ok (order, level))
    (hNodup : ∀ id deps, dependencies.lookup id = some deps → deps.Nodup) :
    order.Nodup ∧ (∀ id, id ∈ order ↔ (dependencies.lookup id).isSome = true) ∧
    ∀ id ∈ order, ∀ d ∈ dependenciesOf dependencies id, d ∈ order ∧ level d < level id := by
  simp only [topologicalOrder, bind_eq_ok, refuseIf_eq_ok, decide_eq_false_iff_not, not_not] at h
  obtain ⟨_, hChecked, _, hLength, rfl, rfl⟩ := h
  have hItem : ∀ id, id ∈ (ascending dependencies).map Sigma.fst ↔
      (dependencies.lookup id).isSome = true := by
    intro id
    rw [keys_ascending_perm.mem_iff, AList.lookup_isSome, AList.mem_keys]
  have hEntry : ∀ id ∈ (ascending dependencies).map Sigma.fst,
      dependencies.lookup id = some (dependenciesOf dependencies id) := by
    intro id hMem
    obtain ⟨deps, hDeps⟩ := isSome_iff_exists.mp ((hItem id).mp hMem)
    rw [dependenciesOf, hDeps, getD_some]
  have hProper : TopologicalSort.Proper ((ascending dependencies).map Sigma.fst)
      (dependenciesOf dependencies) := by
    constructor
    · exact nodup_keys_ascending
    · intro id hMem
      exact hNodup id _ (hEntry id hMem)
    · intro id hMem
      exact checkDependencies_ok hChecked ⟨id, _⟩ (mem_ascending.mpr (hEntry id hMem))
  have hInv : TopologicalSort.Inv _ _ (sortNodes dependencies) := TopologicalSort.inv_sort hProper
  have hPerm : (sortNodes dependencies).order.Perm ((ascending dependencies).map Sigma.fst) := by
    apply TopologicalSort.perm_of_length_eq hProper
    rw [length_map, ascending, length_insertionSort]
    exact hLength
  refine ⟨hInv.orderNodup, fun id => ?_, hInv.lower⟩
  exact hPerm.mem_iff.trans (hItem id)

/-! ## Compiled workflows -/

def WorkflowIr.Yields (ir : WorkflowIr) (type : WorkflowValueType) : InputBinding → Prop
  | .workflowInput inputId => ir.inputs.lookup inputId = some type
  | .nodeOutput id port =>
    ∃ m ∈ ir.nodes, m.node.nodeId = id ∧ m.outputTypes.lookup port = some type
  | .literal value => value.valueType = .ok type

structure Accepted (wf : WorkflowDefinition) (ir : WorkflowIr) (n : WorkflowIrNode) : Prop where
  signature : n.node.kind.signature = .ok ⟨n.inputTypes, n.outputTypes⟩
  static : validateNodeStatic n.node ⟨n.inputTypes, n.outputTypes⟩ wf = .ok ()
  ports : ∀ port, (n.node.inputs.lookup port).isSome = (n.inputTypes.lookup port).isSome
  typed : ∀ port type, n.inputTypes.lookup port = some type →
    ∃ binding, n.node.inputs.lookup port = some binding ∧ ir.Yields type binding
  depends : ∀ d, d ∈ n.dependencies ↔ (∃ port out, n.node.inputs.lookup port = some (.nodeOutput d out)) ∨
      ∃ g, n.node.guard = some g ∧ g.conditionNodeId = d
  guarded : ∀ g, n.node.guard = some g → ir.Yields .boolean (.nodeOutput g.conditionNodeId "out")
  approved : ∀ a, n.node.permissionPolicy.approvalNodeId = some a →
    n.node.inputs.lookup "approval" = some (.nodeOutput a "out") ∧
      ∃ m ∈ ir.nodes, m.node.nodeId = a ∧ m.node.kind.isHumanApproval = true
  lower : ∀ d ∈ n.dependencies, ∃ m ∈ ir.nodes, m.node.nodeId = d ∧ m.level < n.level

structure Compiled (wf : WorkflowDefinition) (ir : WorkflowIr) : Prop where
  nodup : (ir.nodes.map (·.node.nodeId)).Nodup
  accepted : ∀ n ∈ ir.nodes, Accepted wf ir n
  secrets : ir.secrets = wf.secrets
  outputsTyped : ∀ outputId output, ir.outputs.lookup outputId = some output →
    ir.Yields output.valueType output.binding
  concurrency : 0 < ir.maximumConcurrency

theorem Compiled.unique {wf ir} (h : Compiled wf ir) {n m} (hn : n ∈ ir.nodes) (hm : m ∈ ir.nodes)
    (hSame : n.node.nodeId = m.node.nodeId) : n = m :=
  inj_on_of_nodup_map h.nodup hn hm hSame

theorem checkOutputs_ok {wf nodes list} (h : checkOutputs wf nodes list = .ok ()) :
    ∀ entry ∈ list, bindingType wf nodes entry.2.binding = .ok entry.2.valueType := by
  induction list with
  | nil => exact nofun
  | cons entry rest ih =>
    simp only [checkOutputs, bind_eq_ok, refuseIf_eq_ok, decide_eq_false_iff_not, not_not] at h
    obtain ⟨_, -, actual, hActual, _, rfl, hRest⟩ := h
    intro entry hMem
    rcases mem_cons.mp hMem with rfl | hMem
    · exact hActual
    · exact ih hRest entry hMem

theorem validateWorkflowHeader_concurrency {wf u}
    (h : validateWorkflowHeader wf = .ok u) : 0 < wf.maximumConcurrency := by
  simp only [validateWorkflowHeader, bind_eq_ok, refuseIf_eq_ok, Bool.or_eq_false_iff,
    decide_eq_false_iff_not] at h
  obtain ⟨_, ⟨⟨⟨-, hConcurrency⟩, -⟩, -⟩, -⟩ := h
  omega

theorem compileWorkflow_ok {codec wf daemonCapabilities capabilities ir} (h : compileWorkflow codec wf daemonCapabilities capabilities = .ok ir) :
    Compiled wf ir := by
  simp only [compileWorkflow, bind_eq_ok, pure_eq_ok] at h
  obtain ⟨_, hHeader, _, -, nodes, hNodes, dependencies, hDependencies, ⟨order, level⟩, hOrder, _, hOutputs,
    hIr⟩ := h
  have hIrNodes : ir.nodes = order.filterMap (irNode nodes dependencies level) := by rw [← hIr]
  have hIrInputs : ir.inputs = wf.inputs := by rw [← hIr]
  have hGathered := gatherNodes_ok hNodes every_empty
  obtain ⟨hDeps, hKeys⟩ := gatherDependencies_ok hDependencies
  have hBound : ∀ id deps, dependencies.lookup id = some deps → ∃ node signature,
      nodes.lookup id = some (node, signature) ∧ Bound wf nodes node signature deps := by
    intro id deps hFound
    rcases hDeps id deps hFound with hNone | ⟨node, signature, hMem, hBound⟩
    · cases hNone
    · exact ⟨node, signature, mem_ascending.mp hMem, hBound⟩
  obtain ⟨hNodup, hMem, hLower⟩ := topologicalOrder_ok hOrder fun id deps hFound => by
    obtain ⟨node, signature, -, hBound⟩ := hBound id deps hFound
    exact hBound.nodup
  -- The ids in the order are those of the gathered nodes.
  have hThere : ∀ id, id ∈ order ↔ (nodes.lookup id).isSome = true := by
    intro id
    rw [hMem, hKeys, keys_ascending_perm.mem_iff, AList.lookup_isSome (s := nodes), AList.mem_keys]
    simp
  have hIds : ir.nodes.map (·.node.nodeId) = order := by
    rw [hIrNodes, map_filterMap]
    conv_rhs => rw [← filterMap_some (l := order)]
    apply filterMap_congr
    intro id hIn
    obtain ⟨entry, hEntry⟩ := isSome_iff_exists.mp ((hThere id).mp hIn)
    rw [irNode, hEntry, map_some, map_some, (hGathered id entry hEntry).named]
  have hNode : ∀ id entry, nodes.lookup id = some entry →
      (⟨entry.1, dependenciesOf dependencies id, level id, entry.2.inputs, entry.2.outputs⟩ :
        WorkflowIrNode) ∈ ir.nodes := by
    intro id entry hEntry
    rw [hIrNodes]
    have hIn : id ∈ order := (hThere id).mpr (by rw [hEntry]; rfl)
    exact mem_filterMap.mpr ⟨id, hIn, by rw [irNode, hEntry]; rfl⟩
  have hYields : ∀ binding type, bindingType wf nodes binding = .ok type → ir.Yields type binding := by
    intro binding type hType
    cases binding with
    | workflowInput inputId =>
      rw [WorkflowIr.Yields, hIrInputs]
      exact okOr_eq_ok.mp hType
    | nodeOutput id port =>
      obtain ⟨entry, hEntry, hPort⟩ := bind_eq_some_iff.mp (okOr_eq_ok.mp hType)
      exact ⟨_, hNode id entry hEntry, (hGathered id entry hEntry).named, hPort⟩
    | literal value => exact hType
  constructor
  · rw [hIds]
    exact hNodup
  · intro n hn
    rw [hIrNodes] at hn
    obtain ⟨id, hIn, hNodeOf⟩ := mem_filterMap.mp hn
    obtain ⟨⟨node, signature⟩, hEntry, rfl⟩ := map_eq_some_iff.mp hNodeOf
    obtain ⟨deps, hFound⟩ := isSome_iff_exists.mp ((hMem id).mp hIn)
    obtain ⟨node', signature', hEntry', hBound⟩ := hBound id deps hFound
    rw [hEntry, Option.some.injEq] at hEntry'
    obtain ⟨rfl, rfl⟩ := hEntry'
    have hEntryOk := hGathered id (node, signature) hEntry
    have hSame : dependenciesOf dependencies id = deps := by
      rw [dependenciesOf, hFound, getD_some]
    constructor
    · exact hEntryOk.signature
    · exact hEntryOk.static
    · exact hBound.ports
    · intro port type hType
      obtain ⟨binding, hBinding, hBindingType⟩ := hBound.typed port type hType
      exact ⟨binding, hBinding, hYields binding type hBindingType⟩
    · rw [hSame]
      exact hBound.depends
    · intro g hGuard
      exact hYields _ _ (okOr_eq_ok.mpr (hBound.guarded g hGuard))
    · intro a hApproval
      obtain ⟨hInput, entry, hApprovalEntry, hKind⟩ := hBound.approved a hApproval
      exact ⟨hInput, _, hNode a entry hApprovalEntry, (hGathered a entry hApprovalEntry).named, hKind⟩
    · intro d hd
      obtain ⟨hdIn, hdLevel⟩ := hLower id hIn d hd
      obtain ⟨entry, hdEntry⟩ := isSome_iff_exists.mp ((hThere d).mp hdIn)
      exact ⟨_, hNode d entry hdEntry, (hGathered d entry hdEntry).named, hdLevel⟩
  · rw [← hIr]
  · intro outputId output hOutput
    rw [← hIr] at hOutput
    exact hYields _ _ (checkOutputs_ok hOutputs ⟨outputId, output⟩ (mem_ascending.mpr hOutput))
  · rw [← hIr]
    exact validateWorkflowHeader_concurrency hHeader

def WorkflowIr.Precedes (ir : WorkflowIr) (m n : WorkflowIrNode) : Prop :=
  m ∈ ir.nodes ∧ n ∈ ir.nodes ∧ m.node.nodeId ∈ n.dependencies

/-- No workflow compiles in which a node waits for itself, directly or through others. -/
theorem compiled_acyclic {codec wf daemonCapabilities capabilities ir}
    (h : compileWorkflow codec wf daemonCapabilities capabilities = .ok ir) (n : WorkflowIrNode) :
    ¬ Relation.TransGen ir.Precedes n n := by
  have hCompiled := compileWorkflow_ok h
  intro hCycle
  have hLevels : Relation.TransGen (· < ·) n.level n.level := by
    refine hCycle.lift _ ?_
    rintro m n ⟨hm, hn, hDepends⟩
    obtain ⟨m', hm', hId, hLower⟩ := (hCompiled.accepted n hn).lower _ hDepends
    rwa [hCompiled.unique hm' hm hId] at hLower
  rw [Relation.transGen_eq_self] at hLevels
  exact hLevels.false

end LittleMonkey.Workflow
