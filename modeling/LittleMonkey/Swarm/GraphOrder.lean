import LittleMonkey.Lib.TopologicalSort
import LittleMonkey.Swarm.Resident

/-! # The order of a graph

`validate` accepts exactly the graphs whose fields are valid and whose dependencies are
known, distinct and without a cycle, and it puts every task behind its dependencies.
-/

namespace LittleMonkey.Swarm.Resident

open Guards TopologicalSort List

structure ResidentSwarmNode.Valid (node : ResidentSwarmNode) : Prop where
  id : validId node.id = true
  recipe : validRecipe node.recipe = true
  reports : node.includeDependencyReports = true → node.dependsOn ≠ []
  fallback : ∀ recipe, node.fallbackRecipe = some recipe →
    validRecipe recipe = true ∧ recipe ≠ node.recipe ∧ node.includeDependencyReports = false ∧
      node.dependsOn = []
  runtime : 1 ≤ node.maxRuntimeSeconds ∧ node.maxRuntimeSeconds ≤ 86400

def ResidentSwarmSpec.DependsOn (spec : ResidentSwarmSpec) (task dep : String) : Prop :=
  ∃ node ∈ spec.nodes, node.id = task ∧ dep ∈ node.dependsOn

structure ResidentSwarmSpec.Valid (spec : ResidentSwarmSpec) : Prop where
  version : spec.version = 1
  id : validId spec.id = true
  count : 1 ≤ spec.nodes.length ∧ spec.nodes.length ≤ maxSwarmNodes
  parallel : 1 ≤ spec.maxParallel ∧ spec.maxParallel ≤ 6
  cluster : ∀ group, spec.clusterId = some group → validId group = true
  nodes : ∀ node ∈ spec.nodes, node.Valid
  distinct : spec.nodeIds.Nodup
  known : ∀ node ∈ spec.nodes, node.dependsOn ⊆ spec.nodeIds
  depsDistinct : ∀ node ∈ spec.nodes, node.dependsOn.Nodup
  acyclic : ∀ task, ¬ Relation.TransGen spec.DependsOn task task

/-! ## Fields -/

theorem ResidentSwarmNode.fallbackOk_iff {node : ResidentSwarmNode} :
    node.fallbackOk = true ↔ ∀ recipe, node.fallbackRecipe = some recipe →
      validRecipe recipe = true ∧ recipe ≠ node.recipe ∧ node.includeDependencyReports = false ∧
        node.dependsOn = [] := by
  unfold ResidentSwarmNode.fallbackOk
  cases node.fallbackRecipe with
  | none => simp
  | some recipe => simp [and_assoc]

theorem ResidentSwarmNode.check_iff {node : ResidentSwarmNode} {seen} :
    node.check seen = true ↔ node.Valid ∧ node.id ∉ seen := by
  simp only [ResidentSwarmNode.check, Bool.and_eq_true, decide_eq_true_eq, fallbackOk_iff, Bool.not_eq_true',
    Bool.and_eq_false_iff, contains_eq_mem, decide_eq_false_iff_not]
  constructor
  · rintro ⟨⟨⟨⟨⟨⟨hId, hRecipe⟩, hReports⟩, hFallback⟩, hLow⟩, hHigh⟩, hNew⟩
    refine ⟨⟨hId, hRecipe, fun hSet hNone => ?_, hFallback, hLow, hHigh⟩, hNew⟩
    rcases hReports with hOff | hSome
    · simp [hOff] at hSet
    · simp [hNone] at hSome
  · rintro ⟨h, hNew⟩
    refine ⟨⟨⟨⟨⟨⟨h.id, h.recipe⟩, ?_⟩, h.fallback⟩, h.runtime.1⟩, h.runtime.2⟩, hNew⟩
    cases hSet : node.includeDependencyReports with
    | false => exact .inl rfl
    | true => exact .inr (by simpa using h.reports hSet)

theorem checkNodes_iff {seen known : List String} {nodes} : checkNodes seen nodes = .ok known ↔
      (∀ node ∈ nodes, node.Valid ∧ node.id ∉ seen) ∧ (nodes.map (·.id)).Nodup ∧
        known = (nodes.map (·.id)).reverse ++ seen := by
  induction nodes generalizing seen with
  | nil => simp [checkNodes, eq_comm]
  | cons node rest ih =>
    unfold checkNodes
    by_cases hCheck : node.check seen = true
    · rw [if_pos hCheck, ih]
      obtain ⟨hValid, hNew⟩ := ResidentSwarmNode.check_iff.mp hCheck
      simp only [mem_cons, map_cons, nodup_cons, reverse_cons, append_assoc, forall_eq_or_imp, not_or]
      constructor
      · rintro ⟨hRest, hNodup, hKnown⟩
        refine ⟨⟨⟨hValid, hNew⟩, fun other h => ⟨(hRest other h).1, (hRest other h).2.2⟩⟩, ⟨?_, hNodup⟩, hKnown⟩
        intro hMem
        obtain ⟨other, hOther, hSame⟩ := mem_map.mp hMem
        exact (hRest other hOther).2.1 hSame
      · rintro ⟨⟨-, hRest⟩, ⟨hApart, hNodup⟩, hKnown⟩
        refine ⟨fun other h => ⟨(hRest other h).1, fun hSame => ?_, (hRest other h).2⟩, hNodup, hKnown⟩
        exact hApart (mem_map.mpr ⟨other, h, hSame⟩)
    · rw [if_neg hCheck]
      constructor
      · intro h
        cases h
      · rintro ⟨hAll, -⟩
        exact absurd (ResidentSwarmNode.check_iff.mpr (hAll node mem_cons_self)) hCheck

theorem validate_iff {spec order} : validate spec = .ok order ↔
      (spec.version = 1 ∧ validId spec.id = true ∧ (1 ≤ spec.nodes.length ∧ spec.nodes.length ≤ maxSwarmNodes) ∧
        (1 ≤ spec.maxParallel ∧ spec.maxParallel ≤ 6) ∧
        (∀ group, spec.clusterId = some group → validId group = true) ∧
        (∀ node ∈ spec.nodes, node.Valid) ∧ spec.nodeIds.Nodup) ∧
      orderLoop spec.nodes spec.nodeIds.reverse [] spec.nodes.length = .ok order := by
  have hCluster : (spec.clusterId.any fun group => !validId group) = false ↔
      ∀ group, spec.clusterId = some group → validId group = true := by
    cases spec.clusterId <;> simp
  have hCount : spec.nodes.isEmpty = false ↔ 1 ≤ spec.nodes.length := by
    cases spec.nodes <;> simp
  simp only [validate, bind_eq_ok, refuseIf_eq_ok, Bool.or_eq_false_iff, Bool.not_eq_false', bne_eq_false_iff_eq,
    hCluster, hCount, decide_eq_false_iff_not, Nat.not_lt, Bool.and_eq_true, decide_eq_true_eq, checkNodes_iff]
  constructor
  · rintro ⟨-, ⟨⟨⟨⟨hVersion, hId⟩, hLow⟩, hHigh⟩, hParallel⟩, -, hGroup, known, ⟨hNodes, hNodup, rfl⟩, hLoop⟩
    rw [append_nil] at hLoop
    exact ⟨⟨hVersion, hId, ⟨hLow, hHigh⟩, hParallel, hGroup, fun node h => (hNodes node h).1, hNodup⟩, hLoop⟩
  · rintro ⟨⟨hVersion, hId, ⟨hLow, hHigh⟩, hParallel, hGroup, hNodes, hNodup⟩, hLoop⟩
    refine ⟨(), ⟨⟨⟨⟨hVersion, hId⟩, hLow⟩, hHigh⟩, hParallel⟩, (), hGroup, _,
      ⟨fun node h => ⟨hNodes node h, not_mem_nil⟩, hNodup, rfl⟩, ?_⟩
    rwa [append_nil]

/-! ## Order -/

/-- What is placed so far: distinct tasks, each behind its dependencies. -/
structure ResidentSwarmSpec.Ordered (spec : ResidentSwarmSpec) (order : List String) : Prop where
  nodup : order.Nodup
  within : order ⊆ spec.nodeIds
  proper : ∀ node ∈ spec.nodes, node.id ∈ order → node.dependenciesOk spec.nodeIds.reverse = true
  behind : ∀ node ∈ spec.nodes, node.id ∈ order → ∀ dep ∈ node.dependsOn,
    dep ∈ order ∧ order.idxOf dep < order.idxOf node.id

section

variable {spec : ResidentSwarmSpec} {order next : List String} {node : ResidentSwarmNode}
  {nodes : List ResidentSwarmNode}

theorem dependenciesOk_iff (hCount : spec.nodes.length ≤ maxSwarmNodes) :
    node.dependenciesOk spec.nodeIds.reverse = true ↔ node.dependsOn ⊆ spec.nodeIds ∧ node.dependsOn.Nodup := by
  simp only [ResidentSwarmNode.dependenciesOk, Bool.and_eq_true, decide_eq_true_eq, all_eq_true,
    contains_eq_mem, mem_reverse]
  constructor
  · rintro ⟨⟨-, hKnown⟩, hNodup⟩
    exact ⟨hKnown, hNodup⟩
  · rintro ⟨hKnown, hNodup⟩
    refine ⟨⟨?_, hKnown⟩, hNodup⟩
    -- Distinct known tasks are no more than there are tasks.
    have hLength := (subperm_of_subset hNodup hKnown).length_le
    rw [ResidentSwarmSpec.nodeIds, length_map] at hLength
    omega

theorem eq_of_id_eq (hDistinct : spec.nodeIds.Nodup) {other} (h : node ∈ spec.nodes)
    (hOther : other ∈ spec.nodes) (hSame : node.id = other.id) : node = other :=
  inj_on_of_nodup_map hDistinct h hOther hSame

theorem ResidentSwarmSpec.Ordered.place (h : spec.Ordered order) (hDistinct : spec.nodeIds.Nodup)
    (hNode : node ∈ spec.nodes) (hNew : node.id ∉ order)
    (hProper : node.dependenciesOk spec.nodeIds.reverse = true) (hReady : node.dependsOn ⊆ order) :
    spec.Ordered (order ++ [node.id]) := by
  constructor
  · exact List.Nodup.append h.nodup (nodup_singleton _) (by simpa using hNew)
  · exact append_subset.mpr ⟨h.within, cons_subset.mpr ⟨mem_map_of_mem hNode, nil_subset _⟩⟩
  · intro other hOther hMem
    rcases mem_append.mp hMem with hOld | hLast
    · exact h.proper other hOther hOld
    · rwa [eq_of_id_eq hDistinct hOther hNode (mem_singleton.mp hLast)]
  · intro other hOther hMem dep hDep
    rcases mem_append.mp hMem with hOld | hLast
    · obtain ⟨hIn, hBefore⟩ := h.behind other hOther hOld dep hDep
      refine ⟨mem_append_left _ hIn, ?_⟩
      rwa [idxOf_append_of_mem hIn, idxOf_append_of_mem hOld]
    · obtain rfl := eq_of_id_eq hDistinct hOther hNode (mem_singleton.mp hLast)
      have hIn := hReady hDep
      refine ⟨mem_append_left _ hIn, ?_⟩
      rw [idxOf_append_of_mem hIn, idxOf_append_of_notMem hNew]
      have hLess := idxOf_lt_length_of_mem hIn
      omega

theorem all_contains_iff {deps} : deps.all order.contains = true ↔ deps ⊆ order := by
  simp only [all_eq_true, contains_eq_mem, decide_eq_true_eq]
  rfl

theorem orderPass_spec (hDistinct : spec.nodeIds.Nodup) (hNodes : nodes ⊆ spec.nodes) (h : spec.Ordered order)
    (hPass : orderPass spec.nodeIds.reverse order nodes = .ok next) :
    spec.Ordered next ∧ order <+: next ∧ (next.length = order.length →
        ∀ node ∈ nodes, node.id ∉ order → ¬ node.dependsOn ⊆ order) := by
  induction nodes generalizing order with
  | nil =>
    cases hPass
    exact ⟨h, prefix_rfl, nofun⟩
  | cons node rest ih =>
    obtain ⟨hNode, hRest⟩ := cons_subset.mp hNodes
    unfold orderPass at hPass
    split at hPass
    case isTrue hDone =>
      obtain ⟨hNext, hLonger, hStuck⟩ := ih hRest h hPass
      refine ⟨hNext, hLonger, fun hLength other hOther hOpen => ?_⟩
      rcases mem_cons.mp hOther with rfl | hOther
      · exact absurd (by simpa using hDone) hOpen
      · exact hStuck hLength other hOther hOpen
    case isFalse hOpen =>
      split at hPass
      case isTrue => cases hPass
      case isFalse hProper =>
        split at hPass
        case isTrue hReady =>
          have hPlaced := h.place hDistinct hNode (by simpa using hOpen) (by simpa using hProper)
            (all_contains_iff.mp hReady)
          obtain ⟨hNext, hLonger, -⟩ := ih hRest hPlaced hPass
          refine ⟨hNext, (prefix_append _ _).trans hLonger, fun hLength => ?_⟩
          have hLess := hLonger.length_le
          rw [length_append, length_singleton] at hLess
          omega
        case isFalse hWaits =>
          obtain ⟨hNext, hLonger, hStuck⟩ := ih hRest h hPass
          refine ⟨hNext, hLonger, fun hLength other hOther hOtherOpen => ?_⟩
          rcases mem_cons.mp hOther with rfl | hOther
          · exact fun hReady => hWaits (all_contains_iff.mpr hReady)
          · exact hStuck hLength other hOther hOtherOpen

theorem orderPass_isOk (order : List String) (hProper : ∀ node ∈ nodes, node.dependenciesOk spec.nodeIds.reverse = true) :
    ∃ next, orderPass spec.nodeIds.reverse order nodes = .ok next := by
  induction nodes generalizing order with
  | nil => exact ⟨order, rfl⟩
  | cons node rest ih =>
    obtain ⟨hNode, hRest⟩ := forall_mem_cons.mp hProper
    unfold orderPass
    rw [hNode]
    split
    · exact ih _ hRest
    · rw [if_neg (by simp)]
      split
      · exact ih _ hRest
      · exact ih _ hRest

theorem orderLoop_spec {fuel} (hDistinct : spec.nodeIds.Nodup) (h : spec.Ordered order)
    (hFuel : spec.nodes.length ≤ order.length + fuel)
    (hLoop : orderLoop spec.nodes spec.nodeIds.reverse order fuel = .ok next) :
    spec.Ordered next ∧ spec.nodes.length ≤ next.length := by
  induction fuel generalizing order with
  | zero =>
    cases hLoop
    exact ⟨h, hFuel⟩
  | succ fuel ih =>
    unfold orderLoop at hLoop
    split at hLoop
    case isTrue hAll =>
      cases hLoop
      exact ⟨h, hAll⟩
    case isFalse =>
      obtain ⟨placed, hPass, hLoop⟩ := bind_eq_ok.mp hLoop
      obtain ⟨hPlaced, hLonger, -⟩ := orderPass_spec hDistinct (List.Subset.refl _) h hPass
      have hLess := hLonger.length_le
      split at hLoop
      case isTrue => cases hLoop
      case isFalse hMore => exact ih hPlaced (by omega) hLoop

theorem ResidentSwarmSpec.Ordered.perm (h : spec.Ordered order) (hLength : spec.nodes.length ≤ order.length) :
    order.Perm spec.nodeIds :=
  List.Subperm.perm_of_length_le (subperm_of_subset h.nodup h.within)
    (by simpa [ResidentSwarmSpec.nodeIds] using hLength)

theorem exists_ready (hValid : spec.Valid) (hOpen : order.length < spec.nodes.length) :
    ∃ node ∈ spec.nodes, node.id ∉ order ∧ node.dependsOn ⊆ order := by
  have hSome : spec.nodeIds.filter (fun id => id ∉ order) ≠ [] := by
    intro hNone
    have hAll : spec.nodeIds ⊆ order := by
      intro id hId
      by_contra hNot
      exact filter_eq_nil_iff.mp hNone id hId (decide_eq_true hNot)
    have hLength := (subperm_of_subset hValid.distinct hAll).length_le
    rw [ResidentSwarmSpec.nodeIds, length_map] at hLength
    omega
  obtain ⟨task, hTask, hFirst⟩ := exists_minimal_of_acyclic hValid.acyclic hSome
  obtain ⟨hId, hNew⟩ := mem_filter.mp hTask
  obtain ⟨node, hNode, rfl⟩ := mem_map.mp hId
  refine ⟨node, hNode, of_decide_eq_true hNew, fun dep hDep => ?_⟩
  by_contra hNot
  have hMember : dep ∈ spec.nodeIds.filter fun id => id ∉ order :=
    mem_filter.mpr ⟨hValid.known node hNode hDep, decide_eq_true hNot⟩
  exact hFirst dep hMember ⟨node, hNode, rfl, hDep⟩

theorem orderLoop_isOk {fuel} (hValid : spec.Valid) (h : spec.Ordered order) :
    ∃ next, orderLoop spec.nodes spec.nodeIds.reverse order fuel = .ok next := by
  induction fuel generalizing order with
  | zero => exact ⟨order, rfl⟩
  | succ fuel ih =>
    unfold orderLoop
    split
    case isTrue => exact ⟨order, rfl⟩
    case isFalse hOpen =>
      have hProper : ∀ node ∈ spec.nodes, node.dependenciesOk spec.nodeIds.reverse = true := fun node hNode =>
        (dependenciesOk_iff hValid.count.2).mpr ⟨hValid.known node hNode, hValid.depsDistinct node hNode⟩
      obtain ⟨placed, hPass⟩ := orderPass_isOk order hProper
      obtain ⟨hPlaced, -, hStuck⟩ := orderPass_spec hValid.distinct (List.Subset.refl _) h hPass
      obtain ⟨node, hNode, hNew, hReady⟩ := exists_ready hValid (Nat.lt_of_not_le hOpen)
      rw [hPass]
      dsimp only [bind, Except.bind]
      rw [if_neg (fun hSame => hStuck hSame node hNode hNew hReady)]
      exact ih hPlaced

end

theorem ordered_nil (spec : ResidentSwarmSpec) : spec.Ordered [] :=
  ⟨nodup_nil, nil_subset _, nofun, nofun⟩

/-- Accepted are the valid graphs, and the order has every task behind its dependencies. -/
theorem validate_exact (spec : ResidentSwarmSpec) : ((∃ order, validate spec = .ok order) ↔ spec.Valid) ∧
      ∀ order, validate spec = .ok order → order.Perm spec.nodeIds ∧
        ∀ node ∈ spec.nodes, ∀ dep ∈ node.dependsOn, order.idxOf dep < order.idxOf node.id := by
  have hOrder : ∀ order, validate spec = .ok order → spec.Ordered order ∧ order.Perm spec.nodeIds := by
    intro order hValidate
    obtain ⟨⟨-, -, -, -, -, -, hDistinct⟩, hLoop⟩ := validate_iff.mp hValidate
    obtain ⟨hOrdered, hLength⟩ := orderLoop_spec hDistinct (ordered_nil spec) (by simp) hLoop
    exact ⟨hOrdered, hOrdered.perm hLength⟩
  refine ⟨⟨?_, ?_⟩, ?_⟩
  · rintro ⟨order, hValidate⟩
    obtain ⟨hOrdered, hPerm⟩ := hOrder order hValidate
    obtain ⟨⟨hVersion, hId, hCount, hParallel, hGroup, hNodes, hDistinct⟩, -⟩ := validate_iff.mp hValidate
    have hPlaced : ∀ node ∈ spec.nodes, node.id ∈ order := fun node hNode =>
      hPerm.mem_iff.mpr (mem_map_of_mem hNode)
    have hDeps : ∀ node ∈ spec.nodes, node.dependsOn ⊆ spec.nodeIds ∧ node.dependsOn.Nodup := fun node hNode =>
      (dependenciesOk_iff hCount.2).mp (hOrdered.proper node hNode (hPlaced node hNode))
    refine ⟨hVersion, hId, hCount, hParallel, hGroup, hNodes, hDistinct, fun node h => (hDeps node h).1,
      fun node h => (hDeps node h).2, acyclic_of_rank order.idxOf ?_⟩
    rintro task dep ⟨node, hNode, rfl, hDep⟩
    exact (hOrdered.behind node hNode (hPlaced node hNode) dep hDep).2
  · intro hValid
    obtain ⟨order, hLoop⟩ := orderLoop_isOk hValid (ordered_nil spec)
    exact ⟨order, validate_iff.mpr ⟨⟨hValid.version, hValid.id, hValid.count, hValid.parallel, hValid.cluster,
      hValid.nodes, hValid.distinct⟩, hLoop⟩⟩
  · intro order hValidate
    obtain ⟨hOrdered, hPerm⟩ := hOrder order hValidate
    refine ⟨hPerm, fun node hNode dep hDep => ?_⟩
    exact (hOrdered.behind node hNode (hPerm.mem_iff.mpr (mem_map_of_mem hNode)) dep hDep).2

end LittleMonkey.Swarm.Resident
