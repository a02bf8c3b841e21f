import LittleMonkey.Swarm.GraphTicks

/-! # The discipline of dispatch

In every run, wherever the daemon dies: a node gets a job only when its
dependencies have succeeded, only one of its jobs is alive, it gets no more jobs
than its attempts allow, and no two jobs share an id.
-/

namespace LittleMonkey.Swarm.Resident

open Durable Primitives List

def Graph.jobsOf (g : Graph) (node : String) : List Stage :=
  (g.dispatched.filter (·.1 == node)).map (·.2)

def Stage.isReassignment : Stage → Bool
  | .reassignment _ => true
  | _ => false

theorem Graph.mem_jobsOf {g : Graph} {node stage} : stage ∈ g.jobsOf node ↔ (node, stage) ∈ g.dispatched := by
  constructor
  · intro h
    obtain ⟨entry, hEntry, rfl⟩ := mem_map.mp h
    obtain ⟨hMem, hNode⟩ := mem_filter.mp hEntry
    rw [← beq_iff_eq.mp hNode]
    exact hMem
  · intro h
    exact mem_map.mpr ⟨(node, stage), mem_filter.mpr ⟨h, beq_self_eq_true node⟩, rfl⟩

theorem Graph.nodup_jobsOf {g : Graph} (h : g.dispatched.Nodup) (node : String) : (g.jobsOf node).Nodup := by
  refine List.Nodup.map_on ?_ (h.filter _)
  intro entry hEntry entry' hEntry' hStage
  have hNode := beq_iff_eq.mp (mem_filter.mp hEntry).2
  have hNode' := beq_iff_eq.mp (mem_filter.mp hEntry').2
  exact Prod.ext (hNode.trans hNode'.symm) hStage

/-- What the coordinator promises about the jobs of its graphs. -/
structure Disciplined (sha : Bytes → String) (s : Service) : Prop where
  dependencies : ∀ id g, s.graphs.lookup id = some g → ∀ node ∈ g.spec.nodes,
    ∀ stage ∈ g.jobsOf node.id, ∀ dep ∈ node.dependsOn, ∃ row jobId job,
      g.row dep = some row ∧ row.state = .succeeded ∧ row.jobId = some jobId ∧
        s.jobs.lookup jobId = some job ∧ job.state = .succeeded
  oneLive : ∀ id g, s.graphs.lookup id = some g → ∀ node, ∀ stage ∈ g.jobsOf node, ∀ stage' ∈ g.jobsOf node,
      s.live (stableJobId sha ⟨id, node, stage⟩) = true →
      s.live (stableJobId sha ⟨id, node, stage'⟩) = true → stage = stage'
  primary : ∀ id g, s.graphs.lookup id = some g → ∀ node, (g.jobsOf node).count .primary ≤ 1
  reassigned : ∀ id g, s.graphs.lookup id = some g → ∀ node,
    ((g.jobsOf node).filter Stage.isReassignment).length ≤ 2
  fallback : ∀ id g, s.graphs.lookup id = some g → ∀ node, (g.jobsOf node).count .fallback ≤ 1 ∧
      (.fallback ∈ g.jobsOf node → (g.jobsOf node).filter Stage.isReassignment = [])
  distinct : ∀ key ∈ s.keys, ∀ key' ∈ s.keys, stableJobId sha key = stableJobId sha key' → key = key'

section

variable {sha : Bytes → String} {s : Service} {id : String} {g : Graph}

section

variable (h : GraphSound sha s id g)

include h

theorem GraphSound.nodeSound {node : String} {stage} (hStage : stage ∈ g.jobsOf node) :
    ∃ row, g.row node = some row ∧ NodeSound sha s id g node row := by
  have hKnown := h.known node stage (Graph.mem_jobsOf.mp hStage)
  obtain ⟨row, hRow⟩ := Option.isSome_iff_exists.mp ((h.rows node).mpr hKnown)
  exact ⟨row, hRow, h.nodes node row hRow⟩

theorem GraphSound.dependency_succeeded {node : ResidentSwarmNode}
    (hNode : node ∈ g.spec.nodes) {stage} (hStage : stage ∈ g.jobsOf node.id)
    {dep} (hDep : dep ∈ node.dependsOn) :
    ∃ row jobId job, g.row dep = some row ∧ row.state = .succeeded ∧ row.jobId = some jobId ∧
      s.jobs.lookup jobId = some job ∧ job.state = .succeeded := by
  obtain ⟨row, hRow, hState⟩ := Option.map_eq_some_iff.mp
    (h.dependencies node hNode stage (Graph.mem_jobsOf.mp hStage) dep hDep)
  obtain ⟨depStage, _, hId, hJob⟩ := (h.nodes dep row hRow).succeeded hState
  obtain ⟨job, hLookup, hJobState⟩ := Option.map_eq_some_iff.mp hJob
  exact ⟨row, _, job, hRow, hState, hId, hLookup, hJobState⟩

theorem GraphSound.reassigned_le (node : String) :
    ((g.jobsOf node).filter Stage.isReassignment).length ≤ 2 := by
  have hSubset : (g.jobsOf node).filter Stage.isReassignment ⊆
      [.reassignment 1, .reassignment 2] := by
    intro stage hStage
    obtain ⟨hMem, hKind⟩ := mem_filter.mp hStage
    obtain ⟨row, _, hNode⟩ := h.nodeSound hMem
    cases stage with
    | primary => cases hKind
    | fallback => cases hKind
    | reassignment attempt =>
      have hBounds := hNode.stages _ (Graph.mem_jobsOf.mp hMem)
      have hMax : g.attempts node ≤ 2 := hNode.attempts
      have hCases : attempt = 1 ∨ attempt = 2 := by omega
      rcases hCases with rfl | rfl <;> simp
  have hNodup := (Graph.nodup_jobsOf h.nodup node).filter Stage.isReassignment
  exact (subperm_of_subset hNodup hSubset).length_le

theorem GraphSound.fallback_excludes {node : String} (hFallback : .fallback ∈ g.jobsOf node) :
    (g.jobsOf node).filter Stage.isReassignment = [] := by
  obtain ⟨row, _, hNode⟩ := h.nodeSound hFallback
  have hRecipe := (hNode.stages _ (Graph.mem_jobsOf.mp hFallback)).1
  refine filter_eq_nil_iff.mpr fun stage hStage hKind => ?_
  cases stage with
  | primary => cases hKind
  | fallback => cases hKind
  | reassignment attempt =>
    have hBounds := hNode.stages _ (Graph.mem_jobsOf.mp hStage)
    rw [hNode.retried (by omega)] at hRecipe
    cases hRecipe

end

end

theorem dispatch_disciplined {sha : Bytes → String} {keys : Set JobKey} {s : Service}
    (hNoCollision : NoCollision sha keys)
    (h : GraphRun sha (fun action _ => action.Within keys) s) : Disciplined sha s := by
  have hSound := h.sound hNoCollision
  exact
    { dependencies := fun id g hGraph node hNode stage hStage dep hDep =>
        (hSound.graphs id g hGraph).dependency_succeeded hNode hStage hDep
      oneLive := fun id g hGraph node stage hStage stage' hStage' hLive hLive' => by
        obtain ⟨row, _, hNode⟩ := (hSound.graphs id g hGraph).nodeSound hStage
        exact hNode.unique stage stage' (Graph.mem_jobsOf.mp hStage) (Graph.mem_jobsOf.mp hStage')
          hLive hLive'
      primary := fun id g hGraph node =>
        nodup_iff_count_le_one.mp (Graph.nodup_jobsOf (hSound.graphs id g hGraph).nodup node) _
      reassigned := fun id g hGraph node => (hSound.graphs id g hGraph).reassigned_le node
      fallback := fun id g hGraph node =>
        ⟨nodup_iff_count_le_one.mp
          (Graph.nodup_jobsOf (hSound.graphs id g hGraph).nodup node) _,
          (hSound.graphs id g hGraph).fallback_excludes⟩
      distinct := fun key hKey key' hKey' hEq =>
        hNoCollision.injOn (hSound.within hKey) (hSound.within hKey') hEq }

/-! ## A first run -/

def digestTable : List (String × String) :=
  [("resident-swarm:g:a", "5394e02660569296f00a0932e38b7ac2f2e4112181cbf1dad7c0449df0336c0c"),
   ("resident-swarm:g:x", "d3d38472e0aa8b9bc6f889597fcb72035994dd6436bb6c656da16fc1806ea458"),
   ("resident-swarm:g:y", "c763e07646df3e464121fa0c69c9c26af2f4258ffeaa6f062acb76b91a71a9de"),
   ("resident-swarm:g:z", "b040f7399f6fb1d6f1e2cd685f25e98f15259058a10146ebd9926ea2e6d6603a"),
   ("resident-swarm:g:fallback:a", "b03555d74bd3f8dc990be16eaf4ef9bfa34e42c3c35431c5462e4f13d146c8f2"),
   ("resident-swarm:g:a:reassignment:1", "44cb806794f0b78c297c8ae77dccb4d9bbe41860c361dcf5839b1d4b0d2f2bca"),
   ("resident-swarm:g:a:reassignment:2", "90d0ea4731936893b2f5e0b85251d7d056b8346fb9d1585b5dc7f549b65166e5")]

def tableSha (bytes : Bytes) : String :=
  ((digestTable.find? fun entry => textBytes entry.1 == bytes).map (·.2)).getD ""

def calmTurn : Turn where
  now _ := 1
  ownsAtStart _ := true
  ownsAtDispatch _ := true
  ownsAtEnqueue _ _ := true
  majority _ _ _ := true
  majorityAtEnqueue _ _ _ := true
  killSwitch _ := false
  closed _ := false
  report _ := .ok "report"
  freeze _ node _ := .ok node
  refusal _ _ := none
  prepare _ _ _ := .ok ()
  snapshot _ node := .ok ("run-" ++ node)
  refusesAfter _ _ := false
  dies _ _ := false

def plainRegistration : Registration where
  snapshots := "/snapshots"
  now := 1
  ownership := none
  freshOwnership := none
  freeze _ := none

def taskNode (id : String) (dependsOn : List String) : ResidentSwarmNode where
  id := id
  recipe := "/recipes/" ++ id ++ ".json"
  fallbackRecipe := none
  dependsOn := dependsOn
  includeDependencyReports := false
  maxRuntimeSeconds := 3600

def singleSpec : ResidentSwarmSpec := ⟨1, "g", [taskNode "a" []], none, 2⟩

def firstDispatch : Service :=
  final (tick tableSha calmTurn) (final (submit plainRegistration singleSpec) Service.empty)

def singleKeys : Set JobKey := { key | key.graph = "g" ∧ key.node = "a" ∧ key.stage.allowed = true }

theorem stage_cases_of_allowed {stage : Stage} (h : stage.allowed = true) :
    stage = .primary ∨ stage = .fallback ∨ stage = .reassignment 1 ∨ stage = .reassignment 2 := by
  cases stage with
  | primary => exact .inl rfl
  | fallback => exact .inr (.inl rfl)
  | reassignment attempt =>
    simp only [Stage.allowed, Bool.and_eq_true, decide_eq_true_eq] at h
    have hMax : attempt ≤ 2 := h.2
    have hCases : attempt = 1 ∨ attempt = 2 := by omega
    rcases hCases with rfl | rfl <;> simp

/-- The first digit of the digest tells the four jobs of the node apart. -/
def firstDigit : Stage → Char
  | .primary => '5'
  | .fallback => 'b'
  | .reassignment 1 => '4'
  | .reassignment _ => '9'

theorem head_digest {stage : Stage} (h : stage.allowed = true) :
    ((tableSha (textBytes (JobKey.identity ⟨"g", "a", stage⟩))).toList.take 32).head? =
      some (firstDigit stage) := by
  rcases stage_cases_of_allowed h with rfl | rfl | rfl | rfl <;> decide +kernel

theorem noCollision_singleKeys : NoCollision tableSha singleKeys := by
  rintro ⟨g, node, stage⟩ ⟨rfl, rfl, hStage⟩ ⟨g', node', stage'⟩ ⟨rfl, rfl, hStage'⟩ hEq
  have hHead := congrArg List.head? hEq
  rw [head_digest hStage, head_digest hStage'] at hHead
  have hDigit := Option.some.inj hHead
  rcases stage_cases_of_allowed hStage with rfl | rfl | rfl | rfl <;>
    rcases stage_cases_of_allowed hStage' with rfl | rfl | rfl | rfl <;>
      first | rfl | exact absurd hDigit (by decide)

theorem within_singleKeys (r : Registration) : (Action.submit r singleSpec).Within singleKeys := by
  intro _ node hNode stage hStage
  obtain rfl : node = "a" := by simpa [singleSpec, ResidentSwarmSpec.nodeIds, taskNode] using hNode
  exact ⟨rfl, rfl, hStage⟩

theorem dispatch_disciplined_first :
    (firstDispatch.graphs.lookup "g").map (·.dispatched) = some [("a", .primary)] ∧
      Disciplined tableSha firstDispatch := by
  exact ⟨by decide +kernel, dispatch_disciplined noCollision_singleKeys
    (.step (.tick calmTurn) (.step (.submit plainRegistration singleSpec) .empty
      (within_singleKeys _)) trivial)⟩

end LittleMonkey.Swarm.Resident
