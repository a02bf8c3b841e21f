import LittleMonkey.Swarm.Resident

/-! # The resident swarm coordinator

`submit`, `request_cancel` and `tick` over the graph tables and the job table.
The coordinator keeps nothing in memory: a daemon that dies leaves its durable
writes, and its successor ticks on from there.
-/

namespace LittleMonkey.Swarm.Resident

open Daemon Durable Guards OrderBy Primitives Transaction

/-! ## Statements -/

abbrev ServiceM := Program String Service

def Service.setGraph (s : Service) (id : String) (graph : Graph) : Service :=
  { s with graphs := s.graphs.insert id graph }

def Service.modify (s : Service) (id : String) (f : Graph → Graph) : Service :=
  match s.graphs.lookup id with
  | some graph => s.setGraph id (f graph)
  | none => s

def Service.setJob (s : Service) (jobId : String) (job : SwarmJob) : Service :=
  { s with jobs := s.jobs.insert jobId job }

def Service.row (s : Service) (id node : String) : Option NodeRow :=
  (s.graphs.lookup id).bind (·.row node)

def Graph.setState (graph : Graph) (state : GraphState) : Graph := { graph with state := state }

def Graph.setAttempts (graph : Graph) (node : String) (attempts : Nat) : Graph :=
  { graph with reassignments := graph.reassignments.insert node attempts }

def Graph.tasks (graph : Graph) : List (String × NodeRow) :=
  (graph.nodes.entries.map fun entry => (entry.1, entry.2)).insertionSort fun a b => a.1 ≤ b.1

inductive Write
  | settle (node : String)
  | cancelJob (node : String)
  | cancelNode (node : String)
  | graph
  | intent (node : String)
  | attach (node : String)
  | discard (node : String)
  | insert (node : String)
  | abandon (node : String)
  | queue (node : String)
  | record (node : String)
  | fail (node : String)
  deriving DecidableEq

/-- What one tick finds outside the tables, by graph and node: its clock, the
cluster's answers, the queue, the recipes, and the write after which it dies. -/
structure Turn where
  now : String → Int
  (ownsAtStart ownsAtDispatch : String → Bool)
  ownsAtEnqueue : String → String → Bool
  (majority majorityAtEnqueue : String → String → Graph → Bool)
  (killSwitch closed : String → Bool)
  report : String → Except String String
  freeze : String → String → List String → Except String String
  refusal : String → String → Option String
  prepare : String → String → String → Except String Unit
  snapshot : String → String → Except String String
  refusesAfter : String → String → Bool
  dies : String → Write → Bool

variable (sha : Bytes → String) (t : Turn)

/-- `UPDATE resident_swarm_nodes … WHERE`: whether the row matched. -/
def updateNode (id node : String) (mark : Write) (allowed : NodeRow → Bool)
    (next : NodeRow → NodeRow) : ServiceM Bool := do
  match ← read (·.row id node) with
  | none => pure false
  | some row =>
    if allowed row then do
      durable (t.dies id mark) (·.modify id (·.setNode node (next row)))
      pure true
    else pure false

variable (id : String)

def setState (state : GraphState) : ServiceM Unit :=
  durable (t.dies id .graph) (·.modify id (·.setState state))

def getJob (jobId : String) : ServiceM (Option SwarmJob) := read (·.jobs.lookup jobId)

/-! ## Settling the submitted nodes -/

def commitCurrentSuccess (id node jobId : String) : ServiceM Bool := do
  let job ← getJob jobId
  updateNode t id node (.settle node)
    (fun row => row.jobId == some jobId && row.state.isSubmitted &&
      job.any (·.state == .succeeded))
    fun row => { row with state := .succeeded }

def markCurrentFailed (id node jobId : String) (expected : NodeState) : ServiceM Bool :=
  if !expected.isSubmitted then fail "Cannot fail a node outside the submitted state"
  else updateNode t id node (.settle node)
    (fun row => row.jobId == some jobId && row.state == expected)
    fun row => { row with state := .failed }

def maxReadOnlyReassignments : Nat := 2

variable (spec : ResidentSwarmSpec)

def ResidentSwarmSpec.hasFallback (node : String) : Bool :=
  (spec.nodes.find? (·.id == node)).any (·.fallbackRecipe.isSome)

def fallbackAllowed (node : String) (status : NodeState) (outcome : JobState) : Bool :=
  status == .submitted && outcome == .failed && spec.hasFallback node

section

def reassignFailedPrimary (id node jobId : String) : ServiceM Bool := do
  if t.now id ≤ 0 then fail "Reassignment requires a positive clock"
  else
    let job ← getJob jobId
    let graph ← read (·.graphs.lookup id)
    match job, graph.bind (·.row node), graph with
    | some job, some row, some graph =>
      let previous := graph.attempts node
      if job.state == .failed && decide (previous < maxReadOnlyReassignments) &&
          row.jobId == some jobId && row.state == .submitted then do
        let next := stableJobId sha ⟨id, node, .reassignment (previous + 1)⟩
        durable (t.dies id (.settle node)) (·.modify id fun graph =>
          (graph.setNode node ⟨.preparing, some next⟩).setAttempts node (previous + 1))
        pure true
      else pure false
    | _, _, _ => pure false

structure Tally where
  failure : Bool
  active : Nat

def retry (task : String × NodeRow) (jobId : String) (job : SwarmJob) : ServiceM Bool :=
  if spec.clusterId.isSome && task.2.state == .submitted && job.state == .failed then
    reassignFailedPrimary sha t id task.1 jobId
  else pure false

def settleNode (tally : Tally) (task : String × NodeRow) : ServiceM Tally :=
  if !task.2.state.isSubmitted then pure tally
  else
    match task.2.jobId with
    | none => pure { tally with failure := true }
    | some jobId => do
      match ← getJob jobId with
      | none => pure { tally with failure := true }
      | some job =>
        if job.state == .succeeded then do
          if ← commitCurrentSuccess t id task.1 jobId then pure tally
          else fail "Swarm success arrived for a non-current task attempt"
        else if job.state.isTerminal then
          if fallbackAllowed spec task.1 task.2.state job.state then do
            let _ ← updateNode t id task.1 (.settle task.1) (·.state == .submitted)
              fun _ => ⟨.pendingFallback, none⟩
            pure tally
          else do
            if ← retry sha t id spec task jobId job then pure tally
            else do
              let failed ← markCurrentFailed t id task.1 jobId task.2.state
              pure { tally with failure := tally.failure || failed }
        else pure { tally with active := tally.active + 1 }

/-! ## Cancelling -/

def cancelJob (id node jobId : String) : ServiceM SwarmJob := do
  match ← getJob jobId with
  | none => fail s!"Unknown daemon run '{jobId}'"
  | some job =>
    if job.state.isTerminal then pure job
    else do
      let row : SwarmJob := { job with cancelRequested := true }
      durable (t.dies id (.cancelJob node)) (·.setJob jobId row)
      pure row

def stopNode (stillRunning : Bool) (task : String × NodeRow) : ServiceM Bool :=
  if task.2.state.isSubmitted then
    match task.2.jobId with
    | none => pure stillRunning
    | some jobId => do
      let job ← cancelJob t id task.1 jobId
      pure (stillRunning || !job.state.isTerminal)
  else if task.2.state.isOpen then do
    let _ ← updateNode t id task.1 (.cancelNode task.1) (fun _ => true)
      fun row => { row with state := .cancelled }
    pure stillRunning
  else pure stillRunning

def stopGraph (state : GraphState) (failure : Bool) (states : List (String × NodeRow)) :
    ServiceM Unit := do
  let stillRunning ← states.foldlM (stopNode t id) false
  if !stillRunning then
    setState t id (if failure || state == .failing then .failed else .cancelled)
  else if failure then setState t id .failing
  else pure ()

/-! ## Dispatching -/

/-- The queue's own submission, under a deterministic job id.  Whatever goes
wrong before the row is written is the answer of `prepare`. -/
def enqueue (node : ResidentSwarmNode) (stage : Stage) (input : String) : ServiceM String :=
  let jobId := stableJobId sha ⟨id, node.id, stage⟩
  let insertJob : ServiceM String :=
    match t.prepare id node.id input with
    | .error error => fail error
    | .ok _ => do
      durable (t.dies id (.insert node.id)) fun s =>
        (s.setJob jobId ⟨.preparing, false, none⟩).modify id fun graph =>
          { graph with dispatched := graph.dispatched ++ [(node.id, stage)] }
      match t.snapshot id node.id with
      | .error error =>
        durable (t.dies id (.abandon node.id)) (·.setJob jobId ⟨.failed, false, none⟩)
        fail error
      | .ok runId =>
        durable (t.dies id (.queue node.id)) (·.setJob jobId ⟨.queued, false, some runId⟩)
        pure jobId
  if node.maxRuntimeSeconds * 1000 = 0 ∨ 7 * 24 * 60 * 60 * 1000 < node.maxRuntimeSeconds * 1000 then
    fail "daemon max runtime must be between 1 second and 7 days"
  else
    match t.refusal id node.id with
    | some refusal => fail refusal
    | none => do
      match ← getJob jobId with
      | none => insertJob
      | some existing =>
        if existing.runId.isSome then pure jobId
        else if existing.state.isTerminal then do
          durable (t.dies id (.discard node.id)) fun s => { s with jobs := s.jobs.erase jobId }
          insertJob
        else fail s!"Existing job '{jobId}' is still preparing"

def reattachDurableJobStage (id node jobId : String) (fallback : Bool) : ServiceM Bool := do
  match ← getJob jobId with
  | none => pure false
  | some _ =>
    let updated ← updateNode t id node (.attach node)
      (fun row => if fallback then row.state == .pendingFallback || row.state == .preparingFallback
        else row.state == .pending || row.state == .preparing)
      fun _ => ⟨if fallback then .submittedFallback else .submitted, some jobId⟩
    if updated then pure true
    else fail "Swarm graph cursor changed while reattaching a durable job"

def stateIn (states : List (String × NodeRow)) (node : String) : Option NodeState :=
  (states.find? (·.1 == node)).map (·.2.state)

def rowIn (states : List (String × NodeRow)) (node : String) : Option NodeRow :=
  (states.find? (·.1 == node)).map (·.2)

def freezeDependencyInput (node : ResidentSwarmNode) (states : List (String × NodeRow))
    (jobs : Table String SwarmJob) : Except String String := do
  let reports ← node.dependsOn.mapM fun dep => do
    let row ← okOr (rowIn states dep) "Unknown prerequisite node"
    refuseIf (row.state != .succeeded) "Prerequisite node is not successful"
    let jobId ← okOr row.jobId "Prerequisite has no job id"
    let job ← okOr (jobs.lookup jobId) "Prerequisite daemon job was removed"
    refuseIf (job.state != .succeeded) "Prerequisite job is not successful"
    let runId ← okOr job.runId "Prerequisite job has no run id"
    t.report runId
  t.freeze id node.id reports

def taskInput (node : ResidentSwarmNode) (fallback : Bool) (states : List (String × NodeRow))
    (jobs : Table String SwarmJob) : Except String String :=
  if fallback then okOr node.fallbackRecipe "Durable fallback recipe absent from frozen graph"
  else if node.includeDependencyReports then freezeDependencyInput t id node states jobs
  else .ok node.recipe

/-- How the loop goes on: with the next node, one more node active or not, or
not at all. -/
inductive Flow
  | next (started : Bool)
  | leave

def failNode (id node : String) : ServiceM Flow := do
  let _ ← updateNode t id node (.fail node) (fun _ => true) fun row => { row with state := .failed }
  setState t id .failing
  pure .leave

def NodeState.ready (state : NodeState) (clustered : Bool) : NodeState :=
  if clustered then if state.isFallback then .preparingFallback else .preparing
  else if state.isFallback then .pendingFallback else .pending

def NodeState.dispatched (state : NodeState) : NodeState :=
  if state.isFallback then .submittedFallback else .submitted

def NodeState.intended (state : NodeState) : NodeState :=
  if state.isFallback then .preparingFallback else .preparing

def launch (states : List (String × NodeRow)) (node : ResidentSwarmNode) (state : NodeState)
    (stage : Stage) : ServiceM Flow := do
  let jobId := stableJobId sha ⟨id, node.id, stage⟩
  if ← reattachDurableJobStage t id node.id jobId state.isFallback then pure (.next true)
  else
    let jobs ← read (·.jobs)
    match taskInput t id node state.isFallback states jobs with
    | .error _ => failNode t id node.id
    | .ok input =>
      let graph ← read (·.graphs.lookup id)
      if spec.clusterId.isSome && !(t.ownsAtEnqueue id node.id &&
          graph.any (t.majorityAtEnqueue id node.id)) then pure .leave
      else
        match ← attempt (enqueue sha t id node stage input) with
        | .ok queued =>
          let _ ← updateNode t id node.id (.record node.id)
            (·.state == state.ready spec.clusterId.isSome)
            fun _ => ⟨state.dispatched, some queued⟩
          pure (.next true)
        | .error _ => if t.refusesAfter id node.id then pure .leave else failNode t id node.id

/-- The dispatch intent of a clustered node: its job id, before any job. -/
def intend (id node : String) (state : NodeState) (stage : Stage) : ServiceM Flow := do
  let jobId := stableJobId sha ⟨id, node, stage⟩
  if ← reattachDurableJobStage t id node jobId state.isFallback then pure (.next true)
  else if ← updateNode t id node (.intent node) (·.state == state)
      fun _ => ⟨state.intended, some jobId⟩ then pure (.next true)
  else fail "Cluster dispatch cursor changed while reserving intent"

def dispatchNode (states : List (String × NodeRow)) (node : ResidentSwarmNode) : ServiceM Flow :=
  match stateIn states node.id with
  | none => pure (.next false)
  | some state =>
    if !state.isOpen then pure (.next false)
    else if !node.dependsOn.all (fun dep => stateIn states dep == some .succeeded) then
      pure (.next false)
    else do
      let graph ← read (·.graphs.lookup id)
      let stage := (graph.map (·.stage node.id state)).getD .primary
      if spec.clusterId.isSome && state.isPending then intend sha t id node.id state stage
      else if spec.clusterId.isSome && !graph.any (t.majority id node.id) then pure (.next false)
      else launch sha t id spec states node state stage

def dispatchNodes (t : Turn) (id : String) (spec : ResidentSwarmSpec)
    (states : List (String × NodeRow)) : Nat → List ResidentSwarmNode → ServiceM Unit
  | _, [] => pure ()
  | active, node :: rest =>
    if spec.maxParallel ≤ active then pure ()
    else do
      match ← dispatchNode sha t id spec states node with
      | .next started => dispatchNodes t id spec states (active + started.toNat) rest
      | .leave => pure ()

/-! ## Ticks -/

def tickGraph (state : GraphState) : ServiceM Unit :=
  match validate spec with
  | .error error => fail error
  | .ok _ =>
    if state == .running && spec.clusterId.isSome && !t.ownsAtStart id then pure ()
    else do
      let tasks ← read fun s => ((s.graphs.lookup id).map (·.tasks)).getD []
      let tally ← tasks.foldlM (settleNode sha t id spec) ⟨false, 0⟩
      let states ← read fun s => ((s.graphs.lookup id).map (·.tasks)).getD []
      let failure := tally.failure || states.any (·.2.state == .failed)
      if state == .cancelling || state == .failing || failure then stopGraph t id state failure states
      else if states.all (·.2.state == .succeeded) then setState t id .succeeded
      else if spec.clusterId.isSome && !t.ownsAtDispatch id then pure ()
      else if t.killSwitch id || t.closed id then pure ()
      else dispatchNodes sha t id spec states tally.active spec.nodes

/-- `SELECT … WHERE state IN (…) ORDER BY created_at_ms LIMIT 100`. -/
def openGraphs (s : Service) : List (String × Graph) :=
  (orderBy (·.2.createdAtMs)
    ((s.graphs.entries.map fun entry => (entry.1, entry.2)).filter
      (!·.2.state.isTerminal))).take 100

def tick : ServiceM Unit := do
  let graphs ← read openGraphs
  graphs.forM fun graph => tickGraph sha t graph.1 graph.2.spec graph.2.state

end

/-! ## Registration and cancellation -/

structure Registration where
  snapshots : String
  now : Nat
  /-- The cluster's refusal, at the start and right before the registration. -/
  (ownership freshOwnership : Option String)
  freeze : ResidentSwarmNode → Option String

def ResidentSwarmNode.frozen (node : ResidentSwarmNode) (snapshots id : String) :
    ResidentSwarmNode :=
  { node with
    recipe := snapshots ++ "/resident-swarm-" ++ id ++ "-" ++ node.id ++ ".json"
    fallbackRecipe := node.fallbackRecipe.map fun _ =>
      snapshots ++ "/resident-swarm-" ++ id ++ "-" ++ node.id ++ "-fallback.json" }

def ResidentSwarmSpec.frozen (snapshots : String) : ResidentSwarmSpec :=
  { spec with nodes := spec.nodes.map (·.frozen snapshots spec.id) }

def newGraph (now : Nat) : Graph where
  spec := spec
  state := .running
  createdAtMs := now
  nodes := spec.nodes.foldl (fun rows node => rows.insert node.id ⟨.pending, none⟩) ∅
  reassignments := ∅
  dispatched := []

def submit (r : Registration) (spec : ResidentSwarmSpec) : ServiceM Unit := do
  match validate spec with
  | .error error => fail error
  | .ok _ =>
    match if spec.clusterId.isSome then r.ownership else none with
    | some refusal => fail refusal
    | none =>
      if ← read (·.graphs.lookup spec.id |>.isSome) then
        fail "Swarm graph id already exists; use a new id"
      else
        match spec.nodes.findSome? r.freeze with
        | some error => fail error
        | none =>
          match if spec.clusterId.isSome then r.freshOwnership else none with
          | some refusal => fail refusal
          | none => write (·.setGraph spec.id (newGraph (spec.frozen r.snapshots) r.now))

def requestCancel : ServiceM Unit :=
  if !validId id then fail "Invalid swarm id"
  else do
    match ← read (·.graphs.lookup id) with
    | none => fail "Graph not running or unknown"
    | some graph =>
      if graph.state == .running then write (·.setGraph id (graph.setState .cancelling))
      else fail "Graph not running or unknown"

end LittleMonkey.Swarm.Resident
