import LittleMonkey.Lib.Footprint
import LittleMonkey.Swarm.Coordinator
import LittleMonkey.Swarm.Replication

/-! # Armed failover plans

An operator arms plans that name a predecessor's graph; a tick of the worker claims a plan,
registers its prepared graph under a new id, and marks the plan.  Each SQL statement or
transaction is one statement here, and a tick may stop between any two.  `Bundles` reads the
bytes of a bundle, and `Outside` is what a registration finds on the disk and on the clock.
-/

namespace LittleMonkey.Swarm.Failover

open Guards Primitives Transaction Interleaving
open Cluster hiding validId
open Replication
open Resident (ResidentSwarmSpec ResidentSwarmNode Service)

def maxPlans : Nat := 8
def maxCheckpointAgeMs : Int := 10 * 60 * 1000
def witnessTtlMs : Int := 12000

def validId (value : String) : Bool :=
  1 ≤ value.utf8ByteSize && value.utf8ByteSize ≤ 80 &&
    (textBytes value).head?.any isAsciiAlphanumeric &&
    (textBytes value).all fun c => isAsciiAlphanumeric c || c == 95 || c == 45

inductive PlanState
  | armed | claimed | imported | failed
  deriving DecidableEq

abbrev SourceKey := String × String × String

structure PlanRow where
  (group sourceGraph : String)
  sourceFingerprint : Option String
  (newGraph bundlePath bundleSha256 workspace : String)
  state : PlanState
  createdAtMs : Int
  claimedAtMs : Option Int
  message : Option String

def PlanRow.source (row : PlanRow) : Option SourceKey :=
  row.sourceFingerprint.map fun fp => (row.group, row.sourceGraph, fp)

structure ArmedPlan where
  (id group sourceGraph sourceFingerprint newGraph path hash workspace : String)
  state : PlanState

def ArmedPlan.source (plan : ArmedPlan) : SourceKey :=
  (plan.group, plan.sourceGraph, plan.sourceFingerprint)

abbrev WitnessKey := String × String × String × Nat × String

structure WitnessRow where
  source : Option ReplicaSnapshot
  observedAtMs : Int

/-- The tables a tick reads and writes.  `claims` and `imports` are the record of every claim
that was committed and of every graph that was registered by a plan. -/
structure FailoverDb where
  replica : ReplicaStore
  witnesses : Table WitnessKey WitnessRow
  service : Service
  plans : Table String PlanRow
  sources : Table SourceKey String
  (claims imports : List (SourceKey × String))

variable (db : FailoverDb)

abbrev FailoverDb.cluster : Cluster.Store := db.replica.cluster

abbrev Flow := Prog String FailoverDb

def look {α : Type} (f : FailoverDb → Except String α) : Flow α := Prog.statement fun db => (f db, db)

/-! ## Schema -/

def FailoverDb.claimedPlans : List (SourceKey × String) :=
  ((db.plans.entries.filter fun entry => entry.2.state = .claimed || entry.2.state = .imported).insertionSort
    fun a b => a.2.createdAtMs < b.2.createdAtMs ∨
      (a.2.createdAtMs = b.2.createdAtMs ∧ textLe a.1 b.1)).filterMap
    fun entry => entry.2.source.map fun key => (key, entry.1)

def insertOrIgnore (sources : Table SourceKey String) (claim : SourceKey × String) :
    Table SourceKey String :=
  if (sources.lookup claim.1).isSome then sources else sources.insert claim.1 claim.2

def schema : Flow Unit :=
  Prog.write fun db => { db with sources := db.claimedPlans.foldl insertOrIgnore db.sources }

/-! ## Arming -/

structure Bundles where
  sha : Bytes → String
  codec : Codec
  /-- The parsed and verified bundle: its source graph and its spec. -/
  opened : Bytes → Except String (String × ResidentSwarmSpec)
  relocated : Bytes → Except String Unit

section

variable (bundles : Bundles)

def Bundles.inspectReadOnlyBundle (bytes : Bytes) : Except String (String × Option String) := do
  let (source, spec) ← bundles.opened bytes
  bundles.relocated bytes
  pure (source, spec.clusterId)

/-- The operator's arguments and what their paths turn out to be. -/
structure ArmRequest where
  (id group sourcePeer newGraph : String)
  absolutePaths : Bool
  bundle : Except String Bytes
  (canonicalInput canonicalWorkspace : Except String String)
  realDirectory : Bool
  canonicalBundle : Except String Bytes
  now : Int

def FailoverDb.insertPlan (id : String) (row : PlanRow) : Except String Unit × FailoverDb :=
  if (db.plans.lookup id).isSome || db.plans.entries.any (fun entry => entry.2.newGraph = row.newGraph) then
    (.error "Unable to arm unique operator failover plan: UNIQUE constraint failed", db)
  else (.ok (), { db with plans := db.plans.insert id row })

def arm (request : ArmRequest) : Flow Unit := do
  Prog.ofExcept (refuseIf (!validId request.id || !validId request.group || !validId request.newGraph ||
      request.now ≤ 0 || !request.absolutePaths)
    "Invalid operator failover plan identities or absolute paths")
  let bundle ← Prog.ofExcept request.bundle
  let input ← Prog.ofExcept request.canonicalInput
  let workspace ← Prog.ofExcept request.canonicalWorkspace
  Prog.ofExcept (refuseIf (!request.realDirectory)
    "Failover destination must be an existing real directory")
  let staged ← Prog.ofExcept request.canonicalBundle
  let (sourceGraph, sourceCluster) ← Prog.ofExcept (bundles.inspectReadOnlyBundle staged)
  Prog.ofExcept (refuseIf (sourceGraph = request.newGraph || sourceCluster ≠ some request.group)
    "Prepared read-only bundle must be from this exact cluster, with a NEW target graph identity")
  let registered ← look fun db => roster db.cluster request.group
  let source ← Prog.ofExcept (okOr
    (registered.roster.members.find? fun m => m.aliasName = some request.sourcePeer && !m.isLocal)
    "Previous leader must be a specific operator-enrolled signed peer alias")
  schema
  let count ← Prog.read fun db => db.plans.entries.length
  Prog.ofExcept (refuseIf (maxPlans ≤ count) "Automatic failover plan capacity reached")
  Prog.statement fun db => db.insertPlan request.id
    ⟨request.group, sourceGraph, some source.fingerprint, request.newGraph, input, bundles.sha bundle,
      workspace, .armed, request.now, none, none⟩

/-! ## Eligibility -/

def PlanRow.pending (row : PlanRow) (id : String) : Option ArmedPlan :=
  if row.state = .armed || row.state = .claimed then
    row.sourceFingerprint.map fun fp =>
      ⟨id, row.group, row.sourceGraph, fp, row.newGraph, row.bundlePath, row.bundleSha256,
        row.workspace, row.state⟩
  else none

def FailoverDb.pending : List ArmedPlan :=
  ((db.plans.entries.insertionSort fun a b => a.2.createdAtMs ≤ b.2.createdAtMs).filterMap
    fun entry => entry.2.pending entry.1).take 8

def pending : Flow (List ArmedPlan) := do
  schema
  Prog.read (·.pending)

def FailoverDb.currentTerm (group leader : String) (now : Int) : Option Nat :=
  ((db.cluster.leases.lookup group).filter fun row =>
    row.leader = leader && now < row.expiresAtMs).map (·.term)

def listLocal (group graph : String) : Except String (List ReplicaSnapshot) := do
  refuseIf (!Resident.validId group || !Resident.validId graph) "Invalid cluster or graph identity"
  let _ ← roster db.cluster group
  pure (((db.replica.checkpoints.entries.filter fun entry =>
      entry.1.1 = group && entry.1.2.1 = graph).insertionSort
    fun a b => textLe a.1.2.2 b.1.2.2).map (·.2.snapshot) |>.take 7)

def allPending (snapshot : ReplicaSnapshot) : Bool :=
  snapshot.nodes.all fun node => node.state = "pending" && node.jobId.isNone

def FailoverDb.witnessRows (group graph source : String) (term : Nat) (now : Int) :
    List (String × Option ReplicaSnapshot) :=
  db.witnesses.entries.filterMap fun entry =>
    if entry.1.1 = group && entry.1.2.1 = graph && entry.1.2.2.1 = source && entry.1.2.2.2.1 = term &&
        saturatingSub now witnessTtlMs ≤ entry.2.observedAtMs then
      some (entry.1.2.2.2.2, entry.2.source)
    else none

def countWitnesses (registered : EnrolledRoster) (mine : ReplicaSnapshot) (term : Nat) (now : Int)
    (seen : List String) : List (String × Option ReplicaSnapshot) → Except String (Option (List String))
  | [] => .ok (some seen)
  | (fp, raw) :: rest =>
    if !registered.roster.members.any (fun m => !m.isLocal && m.fingerprint = fp) then
      countWitnesses registered mine term now seen rest
    else
      match raw with
      | none => countWitnesses registered mine term now seen rest
      | some observation => do
        observation.validate bundles.sha bundles.codec now
        if observation.key ≠ mine.key || observation.rosterSha256 ≠ mine.rosterSha256 ||
            term ≤ observation.term || !allPending observation then
          .ok none
        else countWitnesses registered mine term now (insert fp seen) rest

def majorityConfirmsNoDispatch (plan : ArmedPlan) (mine : ReplicaSnapshot) (now : Int) : Flow Bool := do
  let registered ← look fun db => roster db.cluster plan.group
  if registered.localMember.fingerprint = plan.sourceFingerprint || !allPending mine ||
      mine.key ≠ plan.source || mine.rosterSha256 ≠ registered.roster.digest bundles.sha then
    pure false
  else do
    let leads ← look fun db => maySchedule db.cluster plan.group now
    if !leads then pure false
    else do
      let term ← look fun db => okOr
        (db.currentTerm plan.group registered.localMember.fingerprint now)
        "No local signed majority term for recovery"
      if term = 0 || term ≤ mine.term then pure false
      else do
        let rows ← Prog.read fun db =>
          db.witnessRows plan.group plan.sourceGraph plan.sourceFingerprint term now
        let seen ← Prog.ofExcept (countWitnesses bundles registered mine term now [] rows)
        pure (seen.any fun fps => registered.roster.members.length / 2 < fps.length + 1)

def ArmedPlan.accepts (plan : ArmedPlan) (registered : EnrolledRoster) (term : Nat) (now : Int)
    (snapshot : ReplicaSnapshot) : Bool :=
  snapshot.sourceFingerprint = plan.sourceFingerprint &&
    snapshot.sourceFingerprint ≠ registered.localMember.fingerprint &&
    snapshot.rosterSha256 = registered.roster.digest bundles.sha && snapshot.term < term &&
    snapshot.capturedAtMs ≤ now + 5000 &&
    saturatingSub now snapshot.capturedAtMs ≤ maxCheckpointAgeMs && allPending snapshot

def anyConfirmed (plan : ArmedPlan) (now : Int) : List ReplicaSnapshot → Flow Bool
  | [] => pure false
  | snapshot :: rest => do
    if ← majorityConfirmsNoDispatch bundles plan snapshot now then pure true
    else anyConfirmed plan now rest

def eligible (plan : ArmedPlan) (now : Int) : Flow Bool := do
  let killed ← Prog.read fun db => db.cluster.killSwitch
  if killed then pure false
  else do
    let leads ← look fun db => maySchedule db.cluster plan.group now
    if !leads then pure false
    else do
      let registered ← look fun db => roster db.cluster plan.group
      let term ← look fun db => okOr
        (db.currentTerm plan.group registered.localMember.fingerprint now)
        "No locally certified, unexpired majority term"
      let rows ← look fun db => listLocal db plan.group plan.sourceGraph
      anyConfirmed bundles plan now (rows.filter (plan.accepts bundles registered term now))

/-! ## Registration -/

structure Outside where
  bundle : Except String Bytes
  (staged workspace : Except String Unit)
  /-- Why a frozen recipe is not the approved one, before and after the import. -/
  (recipes recipesAgain : Except String Unit)
  snapshots : String
  importStaged : Except String Unit
  freeze : ResidentSwarmNode → Except String Unit
  clock : Int
  registeredAt : Nat
  freshClock : Int

def renamed (spec : ResidentSwarmSpec) (id : String) : ResidentSwarmSpec :=
  { spec with id := id }

def verifyExistingImport (plan : ArmedPlan) (out : Outside) (recipes : Except String Unit)
    (bytes : Bytes) : Flow Bool := do
  let (source, spec) ← Prog.ofExcept (bundles.opened bytes)
  Prog.ofExcept (refuseIf (plan.newGraph = source) "Recovered graph cannot reuse its predecessor identity")
  Prog.ofExcept out.workspace
  Prog.ofExcept (refuseIf (!Resident.validId plan.newGraph) "Invalid swarm id")
  match ← Prog.read fun db => db.service.graphs.lookup plan.newGraph with
  | none => pure false
  | some graph => do
    Prog.ofExcept (refuseIf (graph.spec ≠ (renamed spec plan.newGraph).frozen out.snapshots)
      "Registered graph differs from operator-approved recovery plan")
    let nodes ← Prog.read fun db =>
      ((db.service.graphs.lookup plan.newGraph).map (·.nodes.entries.length)).getD 0
    Prog.ofExcept (refuseIf (nodes ≠ spec.nodes.length)
      "Previously imported graph has an incomplete node ledger")
    Prog.ofExcept recipes
    pure true

def ownership (spec : ResidentSwarmSpec) (now : Int) : Flow (Option (String × String × Nat)) :=
  match spec.clusterId with
  | none => pure none
  | some group => do
    let registered ← look fun db => roster db.cluster group
    let leads ← look fun db => maySchedule db.cluster group now
    Prog.ofExcept (refuseIf (!leads)
      "Only the current signed majority leader may register a runnable clustered graph")
    let leader := registered.localMember.fingerprint
    let term ← look fun db => okOr (db.currentTerm group leader now)
      "Cluster ownership requires an unexpired signed majority term"
    pure (some (group, leader, term))

/-- The recipes may have taken longer to freeze than the lease lasts. -/
def stillOwned (owned : Option (String × String × Nat)) (now : Int) : Flow Unit :=
  match owned with
  | none => pure ()
  | some (group, leader, term) => do
    let fresh ← Prog.read fun db => db.currentTerm group leader now
    Prog.ofExcept (refuseIf (fresh ≠ some term) "Leader lease or term changed while freezing clustered DAG")
    let leads ← look fun db => maySchedule db.cluster group now
    Prog.ofExcept (refuseIf (!leads) "Leader lease or term changed while freezing clustered DAG")

def FailoverDb.registerGraph (plan : ArmedPlan) (spec : ResidentSwarmSpec) (now : Nat) :
    Except String Unit × FailoverDb :=
  if (db.service.graphs.lookup spec.id).isSome then
    (.error "UNIQUE constraint failed: resident_swarm_graphs.graph_id", db)
  else
    (.ok (), { db with
      service := db.service.setGraph spec.id (Resident.newGraph spec now)
      imports := db.imports ++ [(plan.source, spec.id)] })

def submit (plan : ArmedPlan) (out : Outside) (spec : ResidentSwarmSpec) : Flow Unit := do
  let _ ← Prog.ofExcept (Resident.validate spec)
  let owned ← ownership spec out.clock
  let existing ← Prog.read fun db => (db.service.graphs.lookup spec.id).isSome
  Prog.ofExcept (refuseIf existing "Swarm graph id already exists; use a new id")
  Prog.ofExcept (spec.nodes.forM out.freeze)
  stillOwned owned out.freshClock
  Prog.statement fun db => db.registerGraph plan (spec.frozen out.snapshots) out.registeredAt

def importReadOnly (plan : ArmedPlan) (out : Outside) (bytes : Bytes) : Flow Unit := do
  let (source, spec) ← Prog.ofExcept (bundles.opened bytes)
  Prog.ofExcept (refuseIf (plan.newGraph = source) "Imported graph needs a new id to prohibit receipt reuse")
  Prog.ofExcept out.workspace
  let _ ← Prog.ofExcept (Resident.validate (renamed spec plan.newGraph))
  Prog.ofExcept out.importStaged
  submit plan out (renamed spec plan.newGraph)

def reconcile (plan : ArmedPlan) (out : Outside) (bytes : Bytes) (imported : Except String Unit) :
    Flow Unit :=
  match imported with
  | .ok _ => pure ()
  | .error reason => do
    if ← verifyExistingImport bundles plan out out.recipesAgain bytes then pure ()
    else Prog.fail reason

def operation (plan : ArmedPlan) (now : Int) (out : Outside) : Flow Unit := do
  let actual ← Prog.ofExcept out.bundle
  Prog.ofExcept (refuseIf (bundles.sha actual ≠ plan.hash)
    "Armed recovery bytes were modified after explicit approval")
  Prog.ofExcept out.staged
  let (source, group) ← Prog.ofExcept (bundles.inspectReadOnlyBundle actual)
  Prog.ofExcept (refuseIf (source ≠ plan.sourceGraph || group ≠ some plan.group)
    "Staged recovery identity or cluster changed")
  let leads ← look fun db => maySchedule db.cluster plan.group now
  Prog.ofExcept (refuseIf (!leads) "Local majority lease was lost before recovery registration")
  if ← verifyExistingImport bundles plan out out.recipes actual then pure ()
  else do
    let confirmed ← eligible bundles plan now
    Prog.ofExcept (refuseIf (!confirmed) "Read-only registration still needs a fresh no-dispatch majority")
    let imported ← (importReadOnly bundles plan out actual).attempt
    reconcile bundles plan out actual imported

/-! ## Ticks -/

/-- The source and the plan are claimed together; an error rolls both back. -/
def claimBody (plan : ArmedPlan) (now : Int) : Body Unit FailoverDb Unit := do
  let taken ← read fun db => (db.sources.lookup plan.source).isSome
  require taken ()
  write fun db => { db with sources := db.sources.insert plan.source plan.id }
  let armed ← read fun db => (db.plans.lookup plan.id).filter (·.state = .armed)
  match armed with
  | none => require true ()
  | some row =>
    write fun db => { db with
      plans := db.plans.insert plan.id { row with state := .claimed, claimedAtMs := some now }
      claims := db.claims ++ [(plan.source, plan.id)] }

/-- `true` if this call made the claim. -/
def claim (plan : ArmedPlan) (now : Int) : Flow Bool :=
  Prog.statement fun db => ((.ok (commit (claimBody plan now) db).1.toBool), (commit (claimBody plan now) db).2)

def mark (id : String) (state : PlanState) (now : Int) (message : String) : Flow Unit :=
  Prog.write fun db => { db with
    plans := updateRows (fun key row => key = id && row.state = .claimed)
      (fun row => { row with
        state := state, claimedAtMs := some (row.claimedAtMs.getD now)
        message := some (String.ofList (message.toList.take 240)) }) db.plans }

def contains (text piece : String) : Bool := text.toList.tails.any (piece.toList.isPrefixOf ·)

def finish (plan : ArmedPlan) (now : Int) (result : Except String Unit) : Flow Unit :=
  match result with
  | .ok _ => mark plan.id .imported now
      "Approved graph registered or crash-reconciled; original jobs never reused"
  | .error reason =>
    if contains reason "still needs a fresh no-dispatch majority" ||
        contains reason "lease was lost before recovery registration" then
      mark plan.id .claimed now "Awaiting fresh majority to safely reconcile claimed recovery"
    else do
      mark plan.id .failed now "Automatic failover stopped; operator must inspect local plan and graph"
      Prog.fail reason

/-- The claim of an armed plan, or the check of a claimed one; `false` ends the call. -/
def authorize (plan : ArmedPlan) (now : Int) : Flow Bool :=
  match plan.state with
  | .armed => do
    if ← eligible bundles plan now then claim plan now else pure false
  | .claimed => do
    let owner ← Prog.read fun db => db.sources.lookup plan.source
    Prog.ofExcept (refuseIf (owner ≠ some plan.id)
      "Claimed source is owned by a different authorized recovery plan")
    pure true
  | _ => pure false

def consume (plan : ArmedPlan) (now : Int) (out : Outside) : Flow Unit := do
  schema
  if ← authorize bundles plan now then do
    let result ← (operation bundles plan now out).attempt
    finish plan now result
  else pure ()

def runOnce (now : Int) (outside : ArmedPlan → Outside) : Flow Unit := do
  let plans ← pending
  Prog.forEach (fun plan => do
    let _ ← (consume bundles plan now (outside plan)).attempt
    pure ()) plans

end

end LittleMonkey.Swarm.Failover
