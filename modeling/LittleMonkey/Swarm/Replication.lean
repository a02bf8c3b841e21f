import LittleMonkey.Swarm.Election
import LittleMonkey.Swarm.Resident

/-! # Replicated checkpoints

A leader publishes the states of its graph's nodes to the members of its cluster.  Each
member keeps the latest checkpoint of a source and graph: what comes again or too late is
refused, and the oldest rows of the table make room for new ones.  SHA-256 is the parameter
`sha`, and `Codec` is the JSON of what is hashed and stored.
-/

namespace LittleMonkey.Swarm.Replication

open Guards Primitives Transaction
open Cluster hiding validId
open Resident (validId isIdByte)

def maxGraphNodes : Nat := 16
def maxCheckpointBytes : Nat := 64 * 1024
def maxAgeMs : Int := 5 * 60 * 1000
def maxStoredSnapshots : Nat := 1024
def maxTraceEvents : Nat := 48

structure ReplicaNode where
  (id state : String)
  jobId : Option String
  deriving DecidableEq

structure ReplicaTraceEvent where
  sequence : Nat
  nodeId : Option String
  (kind state : String)
  occurredAtMs : Int
  deriving DecidableEq

structure ReplicaModelUsage where
  (nodeId status targetId : String)
  (elapsedMs inputTokens outputTokens cachedInputTokens modelCalls : Nat)
  costMicros : Option Nat
  deriving DecidableEq

structure ReplicaSnapshot where
  version : Nat
  (group graphId sourceFingerprint rosterSha256 : String)
  (sequence term : Nat)
  capturedAtMs : Int
  graphState : String
  nodes : List ReplicaNode
  traceEvents : List ReplicaTraceEvent
  modelUsage : List ReplicaModelUsage
  checksum : String
  deriving DecidableEq

/-- The tuple the checksum is taken of; a version seals the lists it knows. -/
structure Sealed where
  version : Nat
  (group graphId sourceFingerprint rosterSha256 : String)
  (sequence term : Nat)
  capturedAtMs : Int
  graphState : String
  nodes : List ReplicaNode
  traceEvents : Option (List ReplicaTraceEvent)
  modelUsage : Option (List ReplicaModelUsage)

def ReplicaSnapshot.sealed (snapshot : ReplicaSnapshot) : Sealed where
  version := snapshot.version
  group := snapshot.group
  graphId := snapshot.graphId
  sourceFingerprint := snapshot.sourceFingerprint
  rosterSha256 := snapshot.rosterSha256
  sequence := snapshot.sequence
  term := snapshot.term
  capturedAtMs := snapshot.capturedAtMs
  graphState := snapshot.graphState
  nodes := snapshot.nodes
  traceEvents := if snapshot.version = 1 then none else some snapshot.traceEvents
  modelUsage := if snapshot.version = 1 || snapshot.version = 2 then none else some snapshot.modelUsage

/-- The JSON of the sealed tuple, and the length of that of a stored checkpoint. -/
structure Codec where
  sealedJson : Sealed → Bytes
  storedLength : ReplicaSnapshot → Nat

section

variable (sha : Bytes → String) (codec : Codec)

def ReplicaSnapshot.hash (snapshot : ReplicaSnapshot) : String := sha (codec.sealedJson snapshot.sealed)

def validState (s : String) : Bool :=
  ["running", "failing", "cancelling", "succeeded", "failed", "cancelled", "pending", "pending_fallback",
    "preparing", "preparing_fallback", "submitted", "submitted_fallback"].contains s

def ReplicaNode.malformed (node : ReplicaNode) (unique : List String) : Bool :=
  !validId node.id || !validState node.state || unique.contains node.id ||
    node.jobId.any fun x => 120 < x.utf8ByteSize || x.utf8ByteSize < 4 || !(textBytes x).all isIdByte

def checkNodes (unique : List String) : List ReplicaNode → Except String (List String)
  | [] => .ok unique
  | node :: rest =>
    if node.malformed unique then .error "Malformed or duplicate DAG checkpoint task"
    else checkNodes (node.id :: unique) rest

def isTargetByte (c : UInt8) : Bool :=
  isAsciiAlphanumeric c || [45, 95, 46, 58, 47, 64, 43, 37].contains c

def ReplicaModelUsage.malformed (usage : ReplicaModelUsage) (nodes : List ReplicaNode)
    (unique seen : List String) : Bool :=
  !unique.contains usage.nodeId ||
    !nodes.any (fun node => node.id = usage.nodeId && node.state = usage.status) ||
    !(usage.status = "succeeded" || usage.status = "failed") || seen.contains usage.nodeId ||
    usage.targetId.isEmpty || 160 < usage.targetId.utf8ByteSize ||
    !(textBytes usage.targetId).all isTargetByte || 3600000 * 24 < usage.elapsedMs ||
    100000000 < usage.inputTokens || 100000000 < usage.outputTokens ||
    usage.inputTokens < usage.cachedInputTokens || usage.modelCalls = 0 || 100000 < usage.modelCalls ||
    usage.costMicros.any fun cost => 1000000000000 < cost

def checkUsage (nodes : List ReplicaNode) (unique seen : List String) :
    List ReplicaModelUsage → Except String Unit
  | [] => .ok ()
  | usage :: rest =>
    if usage.malformed nodes unique seen then .error "Malformed or unrelated metered inference telemetry"
    else checkUsage nodes unique (usage.nodeId :: seen) rest

def ReplicaTraceEvent.malformed (event : ReplicaTraceEvent) (capturedAtMs : Int) (unique : List String)
    (last : Nat) : Bool :=
  event.sequence ≤ last || i64Max < event.sequence || event.occurredAtMs ≤ 0 ||
    saturatingAdd capturedAtMs 5000 < event.occurredAtMs ||
    event.nodeId.any (fun id => !unique.contains id) || !validState event.state ||
    !(["graph_created", "graph_transition", "node_created", "node_transition"].contains event.kind)

def checkTrace (capturedAtMs : Int) (unique : List String) (last : Nat) :
    List ReplicaTraceEvent → Except String Unit
  | [] => .ok ()
  | event :: rest =>
    if event.malformed capturedAtMs unique last then .error "Invalid signed remote trace event"
    else checkTrace capturedAtMs unique event.sequence rest

def ReplicaSnapshot.validate (snapshot : ReplicaSnapshot) (now : Int) : Except String Unit := do
  refuseIf (!(snapshot.version = 1 || snapshot.version = 2 || snapshot.version = 3) ||
      !validId snapshot.group || !validId snapshot.graphId || !validFp snapshot.sourceFingerprint ||
      !validFp snapshot.rosterSha256 || snapshot.sequence = 0 || i64Max < snapshot.sequence ||
      snapshot.term = 0 || maxElectionTerm < snapshot.term || snapshot.capturedAtMs ≤ 0 ||
      saturatingAdd now 5000 < snapshot.capturedAtMs ||
      maxAgeMs < saturatingSub now snapshot.capturedAtMs || !validState snapshot.graphState ||
      snapshot.nodes.isEmpty || maxGraphNodes < snapshot.nodes.length ||
      snapshot.checksum ≠ snapshot.hash sha codec)
    "Invalid, stale or incorrectly checksummed signed DAG checkpoint"
  let unique ← checkNodes [] snapshot.nodes
  refuseIf (snapshot.version = 1 && !snapshot.traceEvents.isEmpty ||
      maxTraceEvents < snapshot.traceEvents.length)
    "Unsupported or excessive distributed trace events"
  refuseIf (snapshot.version < 3 && !snapshot.modelUsage.isEmpty ||
      maxGraphNodes < snapshot.modelUsage.length)
    "Unsupported or excessive original-host inference telemetry"
  checkUsage snapshot.nodes unique [] snapshot.modelUsage
  checkTrace snapshot.capturedAtMs unique 0 snapshot.traceEvents

/-! ## The table -/

abbrev CheckpointKey := String × String × String

def ReplicaSnapshot.key (snapshot : ReplicaSnapshot) : CheckpointKey :=
  (snapshot.group, snapshot.graphId, snapshot.sourceFingerprint)

/-- A row of `resident_swarm_peer_checkpoints`; `snapshot` is what `snapshot_json` reads back as. -/
structure CheckpointRow where
  (rowid sequence term : Nat)
  checksum : String
  snapshot : ReplicaSnapshot
  updatedAtMs : Int
  deriving DecidableEq

abbrev Checkpoints := Table CheckpointKey CheckpointRow

structure ReplicaStore where
  cluster : Cluster.Store
  checkpoints : Checkpoints

def Checkpoints.nextRowid (rows : Checkpoints) : Nat :=
  rows.entries.foldl (fun next entry => max next (entry.2.rowid + 1)) 1

def Checkpoints.upsert (rows : Checkpoints) (snapshot : ReplicaSnapshot) (now : Int) : Checkpoints :=
  let rowid := ((rows.lookup snapshot.key).map (·.rowid)).getD rows.nextRowid
  rows.insert snapshot.key
    ⟨rowid, snapshot.sequence, snapshot.term, snapshot.checksum, snapshot, now⟩

/-- `ORDER BY updated_at_ms DESC, rowid DESC`. -/
def isNewer (a b : (_ : CheckpointKey) × CheckpointRow) : Prop :=
  b.2.updatedAtMs < a.2.updatedAtMs ∨ (b.2.updatedAtMs = a.2.updatedAtMs ∧ b.2.rowid ≤ a.2.rowid)

instance : DecidableRel isNewer := fun a b => by unfold isNewer; infer_instance

def Checkpoints.evict (rows : Checkpoints) : Checkpoints :=
  ((rows.entries.insertionSort isNewer).drop maxStoredSnapshots).foldl
    (fun rows entry => rows.erase entry.1) rows

/-! ## Ingest -/

def ReplicaStore.admits (s : ReplicaStore) (sourceDevice : String) (snapshot : ReplicaSnapshot)
    (now : Int) : Except String Unit := do
  snapshot.validate sha codec now
  let registered ← roster s.cluster snapshot.group
  refuseIf (registered.roster.digest sha != snapshot.rosterSha256 ||
      !registered.roster.members.any fun m =>
        m.deviceId == sourceDevice && m.fingerprint == snapshot.sourceFingerprint)
    "Signed checkpoint publisher is not an enrolled cluster member"
  refuseIf s.cluster.killSwitch "Global kill switch prevents DAG checkpoint writes"
  refuseIf (maxCheckpointBytes < codec.storedLength snapshot) "DAG checkpoint exceeds 64 KiB"

def storeCheckpoint (snapshot : ReplicaSnapshot) (now : Int) : Body String ReplicaStore Bool := do
  write fun s => { s with checkpoints := s.checkpoints.upsert snapshot now }
  write fun s => { s with checkpoints := s.checkpoints.evict }
  pure true

def ingestBody (snapshot : ReplicaSnapshot) (now : Int) : Body String ReplicaStore Bool := do
  let old ← read (·.checkpoints.lookup snapshot.key)
  match old with
  | none => storeCheckpoint snapshot now
  | some row => do
    require (snapshot.term < row.term || snapshot.sequence < row.sequence)
      "Stale DAG checkpoint term or sequence"
    if snapshot.sequence = row.sequence then do
      require (!(row.checksum = snapshot.checksum && snapshot.term = row.term))
        "Conflicting DAG checkpoint at the same sequence"
      pure false
    else storeCheckpoint snapshot now

def ingest (sourceDevice : String) (snapshot : ReplicaSnapshot) (now : Int) (s : ReplicaStore) :
    Except String Bool × ReplicaStore :=
  guarded (s.admits sha codec sourceDevice snapshot now) (fun _ => ingestBody snapshot now) s

end

/-! ## What an ingest does -/

section

variable {sha : Bytes → String} {codec : Codec} {sourceDevice : String} {snapshot : ReplicaSnapshot}
  {now : Int} {s t : ReplicaStore}

def ReplicaStore.row (s : ReplicaStore) (key : CheckpointKey) : Option CheckpointRow :=
  s.checkpoints.lookup key

theorem storeCheckpoint_ok {changed} (h : storeCheckpoint snapshot now s = .ok changed t) :
    changed = true ∧ t = { s with checkpoints := (s.checkpoints.upsert snapshot now).evict } := by
  simp only [storeCheckpoint, bind_eq_done, write_eq_ok] at h
  obtain ⟨_, _, rfl, _, _, rfl, rfl, rfl⟩ := h
  exact ⟨rfl, rfl⟩

def Advances (snapshot : ReplicaSnapshot) (s : ReplicaStore) : Prop :=
  ∀ row, s.row snapshot.key = some row → row.term ≤ snapshot.term ∧ row.sequence < snapshot.sequence

def Repeats (snapshot : ReplicaSnapshot) (s : ReplicaStore) : Prop :=
  ∃ row, s.row snapshot.key = some row ∧ row.sequence = snapshot.sequence ∧
    row.term = snapshot.term ∧ row.checksum = snapshot.checksum

theorem ingestBody_ok {changed} (h : ingestBody snapshot now s = .ok changed t) :
    (changed = false ∧ Repeats snapshot s ∧ t = s) ∨ (changed = true ∧ Advances snapshot s ∧
      t = { s with checkpoints := (s.checkpoints.upsert snapshot now).evict }) := by
  simp only [ingestBody, bind_eq_done] at h
  obtain ⟨_, _, ⟨rfl, rfl⟩, h⟩ := h
  cases hRow : s.checkpoints.lookup snapshot.key with
  | none =>
    simp only [hRow] at h
    obtain ⟨rfl, rfl⟩ := storeCheckpoint_ok h
    refine .inr ⟨rfl, fun row hOld => ?_, rfl⟩
    rw [ReplicaStore.row, hRow] at hOld
    cases hOld
  | some row =>
    simp only [hRow, bind_eq_done, require_eq_ok] at h
    obtain ⟨_, _, ⟨hFresh, rfl⟩, h⟩ := h
    simp only [Bool.or_eq_false_iff, decide_eq_false_iff_not, not_lt] at hFresh
    split at h
    next hSequence =>
      simp only [bind_eq_done, require_eq_ok, Bool.not_eq_false', Bool.and_eq_true,
        decide_eq_true_eq] at h
      obtain ⟨_, _, ⟨⟨hChecksum, hTerm⟩, rfl⟩, rfl, rfl⟩ := h
      exact .inl ⟨rfl, ⟨row, hRow, hSequence.symm, hTerm.symm, hChecksum⟩, rfl⟩
    · obtain ⟨rfl, rfl⟩ := storeCheckpoint_ok h
      refine .inr ⟨rfl, fun old hOld => ?_, rfl⟩
      rw [ReplicaStore.row, hRow, Option.some.injEq] at hOld
      subst hOld
      exact ⟨hFresh.1, by omega⟩

theorem ingestBody_of_repeats (h : Repeats snapshot s) : ingestBody snapshot now s = .ok false s := by
  obtain ⟨row, hRow, hSequence, hTerm, hChecksum⟩ := h
  unfold ingestBody
  rw [bind_read, show s.checkpoints.lookup snapshot.key = some row from hRow]
  dsimp only
  rw [bind_require (by simp [hSequence, hTerm]), if_pos hSequence.symm,
    bind_require (by simp [hTerm, hChecksum])]
  rfl

theorem ingest_cases (sha : Bytes → String) (codec : Codec) (sourceDevice : String)
    (snapshot : ReplicaSnapshot) (now : Int) (s : ReplicaStore) :
    (∃ e, ingest sha codec sourceDevice snapshot now s = (.error e, s)) ∨
    (Repeats snapshot s ∧ ingest sha codec sourceDevice snapshot now s = (.ok false, s)) ∨
    (Advances snapshot s ∧ ingest sha codec sourceDevice snapshot now s =
      (.ok true, { s with checkpoints := (s.checkpoints.upsert snapshot now).evict })) := by
  unfold ingest guarded
  cases s.admits sha codec sourceDevice snapshot now with
  | error e => exact .inl ⟨e, rfl⟩
  | ok _ =>
    rcases commit_cases (Prod.eta (commit (ingestBody snapshot now) s)).symm with
      ⟨changed, hResult, hBody⟩ | ⟨e, _, hResult, -, hState⟩
    · rcases ingestBody_ok hBody with ⟨rfl, hRepeats, hState⟩ | ⟨rfl, hAdvances, hState⟩
      · exact .inr (.inl ⟨hRepeats, Prod.ext hResult hState⟩)
      · exact .inr (.inr ⟨hAdvances, Prod.ext hResult hState⟩)
    · exact .inl ⟨e, Prod.ext hResult hState⟩

theorem row_of_evict {rows : Checkpoints} {key row}
    (h : rows.evict.lookup key = some row) : rows.lookup key = some row := by
  rw [Checkpoints.evict, lookup_foldl_erase] at h
  split at h
  · cases h
  · exact h

end

/-! ## Runs -/

section

variable (sha : Bytes → String) (codec : Codec)

/-- A message arrives, or something else happens that leaves the table alone. -/
inductive Step : ReplicaStore → ReplicaStore → Prop
  | ingested (s : ReplicaStore) (sourceDevice : String) (snapshot : ReplicaSnapshot) (now : Int) :
      Step s (ingest sha codec sourceDevice snapshot now s).2
  | elsewhere (s t : ReplicaStore) (same : t.checkpoints = s.checkpoints) : Step s t

def Keeping (key : CheckpointKey) (s t : ReplicaStore) : Prop :=
  Step sha codec s t ∧ ((s.row key).isSome = true → (t.row key).isSome = true)

variable {sha codec} {s t : ReplicaStore} {key : CheckpointKey}

/-- What a row says about the one that stands in its place later. -/
structure CheckpointRow.Precedes (old new : CheckpointRow) : Prop where
  term : old.term ≤ new.term
  sequence : old.sequence ≤ new.sequence
  bound : new.sequence = old.sequence → new.checksum = old.checksum

theorem CheckpointRow.Precedes.refl (row : CheckpointRow) : row.Precedes row :=
  ⟨Nat.le_refl _, Nat.le_refl _, fun _ => rfl⟩

theorem CheckpointRow.Precedes.trans {a b c : CheckpointRow} (h : a.Precedes b) (h' : b.Precedes c) :
    a.Precedes c := by
  obtain ⟨hTerm, hSequence, hBound⟩ := h
  obtain ⟨hTerm', hSequence', hBound'⟩ := h'
  refine ⟨hTerm.trans hTerm', hSequence.trans hSequence', fun hSame => ?_⟩
  rw [hBound' (by omega), hBound (by omega)]

theorem row_ingest {sourceDevice : String} {snapshot now row}
    (h : (ingest sha codec sourceDevice snapshot now s).2.row key = some row) :
    s.row key = some row ∨ (key = snapshot.key ∧ Advances snapshot s ∧ row.snapshot = snapshot ∧
      row.sequence = snapshot.sequence ∧ row.term = snapshot.term ∧ row.checksum = snapshot.checksum) := by
  rcases ingest_cases sha codec sourceDevice snapshot now s with
    ⟨e, hIngest⟩ | ⟨-, hIngest⟩ | ⟨hAdvances, hIngest⟩
  · rw [hIngest] at h
    exact .inl h
  · rw [hIngest] at h
    exact .inl h
  · rw [hIngest] at h
    have hStored := row_of_evict h
    by_cases hKey : key = snapshot.key
    · subst hKey
      rw [Checkpoints.upsert, AList.lookup_insert, Option.some.injEq] at hStored
      subst hStored
      exact .inr ⟨rfl, hAdvances, rfl, rfl, rfl, rfl⟩
    · rw [Checkpoints.upsert, AList.lookup_insert_ne hKey] at hStored
      exact .inl hStored

theorem precedes_step (h : Keeping sha codec key s t) {old} (hOld : s.row key = some old) :
    ∃ new, t.row key = some new ∧ old.Precedes new := by
  obtain ⟨hStep, hKept⟩ := h
  obtain ⟨new, hNew⟩ := Option.isSome_iff_exists.mp (hKept (by rw [hOld]; rfl))
  refine ⟨new, hNew, ?_⟩
  cases hStep with
  | ingested sourceDevice snapshot now =>
    rcases row_ingest hNew with hSame | ⟨rfl, hAdvances, -, hSequence, hTerm, -⟩
    · rw [hOld, Option.some.injEq] at hSame
      exact hSame ▸ .refl old
    · obtain ⟨hTermLe, hSequenceLt⟩ := hAdvances old hOld
      exact ⟨by omega, by omega, fun hSame => by omega⟩
  | elsewhere _ same =>
    rw [ReplicaStore.row, same] at hNew
    rw [ReplicaStore.row, hNew, Option.some.injEq] at hOld
    exact hOld ▸ .refl new

def Consistent (s : ReplicaStore) : Prop :=
  Every (fun key row => row.snapshot.key = key ∧ row.snapshot.sequence = row.sequence ∧
    row.snapshot.term = row.term ∧ row.snapshot.checksum = row.checksum) s.checkpoints

theorem Consistent.step (h : Consistent s) (hStep : Step sha codec s t) : Consistent t := by
  intro key row hRow
  cases hStep with
  | ingested sourceDevice snapshot now =>
    rcases row_ingest hRow with hSame | ⟨rfl, -, rfl, hSequence, hTerm, hChecksum⟩
    · exact h key row hSame
    · exact ⟨rfl, hSequence.symm, hTerm.symm, hChecksum.symm⟩
  | elsewhere _ same =>
    rw [same] at hRow
    exact h key row hRow

theorem Consistent.run {start} (hStart : start.checkpoints = ∅)
    (h : Relation.ReflTransGen (Step sha codec) start s) : Consistent s := by
  induction h with
  | refl =>
    unfold Consistent
    rw [hStart]
    exact every_empty
  | tail _ hStep ih => exact ih.step hStep

/-- Whatever arrived so far, in any order: from here on the row of a source moves forward and
binds a sequence number to one checksum; the stored checkpoint, let in again, changes nothing;
and a refusal changes nothing. -/
theorem ingest_monotone_idempotent {start : ReplicaStore} (hStart : start.checkpoints = ∅)
    (hRun : Relation.ReflTransGen (Step sha codec) start s) :
    (∀ key old, s.row key = some old → ∀ t, Relation.ReflTransGen (Keeping sha codec key) s t →
      ∃ new, t.row key = some new ∧ old.term ≤ new.term ∧ old.sequence ≤ new.sequence ∧
        (new.sequence = old.sequence → new.checksum = old.checksum)) ∧
    (∀ key row, s.row key = some row → ∀ sourceDevice now,
      s.admits sha codec sourceDevice row.snapshot now = .ok () →
      ingest sha codec sourceDevice row.snapshot now s = (.ok false, s)) ∧
    (∀ sourceDevice snapshot now e, (ingest sha codec sourceDevice snapshot now s).1 = .error e →
      (ingest sha codec sourceDevice snapshot now s).2 = s) := by
  refine ⟨?_, ?_, ?_⟩
  · intro key old hOld t hLater
    have hPrecedes : ∃ new, t.row key = some new ∧ old.Precedes new := by
      induction hLater with
      | refl => exact ⟨old, hOld, .refl old⟩
      | tail _ hStep ih =>
        obtain ⟨new, hNew, hBefore⟩ := ih
        obtain ⟨newer, hNewer, hAfter⟩ := precedes_step hStep hNew
        exact ⟨newer, hNewer, hBefore.trans hAfter⟩
    obtain ⟨new, hNew, hTerm, hSequence, hBound⟩ := hPrecedes
    exact ⟨new, hNew, hTerm, hSequence, hBound⟩
  · intro key row hRow sourceDevice now hAdmitted
    obtain ⟨hKey, hSequence, hTerm, hChecksum⟩ := Consistent.run hStart hRun key row hRow
    have hRepeats : Repeats row.snapshot s := ⟨row, hKey ▸ hRow, hSequence.symm, hTerm.symm, hChecksum.symm⟩
    unfold ingest guarded
    rw [hAdmitted]
    exact commit_of_ok (ingestBody_of_repeats hRepeats)
  · intro sourceDevice snapshot now e hRefused
    rcases ingest_cases sha codec sourceDevice snapshot now s with
      ⟨_, hIngest⟩ | ⟨-, hIngest⟩ | ⟨-, hIngest⟩
    · rw [hIngest]
    · rw [hIngest]
    · rw [hIngest] at hRefused
      cases hRefused

end

/-! ### A member that publishes twice

Member a publishes its graph to b, before and after its node is taken up. -/

namespace Published

open Cluster.Sample (fpA fpB enrolledStore)

def rosterSha256 : String := "3a9126ada7449a9ae43078e666cc5105bcd9700245277275a7a95ab954d338df"

def first : String :=
  "[1,\"team\",\"graph-1\",\"" ++ fpA ++ "\",\"" ++ rosterSha256 ++
    "\",4,1,1000,\"running\",[\x7b\"id\":\"plan\",\"state\":\"pending\",\"job_id\":null\x7d]]"

def second : String :=
  "[1,\"team\",\"graph-1\",\"" ++ fpA ++ "\",\"" ++ rosterSha256 ++
    "\",5,1,2000,\"running\",[\x7b\"id\":\"plan\",\"state\":\"preparing\",\"job_id\":null\x7d]]"

def sha (input : Bytes) : String :=
  if input = textBytes first then "5e1367cc0fba9f9b8c1a70f15c170e5aa1bce3f981e5b05d88997ba489a29f1e"
  else if input = textBytes second then
    "c8ea02f2f495468594c2e8dd1ec8b88d63c4e1b6f07d6fd9fda30e62ca69fdbe"
  else Cluster.Sample.sha input

def codec : Codec where
  sealedJson tuple := textBytes (if tuple.sequence = 4 then first else second)
  storedLength _ := 400

def checkpoint (sequence : Nat) (capturedAtMs : Int) (state checksum : String) : ReplicaSnapshot :=
  ⟨1, "team", "graph-1", fpA, rosterSha256, sequence, 1, capturedAtMs, "running",
    [⟨"plan", state, none⟩], [], [], checksum⟩

def pending : ReplicaSnapshot :=
  checkpoint 4 1000 "pending" "5e1367cc0fba9f9b8c1a70f15c170e5aa1bce3f981e5b05d88997ba489a29f1e"

def preparing : ReplicaSnapshot :=
  checkpoint 5 2000 "preparing" "c8ea02f2f495468594c2e8dd1ec8b88d63c4e1b6f07d6fd9fda30e62ca69fdbe"

def enrolled : ReplicaStore := ⟨enrolledStore fpB, ∅⟩

def received : ReplicaStore := (ingest sha codec "signed-a" pending 1500 enrolled).2

def replaced : ReplicaStore := (ingest sha codec "signed-a" preparing 2500 received).2

theorem run : Relation.ReflTransGen (Step sha codec) enrolled replaced :=
  (Relation.ReflTransGen.single (.ingested _ _ _ _)).tail (.ingested _ _ _ _)

theorem row_replaced : replaced.row preparing.key = some ⟨1, 5, 1, preparing.checksum, preparing, 2500⟩ := by
  decide +kernel

theorem admits_again : replaced.admits sha codec "signed-a" preparing 3000 = .ok () := by
  decide +kernel

end Published

theorem second_checkpoint_repeats : Published.replaced.row Published.preparing.key =
      some ⟨1, 5, 1, Published.preparing.checksum, Published.preparing, 2500⟩ ∧
    ingest Published.sha Published.codec "signed-a" Published.preparing 3000 Published.replaced =
      (.ok false, Published.replaced) :=
  ⟨Published.row_replaced,
    (ingest_monotone_idempotent (rfl : Published.enrolled.checkpoints = ∅) Published.run).2.1 _ _
      Published.row_replaced _ _ Published.admits_again⟩

end LittleMonkey.Swarm.Replication
