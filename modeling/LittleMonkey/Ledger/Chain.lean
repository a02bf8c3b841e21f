import LittleMonkey.Ledger.Status
import LittleMonkey.Lib.Guards
import LittleMonkey.Lib.HashChain
import LittleMonkey.Lib.LengthPrefixed
import LittleMonkey.Lib.OrderBy

/-! # The event chains of the ledger

`run_events` is hash-chained per run, `subsystem_events` as one stream.  Each
hash covers the columns of its row and the previous hash, written as
length-prefixed fields.  The verifiers read the rows in sequence order and
recompute every link.
-/

namespace LittleMonkey.Ledger

open LengthPrefixed OrderBy Primitives List
open Option hiding sequence

/-! ## Run events -/

/-- The columns of `run_events` that `event_chain_hash` covers. -/
@[ext]
structure EventColumns where
  previous : Option String
  (eventId runId : String)
  sequence : Nat
  occurredAtMs : Int
  actorId : Option String
  eventType : String
  (emitterJson envelopeJson : Bytes)
  derivedStatus : Option RunStatus
  isTerminal : Bool
  processId : Option String
  deriving DecidableEq

structure EventRow where
  columns : EventColumns
  eventHash : Option String
  deriving DecidableEq

def chainHashDomain : Bytes := textBytes "little-monkey/run-event-chain/v1"

def EventColumns.fields (e : EventColumns) : List Bytes :=
  [chainHashDomain] ++ optionFields (e.previous.map textBytes) ++
    [textBytes e.eventId, textBytes e.runId, beBytes64 e.sequence, beBytesI64 e.occurredAtMs] ++
    optionFields (e.actorId.map textBytes) ++ [textBytes e.eventType, e.emitterJson, e.envelopeJson] ++
    optionFields (e.derivedStatus.map fun status => textBytes status.token) ++
    [tag e.isTerminal] ++ (e.processId.map textBytes).toList

def eventChainHash (sha : Bytes → String) (e : EventColumns) : String := sha (encode e.fields)

/-- A stored row: texts and blobs have a length, integers fit 64 bits. -/
structure EventColumns.Stored (e : EventColumns) : Prop where
  sized : Sized e.fields
  sequence : 0 < e.sequence ∧ e.sequence < 2 ^ 63
  occurredAt : inI64 e.occurredAtMs = true

instance (e : EventColumns) : Decidable e.Stored :=
  decidable_of_iff (Sized e.fields ∧ (0 < e.sequence ∧ e.sequence < 2 ^ 63) ∧ inI64 e.occurredAtMs = true)
    ⟨fun h => ⟨h.1, h.2.1, h.2.2⟩, fun h => ⟨h.sized, h.sequence, h.occurredAt⟩⟩

inductive ChainVerification
  | intact (coveredFrom coveredThrough : Option Nat) (eventsSeen eventsNamingAProcess : Nat)
  | broken (sequence : Nat) (detail : String)
  deriving DecidableEq

structure ChainWalk where
  (coveredFrom coveredThrough : Option Nat)
  (eventsSeen eventsNamingAProcess : Nat)
  expectedPrevious : Option String

def ChainWalk.start : ChainWalk := ⟨none, none, 0, 0, none⟩

def ChainWalk.cover (walk : ChainWalk) (sequence : Nat) (hash : String) : ChainWalk :=
  { walk with
    coveredFrom := walk.coveredFrom.or (some sequence)
    coveredThrough := some sequence
    expectedPrevious := some hash }

def ChainWalk.see (walk : ChainWalk) (processId : Option String) : ChainWalk :=
  { walk with
    eventsSeen := walk.eventsSeen + 1
    eventsNamingAProcess := walk.eventsNamingAProcess + if processId.isSome then 1 else 0 }

/-- One turn of the loop of `verify_run_chain`; an error is where and why it is broken. -/
def verifyEventRow (sha : Bytes → String) (walk : ChainWalk) (row : EventRow) :
    Except (Nat × String) ChainWalk :=
  let seen := walk.see row.columns.processId
  match row.eventHash with
  | none =>
    if walk.coveredFrom.isSome then
      .error (row.columns.sequence, "an event inside the covered range carries no hash")
    else .ok seen
  | some storedHash =>
    if walk.expectedPrevious.isSome && row.columns.previous != walk.expectedPrevious then
      .error (row.columns.sequence, "this event does not link to the previous event's hash")
    else if eventChainHash sha row.columns != storedHash then
      .error (row.columns.sequence, "this event's contents do not match its recorded hash")
    else .ok (seen.cover row.columns.sequence storedHash)

/-- The table with what its schema enforces: `UNIQUE(run_id, sequence)`,
positive 64-bit sequences, values of a bounded length. -/
structure EventTable where
  rows : List EventRow
  unique : (rows.map fun r => (r.columns.runId, r.columns.sequence)).Nodup
  stored : ∀ r ∈ rows, r.columns.Stored

def EventTable.rowsOf (table : EventTable) (runId : String) : List EventRow :=
  orderBy (·.columns.sequence) (table.rows.filter fun r => r.columns.runId = runId)

def removedEventsDetail (claimed seen : Nat) : String :=
  "the run projects " ++ toString claimed ++ " events but only " ++ toString seen ++
    " are stored, so events were removed"

/-- `verify_run_chain`; `claimed` is the `last_sequence` of the run's row, if it has one. -/
def verifyRunChain (sha : Bytes → String) (claimed : Option Nat) (table : EventTable)
    (runId : String) : Except LedgerError ChainVerification :=
  match claimed with
  | none => .error (.notFound "run" runId)
  | some claimedLastSequence =>
    match (table.rowsOf runId).foldlM (verifyEventRow sha) ChainWalk.start with
    | .error (sequence, detail) => .ok (.broken sequence detail)
    | .ok walk =>
      if walk.eventsSeen < claimedLastSequence then
        .ok (.broken claimedLastSequence (removedEventsDetail claimedLastSequence walk.eventsSeen))
      else
        .ok (.intact walk.coveredFrom walk.coveredThrough walk.eventsSeen
          walk.eventsNamingAProcess)

/-! ## What an intact verdict establishes -/

section

variable {sha : Bytes → String}

def EventRow.Hashed (sha : Bytes → String) (row : EventRow) : Prop :=
  row.eventHash = some (eventChainHash sha row.columns)

end

/-! ## Binding -/

section

variable {sha : Bytes → String}
variable {table : EventTable} {runId : String}

def CollisionFree (sha : Bytes → String) (events : Set EventColumns) : Prop :=
  Set.InjOn sha ((fun e : EventColumns => encode e.fields) '' events)

end

/-! ## Subsystem events -/

/-- The columns of `subsystem_events` that `subsystem_chain_hash` covers.  The
sequence is not one of them. -/
@[ext]
structure SubsystemColumns where
  previous : Option String
  (eventId subsystem action : String)
  occurredAtMs : Int
  runId : Option String
  attribution : String
  (processId permissionRequestId : Option String)
  outcome : String
  detailJson : Option Bytes
  deriving DecidableEq

structure SubsystemRow where
  sequence : Nat
  columns : SubsystemColumns
  eventHash : String

def subsystemChainHashDomain : Bytes := textBytes "little-monkey/subsystem-event-chain/v1"

def SubsystemColumns.fields (e : SubsystemColumns) : List Bytes :=
  [subsystemChainHashDomain] ++ optionFields (e.previous.map textBytes) ++
    [textBytes e.eventId, textBytes e.subsystem, textBytes e.action, beBytesI64 e.occurredAtMs] ++
    optionFields (e.runId.map textBytes) ++ [textBytes e.attribution] ++
    optionFields (e.processId.map textBytes) ++
    optionFields (e.permissionRequestId.map textBytes) ++ [textBytes e.outcome] ++ optionFields e.detailJson

def subsystemChainHash (sha : Bytes → String) (e : SubsystemColumns) : String :=
  sha (encode e.fields)

structure SubsystemColumns.Stored (e : SubsystemColumns) : Prop where
  sized : Sized e.fields
  occurredAt : inI64 e.occurredAtMs = true

instance (e : SubsystemColumns) : Decidable e.Stored :=
  decidable_of_iff (Sized e.fields ∧ inI64 e.occurredAtMs = true)
    ⟨fun h => ⟨h.1, h.2⟩, fun h => ⟨h.sized, h.occurredAt⟩⟩

structure SubsystemTable where
  rows : List SubsystemRow
  unique : (rows.map (·.sequence)).Nodup
  stored : ∀ r ∈ rows, r.columns.Stored

def SubsystemTable.ordered (table : SubsystemTable) : List SubsystemRow :=
  orderBy (·.sequence) table.rows

def SubsystemTable.rowAt (table : SubsystemTable) (sequence : Nat) : Option SubsystemRow :=
  table.rows.find? fun r => r.sequence = sequence

def verifySubsystemRow (sha : Bytes → String) (walk : ChainWalk) (row : SubsystemRow) :
    Except (Nat × String) ChainWalk :=
  if row.columns.previous != walk.expectedPrevious then
    .error (row.sequence, "this event does not link to the previous event's hash")
  else if subsystemChainHash sha row.columns != row.eventHash then
    .error (row.sequence, "this event's contents do not match its recorded hash")
  else .ok ((walk.see row.columns.processId).cover row.sequence row.eventHash)

def verifySubsystemChain (sha : Bytes → String) (table : SubsystemTable) : ChainVerification :=
  match table.ordered.foldlM (verifySubsystemRow sha) ChainWalk.start with
  | .error (sequence, detail) => .broken sequence detail
  | .ok walk =>
    .intact walk.coveredFrom walk.coveredThrough walk.eventsSeen walk.eventsNamingAProcess

section

variable {sha : Bytes → String}

end

/-! ## Main results -/

namespace Sample

def hash1 : String := "851ac185c5c70749c110d1b12bcc80c6693b42740fb2e70221673b0084979df0"
def hash2 : String := "beb73554769422660b5027ae72802b7f370c90d25362bb0624540b9d9a2fd4ff"

def event1 : EventColumns :=
  ⟨none, "event-1", "run-1", 1, 1000, none, "started", [123, 125], [123, 125], some .running, false, none⟩

def event2 : EventColumns :=
  ⟨some hash1, "event-2", "run-1", 2, 2000, none, "completed", [123, 125], [123, 125],
    some .succeeded, true, some "p-1"⟩

def hashX : String := "3f051757492e8987fe2cb4ad069583b53078fd5582535b80a27603208912a18b"
def hashY : String := "9f61003cf3150815e3a01f4146138c5694fd918a58442ef05efc865f582b1421"
def hashZ : String := "be98397cde13fa97e8fb0a575a83f10615b8ff74cd87bd86d6cb5bc4563ff8e7"

def eventX : SubsystemColumns :=
  ⟨none, "x", "http", "get", 1000, none, "unknown", none, none, "succeeded", none⟩

def eventY : SubsystemColumns :=
  ⟨some hashX, "y", "http", "get", 2000, none, "unknown", none, none, "failed", none⟩

def eventZ : SubsystemColumns :=
  ⟨some hashY, "z", "mcp", "call", 3000, none, "unknown", none, none, "succeeded", some [123, 125]⟩

def sha (input : Bytes) : String :=
  if input = encode event1.fields then hash1
  else if input = encode event2.fields then hash2
  else if input = encode eventX.fields then hashX
  else if input = encode eventY.fields then hashY
  else if input = encode eventZ.fields then hashZ
  else ""

def stream : SubsystemTable :=
  ⟨[⟨1, eventX, hashX⟩, ⟨2, eventY, hashY⟩, ⟨4, eventZ, hashZ⟩], by decide +kernel,
    by decide +kernel⟩

end Sample

end LittleMonkey.Ledger
