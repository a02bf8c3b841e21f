import Mathlib.Data.List.Dedup
import LittleMonkey.Ledger.Store

/-! # The subsystem stream and the verifiers of the ledger

`append_subsystem_event` writes the stream of the work that has no run.  The
verifiers read the tables of `Store`: the two chains, and `integrity_check` with
the constraints SQLite checks again, the foreign keys and the ledger's own rules.
-/

namespace LittleMonkey.Ledger

open Guards OrderBy Primitives Transaction

/-! ## Subsystem events -/

inductive Subsystem
  | http | mcp | browser | acp | remote | worktree

def Subsystem.code : Subsystem → String
  | http => "http"
  | mcp => "mcp"
  | browser => "browser"
  | acp => "acp"
  | remote => "remote"
  | worktree => "worktree"

inductive Unattributed
  | userAction | scheduled | inboundRequest | startup | sharedTransport

def Unattributed.code : Unattributed → String
  | userAction => "unattributed.user-action"
  | scheduled => "unattributed.scheduled"
  | inboundRequest => "unattributed.inbound-request"
  | startup => "unattributed.startup"
  | sharedTransport => "unattributed.shared-transport"

inductive PermissionAttribution
  | ledgerRun
  | unregisteredRun
  | unattributed (reason : Unattributed)
  | unknown

def PermissionAttribution.code : PermissionAttribution → String
  | ledgerRun => "ledger-run"
  | unregisteredRun => "unregistered-run"
  | unknown => "unknown"
  | unattributed reason => reason.code

def PermissionAttribution.namesARun : PermissionAttribution → Bool
  | ledgerRun | unregisteredRun => true
  | _ => false

inductive SubsystemOutcome
  | succeeded | failed | denied | cancelled

def SubsystemOutcome.code : SubsystemOutcome → String
  | succeeded => "succeeded"
  | failed => "failed"
  | denied => "denied"
  | cancelled => "cancelled"

structure SubsystemEvent where
  eventId : String
  subsystem : Subsystem
  action : String
  occurredAtMs : Nat
  runId : Option String
  attribution : PermissionAttribution
  (processId permissionRequestId : Option String)
  outcome : SubsystemOutcome
  detailJson : Option Bytes

abbrev StreamStatement := Body LedgerError (List SubsystemRow)

def streamTail (rows : List SubsystemRow) : Option SubsystemRow :=
  (orderBy (·.sequence) rows).getLast?

def SubsystemRow.checked (row : SubsystemRow) : Bool :=
  let e := row.columns
  ["http", "mcp", "browser", "acp", "remote", "worktree"].contains e.subsystem &&
    e.action != "" && decide (0 < e.occurredAtMs) &&
    ["ledger-run", "unregistered-run", "unknown", "unattributed.user-action",
      "unattributed.scheduled", "unattributed.inbound-request", "unattributed.startup",
      "unattributed.shared-transport"].contains e.attribution &&
    ["succeeded", "failed", "denied", "cancelled"].contains e.outcome &&
    row.eventHash.length == 64 && e.previous.all (·.length == 64) &&
    ["ledger-run", "unregistered-run"].contains e.attribution == e.runId.isSome

/-- `INSERT INTO subsystem_events`; `AUTOINCREMENT` numbers the row after the
last one.  Returns `last_insert_rowid`. -/
def insertSubsystemEvent (columns : SubsystemColumns) (hash : String) : StreamStatement Nat := do
  let last ← read streamTail
  let sequence := (last.map (·.sequence)).getD 0 + 1
  require (columns.previous != last.map (·.eventHash))
    (.sqlite "subsystem event must carry its predecessor's hash")
  require (!decide ((sequence : Int) ≤ i64Max)) (.sqlite "database or disk is full")
  let row : SubsystemRow := ⟨sequence, columns, hash⟩
  require (!row.checked) (.sqlite "CHECK constraint failed: subsystem_events")
  let taken ← read fun rows => rows.any (·.columns.eventId == columns.eventId)
  require taken (.sqlite "UNIQUE constraint failed: subsystem_events.event_id")
  write (· ++ [row])
  pure sequence

def SubsystemEvent.columns (event : SubsystemEvent) (previous : Option String) :
    SubsystemColumns where
  previous
  eventId := event.eventId
  subsystem := event.subsystem.code
  action := event.action
  occurredAtMs := event.occurredAtMs
  runId := event.runId
  attribution := event.attribution.code
  processId := event.processId
  permissionRequestId := event.permissionRequestId
  outcome := event.outcome.code
  detailJson := event.detailJson

variable (sha : Bytes → String)

def appendSubsystemEventBody (event : SubsystemEvent) : StreamStatement Nat := do
  let last ← read streamTail
  let previous := last.map (·.eventHash)
  let _ ← pureBody (toSqlI64 event.occurredAtMs "occurred_at_ms")
  let columns := event.columns previous
  insertSubsystemEvent columns (subsystemChainHash sha columns)

def subsystemArguments (event : SubsystemEvent) : LedgerResult Unit :=
  let code := event.attribution.code
  refuseIf (event.attribution.namesARun != event.runId.isSome) (.corrupt
    s!"attribution '{code}' and run id disagree about whether this event has a run")

def appendSubsystemEvent (event : SubsystemEvent) (rows : List SubsystemRow) :
    LedgerResult Nat × List SubsystemRow :=
  guarded (subsystemArguments event) (fun _ => appendSubsystemEventBody sha event) rows

/-! ## The chains -/

structure Database where
  tables : Tables
  subsystemEvents : List SubsystemRow

def Database.empty : Database := ⟨.empty, []⟩

def Database.verifyRunChain (db : Database) (runId : String) : LedgerResult ChainVerification :=
  match db.tables.runs.lookup runId with
  | none => .error (.notFound "run" runId)
  | some run =>
    match (orderBy (·.columns.sequence) (db.tables.eventsOf runId)).foldlM (verifyEventRow sha)
        ChainWalk.start with
    | .error (sequence, detail) => .ok (.broken sequence detail)
    | .ok walk =>
      if walk.eventsSeen < run.lastSequence then
        .ok (.broken run.lastSequence (removedEventsDetail run.lastSequence walk.eventsSeen))
      else
        .ok (.intact walk.coveredFrom walk.coveredThrough walk.eventsSeen
          walk.eventsNamingAProcess)

def Database.verifySubsystemChain (db : Database) : ChainVerification :=
  match (orderBy (·.sequence) db.subsystemEvents).foldlM (verifySubsystemRow sha)
      ChainWalk.start with
  | .error (sequence, detail) => .broken sequence detail
  | .ok walk =>
    .intact walk.coveredFrom walk.coveredThrough walk.eventsSeen walk.eventsNamingAProcess

/-! ## Integrity -/

/-- A line of the report; the row number of a broken foreign key is left out. -/
inductive Violation
  | sqlite (result : String)
  | foreignKey (table parent : String) (fk : Nat)
  | named (label runId : String)

def RunRow.checked (row : RunRow) : Bool :=
  decide (0 < row.createdAtMs) && decide (0 < row.updatedAtMs) && decide (0 < row.maxEventCount) &&
    row.consistent

def EventRow.checked (row : EventRow) : Bool :=
  decide (0 < row.columns.sequence) && decide (0 < row.columns.occurredAtMs) &&
    row.columns.terminalConsistent && row.eventHash.all (·.length == 64) &&
    row.columns.previous.all (·.length == 64)

def ApprovalRow.checked (row : ApprovalRow) : Bool :=
  row.operationSha256.length == 64 && decide (0 < row.expiresAtMs) &&
    row.decision.isSome == row.decidedSequence.isSome &&
    row.decision.isSome == row.decidedByJson.isSome

def ArtifactRow.checked (row : ArtifactRow) : Bool :=
  row.contentSha256.length == 64 && decide (0 < row.createdAtMs)

def CheckpointRow.checked (row : CheckpointRow) : Bool :=
  row.contentSha256.all (·.length == 64) && decide (0 < row.createdAtMs)

def MutationRow.checked (row : MutationRow) : Bool :=
  decide (0 < row.updatedAtMs) && (row.state != .pending || row.confirmedSequence.isNone)

def repeated {κ : Type} [DecidableEq κ] : List κ → List κ
  | [] => []
  | key :: keys => if key ∈ keys then key :: repeated keys else repeated keys

def failedChecks {ρ : Type} (table : String) (checked : ρ → Bool) (rows : List ρ) :
    List Violation :=
  (rows.filter (!checked ·)).map fun _ => .sqlite ("CHECK constraint failed in " ++ table)

def nonUnique {κ : Type} [DecidableEq κ] (index : String) (keys : List κ) : List Violation :=
  (repeated keys).map fun _ => .sqlite ("non-unique entry in index " ++ index)

/-- The constraints `PRAGMA integrity_check` looks at again. -/
def Database.constraintViolations (db : Database) : List Violation :=
  let t := db.tables
  failedChecks "runs" (RunRow.checked ·.2) t.runs.entries ++
    nonUnique "sqlite_autoindex_runs_2" (t.runs.entries.map (·.2.idempotencyKey)) ++
    failedChecks "run_events" EventRow.checked t.runEvents ++
    nonUnique "sqlite_autoindex_run_events_1" (t.runEvents.map (·.columns.eventId)) ++
    nonUnique "sqlite_autoindex_run_events_2"
      (t.runEvents.map fun row => (row.columns.runId, row.columns.sequence)) ++
    failedChecks "approvals" (ApprovalRow.checked ·.2) t.approvals.entries ++
    failedChecks "artifacts" (ArtifactRow.checked ·.2) t.artifacts.entries ++
    failedChecks "checkpoints" (CheckpointRow.checked ·.2) t.checkpoints.entries ++
    failedChecks "external_mutations" (MutationRow.checked ·.2) t.externalMutations.entries ++
    nonUnique "external_mutations_idempotency_idx" (t.externalMutations.entries.filterMap fun entry =>
      entry.2.idempotencyKey.map fun key => (entry.1.1, key)) ++
    failedChecks "subsystem_events" SubsystemRow.checked db.subsystemEvents ++
    nonUnique "subsystem_events" (db.subsystemEvents.map (·.sequence)) ++
    nonUnique "sqlite_autoindex_subsystem_events_1"
      (db.subsystemEvents.map (·.columns.eventId))

def Tables.eventKey (tables : Tables) (runId : String) (sequence : Option Nat) : Bool :=
  sequence.all fun sequence => (tables.eventAt runId sequence).isSome

def brokenKeys {ρ : Type} (table parent : String) (fk : Nat) (holds : ρ → Bool)
    (rows : List ρ) : List Violation :=
  (rows.filter (!holds ·)).map fun _ => .foreignKey table parent fk

def Tables.foreignKeyViolations (t : Tables) : List Violation :=
  brokenKeys "run_events" "runs" 0 (fun row => (t.runs.lookup row.columns.runId).isSome)
      t.runEvents ++ brokenKeys "approvals" "run_events" 0
      (fun entry => t.eventKey entry.1.1 entry.2.decidedSequence) t.approvals.entries ++
    brokenKeys "approvals" "run_events" 1
      (fun entry => t.eventKey entry.1.1 entry.2.awaitingSequence) t.approvals.entries ++
    brokenKeys "approvals" "run_events" 2
      (fun entry => t.eventKey entry.1.1 (some entry.2.requestedSequence)) t.approvals.entries ++
    brokenKeys "artifacts" "run_events" 0
      (fun entry => t.eventKey entry.2.runId (some entry.2.eventSequence)) t.artifacts.entries ++
    brokenKeys "checkpoints" "run_events" 0
      (fun entry => t.eventKey entry.2.runId (some entry.2.eventSequence)) t.checkpoints.entries ++
    brokenKeys "external_mutations" "run_events" 0
      (fun entry => t.eventKey entry.1.1 entry.2.confirmedSequence) t.externalMutations.entries ++
    brokenKeys "external_mutations" "run_events" 1
      (fun entry => t.eventKey entry.1.1 (some entry.2.preparedSequence)) t.externalMutations.entries

def collectNamedViolations (label : String) (runIds : List String) : List Violation :=
  runIds.map (.named label)

def maxSequence (rows : List EventRow) : Option Nat := (rows.map (·.columns.sequence)).max?
def minSequence (rows : List EventRow) : Option Nat := (rows.map (·.columns.sequence)).min?

def Tables.eventRuns (t : Tables) : List String := (t.runEvents.map (·.columns.runId)).dedup

def sequenceGap (rows : List EventRow) : Bool :=
  minSequence rows != some 1 || maxSequence rows != some rows.length

def terminalViolated (rows : List EventRow) : Bool :=
  let terminal := rows.filter (·.columns.isTerminal)
  decide (1 < terminal.length) || decide
    ((maxSequence rows).getD 0 > ((minSequence terminal).or (maxSequence rows)).getD 0)

def Tables.ruleViolations (t : Tables) : List Violation :=
  collectNamedViolations "last_sequence mismatch" ((t.runs.entries.filter fun entry =>
    entry.2.lastSequence != (maxSequence (t.eventsOf entry.1)).getD 0).map (·.1)) ++
  collectNamedViolations "event sequence gap"
    (t.eventRuns.filter fun runId => sequenceGap (t.eventsOf runId)) ++
  collectNamedViolations "terminal event invariant"
    (t.eventRuns.filter fun runId => terminalViolated (t.eventsOf runId)) ++
  collectNamedViolations "terminal status mismatch" ((t.runs.entries.filter fun entry =>
    entry.2.terminalSequence.isSome != entry.2.status.isTerminal).map (·.1))

def Database.integrityCheck (db : Database) : List Violation :=
  db.constraintViolations ++ db.tables.foreignKeyViolations ++ db.tables.ruleViolations

/-! ## The verifiers of the chains -/

end LittleMonkey.Ledger
