import LittleMonkey.Lib.Comparing
import LittleMonkey.Lib.Durable
import LittleMonkey.Process.Records

/-! # The process table

The calls on the table as they run their statements one by one: a call that fails keeps what
its earlier statements wrote.  A statement that a constraint of the schema refuses writes
nothing.
-/

namespace LittleMonkey.Process

open Comparing Durable Guards Primitives Transaction

structure UsageSnapshot where
  (inputTokens outputTokens : Nat)

structure Ledger where
  runs : Table String (Option UsageSnapshot)
  rows : Table String ProcessRow

abbrev Call := Program ProcessTableError Ledger

abbrev Runs := Table String (Option UsageSnapshot)

def Ledger.records (s : Ledger) : List ProcessRecord := s.rows.entries.map fun entry => ⟨entry.1, entry.2⟩

def Ledger.findByExternalId (s : Ledger) (kind : ProcessKind) (externalId : String) : Option ProcessRecord :=
  s.records.find? fun record => record.row.kind == kind && record.row.externalId == externalId

def Ledger.setRow (s : Ledger) (id : String) (row : ProcessRow) : Ledger :=
  { s with rows := s.rows.insert id row }

/-! ## Statements on one row -/

def sqlCheck (holds : Bool) : Except ProcessTableError Unit := refuseIf (!holds) (.sqlite .check)

def toSqlU64 (value : Option Nat) : Option Nat := value.map fun v => min v (2 ^ 63 - 1)

def updateRow (id : String) (statement : Runs → ProcessRow → Except ProcessTableError ProcessRow) :
    Call ProcessRecord := fun s =>
  match s.rows.lookup id with
  | none => .error (.failed (.notFound id)) s
  | some row =>
    match statement s.runs row with
    | .error e => .error (.failed e) s
    | .ok row' => .ok ⟨id, row'⟩ (s.setRow id row')

def linkRunRow (runId : String) (nowMs : Int) (runs : Runs) (row : ProcessRow) : Except ProcessTableError ProcessRow := do
  sqlCheck (decide (0 < nowMs))
  refuseIf (runs.lookup runId).isNone (.sqlite .foreignKey)
  pure { row with runId := some runId, updatedAtMs := nowMs }

def setNativeIdentityRow (pid startTime : Option Int) (nowMs : Int) (_ : Runs) (row : ProcessRow) :
    Except ProcessTableError ProcessRow := do
  sqlCheck (decide (0 < nowMs) && startTime.all fun time => decide (0 ≤ time))
  pure { row with nativePid := pid, nativeStartTime := startTime <|> row.nativeStartTime, updatedAtMs := nowMs }

def setContainmentRow (containment : Containment) (nowMs : Int) (_ : Runs) (row : ProcessRow) :
    Except ProcessTableError ProcessRow := do
  sqlCheck (decide (0 < nowMs))
  pure { row with containment := some containment, updatedAtMs := nowMs }

def foldPeak (stored sampled : Option Nat) : Option Nat :=
  match sampled with
  | none => stored
  | some peak => some (max (stored.getD 0) peak)

def RecordedUsage.fold (usage : RecordedUsage) (sample : ResourceSample) : RecordedUsage where
  rssBytes := toSqlU64 sample.rssBytes
  peakRssBytes := foldPeak usage.peakRssBytes (toSqlU64 (sample.peakRssBytes <|> sample.rssBytes))
  processCount := sample.processCount
  peakProcessCount := foldPeak usage.peakProcessCount (sample.peakProcessCount <|> sample.processCount)
  outputBytes := toSqlU64 sample.outputBytes <|> usage.outputBytes

def setTreeUsageRow (sample : ResourceSample) (nowMs : Int) (_ : Runs) (row : ProcessRow) :
    Except ProcessTableError ProcessRow := do
  sqlCheck (decide (0 < nowMs))
  pure { row with usage := row.usage.fold sample, usageSampledAtMs := some nowMs, updatedAtMs := nowMs }

/-! ## Closing out -/

def noRunReason : String := "this process kind has no ledger run, so there is no token accounting to read"
def noRunUsageReason : String := "the run recorded no readable usage event before it closed"
def gpuNotReportedReason : String := "no runtime in this build reports per-process GPU residency or device time"
def notSampledReason : String := "nothing sampled this process's resource use while it ran"
def reapedReason : String := "this process was reaped after its host went away, so nothing sampled it"
def noEgressAccountingReason : String :=
  "no egress was attributed to this process; nothing fed the ledger a byte count"

def noteIf (missing : Bool) (field reason : String) : List TraceFieldNote :=
  if missing then [⟨field, reason⟩] else []

/-- The token counts of a row that has none yet, with the notes where the run has none either. -/
def closeOutTokens (runs : Runs) (row : ProcessRow) : MeasuredUsage × List TraceFieldNote :=
  if row.measured.tokensIn.isNone && row.measured.tokensOut.isNone then
    match row.runId with
    | some runId =>
      match (runs.lookup runId).join with
      | some usage =>
        ({ row.measured with tokensIn := some usage.inputTokens, tokensOut := some usage.outputTokens }, [])
      | none => (row.measured, [⟨"tokensIn", noRunUsageReason⟩, ⟨"tokensOut", noRunUsageReason⟩])
    | none => (row.measured, [⟨"tokensIn", noRunReason⟩, ⟨"tokensOut", noRunReason⟩])
  else (row.measured, [])

def processUsage (measured : MeasuredUsage) (unavailable : List TraceFieldNote) :
    Except ProcessTableError (MeasuredUsage × List TraceFieldNote) :=
  match measured.fields.find? fun entry => entry.2.isNone && !unavailable.any (·.field == entry.1) with
  | some gap => .error (.usageGapWithoutReason gap.1)
  | none => .ok (measured, unavailable)

theorem processUsage_isOk {measured unavailable} : (∃ usage, processUsage measured unavailable = .ok usage) ↔
      ∀ entry ∈ measured.fields, entry.2.isNone = true → unavailable.any (·.field == entry.1) = true := by
  unfold processUsage
  cases hGap : measured.fields.find? fun entry => entry.2.isNone && !unavailable.any (·.field == entry.1) with
  | none =>
    simpa using hGap
  | some gap =>
    have hMem := List.mem_of_find?_eq_some hGap
    have hMissing := List.find?_some hGap
    simp only [Bool.and_eq_true] at hMissing
    refine iff_of_false (by simp) fun hNamed => ?_
    rw [hNamed gap hMem hMissing.1] at hMissing
    exact absurd hMissing.2 (by simp)

def closeOutUsage (runs : Runs) (row : ProcessRow) (exit : Option ProcessExit) :
    Except ProcessTableError (MeasuredUsage × List TraceFieldNote) :=
  let (measured, tokenNotes) := closeOutTokens runs row
  let samplingReason := if exit.map (·.status) = some .lost then reapedReason else notSampledReason
  let notes := tokenNotes ++ [⟨"gpuResidentBytes", gpuNotReportedReason⟩, ⟨"gpuDeviceMs", gpuNotReportedReason⟩] ++
    noteIf measured.cpuTimeMs.isNone "cpuTimeMs" samplingReason ++
    noteIf measured.peakRssBytes.isNone "peakRssBytes" samplingReason ++
    noteIf measured.bytesRead.isNone "bytesRead" samplingReason ++
    noteIf measured.bytesWritten.isNone "bytesWritten" samplingReason ++
    noteIf measured.bytesEgressed.isNone "bytesEgressed" noEgressAccountingReason
  processUsage measured notes

def MeasuredUsage.coalesce (stored measured : MeasuredUsage) : MeasuredUsage where
  cpuTimeMs := toSqlU64 measured.cpuTimeMs <|> stored.cpuTimeMs
  peakRssBytes := toSqlU64 measured.peakRssBytes <|> stored.peakRssBytes
  bytesRead := toSqlU64 measured.bytesRead <|> stored.bytesRead
  bytesWritten := toSqlU64 measured.bytesWritten <|> stored.bytesWritten
  bytesEgressed := toSqlU64 measured.bytesEgressed <|> stored.bytesEgressed
  tokensIn := toSqlU64 measured.tokensIn <|> stored.tokensIn
  tokensOut := toSqlU64 measured.tokensOut <|> stored.tokensOut
  gpuResidentBytes := toSqlU64 measured.gpuResidentBytes <|> stored.gpuResidentBytes
  gpuDeviceMs := toSqlU64 measured.gpuDeviceMs <|> stored.gpuDeviceMs

/-! ## Transitions -/

def limitKinds : List String :=
  ["max_wall_ms", "max_memory_bytes", "max_output_bytes", "max_child_processes", "max_context_tokens"]

def limitLevels : List String := ["kernel", "supervised", "owner-sourced"]

def ProcessExit.storable (exit : ProcessExit) : Bool :=
  exit.breach.all fun breach =>
    limitKinds.contains breach.limit && decide (0 < breach.configured) && limitLevels.contains breach.level &&
      decide (0 ≤ breach.observedAtMs) && exit.status == .limitExceeded

def ProcessExit.stored (exit : ProcessExit) : ProcessExit :=
  { exit with
    breach := exit.breach.map fun breach =>
      { breach with configured := min breach.configured (2 ^ 63 - 1), observed := min breach.observed (2 ^ 63 - 1) } }

/-- The row after the `UPDATE`; `usage` is the closed ledger of a terminal move. -/
def ProcessRow.moved (row : ProcessRow) (next : ProcessState) (exit : Option ProcessExit)
    (usage : Option (MeasuredUsage × List TraceFieldNote)) (nowMs : Int) : ProcessRow :=
  { row with
    state := next
    exit := exit.map ProcessExit.stored
    updatedAtMs := nowMs
    startedAtMs := if row.startedAtMs.isNone && next == .running then some nowMs else row.startedAtMs
    exitedAtMs := if next = .exited then some nowMs else row.exitedAtMs
    measured := (usage.map fun usage => row.measured.coalesce usage.1).getD row.measured
    usageUnavailable := usage.map (·.2) <|> row.usageUnavailable }

def terminalUsage (next : ProcessState) (runs : Runs) (row : ProcessRow) (exit : Option ProcessExit) :
    Except ProcessTableError (Option (MeasuredUsage × List TraceFieldNote)) :=
  if next = .exited then (closeOutUsage runs row exit).map some else .ok none

def transitionRow (id : String) (next : ProcessState) (exit : Option ProcessExit) (nowMs : Int) (runs : Runs)
    (row : ProcessRow) : Except ProcessTableError ProcessRow := do
  refuseIf (!row.state.canTransitionTo next) (.illegalTransition id row.state next)
  refuseIf ((next == .exited) != exit.isSome) (.terminalMismatch id)
  let exit := upgradeABudgetKill exit row.signalReason
  let usage ← terminalUsage next runs row exit
  sqlCheck (decide (0 < nowMs) && exit.all ProcessExit.storable)
  pure (row.moved next exit usage nowMs)

def transition (id : String) (next : ProcessState) (exit : Option ProcessExit) (nowMs : Int) : Call ProcessRecord :=
  updateRow id (transitionRow id next exit nowMs)

/-! ## Signals -/

def signalRow (id : String) (signal : ProcessSignal) (reason : Option String) (nowMs : Int) (_ : Runs)
    (row : ProcessRow) : Except ProcessTableError ProcessRow := do
  refuseIf row.state.isTerminal (.alreadyExited id)
  match (row.kind.signalSupport signal).refusal with
  | some refusal => .error (.signalRefused id row.kind signal refusal)
  | none =>
    let intent := row.signalIntent.after signal
    refuseIf (intent.killRequested && !intent.stopRequested) (.sqlite .killImpliesStop)
    sqlCheck (decide (0 < nowMs))
    pure { row with
      signalIntent := intent, signalReason := reason, signalRequestedAtMs := some nowMs, updatedAtMs := nowMs }

def signal (id : String) (signal : ProcessSignal) (reason : Option String) (nowMs : Int) : Call ProcessRecord :=
  updateRow id (signalRow id signal reason nowMs)

def ProcessRow.signalPending (row : ProcessRow) : Bool :=
  row.isLive && (row.signalIntent.stopRequested ||
    (row.signalIntent.suspendRequested && row.state != .suspended) ||
    (!row.signalIntent.suspendRequested && row.state == .suspended))

def oldestRequest : ProcessRecord → ProcessRecord → Ordering :=
  compareLex (compareOn fun record => record.row.signalRequestedAtMs) (compareOn fun record => textBytes record.processId)

def Ledger.pendingSignals (s : Ledger) (kinds : List ProcessKind) : List ProcessRecord :=
  sortBy oldestRequest
    (s.records.filter fun record => record.row.signalPending && (kinds.isEmpty || kinds.contains record.row.kind))

/-! ## Admission -/

def limitStorable (limit : Option Nat) : Bool := limit.all fun v => decide (0 < v) && decide (v < 2 ^ 63)

def ProcessLimits.storable (limits : ProcessLimits) : Bool :=
  limitStorable limits.maxWallMs && limitStorable limits.maxMemoryBytes && limitStorable limits.maxOutputBytes &&
    limitStorable limits.maxChildProcesses && limitStorable limits.maxContextTokens

def AdmitProcess.row (request : AdmitProcess) (nowMs : Int) : ProcessRow where
  parentProcessId := request.parentProcessId
  kind := request.kind
  externalId := request.externalId
  state := .admitted
  runId := request.runId
  workspace := request.workspace
  profile := request.profile
  nativePid := none
  nativeStartTime := none
  limits := request.limits
  containment := none
  usage := ⟨none, none, none, none, none⟩
  usageSampledAtMs := none
  signalIntent := ⟨false, false, false⟩
  signalReason := none
  signalRequestedAtMs := none
  exit := none
  createdAtMs := nowMs
  updatedAtMs := nowMs
  startedAtMs := none
  exitedAtMs := none
  measured := ⟨none, none, none, none, none, none, none, none, none⟩
  usageUnavailable := none

def admissible (s : Ledger) (request : AdmitProcess) (id : String) (nowMs : Int) : Except ProcessTableError Unit := do
  refuseIf (isBlank request.externalId) (.invalidField "external_id" "must not be empty")
  refuseIf (decide (nowMs ≤ 0)) (.invalidField "now_ms" "must be a positive unix millisecond timestamp")
  match s.findByExternalId request.kind request.externalId with
  | some existing => .error (.duplicateExternalId request.kind request.externalId existing.processId)
  | none =>
    match request.parentProcessId.filter fun parent => (s.rows.lookup parent).isNone with
    | some parent => .error (.unknownParent parent)
    | none =>
      sqlCheck (request.limits.storable && request.parentProcessId != some id)
      refuseIf (s.rows.lookup id).isSome (.sqlite .unique)
      refuseIf (request.runId.any fun run => (s.runs.lookup run).isNone) (.sqlite .foreignKey)

def admitProcess (uuid : String) (request : AdmitProcess) (nowMs : Int) : Call ProcessRecord := fun s =>
  let id := newProcessId request.kind uuid
  match admissible s request id nowMs with
  | .error e => .error (.failed e) s
  | .ok () => .ok ⟨id, request.row nowMs⟩ (s.setRow id (request.row nowMs))

/-! ## Reconciling -/

inductive Fill
  | run (runId : String)
  | identity (pid startTime : Option Int)
  | containment (held : Containment)
  | sample (measured : ResourceSample)

def Fill.statement (fill : Fill) (nowMs : Int) : Runs → ProcessRow → Except ProcessTableError ProcessRow :=
  match fill with
  | .run runId => linkRunRow runId nowMs
  | .identity pid startTime => setNativeIdentityRow pid startTime nowMs
  | .containment held => setContainmentRow held nowMs
  | .sample measured => setTreeUsageRow measured nowMs

def runDue (row : ProcessRow) (projection : ProcessProjection) : Option Fill :=
  if row.runId.isNone then projection.runId.map .run else none

def identityDue (row : ProcessRow) (projection : ProcessProjection) : Option Fill :=
  if projection.nativePid.isSome && (row.nativePid != projection.nativePid ||
      (projection.nativeStartTime.isSome && row.nativeStartTime != projection.nativeStartTime)) then
    some (.identity projection.nativePid projection.nativeStartTime)
  else none

def containmentDue (row : ProcessRow) (projection : ProcessProjection) : Option Fill :=
  (projection.containment.filter fun held => row.containment != some held).map .containment

def fillsDue (row : ProcessRow) (projection : ProcessProjection) : List Fill :=
  (runDue row projection).toList ++ (identityDue row projection).toList ++ (containmentDue row projection).toList ++
    (projection.usage.map .sample).toList

def ProcessProjection.request (projection : ProcessProjection) (parent : Option String) : AdmitProcess where
  kind := projection.kind
  externalId := projection.externalId
  parentProcessId := parent
  runId := projection.runId
  workspace := projection.workspace
  profile := projection.profile
  limits := projection.limits

def findOrAdmit (uuid : String) (projection : ProcessProjection) (nowMs : Int) : Call (ProcessRecord × Bool) := do
  let existing ← read fun s : Ledger => s.findByExternalId projection.kind projection.externalId
  match existing with
  | some record => pure (record, false)
  | none =>
    let parent ← read fun s : Ledger => projection.parent.bind fun parent =>
      (s.findByExternalId parent.1 parent.2).map (·.processId)
    let record ← admitProcess uuid (projection.request parent) nowMs
    pure (record, true)

def settle (record : ProcessRecord) (isNew : Bool) (projection : ProcessProjection) (nowMs : Int) :
    Call (ProcessRecord × ReconcileOutcome) :=
  if record.row.state = projection.state then do
    let refreshed ← read fun s : Ledger => ((s.rows.lookup record.processId).map (⟨record.processId, ·⟩)).getD record
    pure (refreshed, if isNew then .admitted else .unchanged)
  else if record.row.state.isTerminal then pure (record, .alreadyExited)
  else do
    let moved ← transition record.processId projection.state projection.exit nowMs
    pure (moved, if isNew then .admitted else .transitioned)

def reconcile (uuid : String) (projection : ProcessProjection) (nowMs : Int) :
    Call (ProcessRecord × ReconcileOutcome) := do
  if (projection.state == .exited) != projection.exit.isSome then
    fail (.terminalMismatch (projection.kind.asStr ++ ":" ++ projection.externalId))
  else do
    let (record, isNew) ← findOrAdmit uuid projection nowMs
    (fillsDue record.row projection).forM fun fill => do
      let _ ← updateRow record.processId (fill.statement nowMs)
      pure PUnit.unit
    settle record isNew projection nowMs

/-! ## Listing and reaping -/

def defaultListLimit : Nat := 500
def maxListLimit : Nat := 5000

def ProcessFilter.selects (filter : ProcessFilter) (row : ProcessRow) : Bool :=
  (filter.kinds.isEmpty || filter.kinds.contains row.kind) && (!filter.liveOnly || row.isLive) &&
    filter.parentProcessId.all (fun parent => row.parentProcessId == some parent) &&
    filter.workspace.all fun workspace => row.workspace == some workspace

def newestFirst : ProcessRecord → ProcessRecord → Ordering :=
  compareLex (fun left right => compareOn (fun record => record.row.createdAtMs) right left)
    fun left right => compareOn (fun record => textBytes record.processId) right left

def Ledger.list (s : Ledger) (filter : ProcessFilter) : List ProcessRecord :=
  (sortBy newestFirst (s.records.filter fun record => filter.selects record.row)).take
    (max 1 (min (filter.limit.getD defaultListLimit) maxListLimit))

def lostExit (reason : String) : ProcessExit := ⟨.lost, none, none, some reason, none⟩

def reapAll (gone : ProcessRecord → Bool) (reason : String) (nowMs : Int) (candidates : List ProcessRecord) :
    Call (List ProcessRecord) :=
  candidates.foldlM
    (fun reaped candidate =>
      if gone candidate then do
        let record ← transition candidate.processId .exited (some (lostExit reason)) nowMs
        pure (reaped ++ [record])
      else pure reaped) []

def ProcessFilter.reapable (scope : ProcessFilter) : ProcessFilter :=
  { scope with liveOnly := true, limit := some maxListLimit }

def reapMissing (scope : ProcessFilter) (liveProcessIds : List String) (reason : String) (nowMs : Int) :
    Call (List ProcessRecord) := do
  let candidates ← read fun s : Ledger => s.list scope.reapable
  reapAll (fun candidate => !liveProcessIds.contains candidate.processId) reason nowMs candidates

def reapDeadHosts (scope : ProcessFilter) (hostIsAlive : Int → Bool) (reason : String) (nowMs : Int) :
    Call (List ProcessRecord) := do
  let candidates ← read fun s : Ledger => s.list scope.reapable
  reapAll (fun candidate => candidate.row.nativePid.any fun pid => !hostIsAlive pid) reason nowMs candidates

/-! ## Descendants -/

structure Search where
  (frontier seen : List String)
  out : List ProcessRecord

def Search.visit (search : Search) (child : ProcessRecord) : Search :=
  if search.seen.contains child.processId then search
  else ⟨child.processId :: search.frontier, child.processId :: search.seen, search.out ++ [child]⟩

def Ledger.children (s : Ledger) (parent : String) : List ProcessRecord :=
  s.list ⟨[], false, some parent, none, some maxListLimit⟩

def Ledger.descendantsLoop (s : Ledger) : Nat → Search → Option (List ProcessRecord)
  | 0, _ => none
  | fuel + 1, search =>
    match search.frontier with
    | [] => some search.out
    | parent :: rest =>
      if maxListLimit ≤ search.out.length then some search.out
      else s.descendantsLoop fuel ((s.children parent).foldl Search.visit { search with frontier := rest })

/-- `none` if the loop has not ended after `fuel` rounds. -/
def Ledger.descendants (s : Ledger) (id : String) (fuel : Nat) : Option (List ProcessRecord) :=
  s.descendantsLoop fuel ⟨[id], [id], []⟩

/-! ## What a statement does -/

section

variable {id : String} {row row' : ProcessRow} {runs : Runs} {nowMs : Int}

def Fill.accepted (fill : Fill) (nowMs : Int) (runs : Runs) : Bool :=
  decide (0 < nowMs) &&
    match fill with
    | .run runId => (runs.lookup runId).isSome
    | .identity _ startTime => startTime.all fun time => decide (0 ≤ time)
    | .containment _ | .sample _ => true

def Fill.applied (fill : Fill) (nowMs : Int) (row : ProcessRow) : ProcessRow :=
  match fill with
  | .run runId => { row with runId := some runId, updatedAtMs := nowMs }
  | .identity pid startTime =>
    { row with nativePid := pid, nativeStartTime := startTime <|> row.nativeStartTime, updatedAtMs := nowMs }
  | .containment held => { row with containment := some held, updatedAtMs := nowMs }
  | .sample measured =>
    { row with usage := row.usage.fold measured, usageSampledAtMs := some nowMs, updatedAtMs := nowMs }

theorem Fill.statement_eq_ok {fill : Fill} :
    fill.statement nowMs runs row = .ok row' ↔ fill.accepted nowMs runs = true ∧ fill.applied nowMs row = row' := by
  cases fill <;>
    simp only [Fill.statement, Fill.accepted, Fill.applied, linkRunRow, setNativeIdentityRow, setContainmentRow,
      setTreeUsageRow, sqlCheck, bind_eq_ok, refuseIf_eq_ok, pure_eq_ok, Bool.not_eq_false', Bool.and_eq_true,
      Bool.and_true, exists_const, and_assoc, Option.isNone_eq_false_iff]

theorem Fill.applied_keeps (fill : Fill) (nowMs : Int) (row : ProcessRow) :
    (fill.applied nowMs row).state = row.state ∧ (fill.applied nowMs row).exit = row.exit ∧
      (fill.applied nowMs row).exitedAtMs = row.exitedAtMs ∧ (fill.applied nowMs row).kind = row.kind ∧
      (fill.applied nowMs row).signalIntent = row.signalIntent ∧
      (fill.applied nowMs row).signalReason = row.signalReason := by
  cases fill <;> exact ⟨rfl, rfl, rfl, rfl, rfl, rfl⟩

def ProcessRow.signalled (row : ProcessRow) (signal : ProcessSignal) (reason : Option String) (nowMs : Int) :
    ProcessRow :=
  { row with
    signalIntent := row.signalIntent.after signal
    signalReason := reason
    signalRequestedAtMs := some nowMs
    updatedAtMs := nowMs }

theorem signalRow_eq_ok {signal reason} : signalRow id signal reason nowMs runs row = .ok row' ↔
      row.state ≠ .exited ∧ row.kind.signalSupport signal = .honoured ∧
        ((row.signalIntent.after signal).killRequested = true → (row.signalIntent.after signal).stopRequested = true) ∧
        0 < nowMs ∧ row.signalled signal reason nowMs = row' := by
  have hState : row.state.isTerminal = false ↔ row.state ≠ .exited := by cases row.state <;> simp [ProcessState.isTerminal]
  unfold signalRow
  cases hSupport : row.kind.signalSupport signal with
  | honoured =>
    simp only [SignalSupport.refusal, sqlCheck, bind_eq_ok, refuseIf_eq_ok, pure_eq_ok, hState, exists_const,
      Bool.and_eq_false_iff, Bool.not_eq_false', decide_eq_true_eq, true_and, imp_iff_not_or, Bool.not_eq_true]
    rfl
  | refused reason => simp [SignalSupport.refusal]

theorem transitionRow_ok {next exit} (h : transitionRow id next exit nowMs runs row = .ok row') :
    row.state.canTransitionTo next = true ∧
      ∃ usage, row' = row.moved next (upgradeABudgetKill exit row.signalReason) usage nowMs := by
  simp only [transitionRow, bind_eq_ok, refuseIf_eq_ok, pure_eq_ok, Bool.not_eq_false'] at h
  obtain ⟨-, hMove, -, -, usage, -, -, -, rfl⟩ := h
  exact ⟨hMove, usage, rfl⟩

end

end LittleMonkey.Process
