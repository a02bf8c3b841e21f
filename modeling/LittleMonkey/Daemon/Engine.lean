import Mathlib.Data.List.Sort
import LittleMonkey.Daemon.Jobs
import LittleMonkey.Lib.Durable

/-! # The daemon engine

One tick reads the signal latches, supervises every active process, reaps
cancelled jobs and schedules what is ready.  What the engine asks of the machine,
the ledger and the scheduler during one tick is a `World`; the daemon can die
after any of its durable writes.
-/

namespace LittleMonkey.Daemon

open Durable Ledger Primitives Transaction

/-! ## State and inputs -/

structure RunRecord where
  status : RunStatus
  mutations : List (String × Bool)

/-- A mutation is `(id, confirmed)`; an unconfirmed one is pending. -/
def RunRecord.pendingMutation (run : RunRecord) : Option String :=
  (run.mutations.find? (!·.2)).map (·.1)

/-- `active` and `immediateTermination` live in memory.  `spawned` and
`admitted` are the record of what happened: the calls of the process adapter's
`spawn`, and the devices each model was placed on when it last became resident. -/
structure Engine where
  store : JobStore
  runs : Table String RunRecord
  (active immediateTermination spawned : List String)
  admitted : Table String (List DeviceClaim)

structure SignalIntent where
  (stopRequested killRequested suspendRequested : Bool)

inductive Reservation
  | remote
  | unmeasured (modelId : String)
  | localModel (modelKey : String)

def Reservation.modelKey : Reservation → Option String
  | localModel key => some key
  | _ => none

/-- The answer of `admission::fit`; a hold and a refusal carry the sentence the
engine records. -/
inductive Fit
  | fits (claim : MemoryRequirement) (devices : List DeviceClaim)
  | unmeasured
  | hold (reason : String)
  | never (reason : String)

structure AdmittedClaim where
  reservation : ModelReservation
  devices : List DeviceClaim

inductive Point
  | spawn (jobId : String)
  | transition (jobId : String) (state : JobState)
  | reservation (jobId : String)
  | release (jobId : String)
  | hold (jobId : String)
  | request (jobId : String)
  | cancelAll
  | event (runId : String) (status : RunStatus)
  | sweep

structure World where
  now : Nat
  signals : String → Option SignalIntent
  (heartbeat acquireLease : String → Bool)
  validateWorktree : String → Except String Unit
  spawn : String → Except String Nat
  signal : String → Except String Unit
  exitCode : String → Option Int
  (memoryBytes logBytes : String → Option Nat)
  quotaRuntimeMs : Option Nat
  (concurrency maxQueue : Nat)
  measured : Bool
  reservation : String → Reservation
  fit : Reservation → List (String × MemoryRequirement) → List (DeviceId × Nat) → Fit
  rank : List String → List String
  rank_perm : ∀ candidates, (rank candidates).Perm candidates
  /-- The ledger takes the daemon's events for this run. -/
  ledgerTakes : String → Bool
  liveHandoff : Bool
  /-- The worker proved its identity and its lease was taken over. -/
  adopts : String → Bool
  pidOccupied : Nat → Bool
  diesAfter : Point → Bool

abbrev EngineM := Program String Engine

variable (w : World)

/-! ## Statements -/

def jobOf (jobId : String) : EngineM DaemonJob := do
  match ← read (·.store.jobs.lookup jobId) with
  | some job => pure job
  | none => fail s!"Unknown daemon job '{jobId}'"

def transition (jobId : String) (state : JobState) (processId : Option Nat)
    (error : Option String) : EngineM Unit := do
  let job ← jobOf jobId
  durable (w.diesAfter (.transition jobId state)) fun e =>
    { e with store := e.store.setJob jobId (job.moved state w.now processId error) }

/-- A model that nobody holds becomes resident on the devices of the claim. -/
def Engine.noteAdmission (e : Engine) (claim : AdmittedClaim) : Engine :=
  if e.store.holds claim.reservation.modelKey then e
  else { e with admitted := e.admitted.insert claim.reservation.modelKey claim.devices }

def recordReservation (jobId : String) (claim : AdmittedClaim) : EngineM Unit := do
  let job ← jobOf jobId
  -- the primary key of the device rows
  if (claim.devices.map (·.device)).Nodup then
    durable (w.diesAfter (.reservation jobId)) fun e =>
      { e.noteAdmission claim with
        store := e.store.recordReservation jobId job claim.reservation claim.devices }
  else fail "UNIQUE constraint failed: daemon_job_device_reservations"

def releaseReservation (jobId : String) : EngineM Unit :=
  durable (w.diesAfter (.release jobId)) fun e =>
    { e with store := e.store.releaseReservation jobId }

def recordHold (jobId : String) (reason : Option String) : EngineM Unit := do
  let job ← jobOf jobId
  durable (w.diesAfter (.hold jobId)) fun e =>
    { e with store := e.store.setJob jobId { job with holdReason := reason } }

def requestCancel (jobId : String) : EngineM Unit := do
  let job ← jobOf jobId
  if job.state.isTerminal then pure ()
  else durable (w.diesAfter (.request jobId)) fun e =>
    { e with
      store := e.store.setJob jobId { job with cancelRequested := true, updatedAtMs := w.now } }

def requestPause (jobId : String) (value : Bool) : EngineM Unit := do
  let job ← jobOf jobId
  if job.state.isTerminal then fail s!"Run '{jobId}' is already terminal"
  else durable (w.diesAfter (.request jobId)) fun e =>
    { e with
      store := e.store.setJob jobId { job with pauseRequested := value, updatedAtMs := w.now } }

def requestCancelAll : EngineM Unit :=
  durable (w.diesAfter .cancelAll) fun e =>
    { e with
      store := e.store.all.foldl (fun store (jobId, job) =>
        if job.state.isTerminal then store
        else store.setJob jobId { job with cancelRequested := true, updatedAtMs := w.now }) e.store }

/-! ## The run ledger -/

def loadRun (runId message : String) : EngineM RunRecord := do
  match ← read (·.runs.lookup runId) with
  | some run => pure run
  | none => fail message

/-- An event of the daemon that derives `status`; the ledger refuses it after the
end of the run, and an active status while it is being cancelled. -/
def emit (runId : String) (status : RunStatus) : EngineM Unit := do
  let run ← loadRun runId s!"Durable run '{runId}' disappeared"
  if run.status.isTerminal || !w.ledgerTakes runId ||
      run.status == .cancelling && !(status == .cancelling || status.isTerminal) then
    fail s!"the ledger refused an event of '{runId}'"
  else
    durable (w.diesAfter (.event runId status)) fun e =>
      { e with runs := e.runs.insert runId { run with status } }

def ensureCancelling (runId : String) : EngineM Unit := do
  let run ← loadRun runId s!"Unknown run '{runId}'"
  if run.status = .cancelling then pure ()
  else do
    -- `CancellationRequested`, then `Cancelling`
    emit w runId .cancelling
    emit w runId .cancelling

def cancelRun (runId : String) : EngineM Unit := do
  let run ← loadRun runId s!"Unknown run '{runId}'"
  if run.status.isTerminal then pure () else emit w runId .cancelled

def failRun (runId : String) : EngineM Unit := do
  let run ← loadRun runId s!"Unknown run '{runId}'"
  if run.status.isTerminal then pure () else emit w runId .failed

/-! ## Retries -/

def policyMaxAttempts : Nat := 3
def policyBaseBackoffMs : Nat := 1000

def permitsRetry (attempt : Nat) : Bool := decide (attempt + 1 < policyMaxAttempts)

def backoffMs (attempt : Nat) : Nat := min (policyBaseBackoffMs * 2 ^ min attempt 16) 60000

def retryPermitted (job : DaemonJob) : Bool :=
  permitsRetry job.attempt && decide (job.attempt + 1 < job.maxAttempts)

def backoffElapsed (job : DaemonJob) (now : Nat) : Bool :=
  job.attempt == 0 || decide (job.updatedAtMs + backoffMs (job.attempt - 1) ≤ now)

/-! ## Leaving an attempt -/

def finishActive (jobId : String) (state : JobState) (error : Option String) : EngineM Unit := do
  write fun e => { e with active := e.active.filter (· != jobId) }
  releaseReservation w jobId
  transition w jobId state none error

def reconcileInterrupted (jobId : String) (job : DaemonJob) (reason : String) : EngineM Unit := do
  releaseReservation w jobId
  match job.runId with
  | none => transition w jobId .failed none (some "preparing job has no run id")
  | some runId => do
    let run ← loadRun runId s!"Durable run '{runId}' disappeared"
    if run.status.isTerminal then transition w jobId (mapRunStatus run.status) none none
    else if run.status = .queued then transition w jobId .queued none (some reason)
    else if run.pendingMutation.isSome then do
      emit w runId .needsReconciliation
      transition w jobId .needsReconciliation none (some reason)
    else if run.status = .cancelling ∨ job.cancelRequested = true then do
      cancelRun w runId
      transition w jobId .cancelled none (some reason)
    else do
      failRun w runId
      transition w jobId .failed none (some reason)

/-! ## Admission -/

/-- Digit runs are masked, so a hold is rewritten only when its shape changes. -/
def holdShape (reason : String) : List Char :=
  (reason.toList.foldl (fun (shape, inNumber) c =>
    if c.isDigit || inNumber && c == '.' then (if inNumber then shape else '#' :: shape, true)
    else (c :: shape, false)) ([], false)).1

def hold (jobId : String) (job : DaemonJob) (reason : String) : EngineM Unit :=
  if job.holdReason.any fun held => holdShape held == holdShape reason then pure ()
  else recordHold w jobId (some reason)

/-- The fit of a job against what is resident: a model that is already loaded is
paid for, and books no device a second time. -/
def fitAgainst (resident : List (String × MemoryRequirement)) (devices : List (DeviceId × Nat))
    (jobId : String) : Fit :=
  let reservation := w.reservation jobId
  match reservation.modelKey.bind fun key => resident.lookup key with
  | some paid => .fits paid []
  | none => w.fit reservation resident devices

def claimOf (jobId : String) (memory : MemoryRequirement) (devices : List DeviceClaim) :
    Option AdmittedClaim :=
  (w.reservation jobId).modelKey.map fun key => ⟨⟨key, memory⟩, devices⟩

inductive Reacquired
  | fits (claim : Option AdmittedClaim)
  | held (reason : String)

def reacquire (jobId : String) : EngineM Reacquired := do
  if w.measured then
    let resident ← read (·.store.committedReservations)
    let devices ← read (·.store.committedDeviceReservations)
    match fitAgainst w resident devices jobId with
    | .fits memory claimed => pure (.fits (claimOf w jobId memory claimed))
    | .unmeasured => pure (.fits none)
    | .hold reason | .never reason => pure (.held ("suspended and cannot resume: " ++ reason))
  else pure (.fits none)

/-- A job that cannot fit even on an idle machine fails without being spawned. -/
def rejectOversized (jobId : String) (job : DaemonJob) (reason : String) : EngineM Unit := do
  match job.runId with
  | some runId => failRun w runId
  | none => pure ()
  transition w jobId .failed none (some reason)

def startJob (jobId : String) (job : DaemonJob) (claim : Option AdmittedClaim) : EngineM Unit := do
  match job.runId with
  | none => fail s!"Job '{jobId}' has no durable run"
  | some runId =>
    match w.validateWorktree jobId with
    | .error message => fail message
    | .ok () =>
      -- another owner holds the lease: not an error, the job stays queued
      if w.acquireLease jobId then do
        durable (w.diesAfter (.spawn jobId)) fun e => { e with spawned := jobId :: e.spawned }
        match w.spawn jobId with
        | .ok processId => do
          transition w jobId .running (some processId) none
          match claim with
          | some claim => recordReservation w jobId claim
          | none => pure ()
          write fun e => { e with active := jobId :: e.active }
        | .error error =>
          if retryPermitted job then transition w jobId .queued none (some error)
          else do
            failRun w runId
            transition w jobId .failed none (some error)
      else pure ()

/-! ## Active processes -/

def signalChild (jobId : String) : EngineM Unit :=
  match w.signal jobId with
  | .ok () => pure ()
  | .error message => fail message

def loseLease (jobId runId : String) : EngineM Unit := do
  signalChild w jobId
  failRun w runId
  finishActive w jobId .failed (some "execution lease lost")

def cancelActive (jobId runId : String) : EngineM Unit := do
  ensureCancelling w runId
  signalChild w jobId
  cancelRun w runId
  finishActive w jobId .cancelled none
  write fun e =>
    { e with immediateTermination := e.immediateTermination.filter (· != jobId) }

def pauseActive (jobId : String) (job : DaemonJob) (runId : String) : EngineM Unit := do
  signalChild w jobId
  emit w runId .paused
  releaseReservation w jobId
  transition w jobId .paused job.processId none

/-- Whether the job runs again; a job that cannot have its claim back stays paused. -/
def resumeActive (jobId : String) (job : DaemonJob) (runId : String) : EngineM Bool := do
  match ← reacquire w jobId with
  | .held reason => do
    hold w jobId job reason
    pure false
  | .fits claim => do
    signalChild w jobId
    emit w runId .running
    match claim with
    | some claim => recordReservation w jobId claim
    | none => if job.holdReason.isSome then recordHold w jobId none else pure ()
    transition w jobId .running job.processId none
    pure true

def cancelForBudget (jobId runId reason : String) : EngineM Unit := do
  ensureCancelling w runId
  signalChild w jobId
  cancelRun w runId
  finishActive w jobId .cancelled (some reason)

def blownBudget (jobId : String) (job : DaemonJob) : Option String :=
  let budget := (w.quotaRuntimeMs.map (min job.maxRuntimeMs)).getD job.maxRuntimeMs
  if job.startedAtMs.any fun started => decide (budget < w.now - started) then some "wall"
  else if job.maxMemoryBytes.any fun limit => (w.memoryBytes jobId).any fun used =>
      decide (limit < used) then some "memory"
  else if (w.logBytes jobId).any fun written => decide (job.maxLogBytes < written) then
    some "output"
  else none

def settleExit (jobId : String) (job : DaemonJob) (runId : String) (exitCode : Int) :
    EngineM Unit := do
  let run ← loadRun runId s!"Durable run '{runId}' disappeared"
  if run.status.isTerminal then finishActive w jobId (mapRunStatus run.status) none
  -- no `Started` event: no tool can have executed
  else if run.status = .queued ∧ exitCode ≠ 0 ∧ retryPermitted job = true then
    finishActive w jobId .queued (some "child exited before start")
  else do
    reconcileInterrupted w jobId job s!"supervised task child exited with code {exitCode}"
    write fun e => { e with active := e.active.filter (· != jobId) }

def superviseActive (jobId : String) (job : DaemonJob) (runId : String) : EngineM Unit :=
  match blownBudget w jobId job with
  | some reason => cancelForBudget w jobId runId reason
  | none =>
    match w.exitCode jobId with
    | some exitCode => settleExit w jobId job runId exitCode
    | none => do
      let run ← read (·.runs.lookup runId)
      if run.any (fun run => mapRunStatus run.status == .waitingApproval) &&
          job.state != .waitingApproval then
        transition w jobId .waitingApproval job.processId none
      else pure ()

def tickActive (jobId : String) : EngineM Unit := do
  let job ← jobOf jobId
  match job.runId with
  | none => fail s!"Active job '{jobId}' has no run id"
  | some runId => do
    let supervised ← read (·.active.contains jobId)
    let killSwitch ← read (·.store.killSwitch)
    if !supervised then pure ()
    else if !w.heartbeat jobId then loseLease w jobId runId
    else if job.cancelRequested || killSwitch then cancelActive w jobId runId
    else if job.pauseRequested && job.state != .paused then pauseActive w jobId job runId
    else if !job.pauseRequested && job.state == .paused then do
      let resumed ← resumeActive w jobId job runId
      if resumed then superviseActive w jobId job runId else pure ()
    else superviseActive w jobId job runId

/-! ## One tick, and a restart -/

inductive Intent
  | cancel
  | pause (value : Bool)

def intentOf (jobId : String) (job : DaemonJob) : Option Intent :=
  (w.signals jobId).bind fun intent =>
    if intent.stopRequested then (if job.cancelRequested then none else some .cancel)
    else if intent.suspendRequested != job.pauseRequested then some (.pause intent.suspendRequested)
    else none

def applyIntent (jobId : String) (intent : Intent) : EngineM Unit :=
  match intent with
  | .cancel => requestCancel w jobId
  | .pause value => requestPause w jobId value

def nonterminalJobs (store : JobStore) : List (String × DaemonJob) :=
  store.all.filter fun (_, job) => !job.state.isTerminal

def applySignalIntent : EngineM Unit := do
  let jobs ← read fun e => nonterminalJobs e.store
  let escalated := jobs.filter fun (jobId, _) =>
    (w.signals jobId).any fun intent => intent.stopRequested && intent.killRequested
  write fun e =>
    { e with immediateTermination := escalated.map (·.1) ++ e.immediateTermination }
  let decisions := jobs.filterMap fun (jobId, job) => (intentOf w jobId job).map ((jobId, ·))
  decisions.forM fun (jobId, intent) => applyIntent w jobId intent

def cancelQueuedJob (jobId : String) (job : DaemonJob) (reason : String) : EngineM Unit := do
  match job.runId with
  | some runId => do
    ensureCancelling w runId
    cancelRun w runId
  | none => pure ()
  transition w jobId .cancelled none (some reason)

def cancelQueued (reason : String) : EngineM Unit := do
  let jobs ← read fun e => (nonterminalJobs e.store).filter fun (_, job) =>
    job.state.isWaiting && job.cancelRequested
  jobs.forM fun (jobId, job) => cancelQueuedJob w jobId job reason

structure Admissions where
  slots : Nat
  resident : List (String × MemoryRequirement)
  devices : List (DeviceId × Nat)

def commitDevices (devices : List (DeviceId × Nat)) (claims : List DeviceClaim) :
    List (DeviceId × Nat) :=
  claims.foldl (fun devices claim =>
    (claim.device, (devices.lookup claim.device).getD 0 + claim.bytes) ::
      devices.filter (·.1 != claim.device)) devices

def Admissions.commit (acc : Admissions) (claim : Option AdmittedClaim) : Admissions :=
  match claim with
  | none => { acc with slots := acc.slots - 1 }
  | some claim =>
    if (acc.resident.lookup claim.reservation.modelKey).isSome then
      { acc with slots := acc.slots - 1 }
    else
      { slots := acc.slots - 1
        resident := (claim.reservation.modelKey, claim.reservation.memory) :: acc.resident
        devices := commitDevices acc.devices claim.devices }

def startCandidate (acc : Admissions) (jobId : String) (job : DaemonJob)
    (claim : Option AdmittedClaim) : EngineM Admissions := do
  startJob w jobId job claim
  let started ← read (·.active.contains jobId)
  pure (if started then acc.commit claim else acc)

def admitCandidate (acc : Admissions) (jobId : String) (job : DaemonJob) : EngineM Admissions :=
  if acc.slots = 0 then pure acc
  else if w.measured then
    match fitAgainst w acc.resident acc.devices jobId with
    | .fits memory devices => startCandidate w acc jobId job (claimOf w jobId memory devices)
    | .unmeasured => startCandidate w acc jobId job none
    | .hold reason => do
      hold w jobId job reason
      pure acc
    | .never reason => do
      rejectOversized w jobId job reason
      pure acc
  else startCandidate w acc jobId job none

def readyBefore (a b : String × DaemonJob) : Bool :=
  decide (b.2.priority < a.2.priority) || b.2.priority == a.2.priority &&
    (decide (a.2.createdAtMs < b.2.createdAtMs) || a.2.createdAtMs == b.2.createdAtMs && a.1 ≤ b.1)

def readyJobs (store : JobStore) (limit : Nat) : List (String × DaemonJob) :=
  ((store.all.filter fun (_, job) =>
    job.state == .queued && !job.pauseRequested && !job.cancelRequested).insertionSort
      (readyBefore · ·)).take limit

def candidates (store : JobStore) : List (String × DaemonJob) :=
  (readyJobs store w.maxQueue).filter fun (_, job) => backoffElapsed job w.now

def schedule : EngineM Unit := do
  let drained ← read (·.store.maintenanceDrain)
  if drained then pure ()
  else do
    let ready ← read fun e => candidates w e.store
    let acc : Admissions ← read fun e =>
      ⟨w.concurrency - e.active.length, e.store.committedReservations, e.store.committedDeviceReservations⟩
    let order := w.rank (ready.map (·.1))
    let _ ← order.foldlM (fun acc jobId =>
      match ready.lookup jobId with
      | some job => admitCandidate w acc jobId job
      | none => pure acc) acc
    pure ()

def tick : EngineM Unit := do
  let killSwitch ← read (·.store.killSwitch)
  if killSwitch then requestCancelAll w else pure ()
  swallow (applySignalIntent w)
  let active ← read (·.active)
  active.forM fun jobId => tickActive w jobId
  if killSwitch then cancelQueued w "global kill switch is engaged"
  else do
    cancelQueued w "Cancellation requested by daemon controller"
    schedule w

def recoverJob (jobId : String) (job : DaemonJob) : EngineM Unit :=
  if w.liveHandoff then
    if w.adopts jobId then
      match job.runId with
      | some _ => write fun e => { e with active := jobId :: e.active }
      | none => fail "Attested running worker has no run ID"
    else if job.processId.any w.pidOccupied then
      fail s!"Cannot reattach live worker '{jobId}'"
    else
      reconcileInterrupted w jobId job "original attested worker exited before daemon reattachment"
  else reconcileInterrupted w jobId job "daemon restarted while the run was active"

def sweepReservations : EngineM Unit :=
  durable (w.diesAfter .sweep) fun e => { e with store := e.store.sweepStaleReservations }

def recover : EngineM Unit := do
  let jobs ← read fun e => e.store.all.filter fun (_, job) => job.state.isActive
  jobs.forM fun (jobId, job) => recoverJob w jobId job
  let adopted ← read (·.active)
  if adopted.isEmpty then sweepReservations w else pure ()

end LittleMonkey.Daemon
