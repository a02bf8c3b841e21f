import Mathlib.Algebra.Order.Ring.Nat
import LittleMonkey.Ledger.Status
import LittleMonkey.Lib.Primitives

/-! # The job table of the daemon

`daemon_jobs` with the memory reservation of each row, the device rows of a
reservation, and the statements the engine runs on them.  Each statement is one
transaction.
-/

namespace LittleMonkey.Daemon

open Ledger Primitives

inductive JobState
  | preparing | queued | running | waitingApproval | paused | cancelling | succeeded | failed
  | cancelled | needsReconciliation
  deriving DecidableEq

namespace JobState

def isTerminal : JobState → Bool
  | succeeded | failed | cancelled | needsReconciliation => true
  | _ => false

def isActive : JobState → Bool
  | running | waitingApproval | paused | cancelling => true
  | _ => false

def isWaiting : JobState → Bool
  | preparing | queued => true
  | _ => false

theorem isTerminal_of_isActive {state : JobState} (h : state.isActive = true) : state.isTerminal = false := by
  cases state <;> first | rfl | cases h

theorem isWaiting_of_isActive {state : JobState} (h : state.isActive = true) : state.isWaiting = false := by
  cases state <;> first | rfl | cases h

theorem isActive_of_isWaiting {state : JobState} (h : state.isWaiting = true) : state.isActive = false := by
  cases state <;> first | rfl | cases h

theorem isWaiting_of_isTerminal {state : JobState} (h : state.isTerminal = true) :
    state.isWaiting = false := by
  cases state <;> first | rfl | cases h

end JobState

def mapRunStatus : RunStatus → JobState
  | .queued => .queued
  | .running => .running
  | .waitingForPermission => .waitingApproval
  | .paused => .paused
  | .cancelling => .cancelling
  | .succeeded => .succeeded
  | .failed => .failed
  | .cancelled => .cancelled
  | .needsReconciliation => .needsReconciliation

theorem isTerminal_mapRunStatus (status : RunStatus) :
    (mapRunStatus status).isTerminal = status.isTerminal := by
  cases status <;> rfl

/-! ## Reservations -/

inductive AcceleratorKind
  | cpu | metal | cuda | rocm | vulkan | directMl | appleNeuralEngine
  deriving DecidableEq

structure DeviceId where
  kind : AcceleratorKind
  index : Option Nat
  deriving DecidableEq

structure DeviceClaim where
  device : DeviceId
  bytes : Nat
  deriving DecidableEq

structure MemoryRequirement where
  (ramBytes vramBytes : Nat)
  deriving DecidableEq

structure ModelReservation where
  modelKey : String
  memory : MemoryRequirement
  deriving DecidableEq

structure DaemonJob where
  runId : Option String
  state : JobState
  priority : Int
  (attempt maxAttempts createdAtMs updatedAtMs : Nat)
  (startedAtMs finishedAtMs processId : Option Nat)
  maxRuntimeMs : Nat
  maxMemoryBytes : Option Nat
  maxLogBytes : Nat
  (pauseRequested cancelRequested : Bool)
  (lastError holdReason : Option String)
  reservation : Option ModelReservation
  deriving DecidableEq

structure DeviceRow where
  jobId : String
  claim : DeviceClaim

structure JobStore where
  jobs : Table String DaemonJob
  deviceRows : List DeviceRow
  (killSwitch maintenanceDrain : Bool)

namespace JobStore

def setJob (store : JobStore) (jobId : String) (job : DaemonJob) : JobStore :=
  { store with jobs := store.jobs.insert jobId job }

def all (store : JobStore) : List (String × DaemonJob) :=
  store.jobs.entries.map fun entry => (entry.1, entry.2)

def holds (store : JobStore) (modelKey : String) : Bool :=
  store.all.any fun (_, job) =>
    job.state.isActive && job.reservation.any (·.modelKey == modelKey)

end JobStore

/-! ## Statements on one row -/

/-- `transition`: `attempt` counts starts, so it moves only when an attempt
leaves the queue. -/
def DaemonJob.moved (job : DaemonJob) (state : JobState) (now : Nat) (processId : Option Nat)
    (error : Option String) : DaemonJob :=
  { job with
    state := state
    updatedAtMs := now
    startedAtMs := if state = .running ∧ job.startedAtMs = none then some now else job.startedAtMs
    finishedAtMs := if state.isTerminal then some now else job.finishedAtMs
    processId := processId
    attempt := if state = .running ∧ job.state.isWaiting then job.attempt + 1 else job.attempt
    lastError := error.or job.lastError }

namespace JobStore

def recordReservation (store : JobStore) (jobId : String) (job : DaemonJob)
    (reservation : ModelReservation) (devices : List DeviceClaim) : JobStore :=
  { store with
    jobs := store.jobs.insert jobId
      { job with reservation := some reservation, holdReason := none }
    deviceRows := store.deviceRows.filter (·.jobId != jobId) ++ devices.map (⟨jobId, ·⟩) }

def releaseReservation (store : JobStore) (jobId : String) : JobStore :=
  { store with
    jobs := match store.jobs.lookup jobId with
      | some job => store.jobs.insert jobId { job with reservation := none }
      | none => store.jobs
    deviceRows := store.deviceRows.filter (·.jobId != jobId) }

def sweepStaleReservations (store : JobStore) : JobStore :=
  let stale := store.all.filter fun (_, job) => job.reservation.isSome && !job.state.isActive
  stale.foldl (fun store (jobId, _) => store.releaseReservation jobId) store

/-! ## Totals -/

def residentKeys (store : JobStore) : List String :=
  (store.all.filterMap fun (_, job) =>
    if job.state.isActive then job.reservation.map (·.modelKey) else none).dedup

/-- `committed_reservations`: one row per resident model, the largest claim of
its holders. -/
def committedReservations (store : JobStore) : List (String × MemoryRequirement) :=
  store.residentKeys.map fun key =>
    let held := store.all.filterMap fun (_, job) =>
      if job.state.isActive then job.reservation.filter (·.modelKey == key) else none
    (key, ⟨(held.map (·.memory.ramBytes)).foldl max 0, (held.map (·.memory.vramBytes)).foldl max 0⟩)

def deviceRowsOf (store : JobStore) (modelKey : String) : List DeviceRow :=
  store.deviceRows.filter fun row =>
    (store.jobs.lookup row.jobId).any fun job =>
      job.state.isActive && job.reservation.any (·.modelKey == modelKey)

def modelDeviceBytes (store : JobStore) (modelKey : String) (device : DeviceId) : Nat :=
  ((store.deviceRowsOf modelKey).filter (·.claim.device == device)).map (·.claim.bytes)
    |>.foldl max 0

/-- `committed_device_reservations` at one device: the sum over resident models. -/
def committedDevice (store : JobStore) (device : DeviceId) : Nat :=
  (store.residentKeys.map fun key => store.modelDeviceBytes key device).sum

/-- `committed_device_reservations`: one row per device with a device row of an
active holder. -/
def committedDeviceReservations (store : JobStore) : List (DeviceId × Nat) :=
  let devices := (store.residentKeys.flatMap fun key =>
    (store.deviceRowsOf key).map (·.claim.device)).dedup
  devices.map fun device => (device, store.committedDevice device)

end JobStore

end LittleMonkey.Daemon
