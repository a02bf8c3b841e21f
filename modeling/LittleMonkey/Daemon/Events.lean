import LittleMonkey.Daemon.Engine

/-! # Runs of the daemon

A tick and a restart handle one job after another.  An `Event` is one such call,
a request of an operator, a step of a submission, or a change made by another
process; a run is any sequence of them.  A daemon that dies leaves its durable
writes and loses its memory.
-/

namespace LittleMonkey.Daemon

open Durable Transaction

/-! ## Submission -/

structure NewJob where
  priority : Int
  (maxAttempts createdAtMs maxRuntimeMs : Nat)
  maxMemoryBytes : Option Nat
  maxLogBytes : Nat

def NewJob.row (new : NewJob) : DaemonJob where
  runId := none
  state := .preparing
  priority := new.priority
  attempt := 0
  maxAttempts := new.maxAttempts
  createdAtMs := new.createdAtMs
  updatedAtMs := new.createdAtMs
  startedAtMs := none
  finishedAtMs := none
  processId := none
  maxRuntimeMs := new.maxRuntimeMs
  maxMemoryBytes := new.maxMemoryBytes
  maxLogBytes := new.maxLogBytes
  pauseRequested := false
  cancelRequested := false
  lastError := none
  holdReason := none
  reservation := none

def Engine.setRow (e : Engine) (jobId : String) (job : DaemonJob) : Engine :=
  { e with store := e.store.setJob jobId job }

def insertPreparing (jobId : String) (new : NewJob) (maxQueue : Nat) : EngineM Unit := do
  let store ← read (·.store)
  if new.maxAttempts = 0 ∨ 100 < new.maxAttempts then
    fail "daemon max_attempts must be between 1 and 100"
  else if maxQueue ≤ (nonterminalJobs store).length then
    fail "Daemon queue is full"
  else if (store.jobs.lookup jobId).isSome then
    fail "Failed to queue daemon job: UNIQUE constraint failed: daemon_jobs.job_id"
  else write fun e => e.setRow jobId new.row

def DaemonJob.queuedWith (job : DaemonJob) (runId : String) (now : Nat) : DaemonJob :=
  { job with runId := some runId, state := .queued, updatedAtMs := now }

def DaemonJob.pausedWith (job : DaemonJob) (runId : String) (now : Nat) : DaemonJob :=
  { job with runId := some runId, state := .paused, pauseRequested := true, updatedAtMs := now }

def markPrepared (jobId : String) (mark : DaemonJob → DaemonJob) : EngineM Unit := do
  let job ← jobOf jobId
  if job.state = .preparing then write fun e => e.setRow jobId (mark job)
  else fail s!"Job '{jobId}' is not preparing"

def markQueued (jobId runId : String) (now : Nat) : EngineM Unit :=
  markPrepared jobId (·.queuedWith runId now)

def markQueuedPaused (jobId runId : String) (now : Nat) : EngineM Unit :=
  markPrepared jobId (·.pausedWith runId now)

def abandonPreparing (w : World) (jobId error : String) : EngineM Unit := do
  let job ← jobOf jobId
  if job.state = .preparing then transition w jobId .failed none (some error)
  else fail s!"Job '{jobId}' is not preparing"

/-! ## Events -/

inductive Event
  | supervise (w : World) (jobId : String)
  | start (w : World) (acc : Admissions) (jobId : String) (job : DaemonJob)
  | cancelQueued (w : World) (jobId : String) (job : DaemonJob) (reason : String)
  | recover (w : World) (jobId : String) (job : DaemonJob)
  | sweep (w : World)
  | cancel (w : World) (jobId : String)
  | pause (w : World) (jobId : String) (value : Bool)
  | cancelAll (w : World)
  | escalate (jobIds : List String)
  | submit (jobId : String) (new : NewJob) (maxQueue : Nat)
  | queue (jobId runId : String) (now : Nat)
  | queuePaused (jobId runId : String) (now : Nat)
  | abandon (w : World) (jobId error : String)
  /-- The task child, or any other writer of the ledger, leaves the run so. -/
  | child (runId : String) (run : RunRecord)
  | switches (killSwitch maintenanceDrain : Bool)
  | die

def Event.program : Event → EngineM Unit
  | supervise w jobId => tickActive w jobId
  | start w acc jobId job => do
    let _ ← admitCandidate w acc jobId job
    pure ()
  | cancelQueued w jobId job reason => cancelQueuedJob w jobId job reason
  | recover w jobId job => recoverJob w jobId job
  | sweep w => sweepReservations w
  | cancel w jobId => requestCancel w jobId
  | pause w jobId value => requestPause w jobId value
  | cancelAll w => requestCancelAll w
  | escalate jobIds =>
    write fun e => { e with immediateTermination := jobIds ++ e.immediateTermination }
  | submit jobId new maxQueue => insertPreparing jobId new maxQueue
  | queue jobId runId now => markQueued jobId runId now
  | queuePaused jobId runId now => markQueuedPaused jobId runId now
  | abandon w jobId error => abandonPreparing w jobId error
  | child runId run => write fun e => { e with runs := e.runs.insert runId run }
  | switches killSwitch maintenanceDrain => write fun e =>
    { e with
      store := { e.store with killSwitch := killSwitch, maintenanceDrain := maintenanceDrain } }
  | die => crash

def Event.enabled : Event → Engine → Prop
  | start _ _ jobId job, e => e.store.jobs.lookup jobId = some job ∧ job.state = .queued
  | cancelQueued _ jobId job _, e =>
    e.store.jobs.lookup jobId = some job ∧ job.state.isWaiting = true
  | recover _ jobId job, e =>
    e.store.jobs.lookup jobId = some job ∧ job.state.isActive = true ∧ jobId ∉ e.active
  | _, _ => True

def Engine.reborn (e : Engine) : Engine := { e with active := [], immediateTermination := [] }

def outcome {α : Type} (p : EngineM α) (e : Engine) : Engine :=
  match p e with
  | .ok _ e' => e'
  | .error (.failed _) e' => e'
  | .error .crashed e' => e'.reborn

def Engine.empty : Engine where
  store := ⟨∅, [], false, false⟩
  runs := ∅
  active := []
  immediateTermination := []
  spawned := []
  admitted := ∅

/-- The states of the runs whose events all meet `C`. -/
inductive Reachable (C : Event → Engine → Prop) : Engine → Prop
  | empty : Reachable C Engine.empty
  | step {e} (event : Event) (h : Reachable C e) (hEnabled : event.enabled e)
      (hC : C event e) : Reachable C (outcome event.program e)

/-- Where a call stops, `I` holds; of a daemon that died, for its successor. -/
def Kept (I : Engine → Prop) : Stop String → Engine → Prop
  | .crashed, e => I e.reborn
  | .failed _, e => I e

theorem outcome_of_triple {α : Type} {p : EngineM α} {P I : Engine → Prop}
    (h : Triple P p (fun _ => I) (Kept I)) {e} (he : P e) : I (outcome p e) := by
  have hRun := h e he
  unfold outcome
  cases hp : p e with
  | ok a e' =>
    rw [hp] at hRun
    exact hRun
  | error stop e' =>
    rw [hp] at hRun
    cases stop with
    | crashed => exact hRun
    | failed message => exact hRun

theorem Reachable.invariant {C : Event → Engine → Prop} {I : Engine → Prop} (hEmpty : I Engine.empty)
    (hStep : ∀ event, Triple (fun e => I e ∧ event.enabled e ∧ C event e) event.program (fun _ => I) (Kept I))
    {e : Engine} (h : Reachable C e) : I e := by
  induction h with
  | empty => exact hEmpty
  | step event _ hEnabled hC ih => exact outcome_of_triple (hStep event) ⟨ih, hEnabled, hC⟩

end LittleMonkey.Daemon
