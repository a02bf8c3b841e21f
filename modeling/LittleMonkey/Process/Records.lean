import LittleMonkey.Lib.Guards
import LittleMonkey.Lib.Primitives

/-! # Process records

The kinds of process, their states, the signals a kind honours, how a process ends and the
columns of its row.  Integers that the table stores as `i64` are `Int`, unsigned ones `Nat`.
-/

namespace LittleMonkey.Process


inductive ProcessKind
  | chatTurn | daemonJob | subagent | crewMember | workflowRun | workflowNode | remoteRun
  | backgroundShell | foregroundShell | sideTask | browserSession | verifyCommand | hookCommand
  | sandboxRun
  deriving DecidableEq

namespace ProcessKind

def asStr : ProcessKind → String
  | chatTurn => "chat_turn"
  | daemonJob => "daemon_job"
  | subagent => "subagent"
  | crewMember => "crew_member"
  | workflowRun => "workflow_run"
  | workflowNode => "workflow_node"
  | remoteRun => "remote_run"
  | backgroundShell => "background_shell"
  | foregroundShell => "foreground_shell"
  | sideTask => "side_task"
  | browserSession => "browser_session"
  | verifyCommand => "verify_command"
  | hookCommand => "hook_command"
  | sandboxRun => "sandbox_run"

def tag : ProcessKind → String
  | chatTurn => "turn"
  | daemonJob => "job"
  | subagent => "sub"
  | crewMember => "crew"
  | workflowRun => "wf"
  | workflowNode => "wfn"
  | remoteRun => "remote"
  | backgroundShell => "sh"
  | foregroundShell => "fgsh"
  | sideTask => "side"
  | browserSession => "browser"
  | verifyCommand => "vfy"
  | hookCommand => "hook"
  | sandboxRun => "sbx"

end ProcessKind

/-- The id of a new process; `uuid` is the simple form of a random uuid. -/
def newProcessId (kind : ProcessKind) (uuid : String) : String := "p-" ++ kind.tag ++ "-" ++ uuid

/-! ## States -/

inductive ProcessState
  | admitted | running | suspended | exited
  deriving DecidableEq

namespace ProcessState

def asStr : ProcessState → String
  | admitted => "admitted"
  | running => "running"
  | suspended => "suspended"
  | exited => "exited"

def isTerminal : ProcessState → Bool
  | exited => true
  | _ => false

def canTransitionTo (state next : ProcessState) : Bool :=
  state == next ||
    match state, next with
    | admitted, running | admitted, exited => true
    | running, suspended | running, exited => true
    | suspended, running | suspended, exited => true
    | _, _ => false

theorem eq_exited_of_canTransitionTo {next} (h : exited.canTransitionTo next = true) : next = exited := by
  cases next
  case exited => rfl
  all_goals cases h

end ProcessState

/-! ## Signals -/

inductive ProcessSignal
  | stop | kill | suspend | resume

inductive SignalSupport
  | honoured
  | refused (reason : String)
  deriving DecidableEq

def SignalSupport.refusal : SignalSupport → Option String
  | honoured => none
  | refused reason => some reason

/-- Every kind can be stopped; the rest depends on what the kind owns. -/
def ProcessKind.signalSupport (kind : ProcessKind) (signal : ProcessSignal) : SignalSupport :=
  match kind, signal with
  | _, .stop => .honoured
  | .daemonJob, .kill | .backgroundShell, .kill | .foregroundShell, .kill | .browserSession, .kill => .honoured
  | .remoteRun, _ =>
    .refused ("a remote run records the request, not the work: it owns no process of its " ++
      "own and is closed as soon as the job is queued; signal the daemon job it " ++
      "spawned, which is its child in this table")
  | .verifyCommand, _ | .hookCommand, _ | .sandboxRun, _ =>
    .refused ("this execution is one blocking step of the turn that started it, and nothing " ++
      "reads a signal latch while it runs; stop that turn instead, which cancels the " ++
      "command and reclaims its whole tree")
  | _, .kill =>
    .refused ("this kind owns no OS process to terminate; stop it instead, which winds it " ++
      "down at its next safe point")
  | .browserSession, _ =>
    .refused ("a browser session has no pause that a caller could resume from: stopping its " ++
      "Chromium mid-action leaves the DevTools connection open but unanswering, so " ++
      "every in-flight action would time out rather than park. Stop the session " ++
      "instead, which tears it down and reclaims its profile")
  | .workflowNode, _ =>
    .refused ("a workflow node has no independent pause mechanism and no safe point of its " ++
      "own; suspend the owning workflow run instead, which the executor observes at " ++
      "each level boundary")
  | _, _ => .honoured

structure SignalIntent where
  (stopRequested suspendRequested killRequested : Bool)
  deriving DecidableEq

def SignalIntent.after (intent : SignalIntent) : ProcessSignal → SignalIntent
  | .stop => ⟨true, intent.suspendRequested, intent.killRequested⟩
  | .kill => ⟨true, intent.suspendRequested, true⟩
  | .suspend => ⟨intent.stopRequested, true, intent.killRequested⟩
  | .resume => ⟨intent.stopRequested, false, intent.killRequested⟩

/-! ## Exits -/

inductive ExitStatus
  | succeeded | failed | cancelled | limitExceeded | lost | needsReconciliation | containmentLost
  deriving DecidableEq

structure LimitBreach where
  limit : String
  (configured observed : Nat)
  (backend level : String)
  observedAtMs : Int
  evidence : Option String
  deriving DecidableEq

structure ProcessExit where
  status : ExitStatus
  code : Option Int
  (signal reason : Option String)
  breach : Option LimitBreach
  deriving DecidableEq

def wallBudgetReasonPrefix : String := "wall budget exceeded: max_wall_ms"

def isBudgetReason (reason : String) : Bool := wallBudgetReasonPrefix.toList.isPrefixOf reason.toList

def upgradeABudgetKill (exit : Option ProcessExit) (signalReason : Option String) : Option ProcessExit :=
  exit.map fun exit =>
    if exit.status ≠ .cancelled || !signalReason.any isBudgetReason then exit
    else { exit with status := .limitExceeded, reason := signalReason }

/-! ## Limits, containment and measurements -/

structure ProcessLimits where
  (maxWallMs maxMemoryBytes maxOutputBytes maxChildProcesses maxContextTokens : Option Nat)
  deriving DecidableEq

inductive EnforcementLevel
  | kernel | supervised | ownerSourced
  deriving DecidableEq

inductive LimitCapability
  | enforced (level : EnforcementLevel) (mechanism : String)
  | notApplicable (reason : String)
  | unavailable (reason : String)
  deriving DecidableEq

/-- `enforcement` is a map by the name of the limit, in the order of the names. -/
structure Containment where
  (backend treePrimitive : String)
  scope : Option String
  enforcement : List (String × LimitCapability)
  deriving DecidableEq

structure ResourceSample where
  wallMs : Nat
  (rssBytes peakRssBytes processCount peakProcessCount outputBytes : Option Nat)

structure RecordedUsage where
  (rssBytes peakRssBytes processCount peakProcessCount outputBytes : Option Nat)
  deriving DecidableEq

structure MeasuredUsage where
  (cpuTimeMs peakRssBytes bytesRead bytesWritten bytesEgressed tokensIn tokensOut : Option Nat)
  (gpuResidentBytes gpuDeviceMs : Option Nat)
  deriving DecidableEq

def MeasuredUsage.fields (usage : MeasuredUsage) : List (String × Option Nat) :=
  [("cpuTimeMs", usage.cpuTimeMs), ("peakRssBytes", usage.peakRssBytes), ("bytesRead", usage.bytesRead),
    ("bytesWritten", usage.bytesWritten), ("bytesEgressed", usage.bytesEgressed), ("tokensIn", usage.tokensIn),
    ("tokensOut", usage.tokensOut), ("gpuResidentBytes", usage.gpuResidentBytes),
    ("gpuDeviceMs", usage.gpuDeviceMs)]

structure TraceFieldNote where
  (field reason : String)
  deriving DecidableEq

/-! ## Rows -/

structure ProcessRow where
  parentProcessId : Option String
  kind : ProcessKind
  externalId : String
  state : ProcessState
  (runId workspace profile : Option String)
  (nativePid nativeStartTime : Option Int)
  limits : ProcessLimits
  containment : Option Containment
  usage : RecordedUsage
  usageSampledAtMs : Option Int
  signalIntent : SignalIntent
  signalReason : Option String
  signalRequestedAtMs : Option Int
  exit : Option ProcessExit
  (createdAtMs updatedAtMs : Int)
  (startedAtMs exitedAtMs : Option Int)
  measured : MeasuredUsage
  usageUnavailable : Option (List TraceFieldNote)
  deriving DecidableEq

structure ProcessRecord where
  processId : String
  row : ProcessRow
  deriving DecidableEq

def ProcessRow.isLive (row : ProcessRow) : Bool := !row.state.isTerminal

structure AdmitProcess where
  kind : ProcessKind
  externalId : String
  (parentProcessId runId workspace profile : Option String)
  limits : ProcessLimits

structure ProcessProjection where
  kind : ProcessKind
  externalId : String
  parent : Option (ProcessKind × String)
  state : ProcessState
  exit : Option ProcessExit
  (runId workspace profile : Option String)
  (nativePid nativeStartTime : Option Int)
  limits : ProcessLimits
  containment : Option Containment
  usage : Option ResourceSample

inductive ReconcileOutcome
  | admitted | transitioned | unchanged | alreadyExited

structure ProcessFilter where
  kinds : List ProcessKind
  liveOnly : Bool
  (parentProcessId workspace : Option String)
  limit : Option Nat

inductive SqlRefusal
  | check | foreignKey | unique | killImpliesStop

inductive ProcessTableError
  | sqlite (refusal : SqlRefusal)
  | signalRefused (processId : String) (kind : ProcessKind) (signal : ProcessSignal) (reason : String)
  | alreadyExited (processId : String)
  | notFound (processId : String)
  | duplicateExternalId (kind : ProcessKind) (externalId existingProcessId : String)
  | illegalTransition (processId : String) (source target : ProcessState)
  | terminalMismatch (processId : String)
  | unknownParent (parentProcessId : String)
  | invalidField (field reason : String)
  | usageGapWithoutReason (field : String)

end LittleMonkey.Process
