import Mathlib.Logic.Function.Basic

/-! # Run statuses and the errors of the ledger -/

namespace LittleMonkey.Ledger

inductive RunStatus
  | queued | running | waitingForPermission | paused | cancelling | succeeded | failed | cancelled
  | needsReconciliation
  deriving DecidableEq

namespace RunStatus

def token : RunStatus → String
  | queued => "queued"
  | running => "running"
  | waitingForPermission => "waiting_for_permission"
  | paused => "paused"
  | cancelling => "cancelling"
  | succeeded => "succeeded"
  | failed => "failed"
  | cancelled => "cancelled"
  | needsReconciliation => "needs_reconciliation"

def isTerminal : RunStatus → Bool
  | succeeded | failed | cancelled | needsReconciliation => true
  | _ => false

end RunStatus

inductive LedgerError
  | protocol (message : String)
  | notFound (entity id : String)
  | numericOverflow (field : String)
  | idempotencyConflict (key existingRunId requestedRunId : String)
  | runIdConflict (runId : String)
  | terminalRun (runId : String) (terminalSequence : Nat)
  | sequenceMismatch (runId : String) (expected actual : Nat)
  | invalidTransition (message : String)
  | duplicateEvent (eventId : String)
  | approvalDigestMismatch (requestId : String)
  | approvalExpiryMismatch (requestId : String)
  | approvalAlreadyDecided (requestId : String)
  | approvalDecisionTiming (requestId message : String)
  | corrupt (message : String)
  | serialization
  /-- A statement the database refused: a key, a check or a trigger. -/
  | sqlite (constraint : String)
  deriving DecidableEq

end LittleMonkey.Ledger
