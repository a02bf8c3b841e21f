import Mathlib.Data.List.SplitOn
import LittleMonkey.Ledger.Protocol
import LittleMonkey.Daemon.Signatures

/-! # Trigger configurations

What a persistent trigger watches and what it starts, with the checks every
reader of a stored configuration makes first.
-/

namespace LittleMonkey.Daemon.Trigger

open Guards Primitives

def maxWebhookBytes : Nat := 1024 * 1024

inductive WorkflowTrigger
  | manual
  | inAppCron (expression : String)
  | persistentCron (expression : String)
  | filesystem (canonicalRoot pattern : String)
  | signedWebhook (webhookId secretReference : String) (replayWindowMs : Nat)
  | eventIngestion (topic consumerId : String)

inductive TriggerTarget
  | recipe (recipe : String) (params : List (String × String)) (payloadParam : Option String)
  | workflow (workflowId definitionSha256 : String)
  | extension (extensionId handlerId version manifestSha256 : String)

structure WorkflowTriggerBinding where
  workflowVersion : Nat
  managedByBatch : Bool
  trigger : WorkflowTrigger

structure GithubScope where
  (repository localRepository remoteName : String)
  (branchPrefixes events : List String)
  (allowPush allowCreatePullRequest allowReviewComment : Bool)

inductive TriggerKind
  | cron (schedule : String)
  | filesystem (path : String) (recursive : Bool) (pattern lastFingerprint : Option String)
  | signedWebhook (secretReference : Option String) (maxSkewMs : Nat)
  | github (scope : GithubScope) (maxSkewMs : Nat)

structure TriggerConfig where
  target : TriggerTarget
  workflow : Option WorkflowTriggerBinding
  kind : TriggerKind

/-- Libraries the checks consult: an error text, or none. -/
structure Formats where
  (cron glob semanticVersion : String → Option String)
  isAbsolute : String → Bool

def refuse? (found : Option String) (message : String → String) : Except String Unit :=
  match found with
  | some error => .error (message error)
  | none => .ok ()

def isIdentifierChar (c : Char) : Bool :=
  c.isAlphanum || c == '-' || c == '_' || c == '.' || c == ':'

def isBounded (max : Nat) (allowed : Char → Bool) (value : String) : Bool :=
  !value.isEmpty && decide (value.utf8ByteSize ≤ max) && value.toList.all allowed

def validateWorkflowId (value : String) : Except String Unit :=
  refuseIf (!isBounded 160 isIdentifierChar value)
    "workflow identifier must be a bounded ASCII identifier"

def validateSha256 (value label : String) : Except String Unit :=
  refuseIf (value.utf8ByteSize != 64 || !(textBytes value).all isAsciiHexdigit)
    s!"{label} must be a 64-character SHA-256 digest"

def validateSkew (value : Nat) : Except String Unit :=
  refuseIf (!(decide (1000 ≤ value) && decide (value ≤ 60 * 60 * 1000)))
    "signature max skew must be between 1 second and 1 hour"

def validateParamName (value : String) : Except String Unit :=
  refuseIf (!isBounded 128 (fun c => c.isAlphanum || c == '_' || c == '-') value)
    s!"Invalid trigger parameter name '{value}'"

def validateRepository (value : String) : Except String Unit :=
  let parts := value.toList.splitOn '/'
  refuseIf (parts.length != 2 || parts.any List.isEmpty ||
      !value.toList.all fun c => c.isAlphanum || c == '-' || c == '_' || c == '.' || c == '/')
    "GitHub repository must be exactly owner/name"

variable (config : TriggerConfig)

def TriggerConfig.recipeTarget : Option (String × List (String × String) × Option String) :=
  match config.target with
  | .recipe recipe params payloadParam => some (recipe, params, payloadParam)
  | _ => none

def TriggerConfig.workflowTarget : Option (String × String × WorkflowTriggerBinding) :=
  match config.target, config.workflow with
  | .workflow workflowId definitionSha256, some binding =>
    some (workflowId, definitionSha256, binding)
  | _, _ => none

def TriggerConfig.extensionTarget : Option (String × String × String × String) :=
  match config.target with
  | .extension extensionId handlerId version manifestSha256 =>
    some (extensionId, handlerId, version, manifestSha256)
  | _ => none

def TriggerConfig.secretReference (triggerId : String) : String :=
  match config.kind with
  | .signedWebhook (some reference) _ => reference
  | _ => triggerId

def TriggerKind.validateWorkflowBinding (kind : TriggerKind) (binding : WorkflowTriggerBinding) :
    Except String Unit :=
  let agrees := match kind, binding.trigger with
    | .cron schedule, .persistentCron expression => schedule == expression
    | .filesystem path _ pattern _, .filesystem canonicalRoot declared =>
      path == canonicalRoot && pattern == some declared
    | .signedWebhook secretReference maxSkewMs, .signedWebhook _ declared replayWindowMs =>
      secretReference == some declared && maxSkewMs == replayWindowMs
    | .github _ _, .eventIngestion _ _ => true
    | _, _ => false
  refuseIf (!agrees) "daemon trigger configuration does not match its declared M4 trigger"

def TriggerConfig.validateTarget (formats : Formats) (config : TriggerConfig) :
    Except String Unit :=
  match config.target with
  | .recipe recipe params payloadParam => do
    refuseIf (recipe.toList.all Ledger.isWhitespace) "trigger recipe cannot be empty"
    refuseIf config.workflow.isSome "recipe trigger cannot carry a workflow binding"
    refuseIf (decide (64 < params.length)) "trigger cannot define more than 64 parameters"
    params.forM fun param => do
      validateParamName param.1
      let key := param.1
      refuseIf (decide (maxWebhookBytes < param.2.utf8ByteSize))
        s!"trigger parameter '{key}' is too large"
    payloadParam.toList.forM validateParamName
  | .workflow workflowId definitionSha256 => do
    validateWorkflowId workflowId
    validateSha256 definitionSha256 "workflow definition digest"
    let binding ← okOr config.workflow
      "workflow trigger target is missing its exact M4 trigger binding"
    refuseIf (binding.workflowVersion == 0) "workflow trigger version must be positive"
    config.kind.validateWorkflowBinding binding
  | .extension extensionId handlerId version manifestSha256 => do
    validateWorkflowId extensionId
    validateWorkflowId handlerId
    refuse? (formats.semanticVersion version) fun error =>
      s!"Invalid extension trigger version: {error}"
    validateSha256 manifestSha256 "extension manifest digest"
    refuseIf config.workflow.isSome "extension trigger cannot carry a workflow binding"

def GithubScope.validate (formats : Formats) (scope : GithubScope) (maxSkewMs : Nat) :
    Except String Unit := do
  validateRepository scope.repository
  refuseIf (!formats.isAbsolute scope.localRepository)
    "GitHub trigger local_repository must be absolute"
  validateParamName scope.remoteName
  validateSkew maxSkewMs
  refuseIf (scope.branchPrefixes.isEmpty || decide (32 < scope.branchPrefixes.length))
    "GitHub trigger requires 1-32 branch prefixes"
  scope.branchPrefixes.forM fun start =>
    refuseIf (!isBounded 256 (fun c => c != '\n' && c != '\r') start)
      "GitHub branch prefix is invalid"
  refuseIf (scope.events.isEmpty || decide (32 < scope.events.length))
    "GitHub trigger requires 1-32 event names"
  scope.events.forM fun event =>
    refuseIf (!event.toList.all fun c => c.isLower || c == '_' || c == '-')
      s!"Invalid GitHub event '{event}'"

def TriggerKind.validate (formats : Formats) : TriggerKind → Except String Unit
  | .cron schedule =>
    refuse? (formats.cron schedule) fun error => s!"Invalid cron expression: {error}"
  | .filesystem path _ pattern _ => do
    refuseIf (!formats.isAbsolute path) "filesystem trigger path must be absolute"
    pattern.toList.forM fun pattern => do
      refuseIf (pattern.isEmpty || decide (512 < pattern.utf8ByteSize))
        "filesystem trigger pattern is invalid"
      refuse? (formats.glob pattern) fun error => s!"Invalid filesystem trigger pattern: {error}"
  | .signedWebhook secretReference maxSkewMs => do
    validateSkew maxSkewMs
    secretReference.toList.forM validateWorkflowId
  | .github scope maxSkewMs => scope.validate formats maxSkewMs

def TriggerConfig.validate (formats : Formats) (config : TriggerConfig) : Except String Unit := do
  config.validateTarget formats
  config.kind.validate formats

end LittleMonkey.Daemon.Trigger
