import Mathlib.Data.List.Sort
import LittleMonkey.Daemon.Signatures

/-! # Inbound messages: who may send them, what they ask for and where they run

Two gates decide on a message, from reads only: whether its sender may submit messages to
the account, and whether it should wake the agent.  A message that passes is a command the
daemon answers itself, or a turn of the route its scope resolves to.
-/

namespace LittleMonkey.Channel

open Primitives
open Daemon.Trigger (sha256Hex)

inductive ChannelKind
  | telegram | discord | slack | whatsApp | signal | teams | googleChat | matrix | mattermost
  | line | iMessage | irc | sms | email | homeAssistant | webChat | extension
  deriving DecidableEq

def ChannelKind.asStr : ChannelKind → String
  | .telegram => "telegram"
  | .discord => "discord"
  | .slack => "slack"
  | .whatsApp => "whatsapp"
  | .signal => "signal"
  | .teams => "teams"
  | .googleChat => "google_chat"
  | .matrix => "matrix"
  | .mattermost => "mattermost"
  | .line => "line"
  | .iMessage => "imessage"
  | .irc => "irc"
  | .sms => "sms"
  | .email => "email"
  | .homeAssistant => "home_assistant"
  | .webChat => "webchat"
  | .extension => "extension"

def ChannelKind.label : ChannelKind → String
  | .telegram => "Telegram"
  | .discord => "Discord"
  | .slack => "Slack"
  | .whatsApp => "WhatsApp"
  | .signal => "Signal"
  | .teams => "Microsoft Teams"
  | .googleChat => "Google Chat"
  | .matrix => "Matrix"
  | .mattermost => "Mattermost"
  | .line => "LINE"
  | .iMessage => "iMessage"
  | .irc => "IRC"
  | .sms => "SMS"
  | .email => "Email"
  | .homeAssistant => "Home Assistant"
  | .webChat => "Web chat"
  | .extension => "Extension"

inductive ConversationKind
  | direct | group | channel

def ConversationKind.isMultiParty : ConversationKind → Bool
  | .direct => false
  | .group | .channel => true

/-- A normalized inbound message.  `replyAnchor` is the `provider_message_id` entry of its
metadata, the only one acceptance reads. -/
structure ChannelEnvelope where
  accountId : String
  kind : ChannelKind
  providerEventId : String
  providerMessageId : Option String
  conversationId : String
  conversationKind : ConversationKind
  threadId : Option String
  senderId : String
  displayLabel : Option String
  (isSelf isBot : Bool)
  text : String
  attachments : List String
  replyToProviderId : Option String
  mentionsSelf : Bool
  receivedAtMs : Int
  replyAnchor : Option String

variable (envelope : ChannelEnvelope)

def ChannelEnvelope.hasText : Bool := !isBlank envelope.text

def ChannelEnvelope.defaultSessionKey : String :=
  let kind := envelope.kind.asStr
  let key := s!"channel:{kind}:{envelope.accountId}:{envelope.conversationId}"
  match envelope.threadId with
  | none => key
  | some thread => key ++ ":" ++ thread

/-! ## Access -/

inductive AccessPolicy
  | disabled | allowList | pairing | anyone
  deriving DecidableEq

inductive GroupActivation
  | always | mentionOnly | disabled
  deriving DecidableEq

structure ChannelAccessPolicy where
  (direct group : AccessPolicy)
  groupActivation : GroupActivation
  deriving DecidableEq

def ChannelAccessPolicy.policyFor (policy : ChannelAccessPolicy) : ConversationKind → AccessPolicy
  | .direct => policy.direct
  | .group | .channel => policy.group

inductive EchoCorrelation
  | hostAdapter | providerMessageId | unsupported
  deriving DecidableEq

def EchoCorrelation.isHostVerifiable (correlation : EchoCorrelation) : Bool :=
  correlation ≠ .unsupported

/-- An account that cannot recognise its own message holds neither an open inbox nor a room
where every line is answered. -/
def ChannelAccessPolicy.clampedFor (policy : ChannelAccessPolicy) (correlation : EchoCorrelation) :
    ChannelAccessPolicy :=
  if correlation.isHostVerifiable then policy
  else
    let narrow (p : AccessPolicy) : AccessPolicy := if p = .anyone then .allowList else p
    { direct := narrow policy.direct
      group := narrow policy.group
      groupActivation :=
        if policy.groupActivation = .always then .mentionOnly else policy.groupActivation }

inductive SenderState
  | pending | approved | blocked
  deriving DecidableEq

structure SenderAuthorization where
  state : SenderState
  pairingExpiresAtMs : Option Int

def SenderAuthorization.pairingIsLive (authorization : SenderAuthorization) (nowMs : Int) : Bool :=
  authorization.state = .pending && authorization.pairingExpiresAtMs.any (nowMs < ·)

inductive IgnoreReason
  | ownMessage | policyDisabled | senderNotAllowed | senderBlocked | pairingPending
  | pairingQueueFull | notMentioned | emptyMessage | replyDepthExceeded | command
  deriving DecidableEq

def IgnoreReason.asStr : IgnoreReason → String
  | .ownMessage => "own_message"
  | .policyDisabled => "policy_disabled"
  | .senderNotAllowed => "sender_not_allowed"
  | .senderBlocked => "sender_blocked"
  | .pairingPending => "pairing_pending"
  | .pairingQueueFull => "pairing_queue_full"
  | .notMentioned => "not_mentioned"
  | .emptyMessage => "empty_message"
  | .replyDepthExceeded => "reply_depth_exceeded"
  | .command => "command"

structure PairingChallenge where
  (code codeDigest : String)
  expiresAtMs : Int

inductive AccessDecision
  | accept
  | challenge (challenge : PairingChallenge)
  | ignore (reason : IgnoreReason)

structure AccessContext where
  policy : ChannelAccessPolicy
  sender : Option SenderAuthorization
  (pendingPairings automatedReplyDepth consecutiveMachineMessages : Nat)
  ownOutboundEcho : Bool
  nowMs : Int

def pairingCodeTtlMs : Int := 60 * 60 * 1000
def maxPendingPairingPerAccount : Nat := 16
def maxAutomatedReplyDepth : Nat := 3

def asciiUppercase (c : Char) : Char :=
  if 97 ≤ c.toNat && c.toNat ≤ 122 then Char.ofNat (c.toNat - 32) else c

def asciiLowercase (c : Char) : Char :=
  if 65 ≤ c.toNat && c.toNat ≤ 90 then Char.ofNat (c.toNat + 32) else c

def trimmed (s : String) : List Char :=
  ((s.toList.dropWhile isWhitespace).reverse.dropWhile isWhitespace).reverse

def pairingCodeDigest (digest : Bytes → Bytes) (code : String) : String :=
  sha256Hex digest (textBytes (String.ofList ((trimmed code).map asciiUppercase)))

/-- What a sender without approval gets; `none` lets the message through. -/
def strangerDecision (digest : Bytes → Bytes) (envelope : ChannelEnvelope) (context : AccessContext)
    (code : String) : Option AccessDecision :=
  match context.policy.policyFor envelope.conversationKind with
  | .anyone => none
  | .disabled => some (.ignore .policyDisabled)
  | .allowList => some (.ignore .senderNotAllowed)
  | .pairing =>
    if envelope.conversationKind.isMultiParty then some (.ignore .senderNotAllowed)
    else if context.sender.any (·.pairingIsLive context.nowMs) then some (.ignore .pairingPending)
    else if maxPendingPairingPerAccount ≤ context.pendingPairings then
      some (.ignore .pairingQueueFull)
    else some (.challenge ⟨code, pairingCodeDigest digest code, saturatingAdd context.nowMs pairingCodeTtlMs⟩)

/-- The activation gate, the two bounds on automated exchanges and the empty message, in
that order. -/
def activationDecision (context : AccessContext) : AccessDecision :=
  let multiParty := envelope.conversationKind.isMultiParty
  if multiParty && context.policy.groupActivation = .disabled then .ignore .policyDisabled
  else if multiParty && context.policy.groupActivation = .mentionOnly && !envelope.mentionsSelf then
    .ignore .notMentioned
  else if maxAutomatedReplyDepth ≤ context.automatedReplyDepth then .ignore .replyDepthExceeded
  else if envelope.isBot && maxAutomatedReplyDepth ≤ context.consecutiveMachineMessages then
    .ignore .replyDepthExceeded
  else if !envelope.hasText && envelope.attachments.isEmpty then .ignore .emptyMessage
  else .accept

def decideAccess (digest : Bytes → Bytes) (envelope : ChannelEnvelope) (context : AccessContext)
    (code : String) : AccessDecision :=
  if context.ownOutboundEcho then .ignore .ownMessage
  else if envelope.isSelf then .ignore .ownMessage
  else if context.sender.any (·.state = .blocked) then .ignore .senderBlocked
  else if context.policy.policyFor envelope.conversationKind = .disabled then .ignore .policyDisabled
  else if context.sender.any (·.state = .approved) then activationDecision envelope context
  else (strangerDecision digest envelope context code).getD (activationDecision envelope context)

section

variable {digest : Bytes → Bytes} {envelope : ChannelEnvelope} {context : AccessContext}
  {code : String}

theorem decideAccess_cases (digest : Bytes → Bytes) (envelope : ChannelEnvelope)
    (context : AccessContext) (code : String) : (∃ reason, reason ≠ .notMentioned ∧ reason ≠ .command ∧
      decideAccess digest envelope context code = .ignore reason) ∨
    (strangerDecision digest envelope context code = some (decideAccess digest envelope context code) ∧
      ∀ sender ∈ context.sender, sender.state = .pending) ∨
    decideAccess digest envelope context code = activationDecision envelope context := by
  unfold decideAccess
  split
  · exact .inl ⟨.ownMessage, by decide, by decide, rfl⟩
  split
  · exact .inl ⟨.ownMessage, by decide, by decide, rfl⟩
  split
  · exact .inl ⟨.senderBlocked, by decide, by decide, rfl⟩
  rename_i hBlocked
  split
  · exact .inl ⟨.policyDisabled, by decide, by decide, rfl⟩
  split
  · exact .inr (.inr rfl)
  rename_i hApproved
  cases hStranger : strangerDecision digest envelope context code with
  | none => exact .inr (.inr rfl)
  | some decision =>
    refine .inr (.inl ⟨rfl, fun sender hSender => ?_⟩)
    rw [Option.mem_def.mp hSender] at hBlocked hApproved
    cases hState : sender.state with
    | pending => rfl
    | approved => exact absurd (by simp [hState]) hApproved
    | blocked => exact absurd (by simp [hState]) hBlocked

theorem strangerDecision_ne {decision} (h : strangerDecision digest envelope context code = some decision) :
    decision ≠ .accept ∧ decision ≠ .ignore .notMentioned ∧ decision ≠ .ignore .command := by
  unfold strangerDecision at h
  split at h
  · cases h
  · cases h
    exact ⟨by simp, by simp, by simp⟩
  · cases h
    exact ⟨by simp, by simp, by simp⟩
  · split at h
    · cases h
      exact ⟨by simp, by simp, by simp⟩
    split at h
    · cases h
      exact ⟨by simp, by simp, by simp⟩
    split at h <;> cases h <;> exact ⟨by simp, by simp, by simp⟩

theorem activationDecision_ne : (∀ challenge, activationDecision envelope context ≠ .challenge challenge) ∧
      activationDecision envelope context ≠ .ignore .command := by
  unfold activationDecision
  dsimp only
  split
  · simp
  split
  · simp
  split
  · simp
  split
  · simp
  split <;> simp

theorem decideAccess_ne_command : decideAccess digest envelope context code ≠ .ignore .command := by
  intro h
  rcases decideAccess_cases digest envelope context code with
    ⟨reason, -, hReason, hIgnored⟩ | ⟨hStranger, -⟩ | hActivation
  · rw [h] at hIgnored
    cases hIgnored
    exact hReason rfl
  · exact (strangerDecision_ne hStranger).2.2 h
  · exact activationDecision_ne.2 (hActivation.symm.trans h)

theorem decideAccess_accept (h : decideAccess digest envelope context code = .accept)
    (hBot : envelope.isBot = true) : context.consecutiveMachineMessages < maxAutomatedReplyDepth := by
  rcases decideAccess_cases digest envelope context code with
    ⟨reason, -, -, hIgnored⟩ | ⟨hStranger, -⟩ | hActivation
  · rw [h] at hIgnored
    cases hIgnored
  · exact absurd h (strangerDecision_ne hStranger).1
  · rw [h] at hActivation
    unfold activationDecision at hActivation
    dsimp only at hActivation
    split at hActivation
    · cases hActivation
    split at hActivation
    · cases hActivation
    split at hActivation
    · cases hActivation
    split at hActivation
    · cases hActivation
    rename_i hBudget
    simpa [hBot] using hBudget

theorem decideAccess_notMentioned (h : decideAccess digest envelope context code = .ignore .notMentioned) :
    envelope.conversationKind.isMultiParty = true ∧
      context.policy.groupActivation = .mentionOnly ∧ envelope.mentionsSelf = false := by
  rcases decideAccess_cases digest envelope context code with
    ⟨reason, hReason, -, hIgnored⟩ | ⟨hStranger, -⟩ | hActivation
  · rw [h] at hIgnored
    cases hIgnored
    exact absurd rfl hReason
  · exact absurd h (strangerDecision_ne hStranger).2.1
  · rw [h] at hActivation
    unfold activationDecision at hActivation
    dsimp only at hActivation
    split at hActivation
    · cases hActivation
    split at hActivation
    next hGate =>
      simpa [and_assoc] using hGate
    split at hActivation
    · cases hActivation
    split at hActivation
    · cases hActivation
    split at hActivation <;> cases hActivation

theorem decideAccess_challenge {challenge}
    (h : decideAccess digest envelope context code = .challenge challenge) :
    ∀ sender ∈ context.sender, sender.state = .pending := by
  rcases decideAccess_cases digest envelope context code with
    ⟨reason, -, -, hIgnored⟩ | ⟨-, hPending⟩ | hActivation
  · rw [h] at hIgnored
    cases hIgnored
  · exact hPending
  · rw [h] at hActivation
    exact absurd hActivation.symm (activationDecision_ne.1 challenge)

end

/-! ## Commands -/

inductive Command
  | start (choice : Option Nat)
  | help
  | clear
  | status
  | stop
  | resume
  | settings (choice : Option Nat)
  deriving DecidableEq

def splitWhitespace (text : String) : List (List Char) :=
  (text.toList.splitOnP isWhitespace).filter (!·.isEmpty)

def usizeMax : Nat := 18446744073709551615

def digitsValue : List Char → Nat → Option Nat
  | [], value => some value
  | c :: rest, value =>
    if 48 ≤ c.toNat && c.toNat ≤ 57 then digitsValue rest (10 * value + (c.toNat - 48)) else none

/-- `str::parse::<usize>`: one optional plus sign, at least one digit, no overflow. -/
def parseUsize (word : List Char) : Option Nat :=
  let digits := match word with
    | '+' :: rest => rest
    | _ => word
  if digits.isEmpty then none else (digitsValue digits 0).filter (· ≤ usizeMax)

def parseCommand (text : String) : Option Command :=
  match splitWhitespace text with
  | [] => none
  | head :: rest =>
    let name := String.ofList ((head.takeWhile (· ≠ '@')).map asciiLowercase)
    let choice := rest.head?.bind parseUsize
    if name = "/start" then some (.start choice)
    else if name = "/help" then some .help
    else if name = "/new" || name = "/clear" then some .clear
    else if name = "/status" then some .status
    else if name = "/stop" then some .stop
    else if name = "/resume" then some .resume
    else if name = "/settings" || name = "/model" then some (.settings choice)
    else none

def commandFor : Option Command :=
  match splitWhitespace envelope.text with
  | [] => none
  | head :: _ =>
    if head.contains '@' && !envelope.mentionsSelf then none else parseCommand envelope.text

/-! ## Routes -/

structure RouteScope where
  accountId : Option String
  kind : Option ChannelKind
  (conversationId threadId senderId : Option String)

inductive RouteSpecificity
  | globalDefault | channelDefault | account | conversation | thread | sender
  deriving DecidableEq

def RouteSpecificity.rung : RouteSpecificity → Nat
  | .globalDefault => 0
  | .channelDefault => 1
  | .account => 2
  | .conversation => 3
  | .thread => 4
  | .sender => 5

def RouteSpecificity.asStr : RouteSpecificity → String
  | .globalDefault => "global_default"
  | .channelDefault => "channel_default"
  | .account => "account"
  | .conversation => "conversation"
  | .thread => "thread"
  | .sender => "sender"

def RouteScope.specificity (scope : RouteScope) : RouteSpecificity :=
  if scope.senderId.isSome then .sender
  else if scope.threadId.isSome then .thread
  else if scope.conversationId.isSome then .conversation
  else if scope.accountId.isSome then .account
  else if scope.kind.isSome then .channelDefault
  else .globalDefault

def RouteScope.matches (scope : RouteScope) (envelope : ChannelEnvelope) : Bool :=
  scope.kind.all (· = envelope.kind) && scope.accountId.all (· = envelope.accountId) &&
    scope.conversationId.all (· = envelope.conversationId) &&
    scope.threadId.all (some · = envelope.threadId) && scope.senderId.all (· = envelope.senderId)

inductive SessionScope
  | thread | conversation | sender | account

def SessionScope.asStr : SessionScope → String
  | .thread => "thread"
  | .conversation => "conversation"
  | .sender => "sender"
  | .account => "account"

def SessionScope.sessionKey (scope : SessionScope) (envelope : ChannelEnvelope) : String :=
  let kind := envelope.kind.asStr
  match scope with
  | .thread => envelope.defaultSessionKey
  | .conversation => s!"channel:{kind}:{envelope.accountId}:{envelope.conversationId}"
  | .sender => s!"channel:{kind}:{envelope.accountId}:sender:{envelope.senderId}"
  | .account => s!"channel:{kind}:{envelope.accountId}"

structure RouteTarget where
  recipe : String
  params : List (String × String)
  repository : Option String
  sessionScope : SessionScope
  priority : Int
  replyToConversation : Bool

def leBytes32 (value : Int) : Bytes :=
  (List.range 4).map fun i => UInt8.ofNat ((value % 2 ^ 32).toNat / 256 ^ i)

def RouteTarget.digest (digest : Bytes → Bytes) (target : RouteTarget) : String :=
  sha256Hex digest (textBytes target.recipe ++ [0] ++
    target.params.flatMap (fun param => textBytes param.1 ++ [1] ++ textBytes param.2 ++ [2]) ++
    textBytes (target.repository.getD "") ++ [3] ++ textBytes target.sessionScope.asStr ++ [4] ++
    leBytes32 target.priority ++ [if target.replyToConversation then 1 else 0])

structure ChannelRoute where
  routeId : String
  scope : RouteScope
  target : RouteTarget
  enabled : Bool

inductive RouteError
  | noRoute
  | ambiguous (specificity : RouteSpecificity) (routeIds : List String)

def RouteError.message : RouteError → String
  | .noRoute => "No channel route matched this message and no default route is configured"
  | .ambiguous specificity routeIds =>
    let ids := ", ".intercalate routeIds
    let rung := specificity.asStr
    s!"Channel routes {ids} are equally specific ({rung}) and all match this message; make one more specific or disable the others"

def betterRoute (found : Option RouteSpecificity × List ChannelRoute) (route : ChannelRoute) :
    Option RouteSpecificity × List ChannelRoute :=
  if !route.enabled || !route.scope.matches envelope then found
  else
    let specificity := route.scope.specificity
    match found.1 with
    | some current =>
      if specificity.rung < current.rung then found
      else if specificity = current then (found.1, found.2 ++ [route])
      else (some specificity, [route])
    | none => (some specificity, [route])

def resolveRoute (routes : List ChannelRoute) (envelope : ChannelEnvelope) :
    Except RouteError ChannelRoute :=
  match routes.foldl (betterRoute envelope) (none, []) with
  | (_, [route]) => .ok route
  | (none, _) | (_, []) => .error .noRoute
  | (some specificity, winners) =>
    .error (.ambiguous specificity ((winners.map (·.routeId)).insertionSort (· ≤ ·)))

end LittleMonkey.Channel
