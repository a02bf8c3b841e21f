import LittleMonkey.Channel.Envelopes
import LittleMonkey.Channel.Outbox
import LittleMonkey.Channel.Turns

/-! # Accepting an inbound message

A decision is committed with the event of the message, in one transaction: a turn, a pairing
challenge with its reply, or a reason to drop the message.  The reply of a command is queued
in a transaction of its own, before the event settles.
-/

namespace LittleMonkey.Channel

open Primitives Guards Transaction Interleaving
open Daemon.Trigger (sha256Hex)

/-! ## The database -/

structure ChannelAccount where
  kind : ChannelKind
  enabled : Bool
  accessPolicy : ChannelAccessPolicy
  /-- The `echo_correlation` entry of the configuration, where it is one. -/
  declaredEcho : Option EchoCorrelation
  healthState : String
  maxListedAttachments : Nat
  deriving DecidableEq

inductive EventDirection
  | inbound
  | outbound
  deriving DecidableEq

inductive EventDisposition
  | accepted | challenged | ignored | duplicate | failed
  deriving DecidableEq

/-- A row of `channel_events`.  `envelope` is what `envelope_json` reads back as, where it is
an envelope. -/
structure EventRow where
  (eventId accountId : String)
  source : ConversationSource
  direction : EventDirection
  (providerEventId conversationId : String)
  (threadId senderId : Option String)
  envelope : Option ChannelEnvelope
  disposition : EventDisposition
  (ignoreReason jobId : Option String)
  receivedAtMs : Int
  ingressId : Option String

structure SenderRow where
  state : SenderState
  pairingCodeDigest : Option String
  requestedAtMs : Int
  (expiresAtMs approvedAtMs blockedAtMs : Option Int)
  displayLabel : Option String
  deriving DecidableEq

structure SessionRow where
  (accountId conversationId : String)
  threadId : Option String
  sessionId : String
  (createdAtMs lastUsedAtMs : Int)

structure EchoRow where
  (accountId conversationId threadKey providerMessageId : String)

/-- The daemon's database as message acceptance sees it; the events are in the order of
their rowids.  The last two fields record the messages answered by a turn or by a command,
with their account and conversation, and the operator's last decision on each sender. -/
structure ChannelDb where
  accounts : Table String ChannelAccount
  events : List EventRow
  senders : Table (String × String) SenderRow
  routes : List ChannelRoute
  sessions : Table String SessionRow
  daemonMeta : Table String String
  echoes : List EchoRow
  outbox : Outbox
  turns : TurnDb
  killSwitch : Bool
  cancelRequested : List String
  answered : List (String × String × String)
  decisions : Table (String × String) SenderRow

abbrev Flow := Prog String ChannelDb
abbrev Acceptance := Body String ChannelDb

def onOutbox {α : Type} (body : Statement α) : Acceptance α :=
  focus ChannelDb.outbox (fun outbox db => { db with outbox := outbox }) body

def onTurns {α : Type} (body : Body String TurnDb α) : Acceptance α :=
  focus ChannelDb.turns (fun turns db => { db with turns := turns }) body

/-! ## What the machine supplies -/

structure RecipeTarget where
  json : String

structure ModelChoice where
  label : String
  target : RecipeTarget

structure OutboxPayload where
  accountId : String
  kind : ChannelKind
  conversationId : String
  threadId : Option String
  text : String
  attachments : List String
  replyToProviderId : Option String
  idempotencyKey : String
  replyDepth : Nat

/-! ### The JSON of a payload -/

def hexDigit (n : Nat) : Char := Char.ofNat (if n < 10 then 48 + n else 87 + n)

def jsonChar (c : Char) : List Char :=
  if c = '"' then ['\\', '"']
  else if c = '\\' then ['\\', '\\']
  else if c = '\n' then ['\\', 'n']
  else if c = '\r' then ['\\', 'r']
  else if c = '\t' then ['\\', 't']
  else if c.toNat = 8 then ['\\', 'b']
  else if c.toNat = 12 then ['\\', 'f']
  else if c.toNat < 32 then
    ['\\', 'u', '0', '0', hexDigit (c.toNat / 16), hexDigit (c.toNat % 16)]
  else [c]

def jsonText (s : String) : String := "\"" ++ String.ofList (s.toList.flatMap jsonChar) ++ "\""

def jsonField (name value : String) : String := "\"" ++ name ++ "\":" ++ value

def ChannelKind.jsonName : ChannelKind → String
  | .whatsApp => "whats_app"
  | .iMessage => "i_message"
  | .webChat => "web_chat"
  | kind => kind.asStr

/-- `serde_json::to_string` of a payload without attachments; a field that is `None` is left out. -/
def OutboxPayload.json (payload : OutboxPayload) : String :=
  let fields := [jsonField "account_id" (jsonText payload.accountId),
      jsonField "kind" (jsonText payload.kind.jsonName),
      jsonField "conversation_id" (jsonText payload.conversationId)] ++
    (payload.threadId.map fun thread => jsonField "thread_id" (jsonText thread)).toList ++
    [jsonField "text" (jsonText payload.text)] ++
    (payload.replyToProviderId.map fun id => jsonField "reply_to_provider_id" (jsonText id)).toList ++
    [jsonField "idempotency_key" (jsonText payload.idempotencyKey),
      jsonField "reply_depth" (toString payload.replyDepth)]
  "\x7b" ++ ",".intercalate fields ++ "\x7d"

/-- What acceptance meets outside the database: the hash, the JSON of a payload, the recipes
and models on the machine, the queue. -/
structure Machine where
  digest : Bytes → Bytes
  encode : OutboxPayload → String
  decode : String → Except String OutboxPayload
  readTarget : String → Option RecipeTarget
  describeTarget : RecipeTarget → String
  hasConfigRoots : Bool
  resolveRecipe : String → Except String RecipeTarget
  models : List ModelChoice
  freezeExecution : ConversationIngress → ChannelRoute → Option RecipeTarget → Nat →
    Except String FrozenExecution
  frozenContextUnusable : FrozenExecution → Option String
  messageParam : ConversationIngress → String → Nat → String
  queue : QueueEnv

structure FreshIds where
  (event outbox ingress resumed : String)

structure Delivery where
  machine : Machine
  envelope : ChannelEnvelope
  nowMs : Int
  candidateCode : String
  ids : FreshIds

/-! ## Reads -/

def EventRow.isEventOf (row : EventRow) (accountId providerEventId : String) : Bool :=
  row.source = .messagingChannel && row.accountId = accountId && row.direction = .inbound &&
    row.providerEventId = providerEventId

def ChannelDb.eventOf (db : ChannelDb) (envelope : ChannelEnvelope) : Option EventRow :=
  db.events.find? (·.isEventOf envelope.accountId envelope.providerEventId)

def echoCorrelationFor (account : ChannelAccount) : EchoCorrelation :=
  if account.kind ≠ .extension then .hostAdapter else account.declaredEcho.getD .unsupported

def echoRetentionMs : Int := 24 * 60 * 60 * 1000

def parseI64 (word : List Char) : Option Int :=
  let (negative, digits) := match word with
    | '-' :: rest => (true, rest)
    | '+' :: rest => (false, rest)
    | _ => (false, word)
  if digits.isEmpty then none
  else (digitsValue digits 0).bind fun value =>
    let signed : Int := if negative then -value else value
    if inI64 signed then some signed else none

def ChannelDb.echoCorrelationDegraded (db : ChannelDb) (accountId : String) (nowMs : Int) : Bool :=
  ((db.daemonMeta.lookup s!"channels.echo_degraded.{accountId}").bind fun raw =>
    parseI64 (trimmed raw)).any (nowMs < ·)

def ChannelDb.hasUnresolvedOutbound (db : ChannelDb) (accountId : String) (nowMs : Int) : Bool :=
  db.outbox.entries.any fun entry => entry.2.accountId = accountId &&
    (entry.2.state = .sending || entry.2.state = .needsReconciliation) &&
    saturatingSub nowMs echoRetentionMs < entry.2.updatedAtMs

def effectiveEchoCorrelation (accountId : String) (account : ChannelAccount) (nowMs : Int) :
    Flow EchoCorrelation :=
  let declared := echoCorrelationFor account
  if declared = .providerMessageId then do
    let degraded ← Prog.read (·.echoCorrelationDegraded accountId nowMs)
    if degraded then pure .unsupported
    else do
      let unresolved ← Prog.read (·.hasUnresolvedOutbound accountId nowMs)
      pure (if unresolved then .unsupported else declared)
  else pure declared

def threadKey (threadId : Option String) : String := threadId.getD ""

def ChannelDb.isOwnOutboundEcho (db : ChannelDb) (envelope : ChannelEnvelope)
    (providerMessageId : String) : Bool :=
  db.echoes.any fun row => row.accountId = envelope.accountId &&
    row.conversationId = envelope.conversationId && row.threadKey = threadKey envelope.threadId &&
    row.providerMessageId = providerMessageId

def ChannelDb.countPendingSenders (db : ChannelDb) (accountId : String) : Nat :=
  (db.senders.entries.filter fun entry => entry.1.1 = accountId && entry.2.state = .pending).length

def ChannelDb.sentOutboxPayload (db : ChannelDb) (accountId providerMessageId : String) :
    Option String :=
  (db.outbox.entries.find? fun entry => entry.2.accountId = accountId &&
    entry.2.providerMessageId = some providerMessageId && entry.2.state = .sent).map
      fun entry => entry.2.payloadJson

/-- Only reply metadata says how deep into an automated exchange a message is. -/
def inheritedReplyDepth (machine : Machine) (envelope : ChannelEnvelope) : Flow Nat :=
  match envelope.replyToProviderId with
  | none => pure 0
  | some replyTo => do
    match ← Prog.read (·.sentOutboxPayload envelope.accountId replyTo) with
    | none => pure 0
    | some json => do
      let payload ← Prog.ofExcept (machine.decode json)
      pure (min (payload.replyDepth + 1) 4294967295)

def EventRow.isInboundOf (row : EventRow) (accountId conversationId : String) : Bool :=
  row.accountId = accountId && row.conversationId = conversationId && row.direction = .inbound

def ChannelDb.inboundRows (db : ChannelDb) (accountId conversationId : String) :
    List (EventRow × Nat) :=
  db.events.zipIdx.filter fun row => row.1.isInboundOf accountId conversationId

/-- `ORDER BY received_at_ms DESC, rowid DESC`. -/
def isLater (a b : EventRow × Nat) : Prop :=
  b.1.receivedAtMs < a.1.receivedAtMs ∨ (b.1.receivedAtMs = a.1.receivedAtMs ∧ b.2 ≤ a.2)

instance : DecidableRel isLater := fun a b => by unfold isLater; infer_instance

def EventRow.isMachine (row : EventRow) : Bool := row.envelope.any (·.isBot)

def ChannelDb.consecutiveMachineMessages (db : ChannelDb) (accountId conversationId : String)
    (window : Nat) : Nat :=
  ((((db.inboundRows accountId conversationId).insertionSort isLater).take window).takeWhile
    (·.1.isMachine)).length

/-! ## The acceptance transaction -/

structure NewChannelEvent where
  (accountId providerEventId conversationId : String)
  (threadId senderId : Option String)
  envelope : ChannelEnvelope
  receivedAtMs : Int

def ChannelEnvelope.event (envelope : ChannelEnvelope) : NewChannelEvent :=
  ⟨envelope.accountId, envelope.providerEventId, envelope.conversationId, envelope.threadId,
    some envelope.senderId, envelope, max envelope.receivedAtMs 1⟩

def NewChannelEvent.row (event : NewChannelEvent) (eventId : String) : EventRow where
  eventId := eventId
  accountId := event.accountId
  source := .messagingChannel
  direction := .inbound
  providerEventId := event.providerEventId
  conversationId := event.conversationId
  threadId := event.threadId
  senderId := event.senderId
  envelope := some event.envelope
  disposition := .accepted
  ignoreReason := none
  jobId := none
  receivedAtMs := event.receivedAtMs
  ingressId := none

/-- `ON CONFLICT .. DO NOTHING`: the id of the new row or of the one that was there. -/
def insertChannelEvent (eventId : String) (event : NewChannelEvent) : Acceptance String := do
  require (event.providerEventId = "" || event.receivedAtMs ≤ 0)
    "Failed to record channel event: CHECK constraint failed: channel_events"
  let db ← read id
  match db.eventOf event.envelope with
  | some row => pure row.eventId
  | none => do
    require (db.events.any (·.eventId = eventId))
      "Failed to record channel event: UNIQUE constraint failed: channel_events.event_id"
    write fun db => { db with events := db.events ++ [event.row eventId] }
    pure eventId

def EventRow.finalized (row : EventRow) (disposition : EventDisposition)
    (ignoreReason ingressId jobId : Option String) : EventRow :=
  { row with
    disposition := disposition
    ignoreReason := ignoreReason
    ingressId := ingressId.or row.ingressId
    jobId := jobId.or row.jobId }

def updateEvents (eventId : String) (set : EventRow → EventRow) (db : ChannelDb) : ChannelDb :=
  { db with events := db.events.map fun row => if row.eventId = eventId then set row else row }

def finalizeEvent (eventId : String) (disposition : EventDisposition)
    (ignoreReason ingressId : Option String) : Acceptance Unit := do
  let known ← read fun db => db.events.any (·.eventId = eventId)
  require (!known) s!"Unknown channel event '{eventId}'"
  write (updateEvents eventId (·.finalized disposition ignoreReason ingressId none))

def bindSession (ingress : ConversationIngress) (event : NewChannelEvent) (nowMs : Int) :
    Acceptance Unit := do
  require (decide (nowMs ≤ 0)) "CHECK constraint failed: channel_session_map"
  write fun db => { db with
    sessions := match db.sessions.lookup ingress.sessionKey with
      | some row => db.sessions.insert ingress.sessionKey { row with lastUsedAtMs := nowMs }
      | none => db.sessions.insert ingress.sessionKey
          ⟨event.accountId, event.conversationId, event.threadId, ingress.sessionKey, nowMs, nowMs⟩ }

def upsertSender (accountId senderId : String) (row : SenderRow) : Acceptance Unit := do
  require (decide (row.requestedAtMs ≤ 0))
    "Failed to upsert channel sender: CHECK constraint failed: channel_sender_authorizations"
  write fun db => { db with senders := db.senders.insert (accountId, senderId) row }

inductive EnvelopeDecision
  | run (ingress : ConversationIngress) (params : List String)
  | challenge (senderId : String) (sender : SenderRow) (reply : NewOutboxMessage)
  | ignore (reason : String)
  | refuse (error : String)

inductive DurableAcceptance
  | runnable (eventId ingressId : String) (existing : Option IngressState)
  | settled (eventId : String)

def NewChannelEvent.recordAnswer (event : NewChannelEvent) : Acceptance Unit :=
  write fun db => { db with
    answered := db.answered ++ [(event.accountId, event.conversationId, event.providerEventId)] }

def acceptBody (ids : FreshIds) (event : NewChannelEvent) (decision : EnvelopeDecision)
    (nowMs : Int) : Acceptance DurableAcceptance := do
  let eventId ← insertChannelEvent ids.event event
  match decision with
  | .run ingress params => do
    let acceptance ← onTurns (insertIngressTurn ids.ingress ingress params nowMs)
    let (ingressId, existing) := match acceptance with
      | .accepted ingressId => (ingressId, none)
      | .existing ingressId state _ => (ingressId, some state)
    bindSession ingress event nowMs
    finalizeEvent eventId .accepted none (some ingressId)
    event.recordAnswer
    pure (.runnable eventId ingressId existing)
  | .challenge senderId sender reply => do
    upsertSender event.accountId senderId sender
    let _ ← onOutbox (insertOutboxMessage ids.outbox reply)
    finalizeEvent eventId .challenged none none
    pure (.settled eventId)
  | .ignore reason => do
    finalizeEvent eventId .ignored (some reason) none
    if reason = IgnoreReason.command.asStr then event.recordAnswer
    pure (.settled eventId)
  | .refuse error => do
    finalizeEvent eventId .failed (some error) none
    pure (.settled eventId)

variable (delivery : Delivery)

def acceptDecision (decision : EnvelopeDecision) : Flow DurableAcceptance :=
  Prog.transaction (acceptBody delivery.ids delivery.envelope.event decision delivery.nowMs)

/-! ## Answers -/

inductive ChannelAcceptance
  | run (eventId ingressId : String) (ingress : ConversationIngress) (params : List String)
      (attempts : Nat)
  | challenge (eventId : String)
  | ignore (eventId : String) (reason : IgnoreReason)
  | refused (eventId error : String)
  | duplicate (eventId : String)
  deriving DecidableEq

def commitSettled (decision : EnvelopeDecision) : Flow String := do
  match ← acceptDecision delivery decision with
  | .settled eventId => pure eventId
  | .runnable eventId _ _ => pure eventId

def refuse (error : String) : Flow ChannelAcceptance := do
  let eventId ← commitSettled delivery (.refuse error)
  pure (.refused eventId error)

def ignoreMessage (reason : IgnoreReason) : Flow ChannelAcceptance := do
  let eventId ← commitSettled delivery (.ignore reason.asStr)
  pure (.ignore eventId reason)

def onTurnsFlow {α : Type} (p : TurnFlow α) : Flow α :=
  p.focus ChannelDb.turns fun turns db => { db with turns := turns }

def resumeOrDuplicate (eventId ingressId : String) : Flow ChannelAcceptance := do
  match ← onTurnsFlow (pendingIngressTurn ingressId) with
  | some pending =>
    pure (.run eventId ingressId pending.ingress pending.params pending.attempts)
  | none => pure (.duplicate eventId)

/-- What an event that was recorded before means for this delivery; `none` decides it again. -/
def classifyExistingEvent (envelope : ChannelEnvelope) (row : EventRow) :
    Flow (Option ChannelAcceptance) :=
  if row.disposition ≠ .accepted then pure (some (.duplicate row.eventId))
  else
    match row.ingressId with
    | some ingressId => do
      let answer ← resumeOrDuplicate row.eventId ingressId
      pure (some answer)
    | none => do
      let key := dedupeKeyFor .messagingChannel envelope.accountId envelope.providerEventId
      match ← Prog.read (·.turns.turnOf key) with
      | none => pure none
      | some (ingressId, _) => do
        Prog.write (updateEvents row.eventId fun row => { row with ingressId := some ingressId })
        let answer ← resumeOrDuplicate row.eventId ingressId
        pure (some answer)

def runnable (eventId ingressId : String) (existing : Option IngressState)
    (ingress : ConversationIngress) (params : List String) : Flow ChannelAcceptance :=
  match existing with
  | none => pure (.run eventId ingressId ingress params 0)
  | some .queued | some .failed => pure (.duplicate eventId)
  | some .accepted => resumeOrDuplicate eventId ingressId

/-! ## Replies -/

def pairingReplyMaxAttempts : Nat := 3

variable (account : ChannelAccount)

def outboundRow (text idempotencyKey : String) : NewOutboxMessage :=
  let envelope := delivery.envelope
  let anchor := envelope.replyAnchor.getD envelope.providerEventId
  let json := delivery.machine.encode ⟨envelope.accountId, account.kind, envelope.conversationId,
    envelope.threadId, text, [], some anchor, idempotencyKey, 0⟩
  { accountId := envelope.accountId
    conversationId := envelope.conversationId
    threadId := envelope.threadId
    replyToProviderId := some anchor
    payloadJson := json
    payloadDigest := sha256Hex delivery.machine.digest (textBytes json)
    idempotencyKey := idempotencyKey
    invocationId := none
    maxAttempts := pairingReplyMaxAttempts
    jobId := none
    createdAtMs := delivery.nowMs }

def enqueueChannelMessage (message : NewOutboxMessage) : Flow OutboxEnqueue :=
  Prog.transaction (onOutbox (insertOutboxMessage delivery.ids.outbox message))

def pairingChallengeReply (code : String) : String :=
  s!"This assistant is not paired with you yet. Give this code to its operator to approve you: {code}\nThe code expires in 1 hour. Your message was not processed."

def senderModelKey (accountId senderId : String) : String :=
  s!"channel_sender_model:{accountId}:{senderId}"

def introducedKey (accountId senderId : String) : String :=
  s!"channel_introduced:{accountId}:{senderId}"

def modelGateKey : String := "channel_model_chosen"

def setMeta (key value : String) : Flow Unit :=
  Prog.write fun db => { db with daemonMeta := db.daemonMeta.insert key value }

def senderModel : Flow (Option RecipeTarget) := do
  let envelope := delivery.envelope
  let raw ← Prog.read (·.daemonMeta.lookup (senderModelKey envelope.accountId envelope.senderId))
  pure (raw.bind delivery.machine.readTarget)

def markIntroduced (envelope : ChannelEnvelope) : Flow Unit :=
  setMeta (introducedKey envelope.accountId envelope.senderId) "1"

def firstContact (envelope : ChannelEnvelope) : Flow Bool := do
  let gate ← Prog.read (·.daemonMeta.lookup modelGateKey)
  if gate.isSome then pure false
  else do
    let introduced ← Prog.read
      (·.daemonMeta.lookup (introducedKey envelope.accountId envelope.senderId))
    if introduced.isSome then pure false
    else do
      markIntroduced envelope
      pure true

variable (route : Option ChannelRoute)

def currentModelLine : Flow String :=
  match route with
  | none => pure "No task is routed to this conversation yet."
  | some route => do
    let recipe := route.target.recipe
    match ← senderModel delivery with
    | some chosen =>
      let model := delivery.machine.describeTarget chosen
      pure s!"Answering you on {model} — your own pick (task '{recipe}')."
    | none =>
      if !delivery.machine.hasConfigRoots then pure s!"Task: {recipe}"
      else
        match delivery.machine.resolveRecipe recipe with
        | .ok target =>
          let model := delivery.machine.describeTarget target
          pure s!"Answering on {model} — this machine's default (task '{recipe}')."
        | .error error => pure s!"Task '{recipe}' cannot be read: {error}"

def renderModels (models : List ModelChoice) : String :=
  if models.isEmpty then "No model is installed on this machine to switch to."
  else
    let lines := models.zipIdx.map fun entry =>
      let number := entry.2 + 1
      let label := entry.1.label
      s!"{number}. {label}\n"
    "Models on this machine:\n" ++ String.join lines ++
      "\nSend `/model 1` to be answered on that one instead. Your pick changes nothing for " ++
      "anybody else."

def helpText : String :=
  "/start — what this is, and the model it answers on\n/help — this list\n" ++
  "/new, /clear — about conversation memory\n" ++
  "/status — connection, model, and whether a turn is running\n" ++
  "/stop — cancel the turn running now\n/resume — retry a turn that failed to start\n" ++
  "/model, /settings — show the model answering you, or `/model 2` to pick another for yourself"

def clearText : String :=
  "Nothing to clear — each message is answered on its own, with no memory of the ones before it."

def firstRunNotice (route : ChannelRoute) : Flow String := do
  let line ← currentModelLine delivery (some route)
  pure (line ++ "\nSend /model to see the models on this machine, or `/model 2` to be " ++
    "answered on another one. Your pick changes nothing for anybody else.")

def applyChoice (choice : Nat) : Flow String :=
  let models := delivery.machine.models
  if route.isNone then
    pure "No task is routed to this conversation yet, so there is no model to change."
  else
    match (if choice = 0 then none else models[choice - 1]?) with
    | none =>
      let menu := renderModels models
      pure s!"No model {choice} in the list.\n\n{menu}"
    | some model => do
      setMeta (senderModelKey delivery.envelope.accountId delivery.envelope.senderId) model.target.json
      pure (s!"Now answering you on {model.label}. Nobody else's model changes, and a turn already " ++
        "running keeps the model it started with.")

def recentTurnScan : Nat := 100

def TurnDb.recentTurns (db : TurnDb) : List (String × TurnRow) :=
  ((db.turns.entries.insertionSort fun a b => b.2.createdAtMs ≤ a.2.createdAtMs).map
    fun entry => (entry.1, entry.2)).take recentTurnScan

def turnSessionKey (envelope : ChannelEnvelope) (route : Option ChannelRoute) : String :=
  match route with
  | some route => route.target.sessionScope.sessionKey envelope
  | none => envelope.defaultSessionKey

def recentTurn (envelope : ChannelEnvelope) (route : Option ChannelRoute)
    (wanted : IngressState → Bool) : Flow (Option TurnRow) :=
  Prog.read fun db => (db.turns.recentTurns.find? fun turn =>
    turn.2.ingress.sessionKey = turnSessionKey envelope route && wanted turn.2.state).map (·.2)

def activeTurn (envelope : ChannelEnvelope) (route : Option ChannelRoute) : Flow (Option TurnRow) :=
  recentTurn envelope route fun state => state = .queued || state = .accepted

def statusText : Flow String := do
  let running := match ← activeTurn delivery.envelope route with
    | some turn =>
      match turn.jobId with
      | some jobId => s!"A turn is running (job {jobId})."
      | none => "A turn is accepted and waiting to start."
    | none => "No turn is running."
  let engaged ← Prog.read (·.killSwitch)
  let switch := if engaged then
    "\nThe kill switch is engaged: nothing runs until an operator releases it." else ""
  let disabled := if account.enabled then "" else ", account disabled"
  let line ← currentModelLine delivery route
  pure s!"Connection: {account.healthState}{disabled}.\n{line}\n{running}{switch}"

def stopText : Flow String := do
  match ← activeTurn delivery.envelope route with
  | none => pure "Nothing is running for this conversation."
  | some turn =>
    match turn.jobId with
    | none => pure "The turn has not started yet; it will run and then finish."
    | some jobId => do
      match ← Prog.read (·.turns.jobs.lookup jobId) with
      | none => pure s!"Could not stop it: Unknown daemon run '{jobId}'"
      | some job =>
        if job.state.isTerminal then pure "That turn had already finished."
        else do
          Prog.write fun db => { db with cancelRequested := db.cancelRequested ++ [jobId] }
          pure "Asked the running turn to stop."

def resumeEventId (digest : Bytes → Bytes) (sourceEventId requestId : String) : String :=
  let suffix := String.ofList ((hexDigest digest [textBytes requestId]).toList.take 16)
  s!"{sourceEventId}#resume-{suffix}"

/-- Submit a durable resume of an accepted turn; the answer is the reply's text. -/
def resumeAcceptedTurn (sourceEventId requestId : String) : Flow String := do
  if isBlank requestId then
    pure "A resume must carry the caller's own request id, or a retry cannot be told from a second resume"
  else if ← Prog.read (·.killSwitch) then pure "Global kill switch is engaged; nothing can be resumed"
  else do
    let key := dedupeKeyFor .messagingChannel delivery.envelope.accountId sourceEventId
    match ← Prog.read (·.turns.turnOf key) with
    | none => pure s!"No accepted turn '{key}' to continue"
    | some (ingressId, _) =>
      match ← Prog.read (·.turns.turns.lookup ingressId) with
      | none => pure s!"Accepted turn '{ingressId}' is unreadable"
      | some row =>
        match row.ingress.execution with
        | none => pure (s!"Turn '{key}' was accepted without a frozen execution context and cannot be " ++
            "continued; start a new turn instead")
        | some execution =>
          match delivery.machine.frozenContextUnusable execution with
          | some reason => pure reason
          | none => do
            let continuation := { row.ingress with
              sourceEventId := resumeEventId delivery.machine.digest row.ingress.sourceEventId requestId }
            let outcome ← onTurnsFlow (submitConversationTurn delivery.machine.digest
              ⟨continuation, row.params, delivery.ids.resumed, fun _ => .error "unresolved",
                delivery.machine.queue, delivery.nowMs⟩)
            match outcome with
            | .queued _ _ | .alreadyQueued _ _ => pure "Picked that turn back up."
            | .deferred _ error => Prog.fail error
            | .parked _ | .duplicate => pure "This resumed turn could not be queued and was parked"

def resumeText : Flow String := do
  match ← recentTurn delivery.envelope route (· = .failed) with
  | none => pure "Nothing to resume — no turn here failed to start."
  | some turn => do
    let requestId := s!"command-resume-{delivery.envelope.providerEventId}"
    match ← (resumeAcceptedTurn delivery turn.ingress.sourceEventId requestId).attempt with
    | .ok text => pure text
    | .error error => pure s!"Could not resume it: {error}"

def replyText :
    Command → Flow String
  | .start none => do
    let line ← currentModelLine delivery route
    let menu := renderModels delivery.machine.models
    pure s!"Send a message and it is answered by this machine.\n\n{line}\n\n{menu}"
  | .start (some choice) | .settings (some choice) => applyChoice delivery route choice
  | .settings none => do
    let line ← currentModelLine delivery route
    let menu := renderModels delivery.machine.models
    pure s!"{line}\n\n{menu}"
  | .help => pure helpText
  | .clear => pure clearText
  | .status => statusText delivery account route
  | .stop => stopText delivery route
  | .resume => resumeText delivery route

/-- The answers that name the model; who has read one needs no notice. -/
def Command.introduces (command : Command) : Bool :=
  command = .start none || command = .settings none || command = .status

def commandReply (command : Command) : Flow String := do
  let routes ← Prog.read (·.routes)
  let route := (resolveRoute routes delivery.envelope).toOption
  if command.introduces then do
    markIntroduced delivery.envelope
    replyText delivery account route command
  else replyText delivery account route command

def answerCommand (command : Command) : Flow ChannelAcceptance := do
  let text ← commandReply delivery account command
  let _ ← enqueueChannelMessage delivery (outboundRow delivery account text
    s!"command-{delivery.envelope.providerEventId}")
  ignoreMessage delivery .command

/-! ## Acceptance -/

def ConversationIngress.fromChannel (digest : Bytes → Bytes) (envelope : ChannelEnvelope)
    (route : ChannelRoute) : ConversationIngress :=
  ⟨.messagingChannel, envelope.accountId, envelope.providerEventId,
    route.target.sessionScope.sessionKey envelope, envelope.text, envelope.attachments,
    route.target.digest digest, none⟩

def runParams (machine : Machine) (target : RouteTarget) (envelope : ChannelEnvelope)
    (ingress : ConversationIngress) (maxListed : Nat) : List String :=
  let params := target.params.map fun param => param.1 ++ "=" ++ param.2
  if target.params.any (·.1 = "message") then params
  else
    let label := envelope.kind.label
    let author := envelope.displayLabel.getD envelope.senderId
    params ++ ["message=" ++ machine.messageParam ingress s!"a {label} message from {author}" maxListed]

/-- The courtesy line of a first contact; an error of its queueing is dropped. -/
def queueNotice (route : ChannelRoute) : Flow Unit := do
  if ← firstContact delivery.envelope then do
    let text ← firstRunNotice delivery route
    let notice := outboundRow delivery account text s!"notice-{delivery.envelope.providerEventId}"
    let attempted : Flow (Except String OutboxEnqueue) := (enqueueChannelMessage delivery notice).attempt
    let _ ← attempted
  else pure ()

def acceptTurn (depth : Nat) : Flow ChannelAcceptance := do
  let machine := delivery.machine
  let routes ← Prog.read (·.routes)
  match resolveRoute routes delivery.envelope with
  | .error error => refuse delivery error.message
  | .ok route => do
    let picked ← senderModel delivery
    let ingress := ConversationIngress.fromChannel machine.digest delivery.envelope route
    let params := runParams machine route.target delivery.envelope ingress account.maxListedAttachments
    match validateIngress ingress with
    | .error error => refuse delivery error
    | .ok () =>
      match machine.freezeExecution ingress route picked depth with
      | .error error => refuse delivery error
      | .ok execution => do
        let ingress := { ingress with execution := some execution }
        queueNotice delivery account route
        match ← acceptDecision delivery (.run ingress params) with
        | .runnable eventId ingressId existing => runnable eventId ingressId existing ingress params
        | .settled eventId => pure (.duplicate eventId)

def acceptChallenge (challenge : PairingChallenge) : Flow ChannelAcceptance := do
  let envelope := delivery.envelope
  let sender : SenderRow := ⟨.pending, some challenge.codeDigest, delivery.nowMs,
    some challenge.expiresAtMs, none, none, envelope.displayLabel⟩
  let reply := outboundRow delivery account (pairingChallengeReply challenge.code)
    s!"pairing-{envelope.providerEventId}"
  let eventId ← commitSettled delivery (.challenge envelope.senderId sender reply)
  pure (.challenge eventId)

def carryOut (depth : Nat) :
    AccessDecision → Flow ChannelAcceptance
  | .ignore .notMentioned =>
    match commandFor delivery.envelope with
    | some command => answerCommand delivery account command
    | none => ignoreMessage delivery .notMentioned
  | .ignore reason => ignoreMessage delivery reason
  | .challenge challenge => acceptChallenge delivery account challenge
  | .accept =>
    match commandFor delivery.envelope with
    | some command => answerCommand delivery account command
    | none => acceptTurn delivery account depth

def ownOutboundEcho (envelope : ChannelEnvelope) (correlation : EchoCorrelation) : Flow Bool :=
  match correlation, envelope.providerMessageId with
  | .providerMessageId, some messageId => Prog.read (·.isOwnOutboundEcho envelope messageId)
  | _, _ => pure false

def machineStreak (envelope : ChannelEnvelope) : Flow Nat :=
  if envelope.isBot then
    Prog.read (·.consecutiveMachineMessages envelope.accountId envelope.conversationId
      maxAutomatedReplyDepth)
  else pure 0

def Delivery.context (correlation : EchoCorrelation) (echo : Bool) (sender : Option SenderRow)
    (depth streak pending : Nat) : AccessContext where
  policy := account.accessPolicy.clampedFor correlation
  sender := sender.map fun row => ⟨row.state, row.expiresAtMs⟩
  pendingPairings := pending
  automatedReplyDepth := depth
  consecutiveMachineMessages := streak
  ownOutboundEcho := echo
  nowMs := delivery.nowMs

def decideMessage : Flow ChannelAcceptance := do
  let envelope := delivery.envelope
  let correlation ← effectiveEchoCorrelation envelope.accountId account delivery.nowMs
  let echo ← ownOutboundEcho envelope correlation
  let sender ← Prog.read (·.senders.lookup (envelope.accountId, envelope.senderId))
  let depth ← inheritedReplyDepth delivery.machine envelope
  let streak ← machineStreak envelope
  let pending ← Prog.read (·.countPendingSenders envelope.accountId)
  carryOut delivery account depth (decideAccess delivery.machine.digest envelope
    (delivery.context account correlation echo sender depth streak pending) delivery.candidateCode)

def decideAnew : Flow ChannelAcceptance :=
  if account.enabled then decideMessage delivery account
  else ignoreMessage delivery .policyDisabled

def acceptChannelEnvelope : Flow ChannelAcceptance := do
  let envelope := delivery.envelope
  let account ← Prog.read (·.accounts.lookup envelope.accountId)
  match account with
  | none => Prog.fail s!"Unknown channel account '{envelope.accountId}'"
  | some account => do
    let kind := account.kind.asStr
    let arrived := envelope.kind.asStr
    Prog.ofExcept (refuseIf (account.kind ≠ envelope.kind)
      s!"Account '{envelope.accountId}' is a {kind} account but the message arrived as {arrived}")
    match ← Prog.read (·.eventOf envelope) with
    | none => decideAnew delivery account
    | some row =>
      match ← classifyExistingEvent envelope row with
      | some settled => pure settled
      | none => decideAnew delivery account

end LittleMonkey.Channel
