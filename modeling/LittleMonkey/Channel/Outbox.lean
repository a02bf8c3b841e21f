import Mathlib.Data.List.Sort
import LittleMonkey.Lib.Primitives
import LittleMonkey.Lib.Transaction

/-! # The outbox of the messaging channels

An outbound message is a row that a drain claims, hands to its provider and
completes.  Any number of drains run on one database and may stop between any
two statements; a restart parks what was being sent, because the request may
have reached the provider.
-/

namespace LittleMonkey.Channel

open Primitives Transaction

inductive OutboxState
  | queued | sending | sent | failed | needsReconciliation | cancelled
  deriving DecidableEq

def OutboxState.final : OutboxState → Bool
  | .queued | .sending => false
  | .sent | .failed | .needsReconciliation | .cancelled => true

structure OutboxRow where
  (accountId conversationId : String)
  (threadId replyToProviderId : Option String)
  state : OutboxState
  (payloadJson payloadDigest idempotencyKey : String)
  (invocationId providerMessageId : Option String)
  (attempt maxAttempts : Nat)
  nextAttemptAtMs : Option Int
  (lastError jobId : Option String)
  (createdAtMs updatedAtMs : Int)
  sentAtMs : Option Int

abbrev Outbox := Table String OutboxRow

abbrev Statement := Body String Outbox

inductive SendOutcome
  | sent (providerMessageId : Option String)
  | retryableFailure (error : String) (retryAfterMs : Option Int)
  | permanentFailure (error : String)
  | needsReconciliation (error : String)
  deriving DecidableEq

def SendOutcome.retryable : SendOutcome → Bool
  | .retryableFailure _ _ => true
  | _ => false

/-! ## Queueing -/

structure NewOutboxMessage where
  (accountId conversationId : String)
  (threadId replyToProviderId : Option String)
  (payloadJson payloadDigest idempotencyKey : String)
  invocationId : Option String
  maxAttempts : Nat
  jobId : Option String
  createdAtMs : Int

variable (message : NewOutboxMessage)

def NewOutboxMessage.row : OutboxRow where
  accountId := message.accountId
  conversationId := message.conversationId
  threadId := message.threadId
  replyToProviderId := message.replyToProviderId
  state := .queued
  payloadJson := message.payloadJson
  payloadDigest := message.payloadDigest
  idempotencyKey := message.idempotencyKey
  invocationId := message.invocationId
  providerMessageId := none
  attempt := 0
  maxAttempts := message.maxAttempts
  nextAttemptAtMs := none
  lastError := none
  jobId := message.jobId
  createdAtMs := message.createdAtMs
  updatedAtMs := message.createdAtMs
  sentAtMs := none

def NewOutboxMessage.checked : Bool :=
  message.payloadDigest ≠ "" && message.idempotencyKey ≠ "" &&
    1 ≤ message.maxAttempts && message.maxAttempts ≤ 100 && 0 < message.createdAtMs

def NewOutboxMessage.collides (row : OutboxRow) : Bool :=
  (row.accountId = message.accountId && row.idempotencyKey = message.idempotencyKey) ||
    (message.invocationId.isSome && row.invocationId = message.invocationId)

def NewOutboxMessage.holder (outbox : Outbox) : Option (String × OutboxRow) :=
  (outbox.entries.find? fun entry =>
    match message.invocationId with
    | some invocationId => entry.2.invocationId = some invocationId
    | none => entry.2.accountId = message.accountId &&
        entry.2.idempotencyKey = message.idempotencyKey).map fun entry => (entry.1, entry.2)

def NewOutboxMessage.identity : String :=
  match message.invocationId with
  | some invocationId => s!"invocation '{invocationId}'"
  | none => s!"idempotency key '{message.idempotencyKey}'"

inductive OutboxEnqueue
  | queued (outboxId : String)
  | alreadyQueued (outboxId : String)

variable (outboxId : String)

def insertOutboxMessage (message : NewOutboxMessage) : Statement OutboxEnqueue := do
  require (!message.checked) "Failed to enqueue channel message: CHECK constraint failed: channel_outbox"
  let outbox ← read id
  if (outbox.lookup outboxId).isNone && !outbox.entries.any (message.collides ·.2) then
    write (·.insert outboxId message.row)
    pure (.queued outboxId)
  else
    match message.holder outbox with
    | none => pureBody (.error "Query returned no rows")
    | some (existingId, existing) => do
      let identity := message.identity
      require (existing.payloadDigest ≠ message.payloadDigest)
        (s!"Internal consistency error: outbox row {existingId} already holds {identity} " ++
          "with a different payload digest; refusing to overwrite or duplicate it.")
      pure (.alreadyQueued existingId)

theorem insertOutboxMessage_ok {outboxId message outbox outbox' a}
    (h : insertOutboxMessage outboxId message outbox = .ok a outbox') : outbox' = outbox ∨
      outbox.lookup outboxId = none ∧ outbox' = outbox.insert outboxId message.row := by
  simp only [insertOutboxMessage, bind_eq_done, read_eq_ok, require_eq_ok, id_eq] at h
  obtain ⟨_, _, ⟨-, rfl⟩, _, _, ⟨rfl, rfl⟩, h⟩ := h
  split at h
  next hFree =>
    rw [Bool.and_eq_true, Option.isNone_iff_eq_none] at hFree
    simp only [bind_eq_done, write_eq_ok] at h
    obtain ⟨_, _, rfl, -, rfl⟩ := h
    exact .inr ⟨hFree.1, rfl⟩
  · left
    cases hHolder : message.holder outbox with
    | none => simp [hHolder] at h
    | some holder =>
      simp only [hHolder, bind_eq_done, require_eq_ok] at h
      obtain ⟨_, _, ⟨-, rfl⟩, -, rfl⟩ := h
      rfl

/-! ## Claiming and completing -/

def Outbox.ready (nowMs : Int) (limit : Nat) (outbox : Outbox) : List String :=
  let due := outbox.entries.filter fun entry =>
    entry.2.state = .queued && entry.2.nextAttemptAtMs.all (· ≤ nowMs)
  ((due.insertionSort fun a b => a.2.createdAtMs ≤ b.2.createdAtMs).take limit).map (·.1)

def checkTime (nowMs : Int) (rows : Nat) : Statement Unit :=
  require (0 < rows && nowMs ≤ 0) "CHECK constraint failed: updated_at_ms > 0"

def updateOutbox (nowMs : Int) (found : String → OutboxRow → Bool) (set : OutboxRow → OutboxRow) :
    Statement Nat := do
  let changed ← read (countRows found)
  checkTime nowMs changed
  write (updateRows found fun row => { set row with updatedAtMs := nowMs })
  pure changed

def claimOutboxBatch (nowMs : Int) (limit : Nat) : Statement (List (String × OutboxRow)) := do
  let ids ← read (Outbox.ready nowMs limit)
  -- One update for each id; they are by primary key, so they do not affect one another.
  let _ ← updateOutbox nowMs (fun id _ => ids.contains id) fun row =>
    { row with state := .sending, attempt := row.attempt + 1 }
  read fun outbox => ids.filterMap fun id => (outbox.lookup id).map (id, ·)

def outboxBaseBackoffMs : Int := 30000
def outboxMaxBackoffMs : Int := 15 * 60 * 1000
def maxProviderRetryAfterMs : Int := 60 * 60 * 1000

def backoffForAttempt (attempt : Nat) : Int :=
  min (outboxBaseBackoffMs * 2 ^ min (attempt - 1) 20) outboxMaxBackoffMs

def retryDelay (retryAfterMs : Option Int) (attempt : Nat) : Int :=
  match retryAfterMs with
  | some requested => max 0 (min requested maxProviderRetryAfterMs)
  | none => backoffForAttempt attempt

def finishOutbox (nowMs : Int) (set : OutboxRow → OutboxRow) : Statement Unit := do
  let changed ← updateOutbox nowMs (fun id _ => id = outboxId) set
  require (changed ≠ 1) s!"Unknown outbox message '{outboxId}'"

def completeSent (providerMessageId : Option String) (nowMs : Int) : Statement Unit :=
  finishOutbox outboxId nowMs fun row => { row with
    state := .sent, providerMessageId := providerMessageId, sentAtMs := some nowMs,
    lastError := none, nextAttemptAtMs := none }

def OutboxRow.ended (row : OutboxRow) (state : OutboxState) (error : String) : OutboxRow :=
  { row with state := state, lastError := some error, nextAttemptAtMs := none }

def selectAttempts : Statement (Nat × Nat) := do
  let found ← read (·.lookup outboxId)
  match found with
  | none => pureBody (.error s!"Unknown outbox message '{outboxId}'")
  | some row => pure (row.attempt, row.maxAttempts)

/-- Its second statement: out of attempts, or back to the queue.  Neither looks at the
state of the row. -/
def completeRetryable (outboxId error : String) (retryAfterMs : Option Int)
    (attempt maxAttempts : Nat) (nowMs : Int) : Statement Unit := do
  if maxAttempts ≤ attempt then
    let _ ← updateOutbox nowMs (fun id _ => id = outboxId) (·.ended .failed error)
  else
    let _ ← updateOutbox nowMs (fun id _ => id = outboxId) fun row => { row with
      state := .queued, lastError := some error,
      nextAttemptAtMs := some (saturatingAdd nowMs (retryDelay retryAfterMs attempt)) }

def releaseOutboxClaim (delayMs nowMs : Int) : Statement Unit := do
  let changed ← updateOutbox nowMs (fun id row => id = outboxId && row.state = .sending) fun row =>
    { row with
      state := .queued, attempt := row.attempt - 1,
      nextAttemptAtMs := some (saturatingAdd nowMs delayMs) }
  require (changed ≠ 1) s!"Unknown or unclaimed outbox message '{outboxId}'"

def cancelOutboxMessage (nowMs : Int) : Statement Bool := do
  let changed ← updateOutbox nowMs (fun id row => id = outboxId && row.state = .queued)
    ({ · with state := .cancelled })
  pure (changed = 1)

def requeueStuckSending (nowMs : Int) : Statement Nat :=
  updateOutbox nowMs (fun _ row => row.state = .sending) ({ · with state := .needsReconciliation })

/-! ## Drains -/

inductive Stage
  | ready
  | calling
  | completing (outcome : SendOutcome)
  | retrying (error : String) (retryAfterMs : Option Int) (attempt maxAttempts : Nat)
  deriving DecidableEq

/-- A run of `drain_outbox_once` after its claim: the rows left, the one in hand first. -/
structure Drain where
  nowMs : Int
  stage : Stage
  left : List (String × OutboxRow)

/-- The database, the drains in progress, and the messages of which a request may have
reached the provider: one was made, and was not answered by a retryable failure. -/
structure Sends where
  outbox : Outbox
  drains : List Drain
  atProvider : List String

inductive Event
  | enqueue (outboxId : String) (message : NewOutboxMessage)
  | cancel (outboxId : String) (nowMs : Int)
  | requeue (nowMs : Int)
  | claim (nowMs : Int) (limit : Nat)
  /-- The account of the row in hand has no adapter: the claim is released. -/
  | release (drain : Nat)
  /-- The payload of the row in hand does not parse. -/
  | unreadable (drain : Nat) (error : String)
  /-- The adapter sends the row in hand, and later answers. -/
  | call (drain : Nat)
  | answer (drain : Nat) (outcome : SendOutcome)
  /-- The next statement of `complete_outbox_send` for the row in hand. -/
  | complete (drain : Nat)
  | crash (drain : Nat)

def Drain.start (nowMs : Int) (rows : List (String × OutboxRow)) : List Drain :=
  if rows.isEmpty then [] else [⟨nowMs, .ready, rows⟩]

def Drain.rest (drain : Drain) : List Drain := Drain.start drain.nowMs drain.left.tail

def Drain.inHand (drain : Drain) : Option String := drain.left.head?.map (·.1)

def Sends.replace (s : Sends) (drain : Nat) (by' : List Drain) : Sends :=
  { s with drains := s.drains.take drain ++ by' ++ s.drains.drop (drain + 1) }

def Sends.moved (s : Sends) (drain : Nat) (d : Drain) (stage : Stage) : Sends :=
  s.replace drain [{ d with stage := stage }]

def Sends.exec {α : Type} (s : Sends) (statement : Statement α) : Except String α × Sends :=
  ((commit statement s.outbox).1, { s with outbox := (commit statement s.outbox).2 })

/-- A drain's statement on its row: `?` ends the drain on an error. -/
def Sends.finish (s : Sends) (drain : Nat) (d : Drain) (statement : Statement Unit) : Sends :=
  match s.exec statement with
  | (.ok (), s) => s.replace drain d.rest
  | (.error _, s) => s.replace drain []

def Sends.complete (s : Sends) (drain : Nat) (d : Drain) (outboxId : String) : Option Sends :=
  match d.stage with
  | .completing (.sent providerMessageId) =>
    some (s.finish drain d (completeSent outboxId providerMessageId d.nowMs))
  | .completing (.permanentFailure error) =>
    some (s.finish drain d (finishOutbox outboxId d.nowMs (·.ended .failed error)))
  | .completing (.needsReconciliation error) =>
    some (s.finish drain d (finishOutbox outboxId d.nowMs (·.ended .needsReconciliation error)))
  | .completing (.retryableFailure error retryAfterMs) =>
    match s.exec (selectAttempts outboxId) with
    | (.ok (attempt, maxAttempts), s) =>
      some (s.moved drain d (.retrying error retryAfterMs attempt maxAttempts))
    | (.error _, s) => some (s.replace drain [])
  | .retrying error retryAfterMs attempt maxAttempts =>
    some (s.finish drain d
      (completeRetryable outboxId error retryAfterMs attempt maxAttempts d.nowMs))
  | _ => none

def Sends.worker (s : Sends) (drain : Nat) : Option (Drain × String) :=
  (s.drains[drain]?).bind fun d => d.inHand.map (d, ·)

def Sends.work (s : Sends) (drain : Nat) (f : Drain → String → Option Sends) : Option Sends :=
  (s.worker drain).bind fun (d, outboxId) => f d outboxId

def Sends.after (s : Sends) : Event → Option Sends
  | .enqueue outboxId message => some (s.exec (insertOutboxMessage outboxId message)).2
  | .cancel outboxId nowMs => some (s.exec (cancelOutboxMessage outboxId nowMs)).2
  | .requeue nowMs => some (s.exec (requeueStuckSending nowMs)).2
  | .claim nowMs limit =>
    match s.exec (claimOutboxBatch nowMs limit) with
    | (.ok rows, s) => some { s with drains := s.drains ++ Drain.start nowMs rows }
    | (.error _, s) => some s
  | .release drain => s.work drain fun d outboxId =>
    if d.stage = .ready then some (s.finish drain d (releaseOutboxClaim outboxId 60000 d.nowMs))
    else none
  | .unreadable drain error => s.work drain fun d _ =>
    if d.stage = .ready then some (s.moved drain d (.completing
      (.permanentFailure s!"Stored outbound message is unreadable: {error}")))
    else none
  | .call drain => s.work drain fun d outboxId =>
    if d.stage = .ready then
      some { s.moved drain d .calling with atProvider := outboxId :: s.atProvider }
    else none
  | .answer drain outcome => s.work drain fun d outboxId =>
    if d.stage = .calling then
      some { s.moved drain d (.completing outcome) with
        atProvider := if outcome.retryable then s.atProvider.filter (· ≠ outboxId)
          else s.atProvider }
    else none
  | .complete drain => s.work drain fun d outboxId => s.complete drain d outboxId
  | .crash drain => if drain < s.drains.length then some (s.replace drain []) else none

end LittleMonkey.Channel
