import LittleMonkey.Channel.SenderDecisions

/-! # Delivering a message again

An acceptance may stop after any statement, and the same message comes again: what the
stopped one left behind must not stand in the way.  A turn and a challenge are committed with
their event; a command's reply is queued before it, and its text is written anew.
-/

namespace LittleMonkey.Channel

open Primitives Guards Transaction Interleaving List
open Daemon.Trigger (sha256Hex)

structure Wire where
  digest : Bytes → Bytes
  encode : OutboxPayload → String
  decode : String → Except String OutboxPayload
  decodes : ∀ payload, ∃ read, decode (encode payload) = .ok read
  hashes : ∀ bytes, (digest bytes).length = 32

structure Delivery.Of (wire : Wire) (envelope : ChannelEnvelope) (d : Delivery) : Prop where
  envelope : d.envelope = envelope
  digest : d.machine.digest = wire.digest
  encode : d.machine.encode = wire.encode
  decode : d.machine.decode = wire.decode

section

variable (wire : Wire) (envelope : ChannelEnvelope)

def ChannelEnvelope.reply (envelope : ChannelEnvelope) (text key : String) : OutboxPayload :=
  ⟨envelope.accountId, envelope.kind, envelope.conversationId, envelope.threadId, text, [],
    some (envelope.replyAnchor.getD envelope.providerEventId), key, 0⟩

def ChannelEnvelope.commandKey (envelope : ChannelEnvelope) : String :=
  s!"command-{envelope.providerEventId}"

def ChannelEnvelope.pairingKey (envelope : ChannelEnvelope) : String :=
  s!"pairing-{envelope.providerEventId}"

def Wire.digestOf (payload : OutboxPayload) : String :=
  sha256Hex wire.digest (textBytes (wire.encode payload))

def OutboxRow.holds (row : OutboxRow) (accountId key : String) : Bool :=
  row.accountId = accountId && row.idempotencyKey = key

def Command.constantText : Command → Option String
  | .help => some helpText
  | .clear => some clearText
  | .start _ | .status | .stop | .resume | .settings _ => none

def Unsettled (db : ChannelDb) : Prop := ∀ row, db.eventOf envelope = some row → row.settled = false

/-- What a stopped acceptance leaves behind. -/
structure Resumable (db : ChannelDb) : Prop where
  payloads : Every (fun _ row => ∃ payload, row.payloadJson = wire.encode payload) db.outbox
  pairing : Unsettled envelope db →
    Every (fun _ row => row.holds envelope.accountId envelope.pairingKey = false) db.outbox
  constant : ∀ command text, commandFor envelope = some command → command.constantText = some text →
    Every (fun _ row => row.holds envelope.accountId envelope.commandKey = true →
      row.payloadDigest = wire.digestOf (envelope.reply text envelope.commandKey)) db.outbox

end

variable {wire : Wire} {envelope : ChannelEnvelope} {d : Delivery} {account : ChannelAccount}
  {s t : ChannelDb}

/-! ## A stopped acceptance -/

theorem outboundRow_json (hOf : d.Of wire envelope) (hKind : account.kind = envelope.kind)
    (text key : String) :
    (outboundRow d account text key).payloadJson = wire.encode (envelope.reply text key) := by
  simp only [outboundRow, ChannelEnvelope.reply, hOf.encode, hOf.envelope, hKind]

theorem outboundRow_digest (hOf : d.Of wire envelope) (hKind : account.kind = envelope.kind)
    (text key : String) :
    (outboundRow d account text key).payloadDigest = wire.digestOf (envelope.reply text key) := by
  simp only [outboundRow, Wire.digestOf, ChannelEnvelope.reply, hOf.encode, hOf.envelope, hOf.digest, hKind]

theorem keys_ne (d : Delivery) : d.envelope.commandKey ≠ d.envelope.pairingKey ∧
    d.noticeKey ≠ d.envelope.pairingKey ∧ d.noticeKey ≠ d.envelope.commandKey := by
  have hHead : ∀ {a b : String}, a.toList.head? ≠ b.toList.head? → a ≠ b := fun h hab => h (hab ▸ rfl)
  refine ⟨hHead ?_, hHead ?_, hHead ?_⟩ <;>
    simp [ChannelEnvelope.commandKey, ChannelEnvelope.pairingKey, Delivery.noticeKey, toString]

theorem Every.queued {P : String → OutboxRow → Prop} {outbox outbox' outboxId message enqueue} (h : Every P outbox)
    (hInserted : insertOutboxMessage outboxId message outbox = .ok enqueue outbox')
    (hRow : P outboxId message.row) : Every P outbox' := by
  rcases insertOutboxMessage_ok hInserted with rfl | ⟨-, rfl⟩
  · exact h
  · exact h.insert hRow

theorem Resumable.congr (h : Resumable wire envelope s) (hEvent : Unsettled envelope t → Unsettled envelope s)
    (hOutbox : t.outbox = s.outbox) : Resumable wire envelope t := by
  obtain ⟨hPayloads, hPairing, hConstant⟩ := h
  rw [← hOutbox] at hPayloads hPairing hConstant
  exact ⟨hPayloads, fun hUnsettled => hPairing (hEvent hUnsettled), hConstant⟩

def Decided (d : Delivery) (decision : EnvelopeDecision) : Prop :=
  decision.Plain ∨ ∃ account challenge, account.kind = d.envelope.kind ∧
    decision = d.challenge account challenge

theorem constantText_of_constant {command text text'}
    (hText : command.constantText = some text) (hConstant : Constant command text') : text' = text := by
  cases command with
  | help => exact (hConstant.1 rfl).trans (Option.some.inj hText)
  | clear => exact (hConstant.2 rfl).trans (Option.some.inj hText)
  | start choice => cases hText
  | settings choice => cases hText
  | status => cases hText
  | stop => cases hText
  | resume => cases hText

theorem Resumable.queued (hOf : d.Of wire envelope) (h : Resumable wire envelope s)
    (hKind : account.kind = d.envelope.kind) {text key enqueue}
    (hReply : key = d.noticeKey ∨ key = d.commandKey ∧
      ∃ command, commandFor d.envelope = some command ∧ Constant command text)
    {outbox} (hInserted : insertOutboxMessage d.ids.outbox
      (outboundRow d account text key) s.outbox = .ok enqueue outbox) :
    Resumable wire envelope { s with outbox := outbox } := by
  obtain rfl := hOf.envelope
  obtain ⟨hPairing, hNoticePairing, hNoticeCommand⟩ := keys_ne d
  constructor
  · exact Every.queued h.payloads hInserted ⟨_, outboundRow_json hOf hKind text key⟩
  · intro hUnsettled
    apply Every.queued (h.pairing hUnsettled) hInserted
    have hKey : key ≠ d.envelope.pairingKey := by
      rcases hReply with rfl | ⟨rfl, -⟩
      · exact hNoticePairing
      · exact hPairing
    simp [OutboxRow.holds, NewOutboxMessage.row, outboundRow, hKey]
  · intro command constant hCommand hConstant
    apply Every.queued (h.constant command constant hCommand hConstant) hInserted
    intro hHolds
    rcases hReply with rfl | ⟨rfl, command', hCommand', hText⟩
    · simp [OutboxRow.holds, NewOutboxMessage.row, outboundRow, hNoticeCommand] at hHolds
    · rw [hCommand, Option.some.injEq] at hCommand'
      subst hCommand'
      rw [← constantText_of_constant hConstant hText]
      exact outboundRow_digest hOf hKind text _

theorem Resumable.written (hOf : d.Of wire envelope) (h : Resumable wire envelope s)
    (hWrite : Writes d (Decided d) s t) : Resumable wire envelope t := by
  have hEnvelope := hOf.envelope
  subst hEnvelope
  cases hWrite with
  | aside same =>
    apply h.congr _ same.outbox
    simp only [Unsettled, ChannelDb.eventOf, same.events]
    exact id
  | queued account kind text key enqueue reply inserted =>
    obtain ⟨outbox, hInserted, rfl⟩ := focus_eq_ok.mp inserted
    exact h.queued hOf kind reply hInserted
  | linked eventId ingressId updated =>
    have hEvents : t.events = (s.events ++ []).map fun row : EventRow =>
        if row.eventId = eventId then { row with ingressId := some ingressId } else row := by
      rw [updated, append_nil]
      rfl
    apply h.congr _ (by rw [updated]; rfl)
    intro hUnsettled row hRow
    have hKept := rowKept_linked row eventId ingressId
    have hLater := hUnsettled _ (by
      rw [eventOf_map_append hEvents (fun row => rowKept_linked row eventId ingressId), hRow]
      rfl)
    cases hSettled : row.settled with
    | false => rfl
    | true =>
      rw [hKept.settled hSettled] at hLater
      cases hLater
  | committed decision allowed acceptance accepted =>
    have hCommitted := committed_of_acceptBody accepted
    obtain ⟨row, hRow, hSettled⟩ := hCommitted.settled
    have hNever : ¬ Unsettled d.envelope t := by
      intro hUnsettled
      rw [hUnsettled row hRow] at hSettled
      cases hSettled
    rcases allowed with hPlain | ⟨account, challenge, hKind, rfl⟩
    · exact h.congr (fun hUnsettled => absurd hUnsettled hNever) (hCommitted.plain hPlain).2
    · obtain ⟨-, enqueue, hInserted⟩ := hCommitted.challenged _ _ _ rfl
      constructor
      · exact Every.queued h.payloads hInserted ⟨_, outboundRow_json hOf hKind _ _⟩
      · exact fun hUnsettled => absurd hUnsettled hNever
      · intro command text hCommand hText
        apply Every.queued (h.constant command text hCommand hText) hInserted
        intro hHolds
        have hKey : d.pairingKey ≠ d.envelope.commandKey := (keys_ne d).1.symm
        simp [OutboxRow.holds, NewOutboxMessage.row, outboundRow, hKey] at hHolds

theorem Resumable.interrupted (hOf : d.Of wire envelope) (h : Resumable wire envelope s)
    (n : Nat) : Resumable wire envelope ((acceptChannelEnvelope d).cut n s) := by
  have hConfined : Confined d (Decided d) (acceptChannelEnvelope d) :=
    confined_acceptChannelEnvelope (fun _ hPlain => .inl hPlain)
      fun account challenge hKind => .inr ⟨account, challenge, hKind, rfl⟩
  have hChain := hConfined.cut n s
  generalize (acceptChannelEnvelope d).cut n s = t at hChain
  induction hChain with
  | refl => exact h
  | tail _ hWrite ih => exact ih.written hOf hWrite

/-! ## The acceptance that returns -/

/-- The clock and the generators are as usual, and the store takes the event. -/
structure Prepared (d : Delivery) (db : ChannelDb) : Prop where
  identified : d.envelope.providerEventId ≠ ""
  time : 0 < d.nowMs
  event : db.events.any (·.eventId = d.ids.event) = false

/-- A delivery that nothing outside the message stands in the way of. -/
structure Ready (d : Delivery) (db : ChannelDb) : Prop extends Prepared d db where
  account : ∃ account, db.accounts.lookup d.envelope.accountId = some account ∧ account.kind = d.envelope.kind
  outbox : db.outbox.lookup d.ids.outbox = none
  ingress : db.turns.turns.lookup d.ids.ingress = none

theorem Prepared.congr (h : Prepared d s) (hEvents : t.events = s.events) : Prepared d t :=
  ⟨h.identified, h.time, hEvents ▸ h.event⟩

theorem insertOutboxMessage_returns {outboxId message outbox}
    (hChecked : message.checked = true) (hInvocation : message.invocationId = none)
    (hFree : outbox.lookup outboxId = none)
    (hSame : Every (fun _ row => row.holds message.accountId message.idempotencyKey = true →
      row.payloadDigest = message.payloadDigest) outbox) :
    ∃ enqueue outbox', insertOutboxMessage outboxId message outbox = .ok enqueue outbox' := by
  have hCollides : ∀ row, message.collides row = row.holds message.accountId message.idempotencyKey := by
    intro row
    simp [NewOutboxMessage.collides, hInvocation, OutboxRow.holds]
  have hHolder : message.holder outbox = (outbox.entries.find? fun entry =>
      entry.2.holds message.accountId message.idempotencyKey).map fun entry => (entry.1, entry.2) := by
    simp only [NewOutboxMessage.holder, hInvocation, OutboxRow.holds]
  unfold insertOutboxMessage
  rw [bind_require (by rw [hChecked]; rfl), bind_read]
  simp only [hCollides, id_eq]
  cases hAny : outbox.entries.any fun entry =>
      entry.2.holds message.accountId message.idempotencyKey with
  | false =>
    rw [if_pos (by rw [hFree]; rfl), bind_write]
    exact ⟨_, _, rfl⟩
  | true =>
    rw [if_neg (by simp), hHolder]
    cases hFind : outbox.entries.find? fun entry =>
        entry.2.holds message.accountId message.idempotencyKey with
    | none =>
      rw [List.find?_eq_none] at hFind
      obtain ⟨entry, hEntry, hHolds⟩ := any_eq_true.mp hAny
      exact absurd hHolds (hFind entry hEntry)
    | some entry =>
      have hHolds := List.find?_some hFind
      have hDigest := hSame.entries entry (mem_of_find?_eq_some hFind) hHolds
      simp only [Option.map_some]
      rw [bind_require (by simp [hDigest])]
      exact ⟨_, _, rfl⟩

def Storable (d : Delivery) (db : ChannelDb) : EnvelopeDecision → Prop
  | .run _ _ => db.turns.turns.lookup d.ids.ingress = none
  | .challenge _ sender reply => 0 < sender.requestedAtMs ∧
      ∃ enqueue outbox, insertOutboxMessage d.ids.outbox reply db.outbox = .ok enqueue outbox
  | .ignore _ | .refuse _ => True

theorem insertChannelEvent_returns (hIdentified : d.envelope.providerEventId ≠ "")
    (hFree : s.events.any (·.eventId = d.ids.event) = false) :
    ∃ eventId rows, insertChannelEvent d.ids.event d.envelope.event s =
        .ok eventId { s with events := rows } ∧ rows.any (·.eventId = eventId) = true := by
  have hChecks : (d.envelope.event.providerEventId = "" ||
      d.envelope.event.receivedAtMs ≤ 0) = false := by
    have hTime : ¬ max d.envelope.receivedAtMs 1 ≤ 0 := by omega
    simp [ChannelEnvelope.event, hIdentified]
  unfold insertChannelEvent
  rw [bind_require hChecks, bind_read]
  cases hEvent : s.eventOf d.envelope.event.envelope with
  | some row =>
    refine ⟨row.eventId, s.events, ?_, ?_⟩
    · simp only [id_eq, hEvent]
      rfl
    · exact any_eq_true.mpr ⟨row, mem_of_find?_eq_some hEvent, by simp⟩
  | none =>
    refine ⟨d.ids.event, s.events ++ [d.envelope.event.row d.ids.event], ?_, ?_⟩
    · simp only [id_eq, hEvent]
      rw [bind_require hFree]
      rfl
    · simp [NewChannelEvent.row]

theorem finalizeEvent_returns {eventId db}
    (hKnown : db.events.any (·.eventId = eventId) = true) (disposition : EventDisposition)
    (reason ingressId : Option String) : finalizeEvent eventId disposition reason ingressId db =
      .ok () (updateEvents eventId (·.finalized disposition reason ingressId none) db) := by
  unfold finalizeEvent
  rw [bind_read, bind_require (by rw [hKnown]; rfl)]
  rfl

theorem insertIngressTurn_returns {ingressId turns}
    (hFree : turns.turns.lookup ingressId = none) (ingress : ConversationIngress)
    (params : List String) (nowMs : Int) :
    ∃ acceptance turns', insertIngressTurn ingressId ingress params nowMs turns = .ok acceptance turns' := by
  unfold insertIngressTurn
  rw [bind_read]
  cases hTurn : turns.turnOf ingress.dedupeKey with
  | some found =>
    simp only [id_eq, hTurn]
    exact ⟨_, _, rfl⟩
  | none =>
    simp only [id_eq, hTurn]
    rw [bind_require (by rw [hFree]; rfl), bind_write]
    exact ⟨_, _, rfl⟩

theorem bindSession_returns {nowMs} (hTime : 0 < nowMs) (ingress : ConversationIngress)
    (event : NewChannelEvent) (db : ChannelDb) :
    ∃ sessions, bindSession ingress event nowMs db = .ok () { db with sessions := sessions } := by
  unfold bindSession
  rw [bind_require (by simpa using hTime)]
  exact ⟨_, rfl⟩

theorem upsertSender_returns {sender} (hTime : 0 < sender.requestedAtMs)
    (accountId senderId : String) (db : ChannelDb) :
    ∃ senders, upsertSender accountId senderId sender db = .ok () { db with senders := senders } := by
  unfold upsertSender
  rw [bind_require (by simpa using hTime)]
  exact ⟨_, rfl⟩

theorem acceptBody_returns {decision} (hPrepared : Prepared d s) (hStorable : Storable d s decision) :
    ∃ acceptance t, acceptBody d.ids d.envelope.event decision d.nowMs s = .ok acceptance t := by
  obtain ⟨eventId, rows, hInsert, hKnown⟩ := insertChannelEvent_returns hPrepared.identified hPrepared.event
  have hFinal : ∀ (db : ChannelDb) disposition reason ingressId, db.events = rows →
      finalizeEvent eventId disposition reason ingressId db =
        .ok () (updateEvents eventId (·.finalized disposition reason ingressId none) db) := by
    intro db disposition reason ingressId hRows
    exact finalizeEvent_returns (hRows ▸ hKnown) disposition reason ingressId
  unfold acceptBody
  rw [bind_of_done hInsert]
  cases decision with
  | run ingress params =>
    obtain ⟨turn, turns, hTurn⟩ := insertIngressTurn_returns hStorable ingress params d.nowMs
    have hFocus : onTurns (insertIngressTurn d.ids.ingress ingress params d.nowMs)
        { s with events := rows } = .ok turn { s with events := rows, turns := turns } :=
      focus_eq_ok.mpr ⟨turns, hTurn, rfl⟩
    dsimp only
    rw [bind_of_done hFocus]
    obtain ⟨sessions, hSession⟩ := bindSession_returns hPrepared.time ingress d.envelope.event
      { s with events := rows, turns := turns }
    rw [bind_of_done hSession, bind_of_done (hFinal _ _ _ _ rfl)]
    exact ⟨_, _, rfl⟩
  | challenge senderId sender reply =>
    obtain ⟨hTime, enqueue, outbox, hQueued⟩ := hStorable
    obtain ⟨senders, hSender⟩ := upsertSender_returns hTime d.envelope.event.accountId senderId
      { s with events := rows }
    have hFocus : onOutbox (insertOutboxMessage d.ids.outbox reply)
        { s with events := rows, senders := senders } =
          .ok enqueue { s with events := rows, senders := senders, outbox := outbox } :=
      focus_eq_ok.mpr ⟨outbox, hQueued, rfl⟩
    dsimp only
    rw [bind_of_done hSender, bind_of_done hFocus, bind_of_done (hFinal _ _ _ _ rfl)]
    exact ⟨_, _, rfl⟩
  | ignore reason =>
    dsimp only
    rw [bind_of_done (hFinal _ _ _ _ rfl)]
    split
    · exact ⟨_, _, rfl⟩
    · exact ⟨_, _, rfl⟩
  | refuse error =>
    dsimp only
    rw [bind_of_done (hFinal _ _ _ _ rfl)]
    exact ⟨_, _, rfl⟩

/-! ### The steps of the acceptance -/

section

variable (hPrepared : Prepared d s)

include hPrepared

theorem returns_acceptDecision {decision} (hStorable : Storable d s decision) :
    (acceptDecision d decision).Returns (fun _ => Settled d.envelope) s := by
  apply Prog.Returns.transaction
  obtain ⟨acceptance, t, hAccepted⟩ := acceptBody_returns hPrepared hStorable
  exact ⟨acceptance, t, hAccepted, (committed_of_acceptBody hAccepted).settled⟩

theorem returns_commitSettled {decision} (hStorable : Storable d s decision) :
    (commitSettled d decision).Returns (fun _ => Settled d.envelope) s := by
  apply Prog.Returns.bind (returns_acceptDecision hPrepared hStorable)
  intro acceptance t hSettled
  cases acceptance with
  | settled eventId => exact .pure hSettled
  | runnable eventId ingressId existing => exact .pure hSettled

theorem returns_ignoreMessage (reason : IgnoreReason) :
    (ignoreMessage d reason).Returns (fun _ => Settled d.envelope) s :=
  Prog.Returns.bind (returns_commitSettled hPrepared trivial) fun _ _ hSettled => .pure hSettled

theorem returns_refuse (error : String) : (refuse d error).Returns (fun _ => Settled d.envelope) s :=
  Prog.Returns.bind (returns_commitSettled hPrepared trivial) fun _ _ hSettled => .pure hSettled

end

theorem returns_enqueue {message} (hChecked : message.checked = true)
    (hInvocation : message.invocationId = none) (hFree : s.outbox.lookup d.ids.outbox = none)
    (hSame : Every (fun _ row => row.holds message.accountId message.idempotencyKey = true →
      row.payloadDigest = message.payloadDigest) s.outbox) :
    (enqueueChannelMessage d message).Returns (fun _ t => t.events = s.events) s := by
  apply Prog.Returns.transaction
  obtain ⟨enqueue, outbox, hInserted⟩ := insertOutboxMessage_returns hChecked hInvocation hFree hSame
  exact ⟨enqueue, _, focus_eq_ok.mpr ⟨outbox, hInserted, rfl⟩, rfl⟩

theorem sha256Hex_ne (wire : Wire) (bytes : Bytes) : sha256Hex wire.digest bytes ≠ "" := by
  intro hEmpty
  have hChars := congrArg String.toList hEmpty
  have hLength := wire.hashes bytes
  cases hDigest : wire.digest bytes with
  | nil =>
    rw [hDigest] at hLength
    cases hLength
  | cons byte rest => simp [sha256Hex, Daemon.Trigger.hexEncode, hDigest] at hChars

theorem checked_outboundRow (hOf : d.Of wire envelope) (hTime : 0 < d.nowMs)
    (text : String) {key} (hKey : key ≠ "") : (outboundRow d account text key).checked = true := by
  have hDigest : (outboundRow d account text key).payloadDigest ≠ "" := by
    simp only [outboundRow, hOf.digest]
    exact sha256Hex_ne wire _
  unfold NewOutboxMessage.checked
  simp only [hDigest, ne_eq]
  simp [outboundRow, hKey, hTime, pairingReplyMaxAttempts]

/-- A reply to the message is queued, and the text it would get now may be another one. -/
def Rewritten (envelope : ChannelEnvelope) (db : ChannelDb) : Prop :=
  Unsettled envelope db ∧ (∃ id row, db.outbox.lookup id = some row ∧
      row.holds envelope.accountId envelope.commandKey = true) ∧
    ∀ command, commandFor envelope = some command → command.constantText = none

/-- The message is delivered again while its event waits. -/
structure Again (wire : Wire) (message : ChannelEnvelope) (d : Delivery) (origin : ChannelAccount) (db : ChannelDb) :
    Prop extends d.Of wire message, Ready d db, Resumable wire message db where
  kind : origin.kind = d.envelope.kind
  unsettled : Unsettled message db
  unwritten : ¬ Rewritten message db

theorem returns_answerCommand {command} (h : Again wire envelope d account s)
    (hCommand : commandFor d.envelope = some command) :
    (answerCommand d account command).Returns (fun _ => Settled d.envelope) s := by
  have hOutbox := h.outbox
  have hEnvelope := h.envelope
  subst hEnvelope
  obtain ⟨hSame, text, hText, hConstant⟩ :=
    (touches_commandReply d account command).run SameRecords.refl (fun _ _ _ => .trans) s
  -- every reply that is there carries the text of this one
  have hReplies : Every (fun _ row => row.holds d.envelope.accountId d.commandKey = true →
      row.payloadDigest = (outboundRow d account text d.commandKey).payloadDigest) s.outbox := by
    intro id row hRow hHolds
    rw [outboundRow_digest h.toOf h.kind]
    cases hReads : command.constantText with
    | none =>
      refine absurd ⟨h.unsettled, ⟨id, row, hRow, hHolds⟩, ?_⟩ h.unwritten
      intro other hOther
      rw [hCommand, Option.some.injEq] at hOther
      exact hOther ▸ hReads
    | some constant =>
      rw [constantText_of_constant hReads hConstant]
      exact h.constant command constant hCommand hReads id row hRow hHolds
  have hReply : (commandReply d account command).Returns
      (fun a t => a = text ∧ SameRecords s t) s := ⟨text, _, Prod.ext hText rfl, rfl, hSame⟩
  apply hReply.bind
  rintro answer t ⟨hAnswer, hRecords⟩
  subst hAnswer
  rw [← hRecords.outbox] at hReplies hOutbox
  have hChecked : (outboundRow d account answer d.commandKey).checked = true :=
    checked_outboundRow h.toOf h.time answer (by simp [Delivery.commandKey, toString])
  apply Prog.Returns.bind (returns_enqueue hChecked rfl hOutbox hReplies)
  intro _ t' hEvents
  exact returns_ignoreMessage (h.toPrepared.congr (hEvents.trans hRecords.events)) .command

theorem returns_acceptTurn (hPrepared : Prepared d s) (depth : Nat)
    (hIngress : s.turns.turns.lookup d.ids.ingress = none) :
    (acceptTurn d account depth).Returns (fun _ => Settled d.envelope) s := by
  apply Prog.Returns.read
  split
  · exact returns_refuse hPrepared _
  · apply Prog.Returns.look ⟨_, s, rfl, rfl⟩
    intro picked
    dsimp only
    split
    · exact returns_refuse hPrepared _
    · split
      · exact returns_refuse hPrepared _
      next route _ _ _ _ _ _ =>
        obtain ⟨⟨hEvents, hTurns⟩, a, hResult⟩ := (keepsTurns_queueNotice d
          account route).run (fun _ => ⟨rfl, rfl⟩)
          (fun _ _ _ h h' => ⟨h'.1.trans h.1, h'.2.trans h.2⟩) s
        apply Prog.Returns.bind (R := fun _ t => t.events = s.events ∧ t.turns = s.turns)
          ⟨a, _, Prod.ext hResult rfl, hEvents, hTurns⟩
        rintro _ t ⟨hEvents, hTurns⟩
        apply Prog.Returns.bind (returns_acceptDecision (hPrepared.congr hEvents) _)
        · intro acceptance t' hSettled
          cases acceptance with
          | runnable eventId ingressId existing => exact (aside_runnable _ _ _ _ _).returns_settled hSettled
          | settled eventId => exact .pure hSettled
        · have hFree : t.turns.turns.lookup d.ids.ingress = none := by
            rw [hTurns]
            exact hIngress
          exact hFree

theorem returns_acceptChallenge (h : Again wire envelope d account s) (challenge : PairingChallenge) :
    (acceptChallenge d account challenge).Returns (fun _ => Settled d.envelope) s := by
  have hEnvelope := h.envelope
  subst hEnvelope
  apply Prog.Returns.bind (returns_commitSettled h.toPrepared _)
  · exact fun _ _ hSettled => .pure hSettled
  · refine ⟨h.time, insertOutboxMessage_returns
      (checked_outboundRow h.toOf h.time _ (by simp [toString])) rfl h.outbox ?_⟩
    -- a reply with a code is committed with its event, so there is none
    intro id row hRow hHolds
    have hNone := h.pairing h.unsettled id row hRow
    exact absurd (hNone.symm.trans hHolds) (by simp)

theorem returns_carryOut (h : Again wire envelope d account s) (depth : Nat) (decision : AccessDecision) :
    (carryOut d account depth decision).Returns (fun _ => Settled d.envelope) s := by
  unfold carryOut
  split
  · split
    next command hCommand =>
      exact returns_answerCommand h hCommand
    · exact returns_ignoreMessage h.toPrepared _
  · exact returns_ignoreMessage h.toPrepared _
  · exact returns_acceptChallenge h _
  · split
    next command hCommand =>
      exact returns_answerCommand h hCommand
    · exact returns_acceptTurn h.toPrepared depth h.ingress

theorem returns_inheritedReplyDepth (hOf : d.Of wire envelope) (h : Resumable wire envelope s) :
    (inheritedReplyDepth d.machine d.envelope).Returns (fun _ t => t = s) s := by
  unfold inheritedReplyDepth
  split
  · exact ⟨0, s, rfl, rfl⟩
  next replyTo _ =>
    apply Prog.Returns.read
    cases hSent : s.sentOutboxPayload d.envelope.accountId replyTo with
    | none => exact ⟨0, s, rfl, rfl⟩
    | some json =>
      obtain ⟨entry, hEntry, hJson⟩ := Option.map_eq_some_iff.mp hSent
      obtain ⟨payload, hPayload⟩ := h.payloads.entries entry (mem_of_find?_eq_some hEntry)
      obtain ⟨read, hRead⟩ := wire.decodes payload
      have hDecoded : d.machine.decode json = .ok read := by
        rw [hOf.decode, ← hJson, hPayload, hRead]
      dsimp only
      rw [hDecoded]
      exact ⟨_, s, rfl, rfl⟩

theorem returns_decideAnew (h : Again wire envelope d account s) :
    (decideAnew d account).Returns (fun _ => Settled d.envelope) s := by
  unfold decideAnew
  split
  · apply Prog.Returns.look
    · unfold effectiveEchoCorrelation
      dsimp only
      split
      · apply Prog.Returns.read
        split
        · exact ⟨_, s, rfl, rfl⟩
        · exact ⟨_, s, rfl, rfl⟩
      · exact ⟨_, s, rfl, rfl⟩
    intro correlation
    apply Prog.Returns.look
    · unfold ownOutboundEcho
      split
      · exact ⟨_, s, rfl, rfl⟩
      · exact ⟨_, s, rfl, rfl⟩
    intro echo
    apply Prog.Returns.read
    apply Prog.Returns.look (returns_inheritedReplyDepth h.toOf h.toResumable)
    intro depth
    apply Prog.Returns.look
    · unfold machineStreak
      split
      · exact ⟨_, s, rfl, rfl⟩
      · exact ⟨_, s, rfl, rfl⟩
    intro streak
    apply Prog.Returns.read
    exact returns_carryOut h depth _
  · exact returns_ignoreMessage h.toPrepared _

theorem returns_acceptChannelEnvelope (hOf : d.Of wire envelope) (h : Resumable wire envelope s)
    (hReady : Ready d s) (hRewritten : ¬ Rewritten envelope s) :
    (acceptChannelEnvelope d).Returns (fun _ => Settled d.envelope) s := by
  have hEnvelope := hOf.envelope
  subst hEnvelope
  obtain ⟨account, hAccount, hKind⟩ := hReady.account
  apply Prog.Returns.read
  rw [hAccount]
  simp only [hKind, ne_eq]
  apply Prog.Returns.read
  split
  next hNone =>
    refine returns_decideAnew ⟨hOf, hReady, h, hKind, fun row hRow => ?_, hRewritten⟩
    rw [hNone] at hRow
    cases hRow
  next row hRow =>
    apply Prog.Returns.bind (returns_classifyExistingEvent hRow)
    rintro answer t ⟨hAgain, hDone⟩
    cases answer with
    | some settled => exact .pure (hDone rfl)
    | none =>
      obtain ⟨rfl, hUnsettled⟩ := hAgain rfl
      refine returns_decideAnew ⟨hOf, hReady, h, hKind, fun other hOther => ?_, hRewritten⟩
      rw [hRow, Option.some.injEq] at hOther
      exact hOther ▸ hUnsettled

/-! ## Runs -/

structure Unseen (wire : Wire) (envelope : ChannelEnvelope) (db : ChannelDb) : Prop where
  event : db.eventOf envelope = none
  replies : Every (fun _ row => row.holds envelope.accountId envelope.commandKey = false ∧
    row.holds envelope.accountId envelope.pairingKey = false) db.outbox
  payloads : Every (fun _ row => ∃ payload, row.payloadJson = wire.encode payload) db.outbox

/-- Jobs, settings, routes, senders and other messages change; the message's event and the
replies to it do not. -/
structure Elsewhere (wire : Wire) (envelope : ChannelEnvelope) (s t : ChannelDb) : Prop where
  event : t.eventOf envelope = s.eventOf envelope
  replies : ∀ key ∈ [envelope.commandKey, envelope.pairingKey],
    Every (fun _ row => row.holds envelope.accountId key = true → ∃ id old, s.outbox.lookup id = some old ∧
      old.holds envelope.accountId key = true ∧ old.payloadDigest = row.payloadDigest) t.outbox
  payloads : Every (fun _ row => ∃ payload, row.payloadJson = wire.encode payload) t.outbox

/-- A delivery that stops after some of its statements, or something else. -/
inductive RedeliveryStep (wire : Wire) (envelope : ChannelEnvelope) : ChannelDb → ChannelDb → Prop
  | interrupted (db : ChannelDb) (d : Delivery) (message : d.Of wire envelope) (n : Nat) :
      RedeliveryStep wire envelope db ((acceptChannelEnvelope d).cut n db)
  | meanwhile (db next : ChannelDb) (elsewhere : Elsewhere wire envelope db next) :
      RedeliveryStep wire envelope db next

theorem Unseen.resumable (h : Unseen wire envelope s) : Resumable wire envelope s := by
  constructor
  · exact h.payloads
  · exact fun _ => h.replies.imp fun _ _ hFree => hFree.2
  · intro _ _ _ _ id row hRow hHolds
    rw [(h.replies id row hRow).1] at hHolds
    cases hHolds

theorem Resumable.elsewhere (h : Resumable wire envelope s) (hElsewhere : Elsewhere wire envelope s t) :
    Resumable wire envelope t := by
  obtain ⟨hEvent, hReplies, hPayloads⟩ := hElsewhere
  constructor
  · exact hPayloads
  · intro hUnsettled id row hRow
    cases hHolds : row.holds envelope.accountId envelope.pairingKey with
    | false => rfl
    | true =>
      obtain ⟨id', old, hOld, hOldHolds, -⟩ := hReplies _ (by simp) id row hRow hHolds
      have hBefore : Unsettled envelope s := by
        unfold Unsettled at hUnsettled ⊢
        rwa [hEvent] at hUnsettled
      rw [h.pairing hBefore id' old hOld] at hOldHolds
      cases hOldHolds
  · intro command text hCommand hText id row hRow hHolds
    obtain ⟨id', old, hOld, hOldHolds, hDigest⟩ := hReplies _ (by simp) id row hRow hHolds
    rw [← hDigest]
    exact h.constant command text hCommand hText id' old hOld hOldHolds

theorem Resumable.step (h : Resumable wire envelope s) (hStep : RedeliveryStep wire envelope s t) :
    Resumable wire envelope t := by
  cases hStep with
  | interrupted d message n => exact h.interrupted message n
  | meanwhile _ elsewhere => exact h.elsewhere elsewhere

theorem Resumable.run {start} (hStart : Unseen wire envelope start)
    (hRun : Relation.ReflTransGen (RedeliveryStep wire envelope) start s) : Resumable wire envelope s := by
  induction hRun with
  | refl => exact hStart.resumable
  | tail _ hStep ih => exact ih.step hStep

/-- After any number of deliveries that stopped anywhere, and whatever happened meanwhile, the
next delivery returns and settles the event of the message, unless a reply to it is queued
whose text may have changed. -/
theorem redelivery_converges {start db : ChannelDb} (hStart : Unseen wire envelope start)
    (hRun : Relation.ReflTransGen (RedeliveryStep wire envelope) start db)
    (hOf : d.Of wire envelope) (hReady : Ready d db) (hRewritten : ¬ Rewritten envelope db) :
    ∃ answer db', (acceptChannelEnvelope d).run db = (.ok answer, db') ∧
      ∃ row, db'.eventOf envelope = some row ∧ row.settled = true := by
  have hResumable := Resumable.run hStart hRun
  obtain ⟨answer, db', hRun, hSettled⟩ := returns_acceptChannelEnvelope hOf hResumable hReady hRewritten
  rw [hOf.envelope] at hSettled
  exact ⟨answer, db', hRun, hSettled⟩

/-! ### A command whose reply was queued -/

def commandMessage (text : String) : ChannelEnvelope :=
  ⟨"acct", .telegram, "1", none, "chat", .direct, none, "ada", none, false, false, text, [], none, false,
    1, none⟩

def calmText : String :=
  "Connection: connected.\nNo task is routed to this conversation yet.\nNo turn is running."

/-- SHA-256 at the replies to `/status`, while nothing is the matter and with the kill switch
engaged, and to `/clear`. -/
def replyDigest (bytes : Bytes) : Bytes :=
  if bytes = textBytes ((commandMessage "/status").reply calmText "command-1").json then
    [83, 41, 103, 244, 207, 110, 199, 111, 171, 3, 2, 148, 43, 120, 128, 205, 227, 22, 235, 206, 209, 33, 122, 141, 119, 19, 206, 68, 148, 220, 222, 18]
  else if bytes = textBytes ((commandMessage "/clear").reply clearText "command-1").json then
    [152, 99, 77, 2, 141, 189, 68, 83, 40, 83, 79, 164, 154, 35, 146, 135, 108, 148, 0, 86, 122, 198, 4, 245, 109, 54, 190, 254, 188, 143, 60, 147]
  else
    [105, 154, 141, 145, 115, 250, 113, 173, 50, 24, 191, 53, 117, 244, 235, 10, 41, 44, 119, 227, 67, 8, 95, 9, 81, 161, 212, 246, 57, 238, 55, 78]

def replyWire : Wire where
  digest := replyDigest
  encode := OutboxPayload.json
  decode := fun _ => .ok ((commandMessage "").reply "" "")
  decodes := fun _ => ⟨_, rfl⟩
  hashes := by
    intro bytes
    unfold replyDigest
    split
    · rfl
    split <;> rfl

def commandDelivery (text : String) (id : String) : Delivery where
  machine := { plainMachine replyDigest with decode := replyWire.decode }
  envelope := commandMessage text
  nowMs := 5
  candidateCode := "PAIR1234"
  ids := ⟨"event-" ++ id, "outbox-" ++ id, "ingress-" ++ id, "resumed-" ++ id⟩

/-- The delivery stops with its reply queued, and an operator engages the kill switch. -/
def engagedAfter (text : String) (n : Nat) : ChannelDb :=
  let stopped := (acceptChannelEnvelope (commandDelivery text "a")).cut n (.ofAccount openAccount)
  { stopped with killSwitch := true }

theorem commandDelivery_of (text id : String) :
    (commandDelivery text id).Of replyWire (commandMessage text) := ⟨rfl, rfl, rfl, rfl⟩

theorem unseen_ofAccount (text : String) : Unseen replyWire (commandMessage text) (.ofAccount openAccount) :=
  ⟨rfl, every_empty, every_empty⟩

theorem elsewhere_engaged {db} (h : Resumable wire envelope db) :
    Elsewhere wire envelope db { db with killSwitch := true } :=
  ⟨rfl, fun _ _ id row hRow hHolds => ⟨id, row, hRow, hHolds, rfl⟩, h.payloads⟩

theorem engagedAfter_run (text : String) (n : Nat) :
    Relation.ReflTransGen (RedeliveryStep replyWire (commandMessage text)) (.ofAccount openAccount)
      (engagedAfter text n) := by
  have hStopped := RedeliveryStep.interrupted (.ofAccount openAccount) (commandDelivery text "a")
    (commandDelivery_of text "a") n
  have hResumable := (unseen_ofAccount text).resumable.step hStopped
  exact (Relation.ReflTransGen.single hStopped).tail (.meanwhile _ _ (elsewhere_engaged hResumable))

theorem ready_again {text db} (h : db.events.any (·.eventId = "event-b") = false ∧
    db.accounts.lookup "acct" = some openAccount ∧ db.outbox.lookup "outbox-b" = none ∧
    db.turns.turns.lookup "ingress-b" = none) : Ready (commandDelivery text "b") db :=
  ⟨⟨(by decide : "1" ≠ ""), (by decide : (0 : Int) < 5), h.1⟩, ⟨openAccount, h.2.1, rfl⟩,
    h.2.2.1, h.2.2.2⟩

theorem clear_command_converges :
    ∃ answer db', (acceptChannelEnvelope (commandDelivery "/clear" "b")).run (engagedAfter "/clear" 6) =
        (.ok answer, db') ∧
      ∃ row, db'.eventOf (commandMessage "/clear") = some row ∧ row.settled = true := by
  apply redelivery_converges (unseen_ofAccount _) (engagedAfter_run _ _) (commandDelivery_of _ _)
  · exact ready_again (by decide +kernel)
  · rintro ⟨-, -, hReads⟩
    have hClear := hReads .clear (by decide +kernel)
    cases hClear

/-- The status is another one by now, and the redelivery fails on the reply that is queued:
the event is never settled. -/
theorem status_command_never_converges :
    Unseen replyWire (commandMessage "/status") (.ofAccount openAccount) ∧
    Relation.ReflTransGen (RedeliveryStep replyWire (commandMessage "/status"))
      (.ofAccount openAccount) (engagedAfter "/status" 9) ∧
    (commandDelivery "/status" "b").Of replyWire (commandMessage "/status") ∧
    Ready (commandDelivery "/status" "b") (engagedAfter "/status" 9) ∧
    ((acceptChannelEnvelope (commandDelivery "/status" "b")).run (engagedAfter "/status" 9)).1 =
      .error ("Internal consistency error: outbox row outbox-a already holds idempotency key 'command-1' " ++
        "with a different payload digest; refusing to overwrite or duplicate it.") := by
  refine ⟨unseen_ofAccount _, engagedAfter_run _ _, commandDelivery_of _ _, ?_, by decide +kernel⟩
  exact ready_again (by decide +kernel)

end LittleMonkey.Channel
