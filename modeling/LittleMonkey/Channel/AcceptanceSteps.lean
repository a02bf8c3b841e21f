import LittleMonkey.Lib.Footprint
import LittleMonkey.Channel.Acceptance

/-! # What accepting a message writes

Everything before the commit leaves the events, the senders and what was answered as they
are, and queues at most a command's reply or a first contact's notice.  The commit carries
out one decision, and what the gates read is behind the decisions that answer or challenge
a sender.
-/

namespace LittleMonkey.Channel

open Guards Transaction Interleaving

structure SameRecords (s t : ChannelDb) : Prop where
  events : t.events = s.events
  senders : t.senders = s.senders
  outbox : t.outbox = s.outbox
  answered : t.answered = s.answered
  decisions : t.decisions = s.decisions

theorem SameRecords.refl (s : ChannelDb) : SameRecords s s := ⟨rfl, rfl, rfl, rfl, rfl⟩

theorem SameRecords.trans {s t u} (h : SameRecords s t) (h' : SameRecords t u) : SameRecords s u :=
  ⟨h'.events.trans h.events, h'.senders.trans h.senders, h'.outbox.trans h.outbox,
    h'.answered.trans h.answered, h'.decisions.trans h.decisions⟩

/-- Every write is related by `P`, and the program does not fail. -/
abbrev Answers {α : Type} (P : ChannelDb → ChannelDb → Prop) (p : Flow α) : Prop :=
  p.Touches P fun r => ∃ a, r = .ok a

abbrev Aside {α : Type} (p : Flow α) : Prop := Answers SameRecords p

section

variable {α β : Type} {P : ChannelDb → ChannelDb → Prop}

theorem Answers.pure (a : α) : Answers P (Pure.pure a : Flow α) := ⟨a, rfl⟩

theorem Answers.bind {p} {f : α → Flow β} (hp : Answers P p) (hf : ∀ a, Answers P (f a)) : Answers P (p >>= f) :=
  Prog.Touches.bind hp (fun a _ => hf a) fun _ ⟨_, h⟩ => by cases h

theorem Answers.read (hRefl : ∀ s, P s s) (g : ChannelDb → α) : Answers P (Prog.read g) :=
  Prog.Touches.read hRefl fun a => ⟨a, rfl⟩

theorem Answers.write {w} (h : ∀ s, P s (w s)) : Answers P (Prog.write w) := Prog.Touches.write h ⟨(), rfl⟩

theorem Aside.bind {p} {f : α → Flow β} (hp : Aside p) (hf : ∀ a, Aside (f a)) : Aside (p >>= f) :=
  Answers.bind hp hf

theorem Aside.read (g : ChannelDb → α) : Aside (Prog.read g) := Answers.read SameRecords.refl g

theorem Aside.setMeta (key value : String) : Aside (setMeta key value) :=
  Answers.write fun _ => ⟨rfl, rfl, rfl, rfl, rfl⟩

theorem Aside.run {p : Flow α} (h : Aside p) (s : ChannelDb) :
    ∃ a s', p.run s = (.ok a, s') ∧ SameRecords s s' := by
  obtain ⟨hSame, a, hResult⟩ := Prog.Touches.run SameRecords.refl (fun _ _ _ h h' => h.trans h') h s
  exact ⟨a, (p.run s).2, Prod.ext hResult rfl, hSame⟩

end

/-! ## Replies -/

section

variable (d : Delivery) (account : ChannelAccount) (route : Option ChannelRoute)

theorem aside_senderModel : Aside (senderModel d) :=
  Aside.bind (.read _) fun _ => .pure _

section

variable {P : ChannelDb → ChannelDb → Prop} (hRefl : ∀ s, P s s)

include hRefl

theorem answers_firstContact (hMeta : ∀ key value, Answers P (setMeta key value)) (env : ChannelEnvelope) :
    Answers P (firstContact env) := by
  apply Answers.bind (.read hRefl _)
  intro gate
  split
  · exact .pure _
  · apply Answers.bind (.read hRefl _)
    intro introduced
    split
    · exact .pure _
    · exact .bind (hMeta _ _) fun _ => .pure _

theorem answers_currentModelLine : Answers P (currentModelLine d route) := by
  unfold currentModelLine
  split
  · exact .pure _
  · apply Answers.bind (.bind (.read hRefl _) fun _ => .pure _)
    intro chosen
    split
    · exact .pure _
    · split
      · exact .pure _
      · split <;> exact .pure _

end

theorem aside_currentModelLine : Aside (currentModelLine d route) := answers_currentModelLine d route .refl

theorem aside_applyChoice (choice : Nat) : Aside (applyChoice d route choice) := by
  unfold applyChoice
  dsimp only
  split
  · exact .pure _
  · split
    · exact .pure _
    · exact .bind (.setMeta _ _) fun _ => .pure _

theorem aside_statusText : Aside (statusText d account route) := by
  apply Aside.bind (.read _)
  intro turn
  apply Aside.bind (.read _)
  intro engaged
  exact .bind (aside_currentModelLine d route) fun _ => .pure _

theorem aside_stopText : Aside (stopText d route) := by
  apply Aside.bind (.read _)
  intro turn
  split
  · exact .pure _
  · split
    · exact .pure _
    · apply Aside.bind (.read _)
      intro job
      split
      · exact .pure _
      · split
        · exact .pure _
        · exact .bind (.write fun _ => ⟨rfl, rfl, rfl, rfl, rfl⟩) fun _ => .pure _

theorem touches_resumeAcceptedTurn (sourceEventId requestId : String) :
    (resumeAcceptedTurn d sourceEventId requestId).Touches SameRecords fun _ => True := by
  have hAside : ∀ {p : Flow String}, Aside p → p.Touches SameRecords fun _ => True :=
    fun h => .mono h fun _ _ => trivial
  have hRead : ∀ {γ : Type} (g : ChannelDb → γ) (f : γ → Flow String),
      (∀ a, (f a).Touches SameRecords fun _ => True) →
      (.read g >>= f).Touches SameRecords fun _ => True := by
    intro γ g f hf
    exact Prog.Touches.bind (Aside.read g) (fun a _ => hf a) fun _ _ => trivial
  unfold resumeAcceptedTurn
  split
  · exact hAside (.pure _)
  · apply hRead
    intro engaged
    split
    · exact hAside (.pure _)
    · apply hRead
      intro turn
      split
      · exact hAside (.pure _)
      · apply hRead
        intro row
        split
        · exact hAside (.pure _)
        · split
          · exact hAside (.pure _)
          · split
            · exact hAside (.pure _)
            · apply Prog.Touches.bind (Q := fun _ => True)
              · exact .focus (fun _ _ => ⟨rfl, rfl, rfl, rfl, rfl⟩) _
              · intro outcome _
                split <;> trivial
              · exact fun _ _ => trivial

theorem aside_resumeText : Aside (resumeText d route) := by
  apply Aside.bind (.read _)
  intro turn
  split
  · exact .pure _
  · apply Answers.bind
    · exact .attempt (touches_resumeAcceptedTurn d _ _) fun r _ => ⟨r, rfl⟩
    · intro answer
      split <;> exact .pure _

theorem aside_replyText (command : Command) : Aside (replyText d account route command) := by
  unfold replyText
  split
  · exact .bind (aside_currentModelLine d route) fun _ => .pure _
  · exact aside_applyChoice d route _
  · exact aside_applyChoice d route _
  · exact .bind (aside_currentModelLine d route) fun _ => .pure _
  · exact .pure _
  · exact .pure _
  · exact aside_statusText d account route
  · exact aside_stopText d route
  · exact aside_resumeText d route

theorem aside_commandReply (command : Command) : Aside (commandReply d account command) := by
  apply Aside.bind (.read _)
  intro routes
  split
  · exact .bind (.setMeta _ _) fun _ => aside_replyText d account _ command
  · exact aside_replyText d account _ command

def Constant (command : Command) (text : String) : Prop :=
  (command = .help → text = helpText) ∧ (command = .clear → text = clearText)

theorem touches_commandReply (command : Command) : (commandReply d account command).Touches SameRecords
      fun r => ∃ text, r = .ok text ∧ Constant command text := by
  have hAside := aside_commandReply d account command
  cases command with
  | help => exact fun s => ⟨.refl s, helpText, rfl, fun _ => rfl, nofun⟩
  | clear => exact fun s => ⟨.refl s, clearText, rfl, nofun, fun _ => rfl⟩
  | _ => exact hAside.mono fun _ ⟨text, hText⟩ => ⟨text, hText, nofun, nofun⟩

end

/-! ## Writes -/

def EnvelopeDecision.Plain : EnvelopeDecision → Prop
  | .challenge _ _ _ => False
  | .run _ _ | .ignore _ | .refuse _ => True

def Delivery.commandKey (delivery : Delivery) : String :=
  s!"command-{delivery.envelope.providerEventId}"

def Delivery.noticeKey (delivery : Delivery) : String :=
  s!"notice-{delivery.envelope.providerEventId}"

def Delivery.pairingKey (delivery : Delivery) : String :=
  s!"pairing-{delivery.envelope.providerEventId}"

def Delivery.challenge (delivery : Delivery) (account : ChannelAccount)
    (challenge : PairingChallenge) : EnvelopeDecision :=
  .challenge delivery.envelope.senderId
    ⟨.pending, some challenge.codeDigest, delivery.nowMs, some challenge.expiresAtMs, none, none,
      delivery.envelope.displayLabel⟩
    (outboundRow delivery account (pairingChallengeReply challenge.code) delivery.pairingKey)

/-- What one statement of an acceptance does, with the decisions `D` for its commit. -/
inductive Writes (delivery : Delivery) (D : EnvelopeDecision → Prop) (s t : ChannelDb) : Prop
  | aside (same : SameRecords s t)
  | queued (account : ChannelAccount) (kind : account.kind = delivery.envelope.kind)
      (text key : String) (enqueue : OutboxEnqueue)
      (reply : key = delivery.noticeKey ∨ key = delivery.commandKey ∧
        ∃ command, commandFor delivery.envelope = some command ∧ Constant command text)
      (inserted : onOutbox (insertOutboxMessage delivery.ids.outbox
        (outboundRow delivery account text key)) s = .ok enqueue t)
  | linked (eventId ingressId : String)
      (updated : t = updateEvents eventId (fun row => { row with ingressId := some ingressId }) s)
  | committed (decision : EnvelopeDecision) (allowed : D decision) (acceptance : DurableAcceptance)
      (accepted : acceptBody delivery.ids delivery.envelope.event decision delivery.nowMs s =
        .ok acceptance t)

abbrev Confined {α : Type} (delivery : Delivery) (D : EnvelopeDecision → Prop) (p : Flow α) : Prop :=
  p.Touches (Writes delivery D) fun _ => True

section

variable {α β : Type} {d : Delivery} {D : EnvelopeDecision → Prop}
variable {account : ChannelAccount} {p : Flow α}

theorem Confined.bind {f : α → Flow β} (hp : Confined d D p)
    (hf : ∀ a, Confined d D (f a)) : Confined d D (p >>= f) :=
  Prog.Touches.bind hp (fun a _ => hf a) fun _ _ => trivial

theorem Aside.confined (h : Aside p) : Confined d D p :=
  (h.weaken fun _ _ => .aside).mono fun _ _ => trivial

theorem Confined.transaction {body : Acceptance α} (h : ∀ s a t, body s = .ok a t → Writes d D s t) :
    Confined d D (Prog.transaction body) := by
  intro s
  refine ⟨?_, trivial⟩
  apply commit_state (P := Writes d D s)
  · exact .aside (.refl s)
  · exact h s

theorem confined_acceptDecision {decision : EnvelopeDecision} (h : D decision) :
    Confined d D (acceptDecision d decision) :=
  Confined.transaction fun _ a _ hAccepted => .committed decision h a hAccepted

theorem confined_commitSettled {decision : EnvelopeDecision} (h : D decision) :
    Confined d D (commitSettled d decision) := by
  apply Confined.bind (confined_acceptDecision h)
  intro acceptance
  cases acceptance with
  | settled eventId => trivial
  | runnable eventId ingressId existing => trivial

theorem confined_ignoreMessage (reason : IgnoreReason) (h : D (.ignore reason.asStr)) :
    Confined d D (ignoreMessage d reason) :=
  Confined.bind (confined_commitSettled h) fun _ => trivial

theorem confined_refuse (error : String) (h : D (.refuse error)) : Confined d D (refuse d error) :=
  Confined.bind (confined_commitSettled h) fun _ => trivial

theorem aside_resumeOrDuplicate (eventId ingressId : String) :
    Aside (resumeOrDuplicate eventId ingressId) := by
  apply Answers.bind
  · intro s
    exact ⟨⟨rfl, rfl, rfl, rfl, rfl⟩, _, rfl⟩
  · intro pending
    cases pending with
    | some turn => exact .pure _
    | none => exact .pure _

theorem aside_runnable (eventId ingressId : String) (existing : Option IngressState)
    (ingress : ConversationIngress) (params : List String) :
    Aside (runnable eventId ingressId existing ingress params) := by
  unfold runnable
  split
  · exact .pure _
  · exact .pure _
  · exact .pure _
  · exact aside_resumeOrDuplicate eventId ingressId

theorem confined_enqueue (hKind : account.kind = d.envelope.kind)
    {text key : String} (hReply : key = d.noticeKey ∨ key = d.commandKey ∧
      ∃ command, commandFor d.envelope = some command ∧ Constant command text) :
    Confined d D (enqueueChannelMessage d (outboundRow d account text key)) :=
  Confined.transaction fun _ enqueue _ hInserted =>
    .queued account hKind text key enqueue hReply hInserted

theorem confined_answerCommand {command : Command} (hKind : account.kind = d.envelope.kind)
    (hCommand : commandFor d.envelope = some command) (h : D (.ignore IgnoreReason.command.asStr)) :
    Confined d D (answerCommand d account command) := by
  apply Prog.Touches.bind ((touches_commandReply d account command).weaken fun _ _ => .aside)
  · rintro text ⟨_, ⟨⟩, hConstant⟩
    apply Confined.bind
    · exact confined_enqueue hKind (.inr ⟨rfl, command, hCommand, hConstant⟩)
    · exact fun _ => confined_ignoreMessage .command h
  · exact fun _ _ => trivial

theorem confined_queueNotice (route : ChannelRoute) (hKind : account.kind = d.envelope.kind) :
    Confined d D (queueNotice d account route) := by
  apply Confined.bind (Aside.confined (answers_firstContact .refl Aside.setMeta d.envelope))
  intro first
  split
  · apply Confined.bind
    · apply Confined.bind (aside_currentModelLine d (some route)).confined
      exact fun _ => trivial
    · intro text
      apply Confined.bind
      · exact .attempt (confined_enqueue hKind (.inl rfl)) fun _ _ => trivial
      · exact fun _ => trivial
  · trivial

/-- A program that leaves the events and the turns alone and does not fail. -/
abbrev KeepsTurns {α : Type} (p : Flow α) : Prop :=
  Answers (fun s t => t.events = s.events ∧ t.turns = s.turns) p

theorem keeps_enqueue (message : NewOutboxMessage) : (enqueueChannelMessage d message).Touches
      (fun s t => t.events = s.events ∧ t.turns = s.turns) fun _ => True := by
  intro s
  refine ⟨?_, trivial⟩
  apply commit_state (P := fun t : ChannelDb => t.events = s.events ∧ t.turns = s.turns)
  · exact ⟨rfl, rfl⟩
  · intro _ t hInserted
    obtain ⟨_, -, rfl⟩ := focus_eq_ok.mp hInserted
    exact ⟨rfl, rfl⟩

theorem keepsTurns_queueNotice (d : Delivery) (account : ChannelAccount) (route : ChannelRoute) :
    KeepsTurns (queueNotice d account route) := by
  apply Answers.bind
  · exact answers_firstContact (fun _ => ⟨rfl, rfl⟩) (fun _ _ => .write fun _ => ⟨rfl, rfl⟩) d.envelope
  intro first
  split
  · apply Answers.bind
    · exact .bind (answers_currentModelLine d _ fun _ => ⟨rfl, rfl⟩) fun _ => .pure _
    · intro text
      apply Answers.bind
      · exact .attempt (keeps_enqueue _) fun r _ => ⟨r, rfl⟩
      · exact fun _ => .pure _
  · exact .pure _

theorem confined_acceptTurn (depth : Nat)
    (hKind : account.kind = d.envelope.kind) (h : ∀ decision, decision.Plain → D decision) :
    Confined d D (acceptTurn d account depth) := by
  apply Confined.bind (Aside.read _).confined
  intro routes
  split
  · exact confined_refuse _ (h _ trivial)
  · apply Confined.bind (aside_senderModel d).confined
    intro picked
    dsimp only
    split
    · exact confined_refuse _ (h _ trivial)
    · split
      · exact confined_refuse _ (h _ trivial)
      · apply Confined.bind (confined_queueNotice _ hKind)
        intro _
        apply Confined.bind (confined_acceptDecision (h (.run _ _) trivial))
        intro acceptance
        cases acceptance with
        | runnable eventId ingressId existing => exact (aside_runnable _ _ _ _ _).confined
        | settled eventId => trivial

theorem confined_acceptChallenge {challenge : PairingChallenge} (h : D (d.challenge account challenge)) :
    Confined d D (acceptChallenge d account challenge) :=
  Confined.bind (confined_commitSettled h) fun _ => trivial

theorem confined_carryOut (depth : Nat) (decision : AccessDecision)
    (hKind : account.kind = d.envelope.kind) (h : ∀ decision, decision.Plain → D decision)
    (hChallenge : ∀ challenge, decision = .challenge challenge → D (d.challenge account challenge)) :
    Confined d D (carryOut d account depth decision) := by
  unfold carryOut
  split
  · split
    next command hCommand =>
      exact confined_answerCommand hKind hCommand (h _ trivial)
    · exact confined_ignoreMessage _ (h _ trivial)
  · exact confined_ignoreMessage _ (h _ trivial)
  · exact confined_acceptChallenge (hChallenge _ rfl)
  · split
    next command hCommand =>
      exact confined_answerCommand hKind hCommand (h _ trivial)
    · exact confined_acceptTurn depth hKind h

/-! ### The reads before a decision -/

theorem aside_effectiveEchoCorrelation (accountId : String) (account : ChannelAccount) (nowMs : Int) :
    Aside (effectiveEchoCorrelation accountId account nowMs) := by
  unfold effectiveEchoCorrelation
  dsimp only
  split
  · apply Aside.bind (.read _)
    intro degraded
    split
    · exact .pure _
    · exact .bind (.read _) fun _ => .pure _
  · exact .pure _

theorem aside_ownOutboundEcho (env : ChannelEnvelope) (correlation : EchoCorrelation) :
    Aside (ownOutboundEcho env correlation) := by
  unfold ownOutboundEcho
  split
  · exact .read _
  · exact .pure _

theorem aside_machineStreak (env : ChannelEnvelope) : Aside (machineStreak env) := by
  unfold machineStreak
  split
  · exact .read _
  · exact .pure _

theorem confined_inheritedReplyDepth (machine : Machine) (env : ChannelEnvelope) :
    Confined d D (inheritedReplyDepth machine env) := by
  unfold inheritedReplyDepth
  split
  · trivial
  · apply Confined.bind (Aside.read _).confined
    intro found
    split
    · trivial
    · apply Confined.bind
      · exact trivial
      · exact fun _ => trivial

theorem confined_decideAnew
    (hKind : account.kind = d.envelope.kind) (h : ∀ decision, decision.Plain → D decision)
    (hChallenge : ∀ challenge, D (d.challenge account challenge)) : Confined d D (decideAnew d account) := by
  unfold decideAnew
  split
  · apply Confined.bind (aside_effectiveEchoCorrelation _ _ _).confined
    intro correlation
    apply Confined.bind (aside_ownOutboundEcho _ _).confined
    intro echo
    apply Confined.bind (Aside.read _).confined
    intro sender
    apply Confined.bind (confined_inheritedReplyDepth _ _)
    intro depth
    apply Confined.bind (aside_machineStreak _).confined
    intro streak
    apply Confined.bind (Aside.read _).confined
    intro pending
    exact confined_carryOut depth _ hKind h fun challenge _ => hChallenge challenge
  · exact confined_ignoreMessage _ (h _ trivial)

theorem confined_classifyExistingEvent (env : ChannelEnvelope) (row : EventRow) :
    Confined d D (classifyExistingEvent env row) := by
  unfold classifyExistingEvent
  split
  · trivial
  · split
    · apply Confined.bind (aside_resumeOrDuplicate _ _).confined
      exact fun _ => trivial
    · apply Confined.bind (Aside.read _).confined
      intro turn
      split
      · trivial
      · apply Confined.bind
        · exact fun s => ⟨.linked row.eventId _ rfl, trivial⟩
        · intro _
          apply Confined.bind (aside_resumeOrDuplicate _ _).confined
          exact fun _ => trivial

theorem confined_acceptChannelEnvelope (h : ∀ decision, decision.Plain → D decision)
    (hChallenge : ∀ account challenge, account.kind = d.envelope.kind → D (d.challenge account challenge)) :
    Confined d D (acceptChannelEnvelope d) := by
  apply Confined.bind (Aside.read _).confined
  intro found
  split
  · exact trivial
  next account =>
    by_cases hKind : account.kind = d.envelope.kind
    · apply Confined.bind
      · exact trivial
      intro _
      apply Confined.bind (Aside.read _).confined
      intro row
      split
      · exact confined_decideAnew hKind h fun challenge => hChallenge account challenge hKind
      · apply Confined.bind (confined_classifyExistingEvent _ _)
        intro answer
        split
        · trivial
        · exact confined_decideAnew hKind h fun challenge => hChallenge account challenge hKind
    · simp only [hKind, ne_eq]
      exact trivial

end

/-! ## The commit -/

/-- The event is decided for good: dropped, challenged or failed, or it owns its turn. -/
def EventRow.settled (row : EventRow) : Bool := row.disposition ≠ .accepted || row.ingressId.isSome

inductive Recorded (eventId : String) (event : NewChannelEvent) (s : ChannelDb) :
    String → List EventRow → Prop
  | found {row} (h : s.eventOf event.envelope = some row) :
      Recorded eventId event s row.eventId s.events
  | added (h : s.eventOf event.envelope = none) (fresh : s.events.any (·.eventId = eventId) = false) :
      Recorded eventId event s eventId (s.events ++ [event.row eventId])

def EnvelopeDecision.answers : EnvelopeDecision → Bool
  | .run _ _ => true
  | .ignore reason => reason = IgnoreReason.command.asStr
  | .challenge _ _ _ | .refuse _ => false

/-- What a commit leaves, in the records that acceptance is about. -/
structure Committed (ids : FreshIds) (event : NewChannelEvent) (decision : EnvelopeDecision)
    (s t : ChannelDb) : Prop where
  events : ∃ eventId rows, Recorded ids.event event s eventId rows ∧
    ∃ set : EventRow → EventRow, t.events = rows.map (fun row => if row.eventId = eventId then set row else row) ∧
      ∀ row, (set row).settled = true ∧ ∃ disposition reason ingressId,
        set row = row.finalized disposition reason ingressId none
  answered : t.answered = if decision.answers then
      s.answered ++ [(event.accountId, event.conversationId, event.providerEventId)] else s.answered
  decisions : t.decisions = s.decisions
  plain : decision.Plain → t.senders = s.senders ∧ t.outbox = s.outbox
  challenged : ∀ senderId sender reply, decision = .challenge senderId sender reply →
    t.senders = s.senders.insert (event.accountId, senderId) sender ∧
    ∃ enqueue, insertOutboxMessage ids.outbox reply s.outbox = .ok enqueue t.outbox

theorem insertChannelEvent_ok {eventId id event s t} (h : insertChannelEvent eventId event s = .ok id t) :
    ∃ rows, Recorded eventId event s id rows ∧ t = { s with events := rows } := by
  simp only [insertChannelEvent, bind_eq_done, require_eq_ok, read_eq_ok, id_eq] at h
  obtain ⟨_, _, ⟨-, rfl⟩, _, _, ⟨rfl, rfl⟩, h⟩ := h
  cases hEvent : s.eventOf event.envelope with
  | some row =>
    simp only [hEvent, pure_eq_done] at h
    obtain ⟨rfl, rfl⟩ := h
    exact ⟨s.events, .found hEvent, rfl⟩
  | none =>
    simp only [hEvent, bind_eq_done, require_eq_ok, write_eq_ok] at h
    obtain ⟨_, _, ⟨hFresh, rfl⟩, _, _, rfl, rfl, rfl⟩ := h
    exact ⟨_, .added hEvent hFresh, rfl⟩

theorem finalizeEvent_ok {eventId disposition reason ingressId s t u}
    (h : finalizeEvent eventId disposition reason ingressId s = .ok u t) :
    t = updateEvents eventId (·.finalized disposition reason ingressId none) s := by
  simp only [finalizeEvent, bind_eq_done, require_eq_ok, write_eq_ok] at h
  obtain ⟨_, _, ⟨-, rfl⟩, _, _, ⟨-, rfl⟩, h⟩ := h
  exact h.symm

theorem finalized_events {ids : FreshIds} {event} {s t : ChannelDb} {eventId rows} (hRecorded : Recorded ids.event event s eventId rows)
    {disposition reason ingressId} (hSettled : disposition ≠ .accepted ∨ ingressId.isSome = true)
    (hEvents : t.events = rows.map fun row =>
      if row.eventId = eventId then row.finalized disposition reason ingressId none else row) :
    ∃ eventId rows, Recorded ids.event event s eventId rows ∧ ∃ set : EventRow → EventRow,
        t.events = rows.map (fun row => if row.eventId = eventId then set row else row) ∧
        ∀ row, (set row).settled = true ∧ ∃ disposition reason ingressId,
          set row = row.finalized disposition reason ingressId none := by
  refine ⟨eventId, rows, hRecorded, fun row => row.finalized disposition reason ingressId none,
    hEvents, fun row => ⟨?_, disposition, reason, ingressId, rfl⟩⟩
  rcases hSettled with hDisposition | hLinked
  · simp [EventRow.settled, EventRow.finalized, hDisposition]
  · simp [EventRow.settled, EventRow.finalized, hLinked]


theorem committed_of_acceptBody {ids : FreshIds} {event} {decision : EnvelopeDecision} {nowMs s t acceptance}
    (h : acceptBody ids event decision nowMs s = .ok acceptance t) : Committed ids event decision s t := by
  simp only [acceptBody, bind_eq_done] at h
  obtain ⟨eventId, s₁, hInsert, h⟩ := h
  obtain ⟨rows, hRecorded, rfl⟩ := insertChannelEvent_ok hInsert
  cases decision with
  | run ingress params =>
    simp only [bind_eq_done, onTurns, focus_eq_ok, bindSession, require_eq_ok, write_eq_ok,
      NewChannelEvent.recordAnswer] at h
    obtain ⟨turn, _, ⟨turns, -, rfl⟩, _, _, ⟨_, _, ⟨-, rfl⟩, rfl⟩, _, _, hFinal, _, _, rfl, -, rfl⟩ := h
    obtain rfl := finalizeEvent_ok hFinal
    constructor
    · exact finalized_events hRecorded (.inr rfl) rfl
    · rfl
    · rfl
    · exact fun _ => ⟨rfl, rfl⟩
    · intro _ _ _ h
      cases h
  | challenge senderId sender reply =>
    simp only [bind_eq_done, onOutbox, focus_eq_ok, upsertSender, require_eq_ok, write_eq_ok] at h
    obtain ⟨_, _, ⟨_, _, ⟨-, rfl⟩, rfl⟩, enqueue, _, ⟨outbox, hOutbox, rfl⟩, _, _, hFinal, -, rfl⟩ := h
    obtain rfl := finalizeEvent_ok hFinal
    constructor
    · exact finalized_events hRecorded (.inl (by decide)) rfl
    · rfl
    · rfl
    · exact False.elim
    · intro _ _ _ h
      cases h
      exact ⟨rfl, enqueue, hOutbox⟩
  | ignore reason =>
    simp only [bind_eq_done] at h
    obtain ⟨_, s₂, hFinal, h⟩ := h
    obtain rfl := finalizeEvent_ok hFinal
    by_cases hCommand : reason = IgnoreReason.command.asStr
    · simp only [if_pos hCommand, NewChannelEvent.recordAnswer] at h
      obtain ⟨_, _, rfl, -, rfl⟩ := h
      constructor
      · exact finalized_events hRecorded (.inl (by decide)) rfl
      · simp [EnvelopeDecision.answers, hCommand, updateEvents]
      · rfl
      · exact fun _ => ⟨rfl, rfl⟩
      · intro _ _ _ h
        cases h
    · simp only [if_neg hCommand] at h
      obtain ⟨_, _, ⟨-, rfl⟩, -, rfl⟩ := h
      constructor
      · exact finalized_events hRecorded (.inl (by decide)) rfl
      · simp [EnvelopeDecision.answers, hCommand, updateEvents]
      · rfl
      · exact fun _ => ⟨rfl, rfl⟩
      · intro _ _ _ h
        cases h
  | refuse error =>
    simp only [bind_eq_done] at h
    obtain ⟨_, _, hFinal, -, rfl⟩ := h
    obtain rfl := finalizeEvent_ok hFinal
    constructor
    · exact finalized_events hRecorded (.inl (by decide)) rfl
    · rfl
    · rfl
    · exact fun _ => ⟨rfl, rfl⟩
    · intro _ _ _ h
      cases h

/-! ## Rows that stay where they are -/

/-- An update of a row that leaves its place, its sender and its identity, and does not
take a decision back. -/
structure RowKept (a b : EventRow) : Prop where
  accountId : b.accountId = a.accountId
  source : b.source = a.source
  direction : b.direction = a.direction
  providerEventId : b.providerEventId = a.providerEventId
  conversationId : b.conversationId = a.conversationId
  isMachine : b.isMachine = a.isMachine
  receivedAtMs : b.receivedAtMs = a.receivedAtMs
  settled : a.settled = true → b.settled = true

theorem RowKept.refl (row : EventRow) : RowKept row row :=
  ⟨rfl, rfl, rfl, rfl, rfl, rfl, rfl, id⟩

theorem isEventOf_kept {a b} (h : RowKept a b) (accountId providerEventId : String) :
    b.isEventOf accountId providerEventId = a.isEventOf accountId providerEventId := by
  simp only [EventRow.isEventOf, h.accountId, h.source, h.direction, h.providerEventId]

theorem rowKept_finalized (row : EventRow) {set : EventRow → EventRow} {eventId}
    (hSettled : (set row).settled = true)
    (hSet : ∃ disposition reason ingressId, set row = row.finalized disposition reason ingressId none) :
    RowKept row (if row.eventId = eventId then set row else row) := by
  split
  · obtain ⟨disposition, reason, ingressId, hSet⟩ := hSet
    rw [hSet] at hSettled ⊢
    exact ⟨rfl, rfl, rfl, rfl, rfl, rfl, rfl, fun _ => hSettled⟩
  · exact .refl row

theorem rowKept_linked (row : EventRow) (eventId ingressId : String) :
    RowKept row (if row.eventId = eventId then { row with ingressId := some ingressId } else row) := by
  split
  · exact ⟨rfl, rfl, rfl, rfl, rfl, rfl, rfl, fun _ => by simp [EventRow.settled]⟩
  · exact .refl row

theorem Committed.rows {env : ChannelEnvelope} {ids decision s t} (h : Committed ids env.event decision s t) :
    ∃ (f : EventRow → EventRow) (added : List EventRow),
      t.events = (s.events ++ added).map f ∧ (∀ row, RowKept row (f row)) ∧
      ((∃ row, s.eventOf env = some row ∧ added = [] ∧ (f row).settled = true) ∨
        s.eventOf env = none ∧ ∃ row : EventRow, row = env.event.row ids.event ∧
          added = [row] ∧ (f row).settled = true) := by
  obtain ⟨eventId, rows, hRecorded, set, hEvents, hSet⟩ := h.events
  have hKept : ∀ row, RowKept row (if row.eventId = eventId then set row else row) :=
    fun row => rowKept_finalized row (hSet row).1 (hSet row).2
  cases hRecorded with
  | @found row hFound =>
    refine ⟨_, [], by rw [hEvents, List.append_nil], hKept, .inl ⟨row, hFound, rfl, ?_⟩⟩
    rw [if_pos rfl]
    exact (hSet row).1
  | added hNew hFresh =>
    refine ⟨_, [_], hEvents, hKept, .inr ⟨hNew, _, rfl, rfl, ?_⟩⟩
    exact (congrArg EventRow.settled (if_pos rfl)).trans (hSet _).1

theorem eventOf_map_append {s t : ChannelDb} {f added}
    (hEvents : t.events = (s.events ++ added).map f) (hf : ∀ row, RowKept row (f row))
    (env : ChannelEnvelope) : t.eventOf env = ((s.eventOf env).or
      (added.find? (·.isEventOf env.accountId env.providerEventId))).map f := by
  have hSame : (fun row : EventRow => row.isEventOf env.accountId env.providerEventId) ∘ f =
      fun row => row.isEventOf env.accountId env.providerEventId :=
    funext fun row => isEventOf_kept (hf row) _ _
  unfold ChannelDb.eventOf
  rw [hEvents, List.find?_map, List.find?_append, hSame]

theorem Committed.settled {env ids decision s t} (h : Committed ids env.event decision s t) :
    ∃ row, t.eventOf env = some row ∧ row.settled = true := by
  obtain ⟨f, added, hEvents, hf, hOwn⟩ := h.rows
  rw [eventOf_map_append hEvents hf]
  rcases hOwn with ⟨row, hFound, rfl, hSettled⟩ | ⟨hNone, row, hRow, rfl, hSettled⟩
  · exact ⟨f row, by rw [hFound]; rfl, hSettled⟩
  · refine ⟨f row, ?_, hSettled⟩
    rw [hNone, hRow]
    simp [EventRow.isEventOf, NewChannelEvent.row, ChannelEnvelope.event]

/-! ## Settled events -/

def Settled (env : ChannelEnvelope) (db : ChannelDb) : Prop :=
  ∃ row, db.eventOf env = some row ∧ row.settled = true

theorem Settled.congr {env s t} (h : Settled env s) (hEvents : t.events = s.events) : Settled env t := by
  simpa only [Settled, ChannelDb.eventOf, hEvents] using h

theorem Aside.returns_settled {α : Type} {env s} {p : Flow α}
    (h : Aside p) (hSettled : Settled env s) : p.Returns (fun _ => Settled env) s := by
  obtain ⟨a, t, hRun, hSame⟩ := h.run s
  exact ⟨a, t, hRun, hSettled.congr hSame.events⟩

/-- A redelivery is decided again from an event that is not settled, with nothing written, and
otherwise finds it settled or settles it. -/
theorem returns_classifyExistingEvent {env : ChannelEnvelope} {row} {s : ChannelDb}
    (hRow : s.eventOf env = some row) : (classifyExistingEvent env row).Returns (fun answer t =>
      (answer = none → t = s ∧ row.settled = false) ∧
      (answer.isSome = true → Settled env t)) s := by
  have hResume : ∀ {eventId ingressId : String} {t : ChannelDb}, Settled env t → (do
        let answer ← resumeOrDuplicate eventId ingressId
        pure (some answer) : Flow (Option ChannelAcceptance)).Returns (fun answer t' =>
          (answer = none → t' = s ∧ row.settled = false) ∧ (answer.isSome = true → Settled env t')) t := by
    intro eventId ingressId t hSettled
    apply Prog.Returns.bind ((aside_resumeOrDuplicate eventId ingressId).returns_settled hSettled)
    exact fun _ _ hSettled => .pure ⟨nofun, fun _ => hSettled⟩
  unfold classifyExistingEvent
  split
  next hDecided =>
    exact .pure ⟨nofun, fun _ => ⟨row, hRow, by simp [EventRow.settled, hDecided]⟩⟩
  next hAccepted =>
    split
    next ingressId hLink =>
      exact hResume ⟨row, hRow, by simp [EventRow.settled, hLink]⟩
    next hLink =>
      apply Prog.Returns.read
      split
      · exact .pure ⟨fun _ => ⟨rfl, by simpa [EventRow.settled, hLink] using hAccepted⟩, nofun⟩
      next ingressId _ _ =>
        apply Prog.Returns.bind (R := fun _ => Settled env)
        · refine ⟨(), _, rfl, ?_⟩
          have hEvents : (updateEvents row.eventId
              (fun row => { row with ingressId := some ingressId }) s).events =
              (s.events ++ []).map fun other : EventRow =>
                if other.eventId = row.eventId then { other with ingressId := some ingressId } else other := by
            rw [List.append_nil]
            rfl
          refine ⟨{ row with ingressId := some ingressId }, ?_, by simp [EventRow.settled]⟩
          rw [eventOf_map_append hEvents (fun other => rowKept_linked other row.eventId ingressId), hRow]
          simp
        · exact fun _ _ hSettled => hResume hSettled

end LittleMonkey.Channel
