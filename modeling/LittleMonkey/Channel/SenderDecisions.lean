import LittleMonkey.Lib.Conflicts
import LittleMonkey.Channel.AcceptanceSteps

/-! # What an operator decided about a sender

An operator approves, blocks or forgets a sender through a store connection of their own,
while messages of that sender are being accepted.  Acceptance reads the sender's state and
writes `pending` in a later transaction, without looking again.
-/

namespace LittleMonkey.Channel

open Primitives Guards Transaction Interleaving List AList

abbrev SenderKey := String × String

def ChannelEnvelope.senderKey (env : ChannelEnvelope) : SenderKey :=
  (env.accountId, env.senderId)

/-! ## The operator -/

def decidedRow (existing : Option SenderRow) (approve : Bool) (nowMs : Int) : SenderRow where
  state := if approve then .approved else .blocked
  pairingCodeDigest := none
  requestedAtMs := existing.elim nowMs (·.requestedAtMs)
  expiresAtMs := none
  approvedAtMs := if approve then some nowMs else none
  blockedAtMs := if approve then none else some nowMs
  displayLabel := existing.bind (·.displayLabel)

def decideSender (key : SenderKey) (approve : Bool) (nowMs : Int) : Flow Unit := do
  let existing ← Prog.read (·.senders.lookup key)
  let row := decidedRow existing approve nowMs
  Prog.transaction do
    upsertSender key.1 key.2 row
    write fun db => { db with decisions := db.decisions.insert key row }

def forgetSender (key : SenderKey) : Flow Unit := do
  Prog.write fun db => { db with
    senders := db.senders.erase key
    decisions := db.decisions.erase key }
  Prog.write fun db => { db with daemonMeta := db.daemonMeta.erase (senderModelKey key.1 key.2) }
  Prog.write fun db => { db with daemonMeta := db.daemonMeta.erase (introducedKey key.1 key.2) }

def SenderRow.expired (row : SenderRow) (nowMs : Int) : Bool :=
  row.state = .pending && row.expiresAtMs.any (· ≤ nowMs)

def expireChannelSenders (nowMs : Int) : Flow Unit :=
  Prog.write fun db => { db with
    senders := (db.senders.entries.filter (·.2.expired nowMs)).foldl
      (fun senders entry => senders.erase entry.1) db.senders }

inductive SenderCall
  | message (d : Delivery)
  | decide (key : SenderKey) (approve : Bool) (nowMs : Int)
  | forget (key : SenderKey)
  | expire (nowMs : Int)

def SenderCall.program : SenderCall → Flow Unit
  | .message d => do
    let _ ← acceptChannelEnvelope d
  | .decide key approve nowMs => decideSender key approve nowMs
  | .forget key => forgetSender key
  | .expire nowMs => expireChannelSenders nowMs

/-! ## Decisions in force -/

def InForce (db : ChannelDb) : Prop :=
  ∀ key row, db.decisions.lookup key = some row → db.senders.lookup key = some row ∧ row.state ≠ .pending

def Undecided (key : SenderKey) (db : ChannelDb) : Prop :=
  ∀ row, db.senders.lookup key = some row → row.state = .pending

theorem InForce.none_of_undecided {db} (h : InForce db) {key}
    (hUndecided : Undecided key db) : db.decisions.lookup key = none := by
  cases hDecision : db.decisions.lookup key with
  | none => rfl
  | some row =>
    obtain ⟨hRow, hState⟩ := h key row hDecision
    exact absurd (hUndecided row hRow) hState

theorem InForce.congr {s t} (h : InForce s) (hSenders : t.senders = s.senders)
    (hDecisions : t.decisions = s.decisions) : InForce t := by
  unfold InForce
  rw [hSenders, hDecisions]
  exact h

theorem InForce.insert_pending {s t} (h : InForce s) {key row}
    (hUndecided : Undecided key s) (hSenders : t.senders = s.senders.insert key row)
    (hDecisions : t.decisions = s.decisions) : InForce t := by
  intro other decided hDecided
  rw [hDecisions] at hDecided
  have hNe : other ≠ key := by
    rintro rfl
    rw [h.none_of_undecided hUndecided] at hDecided
    cases hDecided
  rw [hSenders, lookup_insert_ne hNe]
  exact h other decided hDecided

/-! ## Tags -/

inductive SenderTag
  | message (key : SenderKey)
  | decision (key : SenderKey)
  | upkeep

/-- A decision about a sender and the acceptance of one of that sender's messages. -/
def SenderTag.conflict : SenderTag → SenderTag → Prop
  | .message a, .decision b | .decision a, .message b => a = b
  | _, _ => False

def SenderCall.tag : SenderCall → SenderTag
  | .message d => .message d.envelope.senderKey
  | .decide key _ _ => .decision key
  | .forget _ | .expire _ => .upkeep

def SenderTag.rely : SenderTag → ChannelDb → ChannelDb → Prop
  | .message key, s, t => Undecided key s → Undecided key t
  | .decision _, _, _ | .upkeep, _, _ => True

def SenderTag.guarantee : SenderTag → ChannelDb → ChannelDb → Prop
  | .decision key, s, t => ∀ other, other ≠ key → Undecided other s → Undecided other t
  | .message _, s, t | .upkeep, s, t => ∀ other, Undecided other s → Undecided other t

abbrev SenderTag.Upholds {α : Type} (tag : SenderTag) (p : Flow α) (db : ChannelDb) : Prop :=
  Keeps InForce tag.rely tag.guarantee p db

theorem Undecided.congr {key s t}
    (hSenders : t.senders.lookup key = s.senders.lookup key) (h : Undecided key s) : Undecided key t := by
  intro row hRow
  rw [hSenders] at hRow
  exact h row hRow

/-! ### Messages -/

section

variable {d : Delivery}
variable {db : ChannelDb}

theorem Writes.senders_eq {s t} (h : Writes d EnvelopeDecision.Plain s t) :
    t.senders = s.senders ∧ t.decisions = s.decisions := by
  cases h with
  | aside same => exact ⟨same.senders, same.decisions⟩
  | queued account kind text key enqueue reply inserted =>
    obtain ⟨outbox, -, rfl⟩ := focus_eq_ok.mp inserted
    exact ⟨rfl, rfl⟩
  | linked eventId ingressId updated =>
    subst updated
    exact ⟨rfl, rfl⟩
  | committed decision allowed acceptance accepted =>
    have hCommitted := committed_of_acceptBody accepted
    exact ⟨(hCommitted.plain allowed).1, hCommitted.decisions⟩

theorem keeps_of_confined {α : Type} {p : Flow α} (d : Delivery)
    (h : Confined d EnvelopeDecision.Plain p) {key} :
    (SenderTag.message key).Upholds p db := by
  refine .mono (h.safe ?_) fun _ _ _ _ => trivial
  intro s t hInForce hWrites
  obtain ⟨hSenders, hDecisions⟩ := hWrites.senders_eq
  refine ⟨hInForce.congr hSenders hDecisions, fun other hOther => hOther.congr ?_⟩
  rw [hSenders]

theorem keeps_before {α : Type} {p} {f : α → Flow ChannelAcceptance} {key}
    (d : Delivery) (hp : Confined d EnvelopeDecision.Plain p)
    (h : ∀ s, (SenderTag.message key).rely db s → InForce s → Undecided key s)
    (hf : ∀ a t, (∀ s, (SenderTag.message key).rely t s → InForce s → Undecided key s) →
      (SenderTag.message key).Upholds (f a) t) :
    (SenderTag.message key).Upholds (p >>= f) db := by
  have hBoth : Safe (fun s => InForce s ∧ Undecided key s) (SenderTag.message key).rely
      (SenderTag.message key).guarantee (fun _ _ => True) p db := by
    refine .mono (hp.safe ?_) fun _ _ _ _ => trivial
    rintro s t ⟨hInForce, hUndecided⟩ hWrites
    obtain ⟨hSenders, hDecisions⟩ := hWrites.senders_eq
    have hSame : ∀ other, Undecided other s → Undecided other t :=
      fun other hOther => hOther.congr (by rw [hSenders])
    exact ⟨⟨hInForce.congr hSenders hDecisions, hSame key hUndecided⟩, hSame⟩
  apply Safe.seq (.carrying (fun _ _ hRely hUndecided => hRely hUndecided) hBoth h)
  · intro a t hAfter
    exact hf a t fun s hRely hInForce => (hAfter s hRely hInForce).2
  · exact fun _ _ _ _ => trivial

theorem keeps_acceptChallenge (account : ChannelAccount) (challenge : PairingChallenge)
    (h : ∀ s, (SenderTag.message d.envelope.senderKey).rely db s →
      InForce s → Undecided d.envelope.senderKey s) :
    (SenderTag.message d.envelope.senderKey).Upholds (acceptChallenge d account challenge) db := by
  have hCommit : (SenderTag.message d.envelope.senderKey).Upholds (acceptDecision d (d.challenge account challenge)) db := by
    apply Keeps.statement
    intro s r t hRely hInForce hRun
    rcases commit_cases hRun with ⟨acceptance, -, hBody⟩ | ⟨e, _, -, -, rfl⟩
    · have hCommitted := committed_of_acceptBody hBody
      have hSenders : t.senders = s.senders.insert d.envelope.senderKey _ :=
        (hCommitted.challenged _ _ _ rfl).1
      refine ⟨hInForce.insert_pending (h s hRely hInForce) hSenders hCommitted.decisions, ?_⟩
      intro other hOther row hRow
      rw [hSenders] at hRow
      obtain ⟨rfl, rfl⟩ | ⟨-, hRow⟩ := of_lookup_insert hRow
      · rfl
      · exact hOther row hRow
    · exact ⟨hInForce, fun _ hOther => hOther⟩
  apply Keeps.seq
  · apply Keeps.seq hCommit
    intro acceptance s
    cases acceptance with
    | settled eventId => exact .done _
    | runnable eventId ingressId existing => exact .done _
  · exact fun _ _ => .done _

theorem not_challenged {account correlation echo sender depth streak pending challenge}
    (h : decideAccess d.machine.digest d.envelope
      (d.context account correlation echo sender depth streak pending) d.candidateCode =
        .challenge challenge) : ∀ row, sender = some row → row.state = .pending := by
  rintro row rfl
  exact decideAccess_challenge h _ rfl

theorem keeps_decideMessage {account : ChannelAccount}
    (hKind : account.kind = d.envelope.kind) (db : ChannelDb) :
    (SenderTag.message d.envelope.senderKey).Upholds (decideMessage d account) db := by
  apply Keeps.seq (keeps_of_confined d (aside_effectiveEchoCorrelation _ _ _).confined)
  intro correlation _
  apply Keeps.seq (keeps_of_confined d (aside_ownOutboundEcho _ _).confined)
  intro echo _
  apply Safe.inspect fun _ _ hOther => hOther
  intro t _ _
  -- Either the row that was read lets nobody be challenged, or nobody has decided yet.
  by_cases hPending : Undecided d.envelope.senderKey t
  · apply keeps_before d (confined_inheritedReplyDepth _ _) fun s hRely _ => hRely hPending
    intro depth _ hDepth
    apply keeps_before d (aside_machineStreak _).confined hDepth
    intro streak _ hStreak
    apply keeps_before d (Aside.read _).confined hStreak
    intro pending u hUndecided
    cases hDecision : decideAccess d.machine.digest d.envelope
      (d.context account correlation echo _ depth streak pending) d.candidateCode with
    | challenge challenge => exact keeps_acceptChallenge account challenge hUndecided
    | accept =>
      exact keeps_of_confined d (confined_carryOut depth _ hKind (fun _ h => h) (fun _ h => by cases h))
    | ignore reason =>
      exact keeps_of_confined d (confined_carryOut depth _ hKind (fun _ h => h) (fun _ h => by cases h))
  · apply Keeps.seq (keeps_of_confined d (confined_inheritedReplyDepth _ _))
    intro depth _
    apply Keeps.seq (keeps_of_confined d (aside_machineStreak _).confined)
    intro streak _
    apply Keeps.seq (keeps_of_confined d (Aside.read _).confined)
    intro pending _
    apply keeps_of_confined d
    apply confined_carryOut depth _ hKind fun _ h => h
    intro challenge hChallenge
    exact absurd (not_challenged hChallenge) hPending

theorem keeps_acceptChannelEnvelope (db : ChannelDb) :
    (SenderTag.message d.envelope.senderKey).Upholds (acceptChannelEnvelope d) db := by
  have hAnew : ∀ {account : ChannelAccount}, account.kind = d.envelope.kind → ∀ t,
      (SenderTag.message d.envelope.senderKey).Upholds (decideAnew d account) t := by
    intro account hKind t
    unfold decideAnew
    split
    · exact keeps_decideMessage hKind t
    · exact keeps_of_confined d (confined_ignoreMessage _ trivial)
  apply Keeps.seq (keeps_of_confined d (Aside.read _).confined)
  intro found _
  cases found with
  | none => exact .done _
  | some account =>
    apply Keeps.ofExcept
    intro _ hChecked
    have hKind : account.kind = d.envelope.kind := by
      simpa using refuseIf_eq_ok.mp hChecked
    apply Keeps.seq (keeps_of_confined d (Aside.read _).confined)
    intro row t
    cases row with
    | none => exact hAnew hKind t
    | some row =>
      apply Keeps.seq (keeps_of_confined d (confined_classifyExistingEvent _ _))
      intro answer u
      cases answer with
      | some settled => exact .done _
      | none => exact hAnew hKind u

end

/-! ### The operator's commands -/

theorem keeps_decideSender (key : SenderKey) (approve : Bool) (nowMs : Int) (db : ChannelDb) :
    (SenderTag.decision key).Upholds (decideSender key approve nowMs) db := by
  apply Safe.inspect fun _ _ _ hOther => hOther
  intro t _ _
  apply Keeps.statement
  intro s r s' _ hInForce hRun
  rcases commit_cases hRun with ⟨u, -, hBody⟩ | ⟨e, _, -, -, rfl⟩
  · simp only [upsertSender, bind_eq_done, require_eq_ok, write_eq_ok] at hBody
    obtain ⟨_, _, ⟨_, _, ⟨-, rfl⟩, rfl⟩, rfl⟩ := hBody
    constructor
    · intro other row hRow
      by_cases hKey : other = key
      · rw [hKey, lookup_insert] at hRow ⊢
        cases hRow
        refine ⟨rfl, ?_⟩
        cases approve <;> simp [decidedRow]
      · rw [lookup_insert_ne hKey] at hRow ⊢
        exact hInForce other row hRow
    · intro other hOther hUndecided
      exact hUndecided.congr (lookup_insert_ne hOther)
  · exact ⟨hInForce, fun _ _ hOther => hOther⟩

theorem keeps_forgetSender (key : SenderKey) (db : ChannelDb) :
    SenderTag.upkeep.Upholds (forgetSender key) db := by
  apply Keeps.seq
  · apply Keeps.statement
    rintro s _ _ - hInForce ⟨⟩
    constructor
    · intro other row hRow
      have hKey : other ≠ key := by
        rintro rfl
        rw [lookup_erase] at hRow
        cases hRow
      rw [lookup_erase_ne hKey] at hRow ⊢
      exact hInForce other row hRow
    · intro other hOther row hRow
      by_cases hKey : other = key
      · rw [hKey, lookup_erase] at hRow
        cases hRow
      · rw [lookup_erase_ne hKey] at hRow
        exact hOther row hRow
  · intro _ t
    apply Keeps.seq
    · apply Keeps.statement
      rintro s _ _ - hInForce ⟨⟩
      exact ⟨hInForce.congr rfl rfl, fun _ hOther => hOther.congr rfl⟩
    · intro _ u
      apply Keeps.statement
      rintro s _ _ - hInForce ⟨⟩
      exact ⟨hInForce.congr rfl rfl, fun _ hOther => hOther.congr rfl⟩

theorem lookup_expired (db : ChannelDb) (nowMs : Int) (key : SenderKey) {row}
    (hRow : db.senders.lookup key = some row) (hState : row.state ≠ .pending) :
    ((db.senders.entries.filter (·.2.expired nowMs)).foldl
      (fun senders entry => senders.erase entry.1) db.senders).lookup key = some row := by
  rw [lookup_foldl_erase, if_neg, hRow]
  intro hMem
  obtain ⟨entry, hEntry, rfl⟩ := mem_map.mp hMem
  obtain ⟨hStored, hExpired⟩ := mem_filter.mp hEntry
  have hSame := mem_lookup_iff.mpr hStored
  rw [hRow] at hSame
  cases hSame
  simp [SenderRow.expired, hState] at hExpired

theorem keeps_expireChannelSenders (nowMs : Int) (db : ChannelDb) :
    SenderTag.upkeep.Upholds (expireChannelSenders nowMs) db := by
  apply Keeps.statement
  rintro s _ _ - hInForce ⟨⟩
  constructor
  · intro key row hRow
    obtain ⟨hStored, hState⟩ := hInForce key row hRow
    exact ⟨lookup_expired s nowMs key hStored hState, hState⟩
  · intro key hUndecided row hRow
    rw [lookup_foldl_erase] at hRow
    split at hRow
    · cases hRow
    · exact hUndecided row hRow

theorem keeps_senderCall (call : SenderCall) (db : ChannelDb) :
    call.tag.Upholds call.program db := by
  cases call with
  | message d =>
    exact .seq (keeps_acceptChannelEnvelope db) fun _ _ => .done _
  | decide key approve nowMs => exact keeps_decideSender key approve nowMs db
  | forget key => exact keeps_forgetSender key db
  | expire nowMs => exact keeps_expireChannelSenders nowMs db

/-! ## Runs -/

def ServesSender (tag : SenderTag) (p : Flow Unit) : Prop :=
  ∃ call : SenderCall, call.tag = tag ∧ p = call.program

def AnyTime (_ : Pool String ChannelDb Unit) : Move String ChannelDb Unit → Prop
  | .spawn p => ∃ call : SenderCall, p = call.program
  | .act _ | .stop _ => True

/-- An approval or a block does not run beside the acceptance of a message of its sender. -/
def Apart (pool : Pool String ChannelDb Unit) : Move String ChannelDb Unit → Prop
  | .spawn p => ∃ call : SenderCall, p = call.program ∧
      Clear ServesSender SenderTag.conflict pool call.tag
  | .act _ | .stop _ => True

theorem senderConflict_symm (a b : SenderTag) (h : a.conflict b) : b.conflict a := by
  cases a <;> cases b <;> first | exact h.elim | exact Eq.symm h

theorem senderRely_of_guarantee (a b : SenderTag) (s t : ChannelDb) (h : ¬ a.conflict b)
    (hGuarantee : a.guarantee s t) : b.rely s t := by
  cases b with
  | decision key => trivial
  | upkeep => trivial
  | message key =>
    cases a with
    | message other => exact hGuarantee key
    | upkeep => exact hGuarantee key
    | decision other => exact hGuarantee key fun hKey => h hKey.symm

/-- In every run in which no approval or block runs beside the acceptance of a message of its
sender, the store holds what the operator last decided about each sender. -/
theorem operator_decisions_stay {start : ChannelDb} (hStart : InForce start)
    {pool : Pool String ChannelDb Unit} (h : Arises Apart start pool) :
    ∀ key row, pool.state.decisions.lookup key = some row → pool.state.senders.lookup key = some row := by
  have hSpawn : ∀ (pool : Pool String ChannelDb Unit) p, InForce pool.state → Apart pool (.spawn p) →
      ∃ a, ServesSender a p ∧ Clear ServesSender SenderTag.conflict pool a ∧
        Keeps InForce a.rely a.guarantee p pool.state := by
    rintro pool p - ⟨call, rfl, hClear⟩
    exact ⟨call.tag, ⟨call, rfl, rfl⟩, hClear, keeps_senderCall call pool.state⟩
  have hInForce : InForce pool.state := by
    refine (Arises.tame (R := SenderTag.rely) (G := SenderTag.guarantee) senderConflict_symm ?_ ?_
      senderRely_of_guarantee hStart hSpawn h).1
    · intro a s
      cases a with
      | message key => exact id
      | decision key => trivial
      | upkeep => trivial
    · intro a s t u hst htu
      cases a with
      | message key => exact htu ∘ hst
      | decision key => trivial
      | upkeep => trivial
  exact fun key row hRow => (hInForce key row hRow).1

/-! ### A stranger who is blocked -/

def pairingDigest (bytes : Bytes) : Bytes :=
  if bytes = textBytes "PAIR1234" then
    [112, 104, 154, 220, 2, 40, 31, 45, 41, 143, 29, 156, 51, 131, 131, 157, 72, 48, 79, 115, 207, 173, 210, 107, 222, 237, 96, 129, 192, 119, 183, 75]
  else [92, 231, 18, 96, 0, 15, 140, 193, 203, 119, 203, 109, 164, 6, 31, 144, 36, 86, 0, 225, 123, 110, 183, 178, 230, 122, 108, 142, 183, 255, 159, 154]

def plainMachine (digest : Bytes → Bytes) : Machine where
  digest := digest
  encode := OutboxPayload.json
  decode := fun _ => .error "not a payload"
  readTarget := fun json => some ⟨json⟩
  describeTarget := fun target => target.json
  hasConfigRoots := false
  resolveRecipe := fun _ => .error "unknown recipe"
  models := []
  freezeExecution := fun _ _ _ _ => .error "unknown recipe"
  frozenContextUnusable := fun _ => none
  messageParam := fun ingress _ _ => ingress.text
  queue := ⟨none, false, none, 8, fun _ _ => .ok (), fun jobId => .ok jobId⟩

def pairingAccount : ChannelAccount :=
  ⟨.telegram, true, ⟨.pairing, .allowList, .mentionOnly⟩, none, "connected", 8⟩

def openAccount : ChannelAccount :=
  ⟨.telegram, true, ⟨.anyone, .anyone, .mentionOnly⟩, none, "connected", 8⟩

def ChannelDb.ofAccount (account : ChannelAccount) : ChannelDb :=
  ⟨(∅ : Table String ChannelAccount).insert "acct" account, [], ∅, [], ∅, ∅, [], ∅, .empty, false, [], [], ∅⟩

def hello (id : String) : ChannelEnvelope :=
  ⟨"acct", .telegram, id, none, "chat", .direct, none, "ada", none, false, false, "hello", [], none,
    false, 1, none⟩

def helloCall (id : String) (nowMs : Int) : SenderCall :=
  .message ⟨plainMachine pairingDigest, hello id, nowMs, "PAIR1234",
    ⟨"event-" ++ id, "outbox-" ++ id, "ingress-" ++ id, "resumed-" ++ id⟩⟩

def blockCall : SenderCall := .decide ("acct", "ada") false 10

/-- The first message is challenged, the operator blocks its sender, a second one comes. -/
def blockedPool : Pool String ChannelDb Unit :=
  let first := (helloCall "1" 5).program.run (.ofAccount pairingAccount)
  let second := blockCall.program.run first.2
  let third := (helloCall "2" 15).program.run second.2
  ⟨third.2, [.done first.1, .done second.1, .done third.1]⟩

theorem inForce_ofAccount (account : ChannelAccount) : InForce (.ofAccount account) := by
  intro key row hRow
  cases hRow

theorem clear_of_done {pool tag} (h : ∀ worker ∈ pool.workers, ¬ worker.InProgress) :
    Clear ServesSender SenderTag.conflict pool tag :=
  fun worker hWorker hBusy => absurd hBusy (h worker hWorker)

theorem blockedPool_arises : Arises Apart (.ofAccount pairingAccount) blockedPool := by
  have hAct : ∀ pool i, Apart pool (.act i) := fun _ _ => trivial
  have hStart : Arises Apart (.ofAccount pairingAccount) ⟨.ofAccount pairingAccount, []⟩ := .start
  have hFirst := hStart.alone hAct ⟨helloCall "1" 5, rfl, clear_of_done (by simp)⟩
  have hSecond := hFirst.alone hAct ⟨blockCall, rfl, clear_of_done (by simp [Prog.InProgress])⟩
  exact hSecond.alone hAct ⟨helloCall "2" 15, rfl, clear_of_done (by simp [Prog.InProgress])⟩

theorem blocked_sender_stays_blocked :
    (blockedPool.state.senders.lookup ("acct", "ada")).map (·.state) = some .blocked := by
  have hDecision : blockedPool.state.decisions.lookup ("acct", "ada") =
      some ⟨.blocked, none, 5, none, none, some 10, none⟩ := by decide +kernel
  rw [operator_decisions_stay (inForce_ofAccount _) blockedPool_arises _ _ hDecision]
  rfl

/-- The message has read that nobody knows its sender when the operator blocks them. -/
def overtakenMoves : List (Move String ChannelDb Unit) :=
  [.spawn (helloCall "1" 5).program, .spawn blockCall.program] ++ [0, 0, 0, 0, 1, 1, 0].map .act

def overtakenPool : Pool String ChannelDb Unit :=
  (Pool.play ⟨.ofAccount pairingAccount, []⟩ overtakenMoves).getD ⟨.ofAccount pairingAccount, []⟩

theorem overtakenPool_arises : Arises AnyTime (.ofAccount pairingAccount) overtakenPool := by
  have hPlayed : (Pool.play ⟨.ofAccount pairingAccount, []⟩ overtakenMoves).isSome = true := by
    decide +kernel
  obtain ⟨pool, hPool⟩ := Option.isSome_iff_exists.mp hPlayed
  rw [overtakenPool, hPool]
  refine Arises.start.play ?_ hPool
  intro pool move hMove
  simp only [overtakenMoves, cons_append, mem_cons] at hMove
  rcases hMove with rfl | rfl | hAct
  · exact ⟨_, rfl⟩
  · exact ⟨_, rfl⟩
  · obtain ⟨worker, -, rfl⟩ := mem_map.mp hAct
    trivial

/-- The operator's block is gone: the sender is waiting for approval again. -/
theorem acceptance_undoes_block : Arises AnyTime (.ofAccount pairingAccount) overtakenPool ∧
    (overtakenPool.state.decisions.lookup ("acct", "ada")).map (·.state) = some .blocked ∧
    (overtakenPool.state.senders.lookup ("acct", "ada")).map (·.state) = some .pending :=
  ⟨overtakenPool_arises, by decide +kernel, by decide +kernel⟩

end LittleMonkey.Channel
