import LittleMonkey.Lib.Lockstep
import LittleMonkey.Daemon.SignedOnce

/-! # Requests without the secret

A request that fails its checks leaves a row `rejected` in the ledger.  Two
sequences of requests and passes that differ in such requests are compared
through the rows that only one of the two ledgers has.
-/

namespace LittleMonkey.Daemon.Trigger

open Primitives Interleaving Lockstep List AList

/-- The second state is the first without some rejected rows, each under a named key. -/
structure Shadow (Named : Key → Prop) (s t : Stores) : Prop where
  triggers : s.triggers = t.triggers
  payloads : s.payloads = t.payloads
  jobs : s.jobs = t.jobs
  enqueued : s.enqueued = t.enqueued
  deliveries : ∀ key, s.deliveries.lookup key = t.deliveries.lookup key ∨
    Named key ∧ t.deliveries.lookup key = none ∧
      ∃ row, s.deliveries.lookup key = some row ∧ row.status = .rejected

/-- ... and the two ledgers agree about `key`. -/
structure ShadowAt (Named : Key → Prop) (key : Key) (s t : Stores) : Prop extends
  Shadow Named s t where
  clear : s.deliveries.lookup key = t.deliveries.lookup key

variable {Named : Key → Prop} {s t : Stores}

section

variable {key : Key}

section

variable (h : ShadowAt Named key s t)

include h

theorem ShadowAt.setPayload (row : PayloadRow) :
    ShadowAt Named key (s.setPayload key row) (t.setPayload key row) :=
  { h with payloads := by simp only [Stores.setPayload, h.payloads] }

theorem ShadowAt.setTrigger (triggerId : String) (row : StoredTrigger) :
    ShadowAt Named key (s.setTrigger triggerId row) (t.setTrigger triggerId row) :=
  { h with triggers := by simp only [Stores.setTrigger, h.triggers] }

theorem ShadowAt.setDelivery (row : DeliveryRow) :
    ShadowAt Named key (s.setDelivery key row) (t.setDelivery key row) :=
  { h with
    deliveries := by
      intro k
      change AList.lookup _ (AList.insert _ _ _) = AList.lookup _ (AList.insert _ _ _) ∨ _
      by_cases hKey : k = key
      · rw [hKey, lookup_insert, lookup_insert]
        exact .inl rfl
      · simp only [Stores.setDelivery, lookup_insert_ne hKey]
        exact h.deliveries k
    clear := by
      change AList.lookup _ (AList.insert _ _ _) = AList.lookup _ (AList.insert _ _ _)
      rw [lookup_insert, lookup_insert] }

theorem ShadowAt.setJobs (f : Table String JobRow → Table String JobRow) :
    ShadowAt Named key { s with jobs := f s.jobs } { t with jobs := f t.jobs } :=
  { h with jobs := congrArg f h.jobs }

theorem ShadowAt.eraseJob (jobId : String) : ShadowAt Named key (s.eraseJob jobId) (t.eraseJob jobId) :=
  { h with
    jobs := by simp only [Stores.eraseJob, h.jobs]
    payloads := by simp only [Stores.eraseJob, h.payloads] }

end

end

/-! ## One lemma per statement -/

section

variable {key : Key}

section

variable (h : ShadowAt Named key s t)

include h

theorem reserve_together (nonce : Option String) (payload : String) (now : Nat) :
    Together (ShadowAt Named key) (reserveDeliveryPayload key nonce payload now) s t := by
  apply Together.transaction _ h
  apply Agree.read
  · rw [Stores.seen, Stores.seen, h.payloads]
  · split
    · exact .pure _ h
    · apply Agree.bind (.pureBody _ h)
      intro receivedAtMs s t h
      apply Agree.bind (.require _ _ h)
      intro _ s t h
      apply Agree.bind (.write (h.setPayload _))
      intro _ s t h
      exact .pure _ h

theorem activate_together : Together (ShadowAt Named key) (activateDeliveryPayload key) s t := by
  apply Together.transaction _ h
  apply Agree.read
  · rw [h.payloads]
  split
  · exact .write (h.setPayload _)
  · exact .pureBody _ h

theorem discard_together : Together (ShadowAt Named key) (discardDeliveryPayload key) s t := by
  apply Together.transaction _ h
  apply Agree.read
  · rw [h.payloads]
  split
  · exact .write (h.setPayload _)
  · exact .pure _ h

theorem submitPayload_together (jobId : Option String) :
    Together (ShadowAt Named key) (submitPayload key jobId) s t := by
  apply Together.transaction _ h
  apply Agree.read
  · rw [h.payloads]
  split
  · exact .pure _ h
  · apply Agree.read
    · exact h.jobs
    apply Agree.bind (.require _ _ h)
    intro _ s t h
    apply Agree.bind (.write (h.setPayload _))
    intro _ s t h
    exact .pure _ h

theorem acceptDelivery_together (payloadSha256 : String) (now : Nat) :
    Together (ShadowAt Named key) (acceptDelivery key payloadSha256 now) s t := by
  apply Together.transaction _ h
  apply Agree.read
  · exact h.clear
  split
  · exact .pure _ h
  · apply Agree.bind
    · apply Agree.bind (.pureBody _ h)
      intro receivedAtMs s t h
      apply Agree.bind (.require _ _ h)
      intro _ s t h
      apply Agree.read
      · rw [h.triggers]
      apply Agree.bind (.require _ _ h)
      intro _ s t h
      exact .write (h.setDelivery _)
    · intro _ s t h
      exact .pure _ h

theorem submitDelivery_together (runId : Option String) :
    Together (ShadowAt Named key) (submitDelivery key runId) s t := by
  apply Together.transaction _ h
  apply Agree.read
  · exact h.clear
  split
  · exact .pure _ h
  · apply Agree.bind (.write (h.setDelivery _))
    intro _ s t h
    exact .pure _ h

theorem touchTrigger_together (triggerId : String) (now : Nat) :
    Together (ShadowAt Named key) (touchTrigger triggerId now) s t := by
  apply Together.transaction _ h
  apply Agree.bind (.pureBody _ h)
  intro now s t h
  apply Agree.read
  · rw [h.triggers]
  split
  · exact .pure _ h
  · exact .write (h.setTrigger _ _)

theorem deleteTerminalJob_together (jobId : String) :
    Together (ShadowAt Named key) (deleteTerminalJob jobId) s t := by
  apply Together.write
  rw [h.jobs]
  split
  · exact h.eraseJob jobId
  · exact h

theorem insertPreparing_together (jobId : String) (maxQueue : Nat) :
    Together (ShadowAt Named key) (insertPreparing key jobId maxQueue) s t := by
  apply Together.transaction _ h
  apply Agree.read
  · exact h.jobs
  apply Agree.bind (.require _ _ h)
  intro _ s t h
  apply Agree.bind (.require _ _ h)
  intro _ s t h
  apply Agree.write
  exact { h with
    jobs := congrArg (AList.insert jobId _) h.jobs
    enqueued := congrArg (· ++ [(key, jobId)]) h.enqueued }

theorem markQueued_together (jobId runId : String) :
    Together (ShadowAt Named key) (markQueued jobId runId) s t := by
  apply Together.transaction _ h
  apply Agree.read
  · rw [h.jobs]
  split
  · exact .pureBody _ h
  · exact .write (h.setJobs (AList.insert jobId _))

theorem markFailed_together (jobId : String) : Together (ShadowAt Named key) (markFailed jobId) s t := by
  apply Together.transaction _ h
  apply Agree.read
  · rw [h.jobs]
  split
  · exact .pureBody _ h
  · exact .write (h.setJobs (AList.insert jobId _))

end

end

/-! ## One lemma per flow -/

variable {sha : Bytes → Bytes}

section

variable {key : Key}

theorem handOver_together (h : ShadowAt Named key s t) (payloadSha256 : String) (now : Nat) :
    Together (ShadowAt Named key) (handOver key payloadSha256 now) s t := by
  apply Together.bind (acceptDelivery_together h _ _)
  intro disposition s t _ h
  apply Together.bind
  · unfold settlePayload
    split
    · exact activate_together h
    · exact discard_together h
  · intro _ s t _ h
    exact .done _ h

theorem admitPayload_together (d : SignedDelivery) (h : ShadowAt Named d.key s t)
    (now : Nat) (text : String) : Together (ShadowAt Named d.key) (admitPayload sha d now text) s t := by
  apply Together.bind (reserve_together h _ _ _)
  intro reserved s t _ h
  split
  · apply Together.bind (handOver_together h _ _)
    intro disposition s t _ h
    exact .done _ h
  · exact .done _ h

theorem ingest_together (services : Services) (d : SignedDelivery) (now : Nat) (h : ShadowAt Named d.key s t)
    (hAuthentic : authenticate sha services d now (t.triggers.lookup d.triggerId) ≠ .ok false) :
    Together (ShadowAt Named d.key) (ingestSignedDelivery sha services d now) s t := by
  apply Together.ofExcept h
  intro _ _
  apply Together.read
  · rw [h.triggers]
  apply Together.ofExcept h
  intro authentic hResult
  split
  · apply Together.ofExcept h
    intro text _
    exact admitPayload_together d h now text
  next hFalse =>
    rw [Bool.not_eq_true] at hFalse
    exact absurd (hFalse ▸ hResult) hAuthentic

theorem processOne_together (h : ShadowAt Named key s t) (out : Surroundings) :
    Together (ShadowAt Named key) (processOnePendingDelivery sha out key) s t := by
  refine .of_built ?_ (dispatched_processOnePendingDelivery out) h
  intro γ p s t hPart h
  cases hPart with
  | look g hSame => exact ⟨congrArg Except.ok (hSame s t h.triggers h.payloads h.jobs h.clear), h⟩
  | submitPayload jobId => exact submitPayload_together h jobId
  | submitDelivery runId => exact submitDelivery_together h runId
  | touchTrigger triggerId now => exact touchTrigger_together h triggerId now
  | insertPreparing maxQueue => exact insertPreparing_together h _ maxQueue
  | markQueued jobId runId => exact markQueued_together h jobId runId
  | markFailed jobId => exact markFailed_together h jobId
  | deleteTerminalJob jobId => exact deleteTerminalJob_together h jobId

theorem Shadow.at_accepted (h : Shadow Named s t) (hAccepted : t.Accepted key) : ShadowAt Named key s t := by
  refine { h with clear := ?_ }
  rcases h.deliveries key with hSame | ⟨-, hNone, -⟩
  · exact hSame
  · obtain ⟨row, hRow, -⟩ := hAccepted
    rw [hNone] at hRow
    cases hRow

theorem processEach_together (out : Surroundings) (pending : List PendingDelivery)
    (h : Shadow Named s t) (hSound : Sound sha .any t) (hAccepted : ∀ p ∈ pending, t.Accepted p.key) :
    Together (Shadow Named) (processEach sha out pending) s t := by
  induction pending generalizing s t with
  | nil => exact .done _ h
  | cons p rest ih =>
    have hOne : Together (Shadow Named)
        ((processOnePendingDelivery sha out p.key).attempt : Flow _) s t :=
      ((processOne_together (h.at_accepted (hAccepted p mem_cons_self)) out).mono
        fun h => h.toShadow).attempt
    apply Together.bind hOne
    intro done s' t' hRun h
    have hKeeps : Upholds sha .any
        ((processOnePendingDelivery sha out p.key).attempt : Flow _) t := (processOnePendingDelivery_keeps out
        (hAccepted p mem_cons_self)).attempt fun _ _ _ _ => trivial
    have hKept := hKeeps.run Grows.interference hSound
    rw [hRun] at hKept
    apply Together.bind
    · apply ih h hKept.1
      intro q hq
      exact hKept.2.1.accepted _ (hAccepted q (mem_cons_of_mem p hq))
    · intro paused s t _ h
      split
      · exact .done _ h
      · exact .done _ h

theorem process_together (out : Surroundings) (h : Shadow Named s t) (hSound : Sound sha .any t) :
    Together (Shadow Named) (processPendingDeliveries sha out) s t := by
  apply Together.read
  · rw [Stores.withStatus, Stores.withStatus, h.payloads]
  · apply processEach_together out _ h hSound
    intro p hp
    obtain ⟨row, hRow, hStatus, -, -⟩ := mem_withStatus.mp (mem_of_mem_take hp)
    exact (hSound.payloads _ _ hRow).accepted (.inl hStatus)

end

/-! ## Sequences -/

/-- A request arrives, or the loop makes a pass. -/
inductive Event
  | request (arrived : Request)
  | pass (out : Surroundings)

def Event.key : Event → Option Key
  | .request arrived => some arrived.delivery.key
  | .pass _ => none

def Event.run (sha : Bytes → Bytes) (s : Stores) : Event → Stores
  | .request arrived =>
    ((ingestSignedDelivery sha arrived.services arrived.delivery arrived.now).run s).2
  | .pass out => ((processPendingDeliveries sha out).run s).2

def Event.fails (sha : Bytes → Bytes) (s : Stores) : Event → Bool
  | .request arrived =>
    match authenticate sha arrived.services arrived.delivery arrived.now
      (s.triggers.lookup arrived.delivery.triggerId) with
    | .ok false => true
    | _ => false
  | .pass _ => false

def play (sha : Bytes → Bytes) (events : List Event) (s : Stores) : Stores :=
  events.foldl (fun s event => event.run sha s) s

def marked (sha : Bytes → Bytes) : Stores → List Event → List (Event × Bool)
  | _, [] => []
  | s, event :: rest => (event, event.fails sha s) :: marked sha (event.run sha s) rest

def authentic (sha : Bytes → Bytes) (s : Stores) (events : List Event) : List Event :=
  ((marked sha s events).filter fun entry => !entry.2).map (·.1)

/-- No request that fails names the key of a later one that does not. -/
def NeverNamed (sha : Bytes → Bytes) (s : Stores) (events : List Event) : Prop :=
  (marked sha s events).Pairwise fun earlier later =>
    earlier.2 = true → later.2 = false → ∀ key, earlier.1.key = some key → later.1.key ≠ some key

section

theorem Sound.run_event (h : Sound sha .any s) (event : Event) : Sound sha .any (event.run sha s) := by
  cases event with
  | request arrived =>
    have hKeeps : Upholds sha .any (ingestSignedDelivery sha arrived.services arrived.delivery
        arrived.now) s := ingestSignedDelivery_keeps _ _ _ fun _ _ _ _ _ _ => trivial
    exact (hKeeps.run Grows.interference h).1
  | pass out =>
    have hKeeps : Upholds sha .any (processPendingDeliveries sha out) s := processPendingDeliveries_keeps _
    exact (hKeeps.run Grows.interference h).1

theorem Shadow.fails_eq (h : Shadow Named s t) (event : Event) : event.fails sha s = event.fails sha t := by
  cases event with
  | request arrived => rw [Event.fails, Event.fails, h.triggers]
  | pass out => rfl

theorem Shadow.both (h : Shadow Named s t) (hSound : Sound sha .any t) {event : Event}
    (hAuthentic : event.fails sha t = false) (hKey : ∀ key, event.key = some key → ¬ Named key) :
    Shadow Named (event.run sha s) (event.run sha t) := by
  cases event with
  | request arrived =>
    have hClear : ShadowAt Named arrived.delivery.key s t := by
      refine { h with clear := ?_ }
      rcases h.deliveries arrived.delivery.key with hSame | ⟨hNamed, -⟩
      · exact hSame
      · exact absurd hNamed (hKey _ rfl)
    refine (ingest_together arrived.services arrived.delivery arrived.now hClear ?_).2.toShadow
    intro hFails
    rw [Event.fails, hFails] at hAuthentic
    cases hAuthentic
  | pass out => exact (process_together out h hSound).2

theorem run_failing {arrived} (h : Event.fails sha s (.request arrived) = true) :
    Event.run sha s (.request arrived) = s ∨
      s.deliveries.lookup arrived.delivery.key = none ∧ Event.run sha s (.request arrived) =
        s.setDelivery arrived.delivery.key
          ⟨sha256Hex sha arrived.delivery.payload, arrived.now, .rejected, none⟩ := by
  have hFalse : authenticate sha arrived.services arrived.delivery arrived.now
      (s.triggers.lookup arrived.delivery.triggerId) = .ok false := by
    rw [Event.fails] at h
    split at h
    · assumption
    · cases h
  rw [Event.run, ingestSignedDelivery]
  cases validateDeliveryFields arrived.delivery with
  | error e => exact .inl rfl
  | ok _ =>
    rw [Prog.ofExcept_ok_bind, Prog.run_bind_ok (Prog.run_read _ s), hFalse, Prog.ofExcept_ok_bind]
    cases hReject : (rejectDelivery arrived.delivery.key (sha256Hex sha arrived.delivery.payload)
        arrived.now).run s with
    | mk r s' =>
      have hState : ((rejectDelivery arrived.delivery.key (sha256Hex sha arrived.delivery.payload)
          arrived.now >>= fun _ => pure IngestOutcome.rejected : Flow IngestOutcome).run s).2 = s' := by
        cases r with
        | ok _ => rw [Prog.run_bind_ok hReject, Prog.run_pure]
        | error e => rw [Prog.run_bind_error hReject]
      simp only [Bool.false_eq_true, if_false, hState]
      rcases rejectDelivery_cases hReject with hSame | hRow
      · exact .inl hSame
      · exact .inr hRow

theorem Shadow.first (h : Shadow Named s t) {event : Event} (hFails : event.fails sha s = true) :
    Shadow (fun key => Named key ∨ event.key = some key) (event.run sha s) t := by
  have hWider : Shadow (fun key => Named key ∨ event.key = some key) s t := by
    refine { h with deliveries := fun key => ?_ }
    rcases h.deliveries key with hSame | ⟨hNamed, hRest⟩
    · exact .inl hSame
    · exact .inr ⟨.inl hNamed, hRest⟩
  cases event with
  | pass out => cases hFails
  | request arrived =>
    rcases run_failing hFails with hSame | ⟨hNone, hRun⟩
    · rw [hSame]
      exact hWider
    · rw [hRun]
      refine { hWider with deliveries := fun key => ?_ }
      change AList.lookup _ (AList.insert _ _ _) = _ ∨ _
      by_cases hKey : key = arrived.delivery.key
      · have hBoth : t.deliveries.lookup key = none := by
          rw [hKey]
          rcases h.deliveries arrived.delivery.key with hSame | ⟨-, hNone', -⟩
          · rw [← hSame, hNone]
          · exact hNone'
        refine .inr ⟨.inr (congrArg some hKey.symm), hBoth,
          ⟨sha256Hex sha arrived.delivery.payload, arrived.now, .rejected, none⟩, ?_, rfl⟩
        rw [hKey]
        exact lookup_insert _
      · rcases hWider.deliveries key with hSame | ⟨hNamed, hNone', row, hRow, hRejected⟩
        · left
          rw [lookup_insert_ne hKey]
          exact hSame
        · refine .inr ⟨hNamed, hNone', row, ?_, hRejected⟩
          exact (lookup_insert_ne hKey).trans hRow

theorem Shadow.play (events : List Event) (h : Shadow Named s t) (hSound : Sound sha .any t)
    (hNamed : ∀ entry ∈ marked sha s events, entry.2 = false → ∀ key, entry.1.key = some key → ¬ Named key)
    (hEvents : NeverNamed sha s events) : ∃ Named', Shadow Named' (Trigger.play sha events s)
      (Trigger.play sha (authentic sha s events) t) := by
  induction events generalizing s t Named with
  | nil => exact ⟨Named, h⟩
  | cons event rest ih =>
    obtain ⟨hFirst, hRest⟩ := pairwise_cons.mp hEvents
    cases hFails : event.fails sha s with
    | true =>
      have hKept : authentic sha s (event :: rest) = authentic sha (event.run sha s) rest := by
        simp [authentic, marked, hFails]
      rw [hKept]
      apply ih (h.first hFails) hSound _ hRest
      intro entry hEntry hAuthentic key hKey
      rintro (hOld | hNew)
      · exact hNamed entry (mem_cons_of_mem _ hEntry) hAuthentic key hKey hOld
      · exact hFirst entry hEntry hFails hAuthentic key hNew hKey
    | false =>
      have hKept : authentic sha s (event :: rest) = event :: authentic sha (event.run sha s) rest := by
        simp [authentic, marked, hFails]
      rw [hKept]
      have hKey : ∀ key, event.key = some key → ¬ Named key :=
        hNamed (event, event.fails sha s) mem_cons_self hFails
      apply ih (h.both hSound (h.fails_eq event ▸ hFails) hKey) (hSound.run_event event) _ hRest
      intro entry hEntry
      exact hNamed entry (mem_cons_of_mem _ hEntry)

end

end LittleMonkey.Daemon.Trigger
