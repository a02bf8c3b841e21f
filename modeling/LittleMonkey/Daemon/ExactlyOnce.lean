import LittleMonkey.Daemon.DeliverySteps

/-! # One job for a delivery, across crashes

Any number of ingestions, polls, recoveries and passes interleave their
statements, and each may stop between two of them.  A delivery that was accepted
in the ledger stays accepted, so whatever a worker has read about it stays true.
-/

namespace LittleMonkey.Daemon.Trigger

open Guards Primitives Interleaving List AList

/-! ## What is known of triggers and deliveries -/

/-- Which kind a trigger may have, and where a payload with this nonce may come from. -/
structure Policy where
  Kind : String → TriggerKind → Prop
  Origin : Key → Option String → String → Prop
  /-- A scan of the file system renews the fingerprint of its trigger. -/
  rescan : ∀ {tid path recursive pattern last last'}, Kind tid (.filesystem path recursive pattern last) →
      Kind tid (.filesystem path recursive pattern last')
  /-- A trigger that takes no webhooks generates its deliveries, without a nonce. -/
  generated : ∀ {tid kind}, Kind tid kind → kind.maxSkewMs = none →
    ∀ deliveryId text, Origin (tid, deliveryId) none text

def Policy.any : Policy where
  Kind _ _ := True
  Origin _ _ _ := True
  rescan _ := trivial
  generated _ _ _ _ := trivial

def Policy.Allows (policy : Policy) (tid : String) (row : StoredTrigger) : Prop :=
  ∀ config, row.configJson = .ok config → policy.Kind tid config.kind

/-- A request that a trigger of an allowed kind finds authentic has an origin. -/
def Policy.Vouches (policy : Policy) (sha : Bytes → Bytes) (services : Services)
    (delivery : SignedDelivery) (now : Nat) : Prop :=
  validateDeliveryFields delivery = .ok () → ∀ stored, policy.Allows delivery.triggerId stored →
    authenticate sha services delivery now (some stored) = .ok true →
    ∀ text, payloadText services delivery.payload = .ok text →
      policy.Origin delivery.key (some delivery.nonce) text

/-! ## What stays true -/

def Stores.Accepted (s : Stores) (key : Key) : Prop :=
  ∃ row, s.deliveries.lookup key = some row ∧ row.status.wasAccepted = true

def Stores.Known (s : Stores) (tid : String) : Prop := (s.triggers.lookup tid).isSome = true

def Stores.Kept (s : Stores) (key : Key) : Prop := (s.payloads.lookup key).isSome = true

/-- Triggers and payloads are never deleted and an accepted delivery never becomes anything less. -/
structure Grows (s s' : Stores) : Prop where
  known : ∀ tid, s.Known tid → s'.Known tid
  kept : ∀ key, s.Kept key → s'.Kept key
  accepted : ∀ key, s.Accepted key → s'.Accepted key

theorem Grows.refl (s : Stores) : Grows s s := ⟨fun _ h => h, fun _ h => h, fun _ h => h⟩

theorem Grows.trans {a b c} (hab : Grows a b) (hbc : Grows b c) : Grows a c where
  known t h := hbc.known t (hab.known t h)
  kept k h := hbc.kept k (hab.kept k h)
  accepted k h := hbc.accepted k (hab.accepted k h)

theorem Grows.interference : Interference Grows Grows where
  refl := .refl
  trans := .trans
  within h := h
  chain := .trans

/-- What a payload row promises about the ledger. -/
structure PayloadSound (policy : Policy) (s : Stores) (key : Key) (row : PayloadRow) : Prop where
  known : s.Known key.1
  origin : policy.Origin key row.nonce row.payloadJson
  accepted : row.status = .accepted ∨ row.status = .submitted → s.Accepted key
  jobId : row.jobId.isSome = true → row.status = .submitted

/-- The databases agree: payloads with the ledger, jobs with their deliveries. -/
structure Sound (sha : Bytes → Bytes) (policy : Policy) (s : Stores) : Prop where
  triggers : Every policy.Allows s.triggers
  payloads : Every (PayloadSound policy s) s.payloads
  nonces : ∀ key row key' row', s.payloads.lookup key = some row → s.payloads.lookup key' = some row' →
    key.1 = key'.1 → row.nonce = row'.nonce → row.nonce.isSome = true → key = key'
  accepted : ∀ key, s.Accepted key → s.Kept key
  enqueued : ∀ entry ∈ s.enqueued, entry.2 = deterministicJobId sha entry.1 ∧ s.Accepted entry.1

section

variable {sha : Bytes → Bytes} {policy : Policy} {s s' : Stores} {key : Key}
variable {row : DeliveryRow}

theorem Stores.kept_of_lookup {row} (h : s.payloads.lookup key = some row) : s.Kept key := by
  rw [Stores.Kept, h]
  rfl

theorem PayloadSound.grows {row} (h : PayloadSound policy s key row)
    (hGrows : Grows s s') : PayloadSound policy s' key row :=
  { h with
    known := hGrows.known _ h.known
    accepted := fun hStatus => hGrows.accepted _ (h.accepted hStatus) }

theorem Grows.of_eq (hTriggers : s'.triggers = s.triggers) (hPayloads : s'.payloads = s.payloads)
    (hDeliveries : s'.deliveries = s.deliveries) : Grows s s' := by
  constructor
  · intro tid hKnown
    rw [Stores.Known, hTriggers]
    exact hKnown
  · intro k hKept
    rw [Stores.Kept, hPayloads]
    exact hKept
  · rintro k ⟨row, hRow, hStatus⟩
    exact ⟨row, by rw [hDeliveries]; exact hRow, hStatus⟩

/-! ### Payloads -/

theorem Grows.setPayload (row : PayloadRow) : Grows s (s.setPayload key row) where
  known _ h := h
  accepted _ h := h
  kept := by
    intro k hKept
    change ((s.payloads.insert key row).lookup k).isSome = true
    by_cases hKey : k = key
    · rw [hKey, lookup_insert]
      rfl
    · rw [lookup_insert_ne hKey]
      exact hKept

theorem Sound.setPayload (h : Sound sha policy s) {row} (hRow : PayloadSound policy s key row)
    (hNonce : ∀ k old, s.payloads.lookup k = some old → k.1 = key.1 → old.nonce = row.nonce →
      row.nonce.isSome = true → k = key) : Sound sha policy (s.setPayload key row) where
  triggers := h.triggers
  payloads := by
    apply Every.insert
    · exact h.payloads.imp fun k old hOld => hOld.grows (.setPayload row)
    · exact hRow.grows (.setPayload row)
  nonces := by
    intro k a k' b ha hb hTrigger hSame hSome
    change AList.lookup _ (AList.insert _ _ _) = _ at ha hb
    by_cases hk : k = key
    · rw [hk, lookup_insert] at ha
      cases ha
      by_cases hk' : k' = key
      · exact hk.trans hk'.symm
      · rw [lookup_insert_ne hk'] at hb
        exact hk.trans (hNonce k' b hb (hTrigger.symm.trans (congrArg Prod.fst hk)) hSame.symm hSome).symm
    · rw [lookup_insert_ne hk] at ha
      by_cases hk' : k' = key
      · rw [hk', lookup_insert] at hb
        cases hb
        exact (hNonce k a ha (hTrigger.trans (congrArg Prod.fst hk')) hSame (hSame ▸ hSome)).trans hk'.symm
      · rw [lookup_insert_ne hk'] at hb
        exact h.nonces k a k' b ha hb hTrigger hSame hSome
  accepted k hAcc := (Grows.setPayload row).kept k (h.accepted k hAcc)
  enqueued := h.enqueued

theorem Sound.updatePayload (h : Sound sha policy s) {old row}
    (hOld : s.payloads.lookup key = some old) (hSame : row.nonce = old.nonce)
    (hRow : PayloadSound policy s key row) : Sound sha policy (s.setPayload key row) := by
  apply h.setPayload hRow
  intro k other hOther hTrigger hNonce hSome
  exact h.nonces k other key old hOther hOld hTrigger (hNonce.trans hSame) (hNonce ▸ hSome)

/-! ### Triggers and the ledger -/

theorem Grows.setTrigger (tid : String) (row : StoredTrigger) : Grows s (s.setTrigger tid row) where
  known := by
    intro other hKnown
    change ((s.triggers.insert tid row).lookup other).isSome = true
    by_cases hOther : other = tid
    · rw [hOther, lookup_insert]
      rfl
    · rw [lookup_insert_ne hOther]
      exact hKnown
  kept _ h := h
  accepted _ h := h

theorem Sound.setTrigger (h : Sound sha policy s) {tid row}
    (hRow : policy.Allows tid row) : Sound sha policy (s.setTrigger tid row) :=
  { h with
    triggers := h.triggers.insert hRow
    payloads := h.payloads.imp fun _ _ hPayload => hPayload.grows (.setTrigger tid row) }

theorem Grows.setDelivery (hRow : row.status.wasAccepted = true ∨ s.deliveries.lookup key = none) :
    Grows s (s.setDelivery key row) where
  known _ h := h
  kept _ h := h
  accepted := by
    rintro k ⟨old, hOld, hStatus⟩
    by_cases hKey : k = key
    · subst hKey
      rcases hRow with hRow | hNone
      · exact ⟨row, lookup_insert _, hRow⟩
      · rw [hNone] at hOld
        cases hOld
    · exact ⟨old, by rw [Stores.setDelivery, lookup_insert_ne hKey]; exact hOld, hStatus⟩

theorem Sound.setDelivery (h : Sound sha policy s)
    (hGrows : Grows s (s.setDelivery key row)) (hKept : row.status.wasAccepted = true → s.Kept key) :
    Sound sha policy (s.setDelivery key row) where
  triggers := h.triggers
  payloads := h.payloads.imp fun _ _ hPayload => hPayload.grows hGrows
  nonces := h.nonces
  accepted := by
    rintro k ⟨found, hFound, hStatus⟩
    change AList.lookup _ (AList.insert _ _ _) = _ at hFound
    by_cases hKey : k = key
    · rw [hKey, lookup_insert] at hFound
      cases hFound
      rw [hKey]
      exact hKept hStatus
    · rw [lookup_insert_ne hKey] at hFound
      exact h.accepted k ⟨found, hFound, hStatus⟩
  enqueued := by
    intro entry hEntry
    obtain ⟨hJob, hAcc⟩ := h.enqueued entry hEntry
    exact ⟨hJob, hGrows.accepted _ hAcc⟩

theorem Stores.accepted_setDelivery (hRow : row.status.wasAccepted = true) :
    (s.setDelivery key row).Accepted key := ⟨row, lookup_insert _, hRow⟩

/-! ### Jobs -/

theorem Sound.setJobs (h : Sound sha policy s) (jobs : Table String JobRow) :
    Sound sha policy { s with jobs := jobs } ∧ Grows s { s with jobs := jobs } := by
  have hGrows : Grows s { s with jobs := jobs } := .of_eq rfl rfl rfl
  exact ⟨⟨h.triggers, h.payloads.imp fun _ _ hRow => hRow.grows hGrows, h.nonces, h.accepted,
    h.enqueued⟩, hGrows⟩

theorem Grows.eraseJob (s : Stores) (jobId : String) : Grows s (s.eraseJob jobId) where
  known _ h := h
  accepted _ h := h
  kept := by
    intro k hKept
    rw [Stores.Kept, Stores.eraseJob, lookup_mapRows, Option.isSome_map]
    exact hKept

theorem Sound.eraseJob (h : Sound sha policy s) (jobId : String) : Sound sha policy (s.eraseJob jobId) where
  triggers := h.triggers
  payloads := by
    apply Every.mapRows (h.payloads.imp fun k row hRow => hRow.grows (.eraseJob s jobId))
    intro k row hRow
    split
    · exact { hRow with jobId := fun hSome => absurd hSome (by simp) }
    · exact hRow
  nonces := by
    have hRow : ∀ k row, (s.eraseJob jobId).payloads.lookup k = some row →
        ∃ old, s.payloads.lookup k = some old ∧ row.nonce = old.nonce := by
      intro k row hFound
      rw [Stores.eraseJob, lookup_mapRows] at hFound
      obtain ⟨old, hOld, rfl⟩ := Option.map_eq_some_iff.mp hFound
      refine ⟨old, hOld, ?_⟩
      split <;> rfl
    intro k a k' b ha hb hTrigger hSame hSome
    obtain ⟨a', ha', hNonceA⟩ := hRow k a ha
    obtain ⟨b', hb', hNonceB⟩ := hRow k' b hb
    exact h.nonces k a' k' b' ha' hb' hTrigger (hNonceA.symm.trans (hSame.trans hNonceB))
      (hNonceA ▸ hSome)
  accepted k hAcc := (Grows.eraseJob s jobId).kept k (h.accepted k hAcc)
  enqueued := h.enqueued

end

/-! ## Workers -/

section

variable {sha : Bytes → Bytes} {policy : Policy} {s : Stores} {key : Key}

theorem seen_of_nonce {k row nonce}
    (hRow : s.payloads.lookup k = some row) (hTrigger : k.1 = key.1) (hNonce : row.nonce = nonce)
    (hSome : nonce.isSome = true) : s.seen key nonce = true := by
  rw [Stores.seen, any_eq_true]
  refine ⟨⟨k, row⟩, mem_lookup_iff.mp hRow, ?_⟩
  simp [hTrigger, hNonce, hSome]

abbrev Upholds {α : Type} (sha : Bytes → Bytes) (policy : Policy) (p : Flow α) (s : Stores) : Prop :=
  Keeps (Sound sha policy) Grows Grows p s

/-! ### One lemma per statement -/

theorem reserve_keeps (nonce : Option String) (payload : String) (now : Nat)
    (hKnown : s.Known key.1) (hOrigin : policy.Origin key nonce payload) :
    Safe (Sound sha policy) Grows Grows (fun r t => r = .ok true → t.Kept key)
      (reserveDeliveryPayload key nonce payload now) s := by
  apply Safe.statement
  intro t r t' hT hSound h
  rcases reserve_cases h with ⟨rfl, rfl, -⟩ | ⟨rfl, e, rfl⟩ | ⟨-, hSeen, rfl⟩
  · refine ⟨hSound, .refl _, ?_⟩
    intro u _ _ hOk
    cases hOk
  · refine ⟨hSound, .refl _, ?_⟩
    intro u _ _ hOk
    cases hOk
  · refine ⟨?_, .setPayload _, ?_⟩
    · apply hSound.setPayload
      · refine ⟨hT.known _ hKnown, hOrigin, ?_, ?_⟩
        · rintro (hStatus | hStatus) <;> cases hStatus
        · intro hSome
          cases hSome
      · intro k old hOld hTrigger hNonce hSome
        have hMatch := seen_of_nonce hOld hTrigger hNonce hSome
        rw [hSeen] at hMatch
        cases hMatch
    · intro u hU _ _
      exact hU.kept _ (Stores.kept_of_lookup (lookup_insert _))

theorem activate_keeps (hAcc : s.Accepted key) : Upholds sha policy (activateDeliveryPayload key) s := by
  apply Keeps.statement
  intro t r t' hT hSound h
  rcases activate_cases h with ⟨row, hRow, hReserved, -, rfl⟩ | ⟨rfl, -⟩
  · have hOld := hSound.payloads key row hRow
    refine ⟨hSound.updatePayload hRow rfl
      { hOld with accepted := fun _ => hT.accepted _ hAcc, jobId := ?_ }, .setPayload _⟩
    intro hSome
    have hSubmitted := hOld.jobId hSome
    rw [hReserved] at hSubmitted
    cases hSubmitted
  · exact ⟨hSound, .refl _⟩

theorem discard_keeps : Upholds sha policy (discardDeliveryPayload key) s := by
  apply Keeps.statement
  intro t r t' hT hSound h
  obtain ⟨row, hRow, hOpen, rfl⟩ | ⟨rfl, -⟩ := discard_cases h
  · have hOld := hSound.payloads key row hRow
    refine ⟨hSound.updatePayload hRow rfl { hOld with accepted := ?_, jobId := ?_ }, .setPayload _⟩
    · rintro (hStatus | hStatus) <;> cases hStatus
    · intro hSome
      have hSubmitted := hOld.jobId hSome
      rcases hOpen with hOpen | hOpen
      · rw [hOpen] at hSubmitted
        cases hSubmitted
      · rw [hOpen] at hSubmitted
        cases hSubmitted
  · exact ⟨hSound, .refl _⟩

theorem submitPayload_keeps (jobId : Option String) : Upholds sha policy (submitPayload key jobId) s := by
  apply Keeps.statement
  intro t r t' hT hSound h
  rcases submitPayload_cases h with ⟨row, hRow, hAcc, -, rfl⟩ | ⟨rfl, -, -⟩ | ⟨rfl, -⟩
  · have hOld := hSound.payloads key row hRow
    refine ⟨hSound.updatePayload hRow rfl
      { hOld with accepted := fun _ => hOld.accepted (.inl hAcc), jobId := ?_ }, .setPayload _⟩
    intro _
    rfl
  · exact ⟨hSound, .refl _⟩
  · exact ⟨hSound, .refl _⟩

theorem acceptDelivery_safe (payloadSha256 : String) (now : Nat) (hKept : s.Kept key) :
    Safe (Sound sha policy) Grows Grows (fun r t => r = .ok .accepted → t.Accepted key)
      (acceptDelivery key payloadSha256 now) s := by
  apply Safe.statement
  intro t r t' hT hSound h
  rcases acceptDelivery_cases h with ⟨row, -, rfl, rfl⟩ | ⟨-, rfl, rfl⟩ | ⟨-, rfl, e, rfl⟩
  · refine ⟨hSound, .refl _, ?_⟩
    intro u _ _ hOk
    split at hOk <;> cases hOk
  · have hGrows : Grows t (t.setDelivery key ⟨payloadSha256, now, .accepted, none⟩) := .setDelivery (.inl rfl)
    refine ⟨hSound.setDelivery hGrows fun _ => hT.kept _ hKept, hGrows, ?_⟩
    intro u hU _ _
    exact hU.accepted _ (Stores.accepted_setDelivery rfl)
  · refine ⟨hSound, .refl _, ?_⟩
    intro u _ _ hOk
    cases hOk

theorem rejectDelivery_keeps (payloadSha256 : String) (now : Nat) :
    Upholds sha policy (rejectDelivery key payloadSha256 now) s := by
  apply Keeps.statement
  intro t r t' hT hSound h
  rcases rejectDelivery_cases h with rfl | ⟨hNone, rfl⟩
  · exact ⟨hSound, .refl _⟩
  · refine ⟨hSound.setDelivery (.setDelivery (.inr hNone)) ?_, .setDelivery (.inr hNone)⟩
    intro hStatus
    cases hStatus

theorem submitDelivery_keeps (runId : Option String) : Upholds sha policy (submitDelivery key runId) s := by
  apply Keeps.statement
  intro t r t' hT hSound h
  rcases submitDelivery_cases h with ⟨row, hRow, hAcc, -, rfl⟩ | ⟨rfl, -⟩
  · refine ⟨hSound.setDelivery (.setDelivery (.inl rfl)) ?_, .setDelivery (.inl rfl)⟩
    intro _
    exact hSound.accepted key ⟨row, hRow, by rw [hAcc]; rfl⟩
  · exact ⟨hSound, .refl _⟩

theorem setTrigger_keeps {α : Type} {f : Stores → Except String α × Stores}
    (h : ∀ t r t', Sound sha policy t → f t = (r, t') →
      t' = t ∨ ∃ tid row, policy.Allows tid row ∧ t' = t.setTrigger tid row) :
    Upholds sha policy (Prog.statement f) s := by
  apply Keeps.statement
  intro t r t' hT hSound hRun
  rcases h t r t' hSound hRun with rfl | ⟨tid, row, hRow, rfl⟩
  · exact ⟨hSound, .refl _⟩
  · exact ⟨hSound.setTrigger hRow, .setTrigger tid row⟩

theorem touchTrigger_keeps (tid : String) (now : Nat) : Upholds sha policy (touchTrigger tid now) s := by
  apply setTrigger_keeps
  intro t r t' hSound h
  rcases touchTrigger_cases h with rfl | ⟨row, last, hRow, rfl⟩
  · exact .inl rfl
  · exact .inr ⟨tid, { row with lastDeliveryAtMs := last }, hSound.triggers tid row hRow, rfl⟩

theorem upsertTrigger_keeps (tid : String) (config : TriggerConfig)
    (nextFireAtMs : Option Nat) (hKind : policy.Kind tid config.kind) :
    Upholds sha policy (upsertTrigger tid config nextFireAtMs) s := by
  apply setTrigger_keeps
  intro t r t' _ h
  obtain ⟨-, hState⟩ := Prod.mk.inj h
  refine .inr ⟨tid, _, ?_, hState.symm⟩
  intro found hFound
  cases hFound
  exact hKind

theorem updateTrigger_keeps (tid : String) (f : StoredTrigger → StoredTrigger)
    (hConfig : ∀ row, (f row).configJson = row.configJson) : Upholds sha policy (Prog.write fun s =>
      match s.triggers.lookup tid with
      | none => s
      | some row => s.setTrigger tid (f row)) s := by
  apply setTrigger_keeps
  intro t r t' hSound h
  obtain ⟨-, hState⟩ := Prod.mk.inj h
  dsimp only at hState
  split at hState
  · exact .inl hState.symm
  next row hRow =>
    refine .inr ⟨tid, _, ?_, hState.symm⟩
    intro config hFound
    rw [hConfig] at hFound
    exact hSound.triggers tid row hRow config hFound

theorem disableTrigger_keeps (tid : String) : Upholds sha policy (disableTrigger tid) s :=
  updateTrigger_keeps tid (fun row => { row with enabled := false }) fun _ => rfl

theorem updateTriggerSchedule_keeps (tid : String) (next last : Option Nat) :
    Upholds sha policy (updateTriggerSchedule tid next last) s :=
  updateTrigger_keeps tid (fun row =>
    { row with nextFireAtMs := next, lastDeliveryAtMs := last.or row.lastDeliveryAtMs }) fun _ => rfl

theorem markQueued_keeps (jobId runId : String) : Upholds sha policy (markQueued jobId runId) s := by
  apply Keeps.statement
  intro t r t' hT hSound h
  obtain ⟨jobs, rfl⟩ := markQueued_cases h
  exact hSound.setJobs jobs

theorem markFailed_keeps (jobId : String) : Upholds sha policy (markFailed jobId) s := by
  apply Keeps.statement
  intro t r t' hT hSound h
  obtain ⟨jobs, rfl⟩ := markFailed_cases h
  exact hSound.setJobs jobs

theorem deleteTerminalJob_keeps (jobId : String) : Upholds sha policy (deleteTerminalJob jobId) s := by
  apply Keeps.statement
  intro t r t' hT hSound h
  rcases deleteTerminalJob_cases h with rfl | rfl
  · exact ⟨hSound, .refl _⟩
  · exact ⟨hSound.eraseJob jobId, .eraseJob t jobId⟩

theorem insertPreparing_keeps (maxQueue : Nat) (hAcc : s.Accepted key) :
    Upholds sha policy (insertPreparing key (deterministicJobId sha key) maxQueue) s := by
  apply Keeps.statement
  intro t r t' hT hSound h
  rcases insertPreparing_cases h with rfl | ⟨jobs, rfl⟩
  · exact ⟨hSound, .refl _⟩
  · have hGrows : Grows t { t with
        jobs := jobs, enqueued := t.enqueued ++ [(key, deterministicJobId sha key)] } := .of_eq rfl rfl rfl
    refine ⟨⟨hSound.triggers, hSound.payloads.imp fun k row hRow => hRow.grows hGrows, hSound.nonces,
      hSound.accepted, ?_⟩, hGrows⟩
    intro entry hEntry
    rcases mem_append.mp hEntry with hOld | hNew
    · exact hSound.enqueued entry hOld
    · rw [mem_singleton.mp hNew]
      exact ⟨rfl, hT.accepted _ hAcc⟩

/-! ### One lemma per flow -/

theorem handOver_keeps (payloadSha256 : String) (now : Nat) (hKept : s.Kept key) :
    Upholds sha policy (handOver key payloadSha256 now) s := by
  apply Safe.bind Grows.interference (acceptDelivery_safe payloadSha256 now hKept)
  · intro disposition t _ hPost
    apply Keeps.bind Grows.interference
    · unfold settlePayload
      split
      next hAcc =>
        subst hAcc
        apply Safe.upon Grows.interference
        intro u hU hSound
        exact activate_keeps (hPost u hU hSound rfl)
      · exact discard_keeps
    · intro _ u _
      exact .done _
  · intro _ _ _ _
    trivial

theorem reserved_keeps {α : Type} {nonce payload now taken} {other : Flow α} (hKnown : s.Known key.1)
    (hOrigin : policy.Origin key nonce payload) (hTaken : ∀ t, t.Kept key → Upholds sha policy taken t)
    (hOther : ∀ t, Upholds sha policy other t) : Upholds sha policy (do
      let reserved ← reserveDeliveryPayload key nonce payload now
      if reserved then taken else other) s := by
  apply Safe.bind Grows.interference (reserve_keeps nonce payload now hKnown hOrigin)
  · intro reserved t _ hPost
    split
    next hReserved =>
      subst hReserved
      apply Safe.upon Grows.interference
      intro u hU hSound
      exact hTaken u (hPost u hU hSound rfl)
    · exact hOther t
  · intro _ _ _ _
    trivial

theorem admitPayload_keeps (dl : SignedDelivery) (now : Nat) (text : String) (hKnown : s.Known dl.triggerId)
    (hOrigin : policy.Origin dl.key (some dl.nonce) text) :
    Upholds sha policy (admitPayload sha dl now text) s := by
  apply reserved_keeps hKnown hOrigin
  · intro t hKept
    exact .bind Grows.interference (handOver_keeps _ _ hKept) fun _ _ _ => .done _
  · intro t
    exact .done _

theorem stored_of_authenticate {services dl now stored authentic}
    (h : authenticate sha services dl now stored = .ok authentic) : ∃ row, stored = some row := by
  simp only [authenticate, webhookConfig, bind_eq_ok, okOr_eq_ok] at h
  obtain ⟨config, ⟨row, hStored, -⟩, -⟩ := h
  exact ⟨row, hStored⟩

theorem ingestSignedDelivery_keeps (services : Services) (dl : SignedDelivery) (now : Nat)
    (hVouches : policy.Vouches sha services dl now) :
    Upholds sha policy (ingestSignedDelivery sha services dl now) s := by
  apply Keeps.ofExcept
  intro _ hFields
  apply Keeps.read Grows.interference
  intro t _ hSound
  apply Keeps.ofExcept
  intro authentic hAuthentic
  obtain ⟨row, hRow⟩ := stored_of_authenticate hAuthentic
  split
  next hTrue =>
    apply Keeps.ofExcept
    intro text hText
    apply admitPayload_keeps dl now text
    · rw [Stores.Known, hRow]
      rfl
    · rw [hRow, hTrue] at hAuthentic
      exact hVouches hFields row (hSound.triggers _ row hRow) hAuthentic text hText
  · exact .bind Grows.interference (rejectDelivery_keeps _ _) fun _ _ _ => .done _

theorem acceptGenerated_keeps (payload : String) (now : Nat) (hKnown : s.Known key.1)
    (hOrigin : policy.Origin key none payload) :
    Upholds sha policy (acceptGenerated sha key payload now) s := by
  apply reserved_keeps hKnown hOrigin
  · intro t hKept
    exact .bind Grows.interference (handOver_keeps _ _ hKept) fun _ _ _ => .done _
  · intro t
    exact .done _

theorem pollCron_keeps (poller : Poller) (tid schedule : String) (stored : StoredTrigger)
    (now : Nat) (hKnown : s.Known tid) (hKind : policy.Kind tid (.cron schedule)) :
    Upholds sha policy (pollCron sha poller tid schedule stored now) s := by
  apply Keeps.ofExcept
  intro upcoming _
  dsimp only
  split
  · apply Keeps.bind Grows.interference
      (acceptGenerated_keeps _ _ hKnown (policy.generated hKind rfl _ _))
    intro _ t _
    apply Keeps.ofExcept
    intro next _
    exact updateTriggerSchedule_keeps _ _ _
  · split
    · exact updateTriggerSchedule_keeps _ _ _
    · exact .done _

theorem pollFilesystem_keeps (poller : Poller) (tid path : String) (recursive : Bool)
    (pattern lastFingerprint : Option String) (stored : StoredTrigger) (config : TriggerConfig)
    (now : Nat) (hKnown : s.Known tid)
    (hKind : policy.Kind tid (.filesystem path recursive pattern lastFingerprint)) :
    Upholds sha policy (pollFilesystem sha poller tid path recursive pattern
      lastFingerprint stored config now) s := by
  apply Keeps.ofExcept
  intro fingerprint _
  split
  · apply Keeps.bind Grows.interference
      (acceptGenerated_keeps _ _ hKnown (policy.generated hKind rfl _ _))
    intro _ t _
    exact upsertTrigger_keeps _ _ _ (policy.rescan hKind)
  · exact upsertTrigger_keeps _ _ _ (policy.rescan hKind)

theorem pollOnePersistentTrigger_keeps (poller : Poller) (tid : String)
    (stored : StoredTrigger) (now : Nat) (hKnown : s.Known tid) (hAllows : policy.Allows tid stored) :
    Upholds sha policy (pollOnePersistentTrigger sha poller tid stored now) s := by
  apply Keeps.ofExcept
  intro config hConfig
  have hKind : policy.Kind tid config.kind := by
    cases hStored : stored.configJson with
    | error e =>
      rw [hStored] at hConfig
      cases hConfig
    | ok found =>
      rw [hStored] at hConfig
      cases hConfig
      exact hAllows config hStored
  apply Keeps.ofExcept
  intro _ _
  split
  next hCron =>
    rw [hCron] at hKind
    exact pollCron_keeps _ _ _ _ _ hKnown hKind
  next hFilesystem =>
    rw [hFilesystem] at hKind
    exact pollFilesystem_keeps _ _ _ _ _ _ _ _ _ hKnown hKind
  · exact .done _

theorem pollPersistentTriggers_keeps (poller : Poller) (now : Nat) :
    Upholds sha policy (pollPersistentTriggers sha poller now) s := by
  apply Keeps.read Grows.interference
  intro t _ hSound
  apply Safe.forEach Grows.interference
  · rintro ⟨tid, stored⟩ hEntry u hU
    have hRow := mem_lookup_iff.mpr hEntry
    have hKnown : t.Known tid := by
      rw [Stores.Known, hRow]
      rfl
    split
    · apply Keeps.bind Grows.interference
      · exact (pollOnePersistentTrigger_keeps poller tid stored now (hU.known _ hKnown)
          (hSound.triggers _ _ hRow)).attempt fun _ _ _ _ => trivial
      · intro _ _ _
        exact .done _
    · exact Keeps.done _
  · intro _ _ _
    trivial

theorem processOnePendingDelivery_keeps (out : Surroundings) (hAcc : s.Accepted key) :
    Upholds sha policy (processOnePendingDelivery sha out key) s := by
  refine (dispatched_processOnePendingDelivery out).keeps (H := fun s => s.Accepted key)
    Grows.interference (fun hGrows h => hGrows.accepted _ h) ?_ hAcc
  intro γ p t hPart hAcc
  cases hPart with
  | look g _ => exact Keeps.statement fun u _ _ _ hSound hRun => by cases hRun; exact ⟨hSound, .refl u⟩
  | submitPayload jobId => exact submitPayload_keeps jobId
  | submitDelivery runId => exact submitDelivery_keeps runId
  | touchTrigger tid now => exact touchTrigger_keeps tid now
  | insertPreparing maxQueue => exact insertPreparing_keeps maxQueue hAcc
  | markQueued jobId runId => exact markQueued_keeps jobId runId
  | markFailed jobId => exact markFailed_keeps jobId
  | deleteTerminalJob jobId => exact deleteTerminalJob_keeps jobId

theorem processEach_keeps (out : Surroundings) (pending : List PendingDelivery)
    (hAcc : ∀ p ∈ pending, s.Accepted p.key) : Upholds sha policy (processEach sha out pending) s := by
  induction pending generalizing s with
  | nil => exact .done _
  | cons p rest ih =>
    apply Keeps.bind Grows.interference
    · exact (processOnePendingDelivery_keeps out
        (hAcc p mem_cons_self)).attempt fun _ _ _ _ => trivial
    · intro done t hT
      apply Keeps.bind Grows.interference
      · apply ih
        intro q hq
        exact hT.accepted _ (hAcc q (mem_cons_of_mem p hq))
      · intro paused u _
        split
        · exact .done _
        · exact .done _

theorem mem_withStatus {status p} :
    p ∈ s.withStatus status ↔ ∃ row, s.payloads.lookup p.key = some row ∧ row.status = status ∧
      row.jobId = none ∧ p = ⟨p.key, row.nonce, row.payloadJson, row.receivedAtMs⟩ := by
  rw [Stores.withStatus, OrderBy.mem_orderBy, mem_filterMap]
  constructor
  · rintro ⟨⟨k, row⟩, hEntry, hRow⟩
    split at hRow
    next hStatus =>
      cases hRow
      simp only [Bool.and_eq_true, beq_iff_eq, Option.isNone_iff_eq_none] at hStatus
      exact ⟨row, mem_lookup_iff.mpr hEntry, hStatus.1, hStatus.2, rfl⟩
    · cases hRow
  · rintro ⟨row, hRow, hStatus, hJob, hp⟩
    refine ⟨⟨p.key, row⟩, mem_lookup_iff.mp hRow, ?_⟩
    simp only [hStatus, hJob, beq_self_eq_true]
    exact congrArg some hp.symm

theorem reconcileDisposition_alone (payloadSha256 : String) (receivedAtMs : Nat) (hKept : s.Kept key) :
    Safe (Sound sha policy) Eq Grows (fun r t => ∀ d, r = .ok d → d ≠ .conflictingDuplicate → t.Accepted key)
      (reconcileDisposition key payloadSha256 receivedAtMs) s := by
  apply Safe.read Grows.interference.still
  rintro t rfl hSound
  cases hRow : s.deliveries.lookup key with
  | none =>
    apply Safe.statement
    rintro u r u' rfl hSound' h
    rcases acceptDelivery_cases h with ⟨row, hFound, -, -⟩ | ⟨hNone, rfl, rfl⟩ | ⟨-, rfl, e, rfl⟩
    · rw [hRow] at hFound
      cases hFound
    · have hGrows : Grows s (s.setDelivery key ⟨payloadSha256, receivedAtMs, .accepted, none⟩) :=
        .setDelivery (.inl rfl)
      refine ⟨hSound.setDelivery hGrows fun _ => hKept, hGrows, ?_⟩
      rintro v rfl _ d _ _
      exact Stores.accepted_setDelivery rfl
    · refine ⟨hSound', .refl _, ?_⟩
      intro v _ _ d hOk
      cases hOk
  | some row =>
    dsimp only
    split
    next hSame =>
      rintro v rfl _ d _ _
      exact ⟨row, hRow, hSame.2⟩
    · intro v _ _ d hOk hNot
      cases hOk
      exact absurd rfl hNot

theorem reconcileOne_alone (pending : PendingDelivery) (hKept : s.Kept pending.key) :
    Safe (Sound sha policy) Eq Grows (fun _ _ => True) (reconcileOne sha pending) s := by
  apply Safe.bind Grows.interference.still (reconcileDisposition_alone _ _ hKept)
  · intro disposition t _ hPost
    split
    · exact discard_keeps.calmer fun h => h ▸ Grows.refl _
    next hAcc =>
      apply Safe.upon Grows.interference.still
      rintro u rfl hSound
      apply Safe.calmer (activate_keeps (hPost t rfl hSound disposition rfl hAcc))
      intro a b h
      exact h ▸ Grows.refl _
  · intro _ _ _ _
    trivial

theorem reconcileReservedDeliveries_alone :
    Safe (Sound sha policy) Eq Grows (fun _ _ => True) (reconcileReservedDeliveries sha) s := by
  apply Safe.read Grows.interference.still
  intro t _ _
  apply Safe.forEach Grows.interference.still
  · intro pending hPending u hU
    obtain ⟨row, hRow, -⟩ := mem_withStatus.mp (mem_of_mem_take hPending)
    exact reconcileOne_alone pending (hU.kept _ (Stores.kept_of_lookup hRow))
  · intro _ _ _
    trivial

theorem processPendingDeliveries_keeps (out : Surroundings) :
    Upholds sha policy (processPendingDeliveries sha out) s := by
  apply Keeps.read Grows.interference
  intro t _ hSound
  apply processEach_keeps
  intro p hp
  obtain ⟨row, hRow, hStatus, -, -⟩ := mem_withStatus.mp (mem_of_mem_take hp)
  exact (hSound.payloads _ _ hRow).accepted (.inl hStatus)

/-! ## Runs -/

/-- What runs against the two databases.  Recovery runs when the daemon starts,
before the listener and the loop do; `engine` stands for every other writer of
`daemon_jobs`. -/
inductive Worker (sha : Bytes → Bytes) (policy : Policy) : Flow Unit → Prop
  | ingest (services : Services) (delivery : SignedDelivery) (now : Nat)
      (vouched : policy.Vouches sha services delivery now) :
      Worker sha policy (do let _ ← ingestSignedDelivery sha services delivery now)
  | poll (poller : Poller) (now : Nat) :
      Worker sha policy (pollPersistentTriggers sha poller now)
  | reconcile (statements : Nat) :
      Worker sha policy (Prog.uninterrupted statements (reconcileReservedDeliveries sha))
  | process (out : Surroundings) :
      Worker sha policy (do let _ ← processPendingDeliveries sha out)
  | upsert (tid : String) (config : TriggerConfig) (nextFireAtMs : Option Nat)
      (kind : policy.Kind tid config.kind) : Worker sha policy (upsertTrigger tid config nextFireAtMs)
  | disable (tid : String) : Worker sha policy (disableTrigger tid)
  | engine (f : Table String JobRow → Table String JobRow) :
      Worker sha policy (Prog.write fun s => { s with jobs := f s.jobs })
  | prune (jobId : String) : Worker sha policy (deleteTerminalJob jobId)

def Permitted (sha : Bytes → Bytes) (policy : Policy) (_ : Pool String Stores Unit) :
    Move String Stores Unit → Prop
  | .spawn p => Worker sha policy p
  | _ => True

theorem Worker.keeps {p} (h : Worker sha policy p) : Upholds sha policy p s := by
  cases h with
  | ingest services dl now vouched =>
    exact .bind Grows.interference (ingestSignedDelivery_keeps _ _ _ vouched) fun _ _ _ =>
      Keeps.done _
  | poll poller now => exact pollPersistentTriggers_keeps poller now
  | reconcile statements =>
    apply Keeps.statement
    intro t r t' _ hSound hRun
    obtain ⟨-, rfl⟩ := Prod.mk.inj hRun
    exact Safe.cut Grows.interference.still reconcileReservedDeliveries_alone hSound statements
  | process out =>
    exact .bind Grows.interference (processPendingDeliveries_keeps _) fun _ _ _ => .done _
  | upsert tid config nextFireAtMs kind => exact upsertTrigger_keeps _ _ _ kind
  | disable tid => exact disableTrigger_keeps _
  | engine f =>
    apply Keeps.statement
    intro t r t' _ hSound hRun
    obtain ⟨-, rfl⟩ := Prod.mk.inj hRun
    exact hSound.setJobs _
  | prune jobId => exact deleteTerminalJob_keeps jobId

theorem sound_empty : Sound sha policy Stores.empty where
  triggers := every_empty
  payloads := every_empty
  nonces := by
    intro key row key' row' hRow
    cases hRow
  accepted := by
    rintro key ⟨row, hRow, -⟩
    cases hRow
  enqueued := by
    intro entry hEntry
    cases hEntry

theorem Arises.sound {pool}
    (h : Arises (Permitted sha policy) Stores.empty pool) : Sound sha policy pool.state :=
  (Arises.safe Grows.interference (Q := fun _ _ => True) sound_empty
    (fun _ _ _ hWorker => hWorker.keeps) h).1

end

end LittleMonkey.Daemon.Trigger
