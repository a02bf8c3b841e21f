import LittleMonkey.Daemon.ExactlyOnce

/-! # What a pass leaves behind

A recovery followed by a pass of the loop, left alone: which deliveries are
still reserved or pending when it is over.
-/

namespace LittleMonkey.Daemon.Trigger

open Guards Primitives Interleaving List AList Option

def Stores.payloadStatus (s : Stores) (key : Key) : Option PayloadStatus :=
  (s.payloads.lookup key).map (·.status)

theorem Stores.payloadStatus_setPayload (s : Stores) (key : Key) (row : PayloadRow) (k : Key) :
    (s.setPayload key row).payloadStatus k = if k = key then some row.status else s.payloadStatus k := by
  unfold Stores.payloadStatus Stores.setPayload
  split
  next hKey =>
    rw [hKey, lookup_insert]
    rfl
  next hKey =>
    rw [lookup_insert_ne hKey]

/-! ## Recovery -/

/-- Only the payload row of `key` may have changed its status. -/
def OnlyAt (key : Key) (s s' : Stores) : Prop := ∀ k, k ≠ key → s'.payloadStatus k = s.payloadStatus k

theorem OnlyAt.interference (key : Key) : Interference Eq (OnlyAt key) where
  refl _ := rfl
  trans hab hbc := hab.trans hbc
  within hab := hab ▸ fun _ _ => rfl
  chain hab hbc k hk := (hbc k hk).trans (hab k hk)

variable {s : Stores}

section

variable {sha : Bytes → Bytes} {key : Key}

theorem OnlyAt.refl (s : Stores) : OnlyAt key s s := fun _ _ => rfl

theorem OnlyAt.setPayload (s : Stores) (row : PayloadRow) : OnlyAt key s (s.setPayload key row) := by
  intro k hk
  rw [Stores.payloadStatus_setPayload, if_neg hk]

theorem reconcileDisposition_onlyAt (payloadSha256 : String) (receivedAtMs : Nat) :
    Keeps (fun _ => True) Eq (OnlyAt key) (reconcileDisposition key payloadSha256 receivedAtMs) s := by
  apply Keeps.read (OnlyAt.interference key)
  intro t _ _
  split
  · apply Keeps.statement
    intro u r u' _ _ h
    rcases acceptDelivery_cases h with ⟨_, -, rfl, -⟩ | ⟨-, -, rfl⟩ | ⟨-, rfl, -⟩
    · exact ⟨trivial, .refl _⟩
    · exact ⟨trivial, .refl _⟩
    · exact ⟨trivial, .refl _⟩
  · split
    · exact .done _
    · exact .done _

theorem reconcileOne_settles (pending : PendingDelivery) : Safe (fun _ => True) Eq (OnlyAt pending.key)
      (fun r t => r = .ok () → t.payloadStatus pending.key ≠ some .reserved)
      (reconcileOne sha pending) s := by
  apply Safe.bind (OnlyAt.interference _) (reconcileDisposition_onlyAt _ _)
  · intro disposition t _ _
    split
    · apply Safe.statement
      intro u r u' _ _ h
      obtain ⟨row, -, -, rfl⟩ | ⟨rfl, hOther⟩ := discard_cases h
      · refine ⟨trivial, .setPayload u _, ?_⟩
        rintro v rfl _ _
        rw [Stores.payloadStatus_setPayload]
        simp
      · refine ⟨trivial, .refl _, ?_⟩
        rintro v rfl _ _ hReserved
        obtain ⟨row, hRow, hStatus⟩ := map_eq_some_iff.mp hReserved
        exact (hOther row hRow).1 hStatus
    · apply Safe.statement
      intro u r u' _ _ h
      rcases activate_cases h with ⟨row, -, -, -, rfl⟩ | ⟨rfl, e, rfl⟩
      · refine ⟨trivial, .setPayload u _, ?_⟩
        rintro v rfl _ _
        rw [Stores.payloadStatus_setPayload]
        simp
      · refine ⟨trivial, .refl _, ?_⟩
        intro v _ _ hOk
        cases hOk
  · intro e t _ _ hOk
    cases hOk

theorem reconcileEach_settles (reserved : List PendingDelivery) {s s'}
    (h : (Prog.forEach (reconcileOne sha) reserved).run s = (.ok (), s')) :
    (∀ k, (∀ p ∈ reserved, p.key ≠ k) → s'.payloadStatus k = s.payloadStatus k) ∧
      ∀ p ∈ reserved, s'.payloadStatus p.key ≠ some .reserved := by
  induction reserved generalizing s with
  | nil =>
    cases h
    exact ⟨fun _ _ => rfl, nofun⟩
  | cons p rest ih =>
    have hSettles : Safe (fun _ => True) Eq (OnlyAt p.key)
        (fun r t => r = .ok () → t.payloadStatus p.key ≠ some .reserved) (reconcileOne sha p) s :=
      reconcileOne_settles p
    have hRound := hSettles.run (OnlyAt.interference p.key) trivial
    cases hFirst : (reconcileOne sha p).run s with
    | mk r t =>
      rw [hFirst] at hRound
      obtain ⟨-, hOnly, hSettled⟩ := hRound
      change (reconcileOne sha p >>= fun _ => .forEach (reconcileOne sha) rest).run s = _ at h
      cases r with
      | error e =>
        rw [Prog.run_bind_error hFirst] at h
        cases h
      | ok u =>
        rw [Prog.run_bind_ok hFirst] at h
        obtain ⟨hSame, hRest⟩ := ih h
        constructor
        · intro k hk
          rw [hSame k fun q hq => hk q (mem_cons_of_mem p hq)]
          exact hOnly k (hk p mem_cons_self).symm
        · intro q hq
          by_cases hLater : ∃ q' ∈ rest, q'.key = q.key
          · obtain ⟨q', hq', hKey⟩ := hLater
            rw [← hKey]
            exact hRest q' hq'
          · rcases mem_cons.mp hq with rfl | hq
            · rw [hSame q.key fun q' hq' hKey => hLater ⟨q', hq', hKey⟩]
              exact hSettled rfl
            · exact absurd ⟨q, hq, rfl⟩ hLater

end

/-! ## Dispatch -/

def Submits (key : Key) (s s' : Stores) : Prop :=
  ∀ k, s'.payloadStatus k = s.payloadStatus k ∨
    k = key ∧ s.payloadStatus k = some .accepted ∧ s'.payloadStatus k = some .submitted

theorem Submits.refl {key} (s : Stores) : Submits key s s := fun _ => .inl rfl

theorem Submits.trans {key a b c} (hab : Submits key a b) (hbc : Submits key b c) : Submits key a c := by
  intro k
  rcases hbc k with hSame | ⟨rfl, hFrom, hTo⟩
  · rcases hab k with hBefore | ⟨rfl, hFrom, hTo⟩
    · exact .inl (hSame.trans hBefore)
    · exact .inr ⟨rfl, hFrom, hSame.trans hTo⟩
  · rcases hab k with hBefore | ⟨-, -, hSubmitted⟩
    · exact .inr ⟨rfl, hBefore.symm.trans hFrom, hTo⟩
    · rw [hSubmitted] at hFrom
      cases hFrom

theorem Submits.interference (key : Key) : Interference Eq (Submits key) where
  refl _ := rfl
  trans hab hbc := hab.trans hbc
  within hab := hab ▸ Submits.refl _
  chain := .trans

section

variable {sha : Bytes → Bytes} {key : Key}
variable {α : Type}

abbrev Dispatches {α : Type} (key : Key) (p : Flow α) (s : Stores) : Prop :=
  Keeps (fun _ => True) Eq (Submits key) p s

abbrev Delivers (key : Key) (p : Flow Unit) (s : Stores) : Prop :=
  Safe (fun _ => True) Eq (Submits key)
    (fun r t => r = .ok () → t.payloadStatus key ≠ some .accepted) p s

theorem Dispatches.statement {f : Stores → Except String α × Stores}
    (h : ∀ t r t', f t = (r, t') → Submits key t t') : Dispatches key (Prog.statement f) s := by
  apply Keeps.statement
  intro t r t' _ _ hRun
  exact ⟨trivial, h t r t' hRun⟩

theorem Delivers.of_error {e} : Delivers key (Prog.fail e) s := by
  intro t _ _ hOk
  cases hOk

theorem Delivers.bind {p} {f : α → Flow Unit} (hp : Dispatches key p s)
    (hf : ∀ a t, Delivers key (f a) t) : Delivers key (p >>= f) s := by
  apply Safe.bind (Submits.interference key) hp
  · intro a t _ _
    exact hf a t
  · intro e t _ _ hOk
    cases hOk

theorem Delivers.ofExcept {r} {f : α → Flow Unit}
    (h : ∀ a, r = .ok a → Delivers key (f a) s) : Delivers key (Prog.ofExcept r >>= f) s := by
  cases r with
  | error e => exact .of_error
  | ok a => exact h a rfl

theorem Submits.submitted {row jobId} (hRow : s.payloads.lookup key = some row) (hAccepted : row.status = .accepted) :
    Submits key s (s.setPayload key { row with status := .submitted, jobId := jobId }) := by
  intro k
  rw [Stores.payloadStatus_setPayload]
  split
  next hKey =>
    refine .inr ⟨hKey, ?_, rfl⟩
    rw [hKey, Stores.payloadStatus, hRow, map_some, hAccepted]
  · exact .inl rfl

theorem Submits.eraseJob (s : Stores) (jobId : String) : Submits key s (s.eraseJob jobId) := by
  intro k
  left
  rw [Stores.payloadStatus, Stores.eraseJob, lookup_mapRows, Option.map_map]
  congr 1
  funext row
  simp only [Function.comp_apply]
  split <;> rfl

end

/-! ## Passes -/

section

variable {sha : Bytes → Bytes}
variable {paused : PausedLines} {s' : Stores}

end

/-! ## Pushes to one repository

A GitHub trigger that starts a workflow, and deliveries of one push under many ids. -/

def pushedText : String :=
  "\x7b\"ref\":\"refs/heads/main\",\"repository\":\x7b\"full_name\":\"o/r\"\x7d\x7d"

def pushed : Bytes := textBytes pushedText

def pushKey : Bytes := padded (textBytes "k")

def pushInner : Bytes :=
  [48, 169, 241, 207, 144, 182, 107, 59, 128, 133, 126, 28, 187, 129, 212, 24, 44, 210, 229, 68, 44,
    119, 25, 120, 213, 51, 170, 89, 42, 100, 246, 8]

def pushDigest (bytes : Bytes) : Bytes :=
  if bytes = pushed then
    [32, 213, 42, 10, 215, 205, 57, 234, 141, 90, 232, 79, 53, 130, 87, 6, 21, 204, 147, 223, 116,
      77, 57, 99, 109, 165, 127, 90, 37, 208, 6, 244]
  else if bytes = pushKey.map (0x36 ^^^ ·) ++ pushed then pushInner
  else if bytes = pushKey.map (0x5c ^^^ ·) ++ pushInner then
    [111, 64, 211, 197, 112, 173, 33, 217, 99, 224, 234, 54, 44, 139, 78, 222, 52, 162, 131, 226,
      69, 214, 109, 54, 181, 126, 126, 26, 218, 26, 105, 23]
  else if bytes = textBytes "ci:0" then
    [139, 86, 112, 44, 11, 54, 172, 166, 159, 27, 231, 45, 39, 205, 18, 207, 40, 127, 37,
      254, 220, 0, 67, 236, 232, 35, 0, 125, 57, 6, 89, 31]
  else if bytes = textBytes "ci:1" then
    [180, 86, 229, 249, 176, 104, 231, 71, 90, 119, 135, 252, 227, 219, 94, 224, 48, 7,
      222, 149, 150, 53, 154, 122, 120, 84, 209, 255, 69, 97, 227, 244]
  else []

def plainFormats : Formats where
  cron _ := none
  glob _ := none
  semanticVersion _ := none
  isAbsolute path := "/".toList.isPrefixOf path.toList

def pushServices : Services where
  formats := plainFormats
  fromSlice bytes :=
    if bytes = pushed then .ok (.object [("ref", .string "refs/heads/main"),
      ("repository", .object [("full_name", .string "o/r")])])
    else .error "expected value at line 1 column 1"
  secret _ := .ok "k"

def pushConfig : TriggerConfig where
  target := .workflow "w" "20d52a0ad7cd39ea8d5ae84f3582570615cc93df744d39636da57f5a25d006f4"
  workflow := some ⟨1, false, .eventIngestion "t" "c"⟩
  kind := .github ⟨"o/r", "/r", "origin", ["main"], ["push"], false, false, false⟩ 300000

def pushTrigger : StoredTrigger where
  configJson := .ok pushConfig
  enabled := true
  nextFireAtMs := none
  lastDeliveryAtMs := none

def pushDelivery (i : Nat) : SignedDelivery where
  triggerId := "ci"
  deliveryId := toString i
  timestampMs := 1000
  nonce := toString i
  signature := "sha256=6f40d3c570ad21d963e0ea362c8b4ede34a283e245d66d36b57e7e1ada1a6917"
  eventName := some "push"
  payload := pushed

def ingestPush (i : Nat) : Flow IngestOutcome :=
  ingestSignedDelivery pushDigest pushServices (pushDelivery i) 1000

def pushRow (status : PayloadStatus) (i : Nat) : PayloadRow := ⟨some (toString i), pushedText, status, 1000, none⟩

def pushAccepted : DeliveryRow := ⟨sha256Hex pushDigest pushed, 1000, .accepted, none⟩

/-- The first `n` pushes have their rows, and nothing else has one. -/
structure Filled {ρ : Type} (row : Nat → ρ) (n : Nat) (table : Table Key ρ) : Prop where
  lookup : ∀ i < n, table.lookup ("ci", toString i) = some (row i)
  only : ∀ key found, table.lookup key = some found → ∃ i < n, key = ("ci", toString i) ∧ found = row i

/-- The pushes have arrived, each with its payload in `status`. -/
structure Pushed (status : PayloadStatus) (n : Nat) (s : Stores) : Prop where
  trigger : s.triggers.lookup "ci" = some pushTrigger
  payloads : Filled (pushRow status) n s.payloads
  deliveries : Filled (fun _ => pushAccepted) n s.deliveries

theorem isBounded_push : ∀ i < 257, isBounded 256 isIdentifierChar (toString i) = true := by
  decide +kernel

theorem validateDeliveryFields_push {i} (h : i < 257) : validateDeliveryFields (pushDelivery i) = .ok () := by
  have hTrigger : isBounded 128 isIdentifierChar "ci" = true := by decide
  have hLength : decide (maxWebhookBytes < pushed.length) = false := by decide
  have hId := isBounded_push i h
  rw [Nat.toString_eq_repr] at hId
  simp [validateDeliveryFields, pushDelivery, hTrigger, hId, hLength]

theorem authenticate_push (i : Nat) :
    authenticate pushDigest pushServices (pushDelivery i) 1000 (some pushTrigger) = .ok true := by
  have hFirst : authenticate pushDigest pushServices (pushDelivery 0) 1000 (some pushTrigger) =
      .ok true := by decide +kernel
  exact hFirst

theorem payloadText_pushed : payloadText pushServices pushed = .ok pushedText := by decide

theorem ingestPush_eq {i} (h : i < 257) : ∃ rest, ingestPush i = Prog.read (·.triggers.lookup "ci") >>= rest ∧
      rest (some pushTrigger) = admitPayload pushDigest (pushDelivery i) 1000 pushedText := by
  unfold ingestPush ingestSignedDelivery
  rw [validateDeliveryFields_push h]
  refine ⟨_, rfl, ?_⟩
  rw [authenticate_push]
  have hText : payloadText pushServices (pushDelivery i).payload = .ok pushedText := payloadText_pushed
  simp only [Prog.ofExcept_ok_bind, if_true, hText]

section

variable {status : PayloadStatus} {n : Nat}

theorem Filled.empty {ρ : Type} {row : Nat → ρ} : Filled row 0 ∅ where
  lookup := by
    intro i hi
    omega
  only := by
    intro key found hRow
    cases hRow

theorem push_key_ne {i j : Nat} (h : i ≠ j) : (("ci", toString i) : Key) ≠ ("ci", toString j) := by
  intro hKey
  have hDigits : Nat.toDigits 10 i = Nat.toDigits 10 j := by
    have hText := congrArg String.toList (Prod.mk.inj hKey).2
    rwa [Nat.toString_eq_repr, Nat.toString_eq_repr, Nat.repr, Nat.repr, String.toList_ofList,
      String.toList_ofList] at hText
  apply h
  rw [← Nat.ofDigitChars_toDigits (b := 10) (n := i) (by decide) (by decide), hDigits,
    Nat.ofDigitChars_toDigits (by decide) (by decide)]

section

variable {ρ : Type} {row : Nat → ρ} {table : Table Key ρ} (h : Filled row n table)

include h

theorem Filled.lookup_next : table.lookup ("ci", toString n) = none := by
  cases hRow : table.lookup ("ci", toString n) with
  | none => rfl
  | some found =>
    obtain ⟨i, hi, hKey, -⟩ := h.only _ found hRow
    exact absurd hKey.symm (push_key_ne (Nat.ne_of_lt hi))

theorem Filled.insert : Filled row (n + 1) (table.insert ("ci", toString n) (row n)) where
  lookup := by
    intro i hi
    rcases Nat.lt_succ_iff_lt_or_eq.mp hi with hLt | rfl
    · rw [lookup_insert_ne (push_key_ne (Nat.ne_of_lt hLt))]
      exact h.lookup i hLt
    · exact lookup_insert _
  only := by
    intro key found hRow
    obtain ⟨rfl, rfl⟩ | ⟨-, hRow⟩ := of_lookup_insert hRow
    · exact ⟨n, Nat.lt_succ_self n, rfl, rfl⟩
    · obtain ⟨i, hi, hRest⟩ := h.only key found hRow
      exact ⟨i, Nat.lt_succ_of_lt hi, hRest⟩

end

theorem Pushed.seen (h : Pushed status n s) : s.seen ("ci", toString n) (some (toString n)) = false := by
  apply Stores.seen_eq_false
  intro key row hRow _
  obtain ⟨i, hi, rfl, rfl⟩ := h.payloads.only key row hRow
  have hNe : toString i ≠ toString n := fun hEq => push_key_ne (Nat.ne_of_lt hi) (by rw [hEq])
  exact ⟨hNe, fun _ hSame => hNe (Option.some.inj hSame)⟩

theorem storable_push : Storable 1000 := ⟨by decide, by decide⟩

theorem length_pushDigest : (sha256Hex pushDigest pushed).length = 64 := by decide

theorem Pushed.known (h : Pushed status n s) : (s.triggers.lookup "ci").isSome = true := by
  rw [h.trigger]
  rfl

theorem Pushed.crash (h : Pushed .reserved n s) (hn : n < 257) :
    Pushed .reserved (n + 1) ((do let _ ← ingestPush n : Flow Unit).cut 3 s) := by
  obtain ⟨rest, hIngest, hRest⟩ := ingestPush_eq hn
  have hReserve : (reserveDeliveryPayload ("ci", toString n) (some (toString n)) pushedText 1000).run s =
      (.ok true, s.setPayload ("ci", toString n) (pushRow .reserved n)) := reserve_fresh h.seen storable_push
  have hAccept := acceptDelivery_fresh (s := s.setPayload ("ci", toString n) (pushRow .reserved n))
    h.deliveries.lookup_next h.known storable_push length_pushDigest
  rw [hIngest, Prog.bind_assoc, Prog.cut_read_bind, h.trigger, hRest]
  change Pushed _ _ ((((reserveDeliveryPayload ("ci", toString n) (some (toString n)) pushedText 1000)
    >>= _) >>= _ : Flow Unit).cut 2 s)
  rw [Prog.bind_assoc, Prog.cut_statement_bind hReserve ⟨_, rfl⟩, if_pos rfl, Prog.bind_assoc]
  change Pushed _ _ ((((acceptDelivery ("ci", toString n) (sha256Hex pushDigest pushed) 1000)
    >>= _) >>= _ : Flow Unit).cut 1 _)
  rw [Prog.bind_assoc, Prog.cut_statement_bind hAccept ⟨_, rfl⟩]
  exact ⟨h.trigger, h.payloads.insert, h.deliveries.insert⟩

theorem reconcileOne_push (h : s.deliveries.lookup ("ci", toString n) = some pushAccepted)
    {row} (hRow : s.payloads.lookup ("ci", toString n) = some row)
    (hReserved : row.status = .reserved) {p} (hKey : p.key = ("ci", toString n))
    (hText : p.payloadJson = pushedText) : (reconcileOne pushDigest p).run s =
      (.ok (), s.setPayload ("ci", toString n) { row with status := .accepted }) := by
  have hHash : sha256Hex pushDigest (textBytes p.payloadJson) = sha256Hex pushDigest pushed := by
    rw [hText]
    rfl
  have hDisposition : (reconcileDisposition p.key (sha256Hex pushDigest (textBytes p.payloadJson))
      p.receivedAtMs).run s = (.ok .duplicate, s) := by
    rw [reconcileDisposition, Prog.run_bind_ok (Prog.run_read _ s), hKey, h, hHash]
    rfl
  rw [reconcileOne, Prog.run_bind_ok hDisposition, hKey]
  exact activate_reserved hRow hReserved

def Ready (s : Stores) (reserved : List PendingDelivery) : Prop :=
  (reserved.map (·.key)).Nodup ∧ ∀ p ∈ reserved, ∃ (i : Nat) (row : PayloadRow),
    p.key = ("ci", toString i) ∧ p.payloadJson = pushedText ∧ s.payloads.lookup p.key = some row ∧ row.status = .reserved ∧
    s.deliveries.lookup p.key = some pushAccepted

theorem Ready.reconcile {reserved} (h : Ready s reserved) :
    ∃ t, (Prog.forEach (reconcileOne pushDigest) reserved).run s = (.ok (), t) ∧
      ∀ p ∈ reserved, t.payloadStatus p.key = some .accepted := by
  induction reserved generalizing s with
  | nil => exact ⟨s, rfl, nofun⟩
  | cons p rest ih =>
    obtain ⟨hNodup, hReady⟩ := h
    obtain ⟨i, row, hKey, hText, hRow, hReserved, hDelivery⟩ := hReady p mem_cons_self
    rw [hKey] at hRow hDelivery
    rw [Prog.forEach, Prog.run_bind_ok (reconcileOne_push hDelivery hRow hReserved hKey hText)]
    rw [map_cons, nodup_cons] at hNodup
    have hOther : ∀ q ∈ rest, q.key ≠ p.key :=
      fun q hq hSame => hNodup.1 (mem_map.mpr ⟨q, hq, hSame⟩)
    obtain ⟨t, hRest, hAccepted⟩ := ih (s := s.setPayload ("ci", toString i) { row with status := .accepted })
      ⟨hNodup.2, fun q hq => by
        obtain ⟨j, row', hKey', hText', hRow', hReserved', hDelivery'⟩ := hReady q (mem_cons_of_mem p hq)
        exact ⟨j, row', hKey', hText', (lookup_insert_ne (hKey ▸ hOther q hq)).trans hRow', hReserved',
          hDelivery'⟩⟩
    refine ⟨t, hRest, ?_⟩
    intro q hq
    rcases mem_cons.mp hq with rfl | hq
    · rw [(reconcileEach_settles rest hRest).1 _ hOther, hKey]
      exact congrArg _ (lookup_insert _)
    · exact hAccepted q hq

theorem withStatus_nodup (s : Stores) (status : PayloadStatus) :
    ((s.withStatus status).map (·.key)).Nodup := by
  apply (((OrderBy.orderBy_perm _ _).map _).nodup_iff).mpr
  rw [List.Nodup, pairwise_map, pairwise_filterMap]
  apply (nodupKeys_iff_pairwise.mp s.payloads.nodupKeys).imp
  intro a b hNe p hp q hq
  split at hp
  · split at hq
    · cases hp
      cases hq
      exact hNe
    · cases hq
  · cases hp

theorem Pushed.mem_reserved (h : Pushed .reserved n s) {p} (hp : p ∈ s.withStatus .reserved) :
    ∃ i < n, p = ⟨("ci", toString i), some (toString i), pushedText, 1000⟩ := by
  obtain ⟨row, hRow, -, -, hp⟩ := mem_withStatus.mp hp
  obtain ⟨i, hi, hKey, rfl⟩ := h.payloads.only _ row hRow
  exact ⟨i, hi, by rw [hp, hKey]; rfl⟩

theorem Pushed.ready (h : Pushed .reserved n s) (limit : Nat) :
    Ready s ((s.withStatus .reserved).take limit) := by
  constructor
  · exact (withStatus_nodup s .reserved).sublist ((take_sublist _ _).map _)
  · intro p hp
    obtain ⟨i, hi, rfl⟩ := h.mem_reserved (mem_of_mem_take hp)
    exact ⟨i, _, rfl, rfl, h.payloads.lookup i hi, rfl, h.deliveries.lookup i hi⟩

end

end LittleMonkey.Daemon.Trigger
