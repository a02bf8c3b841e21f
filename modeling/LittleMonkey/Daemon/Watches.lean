import LittleMonkey.Daemon.DeliveryPasses

/-! # Changes a file-system trigger does not see

A poll compares the fingerprint of the watched tree with the one of the poll before.  The
delivery it makes is named after the new fingerprint alone, and a name that was ever
delivered is a duplicate.
-/

namespace LittleMonkey.Daemon.Trigger

open Interleaving Primitives RunLease

/-- The delivery `poll_one_persistent_trigger` makes for a fingerprint. -/
def watchKey (triggerId fingerprint : String) : Key :=
  let start := String.ofList (fingerprint.toList.take 32)
  (triggerId, s!"fs-{start}")

/-- A delivery of this trigger is accepted that was not accepted before. -/
def Fires (triggerId : String) (s s' : Stores) : Prop :=
  ∃ deliveryId, ¬ s.Accepted (triggerId, deliveryId) ∧ s'.Accepted (triggerId, deliveryId)

section

variable {digest : Bytes → Bytes} {s : Stores} {key : Key} {now : Nat}

theorem deliveries_bind {α β : Type} {p : Flow α} {f : α → Flow β}
    (h : ∀ a t, ((f a).run t).2.deliveries = t.deliveries) (s : Stores) :
    ((p >>= f).run s).2.deliveries = (p.run s).2.deliveries := by
  rw [Prog.run_bind]
  split
  · exact h _ _
  · rfl

theorem settlePayload_deliveries (disposition : DeliveryDisposition) (s : Stores) :
    ((settlePayload key disposition).run s).2.deliveries = s.deliveries := by
  unfold settlePayload
  split
  · rcases activate_cases (Prod.mk.eta).symm with
      ⟨row, -, -, -, hState⟩ | ⟨hState, -⟩
    all_goals rw [hState]
    rfl
  · rcases discard_cases (Prod.mk.eta).symm with
      ⟨row, -, -, hState⟩ | ⟨hState, -⟩
    all_goals rw [hState]
    rfl

theorem handOver_deliveries {payloadSha256} (hKnown : s.Known key.1) (hNow : Storable now)
    (hLength : payloadSha256.length = 64) : ((handOver key payloadSha256 now).run s).2.deliveries =
      if s.deliveries.lookup key = none then s.deliveries.insert key ⟨payloadSha256, now, .accepted, none⟩
      else s.deliveries := by
  rw [handOver, deliveries_bind fun disposition t =>
    (deliveries_bind (fun _ _ => rfl) t).trans (settlePayload_deliveries disposition t)]
  split
  next hNone =>
    rw [acceptDelivery_fresh hNone hKnown hNow hLength]
    rfl
  next hSome =>
    rcases acceptDelivery_cases (Prod.mk.eta).symm with
      ⟨row, -, hState, -⟩ | ⟨hNone, -⟩ | ⟨hNone, -⟩
    · rw [hState]
    · exact absurd hNone hSome
    · exact absurd hNone hSome

theorem acceptGenerated_deliveries {payload} (hKnown : s.Known key.1) (hNow : Storable now)
    (hLength : (sha256Hex digest (textBytes payload)).length = 64) :
    ((acceptGenerated digest key payload now).run s).2.deliveries =
      if s.seen key none = false ∧ s.deliveries.lookup key = none then
        s.deliveries.insert key ⟨sha256Hex digest (textBytes payload), now, .accepted, none⟩
      else s.deliveries := by
  cases hSeen : s.seen key none with
  | true =>
    rcases reserve_cases (Prod.mk.eta (p := (reserveDeliveryPayload key none payload now).run s)).symm with
      ⟨hState, hAnswer, -⟩ | ⟨hState, e, hAnswer⟩ | ⟨-, hNew, -⟩
    · simp [acceptGenerated, Prog.run_bind, hAnswer, hState]
    · simp [acceptGenerated, Prog.run_bind, hAnswer, hState]
    · rw [hSeen] at hNew
      cases hNew
  | false =>
    rw [acceptGenerated, Prog.run_bind_ok (reserve_fresh hSeen hNow), if_pos rfl, deliveries_bind fun _ _ => rfl]
    have hHandOver := handOver_deliveries (s := s.setPayload key ⟨none, payload, .reserved, now, none⟩)
      hKnown hNow hLength
    exact hHandOver.trans (if_congr (and_iff_right rfl).symm rfl rfl)

end

section

variable {digest : Bytes → Bytes} {s : Stores} {triggerId : String} {stored : StoredTrigger} {config : TriggerConfig}
  {path : String} {recursive : Bool} {pattern : Option String} {previous fingerprint : String} {poller : Poller}
  {now : Nat} (hStored : s.triggers.lookup triggerId = some stored) (hConfig : stored.configJson = .ok config)
  (hKind : config.kind = .filesystem path recursive pattern (some previous))
  (hValid : config.validate poller.formats = .ok ())
  (hFingerprint : poller.fingerprint path recursive pattern = .ok fingerprint) (hChanged : previous ≠ fingerprint)
  (hNow : Storable now)
  (hDigest : (sha256Hex digest (textBytes (poller.filesystemPayload triggerId path fingerprint now))).length = 64)

include hStored hConfig hKind hValid hFingerprint hChanged hNow hDigest

theorem poll_deliveries : ((pollOnePersistentTrigger digest poller triggerId stored now).run s).2.deliveries =
    if s.seen (watchKey triggerId fingerprint) none = false ∧
        s.deliveries.lookup (watchKey triggerId fingerprint) = none then
      s.deliveries.insert (watchKey triggerId fingerprint)
        ⟨sha256Hex digest (textBytes (poller.filesystemPayload triggerId path fingerprint now)), now, .accepted, none⟩
    else s.deliveries := by
  have hKnown : s.Known triggerId := by
    rw [Stores.Known, hStored]
    rfl
  have hAny : ((some previous).any (· != fingerprint)) = true := by simpa using hChanged
  rw [← acceptGenerated_deliveries hKnown hNow hDigest, pollOnePersistentTrigger, hConfig]
  change ((.ofExcept (.ok config) >>= _ : Flow Unit).run s).2.deliveries = _
  rw [Prog.ofExcept_ok_bind, hValid, Prog.ofExcept_ok_bind, hKind]
  dsimp only
  rw [pollFilesystem, hFingerprint, Prog.ofExcept_ok_bind, if_pos hAny]
  exact deliveries_bind (fun _ _ => rfl) s

/-- A poll that sees a change accepts a delivery exactly when the name of the fingerprint
was never delivered. -/
theorem poll_fires_iff : Fires triggerId s
      ((pollOnePersistentTrigger digest poller triggerId stored now).run s).2 ↔
    s.seen (watchKey triggerId fingerprint) none = false ∧
      s.deliveries.lookup (watchKey triggerId fingerprint) = none := by
  have hRun := poll_deliveries hStored hConfig hKind hValid hFingerprint hChanged hNow hDigest
  constructor
  · rintro ⟨deliveryId, hBefore, row, hRow, hAccepted⟩
    by_contra hOld
    rw [hRun, if_neg hOld] at hRow
    exact hBefore ⟨row, hRow, hAccepted⟩
  · intro hNew
    refine ⟨(watchKey triggerId fingerprint).2, ?_, ?_⟩
    · rintro ⟨row, hRow, -⟩
      cases hNew.2.symm.trans hRow
    · rw [Stores.Accepted, hRun, if_pos hNew]
      exact ⟨_, AList.lookup_insert _, rfl⟩

end

namespace Notes

/-! A directory of notes watched for `*.txt`: its one text is moved away, back and away again. -/

def withText : String := "43546bfdcb87e190540d6cf7edf6d314a20a0708891b9230fdc3c9bd7aca49be"

def without : String := "e3b0c44298fc1c149afbf4c8996fb92427ae41e4649b934ca495991b7852b855"

def payload (fingerprint : String) (now : Nat) : String :=
  "\x7b\"fingerprint\":\"" ++ fingerprint ++ "\",\"kind\":\"filesystem\",\"observed_at_ms\":" ++ toString now ++
    ",\"path\":\"/n\",\"trigger_id\":\"w\"\x7d"

def digest (bytes : Bytes) : Bytes :=
  if bytes = textBytes (payload without 2000) then
    [249, 243, 42, 103, 160, 45, 159, 40, 109, 13, 75, 174, 47, 103, 101, 131, 151, 109, 22, 47, 221, 87, 101, 77, 58, 170, 41, 34, 7, 121, 99, 160]
  else if bytes = textBytes (payload withText 3000) then
    [81, 63, 198, 201, 133, 93, 54, 153, 212, 43, 129, 114, 14, 214, 182, 76, 38, 11, 215, 64, 250, 203, 103, 173, 186, 190, 230, 32, 86, 210, 252, 114]
  else []

def poller (fingerprint : String) : Poller where
  formats := plainFormats
  nextCronMs _ _ := .error "Invalid cron expression"
  fingerprint _ _ _ := .ok fingerprint
  cronPayload _ _ := ""
  filesystemPayload _ _ := payload

def config (last : Option String) : TriggerConfig where
  target := .recipe "r" [] none
  workflow := none
  kind := .filesystem "/n" false (some "*.txt") last

def poll (s : Stores) (seen : String × Nat) : Stores :=
  (s.triggers.lookup "w").elim s fun stored =>
    ((pollOnePersistentTrigger digest (poller seen.1) "w" stored seen.2).run s).2

def first : Stores := poll (Stores.empty.setTrigger "w" ⟨.ok (config none), true, none, none⟩) (withText, 1000)

def restored : Stores := poll (poll first (without, 2000)) (withText, 3000)

theorem first_removal_fires : Fires "w" first (poll first (without, 2000)) := by
  refine (poll_fires_iff rfl rfl rfl (by decide +kernel) rfl (by decide) ⟨by decide, by decide⟩
    (by decide +kernel)).mpr ?_
  decide +kernel

theorem second_removal_missed : ¬ Fires "w" restored (poll restored (without, 4000)) := by
  have hSame : (poll restored (without, 4000)).deliveries = restored.deliveries := AList.ext (by decide +kernel)
  rintro ⟨deliveryId, hBefore, hAfter⟩
  rw [Stores.Accepted, hSame] at hAfter
  exact hBefore hAfter

end Notes

end LittleMonkey.Daemon.Trigger
