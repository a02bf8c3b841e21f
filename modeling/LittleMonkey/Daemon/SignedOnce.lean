import Mathlib.Combinatorics.Enumerative.DoubleCounting
import LittleMonkey.Daemon.DeliveryPasses

/-! # One job for a signed message

A party that resends and relabels requests but cannot sign.  What a signature
covers depends on the kind of the trigger; what a duplicate is does not.
-/

namespace LittleMonkey.Daemon.Trigger

open Guards Primitives Interleaving List

structure Request where
  services : Services
  delivery : SignedDelivery
  now : Nat

def signedMessage (kind : TriggerKind) (delivery : SignedDelivery) : Bytes :=
  match kind with
  | .signedWebhook _ _ =>
    canonicalGenericSignatureMessage delivery.timestampMs delivery.nonce delivery.payload
  | _ => delivery.payload

def Request.Verifies (digest : Bytes → Bytes) (tid : String) (kind : TriggerKind)
    (request : Request) : Prop :=
  request.delivery.triggerId = tid ∧ validateDeliveryFields request.delivery = .ok () ∧
    ∃ stored config, stored.configJson = .ok config ∧ config.kind = kind ∧
      authenticate digest request.services request.delivery request.now (some stored) = .ok true

def Stores.jobsOf (s : Stores) (tid : String) : Finset String :=
  ((s.enqueued.filter fun entry => entry.1.1 == tid).map (·.2)).toFinset

section

variable {digest : Bytes → Bytes} {tid : String} {kind : TriggerKind} {s : Stores}

theorem isAlphanum_toNat {c : Char} (h : c.isAlphanum = true) :
    ((65 ≤ c.toNat ∧ c.toNat ≤ 90) ∨ (97 ≤ c.toNat ∧ c.toNat ≤ 122)) ∨ (48 ≤ c.toNat ∧ c.toNat ≤ 57) := by
  change ((decide ('A'.val ≤ c.val ∧ c.val ≤ 'Z'.val) ||
    (decide ('a'.val ≤ c.val) && decide (c.val ≤ 'z'.val))) ||
    (decide ('0'.val ≤ c.val) && decide (c.val ≤ '9'.val))) = true at h
  simp only [Bool.or_eq_true, Bool.and_eq_true, decide_eq_true_eq] at h
  exact h

theorem isIdentifierChar_oneLine {c : Char} (h : isIdentifierChar c = true) : c.toNat < 128 ∧ c ≠ '\n' := by
  simp only [isIdentifierChar, Bool.or_eq_true, beq_iff_eq] at h
  rcases h with (((hAlphanum | rfl) | rfl) | rfl) | rfl
  · have hRange := isAlphanum_toNat hAlphanum
    refine ⟨by omega, ?_⟩
    rintro rfl
    have hTen : ('\n').toNat = 10 := rfl
    omega
  all_goals decide

theorem oneLine_of_validate {delivery}
    (h : validateDeliveryFields delivery = .ok ()) : OneLine delivery.nonce := by
  have hNonce : isBounded 256 isIdentifierChar delivery.nonce = true := by
    by_contra hBad
    simp [validateDeliveryFields, hBad] at h
  simp only [isBounded, Bool.and_eq_true, all_eq_true] at hNonce
  intro c hc
  exact isIdentifierChar_oneLine (hNonce.2 c hc)

/-- No message reaches a GitHub trigger with both a new delivery id and a new nonce. -/
def NeverRelabelled (digest : Bytes → Bytes) (tid : String) (kind : TriggerKind)
    (Sent : Request → Prop) : Prop :=
  (∃ scope maxSkewMs, kind = .github scope maxSkewMs) → ∀ a b, Sent a → Sent b →
    a.Verifies digest tid kind → b.Verifies digest tid kind → a.delivery.payload = b.delivery.payload →
    a.delivery.deliveryId = b.delivery.deliveryId ∨ a.delivery.nonce = b.delivery.nonce

theorem NeverRelabelled.same {Sent : Request → Prop} (h : NeverRelabelled digest tid kind Sent)
    (hWebhook : kind.maxSkewMs.isSome = true) {a b} (ha : Sent a) (hb : Sent b)
    (hVerifiesA : a.Verifies digest tid kind) (hVerifiesB : b.Verifies digest tid kind)
    (hMessage : signedMessage kind a.delivery = signedMessage kind b.delivery) :
    a.delivery.deliveryId = b.delivery.deliveryId ∨ a.delivery.nonce = b.delivery.nonce := by
  cases kind with
  | cron schedule => cases hWebhook
  | filesystem path recursive pattern last => cases hWebhook
  | signedWebhook secretReference maxSkewMs =>
    exact .inr (nonce_of_canonicalMessage (oneLine_of_validate hVerifiesA.2.1)
      (oneLine_of_validate hVerifiesB.2.1) hMessage)
  | github scope maxSkewMs => exact h ⟨scope, maxSkewMs, rfl⟩ a b ha hb hVerifiesA hVerifiesB hMessage

end

end LittleMonkey.Daemon.Trigger
