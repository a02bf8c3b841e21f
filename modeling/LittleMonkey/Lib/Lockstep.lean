import LittleMonkey.Lib.Footprint

/-! # Two runs of one program

A transaction, or a program left alone, from two related states: the answers
are equal and the states stay related.
-/

namespace Lockstep

open Transaction Interleaving

variable {ε σ α β : Type} {R : σ → σ → Prop} {s t : σ}

/-! ## Transactions -/

/-- Both commit with one value and related states, or both fail with one error. -/
def Agree (R : σ → σ → Prop) (x : Body ε σ α) (s t : σ) : Prop :=
  (∃ a s' t', x s = .ok a s' ∧ x t = .ok a t' ∧ R s' t') ∨ ∃ e s' t', x s = .error e s' ∧ x t = .error e t'

namespace Agree

theorem pure (a : α) (hR : R s t) : Agree R (Pure.pure a : Body ε σ α) s t :=
  .inl ⟨a, s, t, rfl, rfl, hR⟩

theorem pureBody (x : Except ε α) (hR : R s t) : Agree R (Transaction.pureBody x) s t := by
  cases x with
  | ok a => exact .inl ⟨a, s, t, rfl, rfl, hR⟩
  | error e => exact .inr ⟨e, s, t, rfl, rfl⟩

theorem require (bad : Bool) (message : ε) (hR : R s t) :
    Agree R (Transaction.require bad message) s t := .pureBody _ hR

theorem write {w} (hR : R (w s) (w t)) : Agree R (Transaction.write w : Body ε σ Unit) s t :=
  .inl ⟨(), w s, w t, rfl, rfl, hR⟩

theorem bind {x} {f : α → Body ε σ β} (hx : Agree R x s t)
    (hf : ∀ a s' t', R s' t' → Agree R (f a) s' t') : Agree R (x >>= f) s t := by
  rcases hx with ⟨a, s', t', hs, ht, hR⟩ | ⟨e, s', t', hs, ht⟩
  · rcases hf a s' t' hR with ⟨b, s'', t'', hs', ht', hR'⟩ | ⟨e, s'', t'', hs', ht'⟩
    · exact .inl ⟨b, s'', t'', bind_eq_done.mpr ⟨a, s', hs, hs'⟩, bind_eq_done.mpr ⟨a, t', ht, ht'⟩, hR'⟩
    · exact .inr ⟨e, s'', t'', bind_eq_failed.mpr (.inr ⟨a, s', hs, hs'⟩),
        bind_eq_failed.mpr (.inr ⟨a, t', ht, ht'⟩)⟩
  · exact .inr ⟨e, s', t', bind_eq_failed.mpr (.inl hs), bind_eq_failed.mpr (.inl ht)⟩

theorem read {g} {f : α → Body ε σ β} (hSame : g s = g t) (hf : Agree R (f (g t)) s t) :
    Agree R (Transaction.read g >>= f) s t := by
  rw [← hSame] at hf
  rcases hf with ⟨b, s', t', hs, ht, hR⟩ | ⟨e, s', t', hs, ht⟩
  · rw [hSame] at ht
    exact .inl ⟨b, s', t', bind_eq_done.mpr ⟨g s, s, rfl, hs⟩, bind_eq_done.mpr ⟨g t, t, rfl, ht⟩, hR⟩
  · rw [hSame] at ht
    exact .inr ⟨e, s', t', bind_eq_failed.mpr (.inr ⟨g s, s, rfl, hs⟩),
      bind_eq_failed.mpr (.inr ⟨g t, t, rfl, ht⟩)⟩

theorem commit {x : Body ε σ α} (hx : Agree R x s t) (hR : R s t) :
    (Transaction.commit x s).1 = (Transaction.commit x t).1 ∧
      R (Transaction.commit x s).2 (Transaction.commit x t).2 := by
  unfold Transaction.commit
  rcases hx with ⟨a, s', t', hs, ht, hR'⟩ | ⟨e, s', t', hs, ht⟩
  · rw [hs, ht]
    exact ⟨rfl, hR'⟩
  · rw [hs, ht]
    exact ⟨rfl, hR⟩

end Agree

/-! ## Programs -/

/-- Both runs end with one answer, in related states. -/
def Together (R : σ → σ → Prop) (p : Prog ε σ α) (s t : σ) : Prop :=
  (p.run s).1 = (p.run t).1 ∧ R (p.run s).2 (p.run t).2

namespace Together

theorem done (r : Except ε α) (hR : R s t) : Together R (Prog.done r) s t := ⟨rfl, hR⟩

theorem transaction {body : Body ε σ α} (h : Agree R body s t) (hR : R s t) :
    Together R (Prog.transaction body) s t := h.commit hR

theorem write {w} (hR : R (w s) (w t)) : Together R (Prog.write w : Prog ε σ Unit) s t :=
  ⟨rfl, hR⟩

theorem read {g} {f : α → Prog ε σ β} (hSame : g s = g t) (hf : Together R (f (g t)) s t) :
    Together R (Prog.read g >>= f) s t := by
  unfold Together
  rw [Prog.run_bind_ok (Prog.run_read g s), hSame]
  exact hf

theorem ofExcept {r} {f : α → Prog ε σ β} (hR : R s t)
    (hf : ∀ a, r = .ok a → Together R (f a) s t) : Together R (Prog.ofExcept r >>= f) s t := by
  cases r with
  | ok a => exact hf a rfl
  | error e => exact done _ hR

theorem bind {p} {f : α → Prog ε σ β} (hp : Together R p s t)
    (hf : ∀ a s' t', p.run t = (.ok a, t') → R s' t' → Together R (f a) s' t') :
    Together R (p >>= f) s t := by
  obtain ⟨hAnswer, hR⟩ := hp
  cases hs : p.run s with
  | mk r s' =>
    cases ht : p.run t with
    | mk r' t' =>
      rw [hs, ht] at hAnswer hR
      cases hAnswer
      unfold Together
      cases r with
      | error e =>
        rw [Prog.run_bind_error hs, Prog.run_bind_error ht]
        exact ⟨rfl, hR⟩
      | ok a =>
        rw [Prog.run_bind_ok hs, Prog.run_bind_ok ht]
        exact hf a s' t' ht hR

theorem attempt {ε' : Type} {p} (hp : Together R p s t) :
    Together R (p.attempt : Prog ε' σ (Except ε α)) s t := by
  unfold Together
  rw [Prog.run_attempt, Prog.run_attempt, hp.1]
  exact ⟨rfl, hp.2⟩

theorem of_built {F} (hF : ∀ {γ} {p : Prog ε σ γ} {s t}, F γ p → R s t → Together R p s t)
    {p : Prog ε σ α} (h : p.Built F) (hR : R s t) : Together R p s t := by
  induction h generalizing s t with
  | done r => exact .done r hR
  | part h => exact hF h hR
  | bind _ _ ih ihf => exact .bind (ih hR) fun a _ _ _ => ihf a

theorem mono {R' : σ → σ → Prop} {p : Prog ε σ α} (hp : Together R p s t)
    (hR : ∀ {s t}, R s t → R' s t) : Together R' p s t := ⟨hp.1, hR hp.2⟩

end Together

end Lockstep
