import Mathlib.Logic.Relation
import LittleMonkey.Lib.Interleaving

/-! # What a program touches

A bound on a program that looks at no path through it: how each of its writes relates the
states around it, and which results it ends with.  It is closed under sequence, and a run,
an interrupted run and the rely-guarantee rules read it off.
-/

namespace Interleaving

variable {ε σ α β : Type}

/-- Every write is related by `P`, every result is in `Q`. -/
def Prog.Touches (P : σ → σ → Prop) (Q : Except ε α → Prop) : Prog ε σ α → Prop
  | .done r => Q r
  | .call write next => ∀ s, P s (write s) ∧ (next s).Touches P Q

section

variable {P : σ → σ → Prop} {Q : Except ε α → Prop} {Q₂ : Except ε β → Prop}
variable {p : Prog ε σ α} {f : α → Prog ε σ β} {s : σ} {R : α → σ → Prop} {g : σ → α}

theorem Prog.Touches.mono {Q' : Except ε α → Prop} (h : p.Touches P Q)
    (hQ : ∀ r, Q r → Q' r) : p.Touches P Q' := by
  induction p with
  | done r => exact hQ r h
  | call write next ih => exact fun s => ⟨(h s).1, ih s (h s).2⟩

theorem Prog.Touches.weaken {P' : σ → σ → Prop} (h : p.Touches P Q)
    (hP : ∀ s t, P s t → P' s t) : p.Touches P' Q := by
  induction p with
  | done r => exact h
  | call write next ih => exact fun s => ⟨hP s _ (h s).1, ih s (h s).2⟩

theorem Prog.Touches.bind (h : p.Touches P Q)
    (hOk : ∀ a, Q (.ok a) → (f a).Touches P Q₂) (hError : ∀ e, Q (.error e) → Q₂ (.error e)) :
    (p >>= f).Touches P Q₂ := by
  induction p with
  | done r =>
    cases r with
    | ok a => exact hOk a h
    | error e => exact hError e h
  | call write next ih => exact fun s => ⟨(h s).1, ih s (h s).2⟩

theorem Prog.Touches.read (hRefl : ∀ s, P s s) (hQ : ∀ a, Q (.ok a)) :
    (Prog.read g : Prog ε σ α).Touches P Q :=
  fun s => ⟨hRefl s, hQ (g s)⟩

theorem Prog.Touches.write {w} {Q : Except ε Unit → Prop} (h : ∀ s, P s (w s))
    (hQ : Q (.ok ())) : (Prog.write w : Prog ε σ Unit).Touches P Q :=
  fun s => ⟨h s, hQ⟩

theorem Prog.Touches.attempt {ε' : Type} (h : p.Touches P Q)
    {Q' : Except ε' (Except ε α) → Prop} (hQ : ∀ r, Q r → Q' (.ok r)) :
    (p.attempt : Prog ε' σ (Except ε α)).Touches P Q' := by
  induction p with
  | done r => exact hQ r h
  | call write next ih => exact fun s => ⟨(h s).1, ih s (h s).2⟩

theorem Prog.Touches.focus {τ : Type} {get put} (h : ∀ s t, P s (put t s))
    (p : Prog ε τ α) : (p.focus get put).Touches P fun _ => True := by
  induction p with
  | done r => trivial
  | call write next ih => exact fun s => ⟨h s _, ih (get s)⟩

theorem Prog.Touches.run (hRefl : ∀ s, P s s) (hTrans : ∀ s t u, P s t → P t u → P s u)
    (h : p.Touches P Q) (s : σ) : P s (p.run s).2 ∧ Q (p.run s).1 := by
  induction p generalizing s with
  | done r => exact ⟨hRefl s, h⟩
  | call write next ih =>
    obtain ⟨hRest, hResult⟩ := ih s (h s).2 (write s)
    exact ⟨hTrans s _ _ (h s).1 hRest, hResult⟩

theorem Prog.Touches.safe {I : σ → Prop} {R G : σ → σ → Prop} (h : p.Touches P Q)
    (hKeep : ∀ s t, I s → P s t → I t ∧ G s t) : Safe I R G (fun r _ => Q r) p s := by
  induction p generalizing s with
  | done r => exact fun _ _ _ => h
  | call write next ih =>
    intro t _ hI
    obtain ⟨hInv, hStep⟩ := hKeep t _ hI (h t).1
    exact ⟨hInv, hStep, ih t (h t).2⟩

theorem Prog.Touches.cut (h : p.Touches P Q) (n : Nat) (s : σ) : Relation.ReflTransGen P s (p.cut n s) := by
  induction n generalizing p s with
  | zero => exact .refl
  | succ n ih =>
    cases p with
    | done r => exact .refl
    | call write next => exact .head (h s).1 (ih (h s).2 (write s))

/-! ## Writes alone -/

/-- Every write is related by `P`, whatever the results. -/
def Prog.Within (P : σ → σ → Prop) (p : Prog ε σ α) : Prop := p.Touches P fun _ => True

theorem Prog.Within.done (r : Except ε α) : (Prog.done r : Prog ε σ α).Within P := trivial

theorem Prog.Within.bind (hp : p.Within P) (hf : ∀ a, (f a).Within P) : (p >>= f).Within P :=
  Prog.Touches.bind hp (fun a _ => hf a) fun _ _ => trivial

theorem Prog.Within.ofExcept {r}
    (hf : ∀ a, r = .ok a → (f a).Within P) : (Prog.ofExcept r >>= f).Within P := by
  cases r with
  | ok a => exact hf a rfl
  | error e => exact trivial

theorem Prog.Within.statement {f : σ → Except ε α × σ} (h : ∀ s, P s (f s).2) :
    (Prog.statement f).Within P := fun s => ⟨h s, trivial⟩

theorem Prog.Within.attempt {ε' : Type} (h : p.Within P) : (p.attempt : Prog ε' σ (Except ε α)).Within P :=
  Prog.Touches.attempt h fun _ _ => trivial

theorem Prog.Within.of_reads (h : p.Within (fun s t => t = s)) (hRefl : ∀ s, P s s) : p.Within P :=
  Prog.Touches.weaken h fun s _ hSame => hSame ▸ hRefl s

/-! ## Programs put together from parts -/

/-- The program does nothing but the parts in `F`, one after another. -/
inductive Prog.Built (F : (γ : Type) → Prog ε σ γ → Prop) : {α : Type} → Prog ε σ α → Prop
  | done {α : Type} (r : Except ε α) : Built F (.done r)
  | part {α : Type} {p : Prog ε σ α} (h : F α p) : Built F p
  | bind {α β : Type} {p : Prog ε σ α} {f : α → Prog ε σ β} (hp : Built F p)
      (hf : ∀ a, Built F (f a)) : Built F (p >>= f)

theorem Prog.Built.keeps {F} {I H : σ → Prop} {R G : σ → σ → Prop} (hR : Interference R G)
    (hStable : ∀ {s t}, G s t → H s → H t)
    (hF : ∀ {γ} {p : Prog ε σ γ} {s}, F γ p → H s → Keeps I R G p s) (h : p.Built F) (hs : H s) :
    Keeps I R G p s := by
  induction h generalizing s with
  | done r => exact .done r
  | part h => exact hF h hs
  | bind _ _ ih ihf => exact .bind hR (ih hs) fun a t hT => ihf a (hStable hT hs)

/-! ## One undisturbed run -/

/-- The program returns, in a state and with a value that are related by `R`. -/
def Prog.Returns (R : α → σ → Prop) (p : Prog ε σ α) (s : σ) : Prop :=
  ∃ a s', p.run s = (.ok a, s') ∧ R a s'

theorem Prog.Returns.pure {a} (h : R a s) : (Pure.pure a : Prog ε σ α).Returns R s := ⟨a, s, rfl, h⟩

theorem Prog.Returns.bind {R' : β → σ → Prop}
    (hp : p.Returns R s) (hf : ∀ a s', R a s' → (f a).Returns R' s') : (p >>= f).Returns R' s := by
  obtain ⟨a, s', hRun, hR⟩ := hp
  obtain ⟨b, s'', hNext, hR'⟩ := hf a s' hR
  exact ⟨b, s'', (run_bind_ok hRun).trans hNext, hR'⟩

theorem Prog.Returns.look {R : β → σ → Prop}
    (hp : p.Returns (fun _ t => t = s) s) (hf : ∀ a, (f a).Returns R s) : (p >>= f).Returns R s :=
  hp.bind fun a _ hSame => hSame ▸ hf a

theorem Prog.Returns.read {R : β → σ → Prop}
    (h : (f (g s)).Returns R s) : (Prog.read g >>= f).Returns R s := h

theorem Prog.Returns.transaction {body : Transaction.Body ε σ α}
    (h : ∃ a s', body s = .ok a s' ∧ R a s') : (Prog.transaction body).Returns R s := by
  obtain ⟨a, s', hBody, hR⟩ := h
  exact ⟨a, s', Transaction.commit_of_ok hBody, hR⟩

/-- The writes of the run that begins in this state, with nobody else at work. -/
def Prog.Runs (P : σ → σ → Prop) : Prog ε σ α → σ → Prop
  | .done _, _ => True
  | .call write next, s => P s (write s) ∧ (next s).Runs P (write s)

theorem Prog.Touches.runs (h : p.Touches P Q) (s : σ) : p.Runs P s := by
  induction p generalizing s with
  | done r => trivial
  | call write next ih => exact ⟨(h s).1, ih s (h s).2 (write s)⟩

theorem Prog.Runs.bind (h : p.Runs P s)
    (hf : ∀ a s', p.run s = (.ok a, s') → (f a).Runs P s') : (p >>= f).Runs P s := by
  induction p generalizing s with
  | done r =>
    cases r with
    | ok a => exact hf a s rfl
    | error e => trivial
  | call write next ih => exact ⟨h.1, ih s h.2 hf⟩

theorem Prog.Runs.read (hRefl : P s s) (hf : (f (g s)).Runs P s) : (Prog.read g >>= f).Runs P s := ⟨hRefl, hf⟩

theorem Prog.Runs.look (hRefl : ∀ s, P s s)
    (h : p.Touches (fun s t => t = s) Q) (hf : ∀ a, (f a).Runs P s) : (p >>= f).Runs P s := by
  apply Prog.Runs.bind
  · exact Prog.Touches.runs (h.weaken fun s t hSame => hSame ▸ hRefl s) s
  · intro a s' hRun
    have hSame : (p.run s).2 = s := (Prog.Touches.run (P := fun s t => t = s) (fun _ => rfl)
        (fun _ _ _ hFirst hNext => Eq.trans hNext hFirst) h s).1
    rw [hRun] at hSame
    subst hSame
    exact hf a

theorem Prog.Runs.chain (h : p.Runs P s) : Relation.ReflTransGen P s (p.run s).2 := by
  induction p generalizing s with
  | done r => exact .refl
  | call write next ih => exact .head h.1 (ih s h.2)

end

end Interleaving
