import LittleMonkey.Lib.Transaction

/-! # Programs that may be cut after any durable write

A program writes its state step by step.  It can fail with a message, and the
process that runs it can die right after a write; in both cases the writes made
so far stay.  `Triple` is the rule of pre- and postconditions for such programs:
what holds when it ends, and what holds where it stopped.
-/

namespace Durable

open Transaction

variable {ε σ α β : Type}

inductive Stop (ε : Type)
  | crashed
  | failed (message : ε)

abbrev Program (ε σ α : Type) := Body (Stop ε) σ α

def fail (message : ε) : Program ε σ α := fun s => .error (.failed message) s

def crash : Program ε σ α := fun s => .error .crashed s

/-- A write that is on disk before the process may die. -/
def durable (dies : Bool) (f : σ → σ) : Program ε σ Unit := do
  write f
  if dies then crash else pure ()

/-- Errors are logged and dropped; a crash is not an error. -/
def swallow (p : Program ε σ Unit) : Program ε σ Unit := fun s =>
  match p s with
  | .error (.failed _) s' => .ok () s'
  | r => r

/-- The caller looks at the error itself; a crash is not an error. -/
def attempt (p : Program ε σ α) : Program ε σ (Except ε α) := fun s =>
  match p s with
  | .ok a s' => .ok (.ok a) s'
  | .error (.failed message) s' => .ok (.error message) s'
  | .error .crashed s' => .error .crashed s'

def final (p : Program ε σ α) (s : σ) : σ :=
  match p s with
  | .ok _ s' => s'
  | .error _ s' => s'

/-- From `P` the program ends in `Q` or stops in `E`. -/
def Triple (P : σ → Prop) (p : Program ε σ α) (Q : α → σ → Prop) (E : Stop ε → σ → Prop) : Prop :=
  ∀ s, P s →
    match p s with
    | .ok a s' => Q a s'
    | .error stop s' => E stop s'

/-- Where a program stops that fails for one cause only. -/
def Cut (R : σ → Prop) (mortal cause : Prop) (stop : Stop ε) (s : σ) : Prop :=
  R s ∧ (stop = .crashed ∧ mortal ∨ cause)

theorem Cut.crashed {R : σ → Prop} {mortal cause : Prop} {s} (h : R s) (hMortal : mortal) :
    Cut R mortal cause (.crashed : Stop ε) s :=
  ⟨h, .inl ⟨rfl, hMortal⟩⟩

section

variable {P : σ → Prop} {Q : α → σ → Prop} {E : Stop ε → σ → Prop}
variable {p : Program ε σ α} {R : σ → Prop}

theorem Triple.bind {f} {R : β → σ → Prop}
    (hp : Triple P p Q E) (hf : ∀ a, Triple (Q a) (f a) R E) : Triple P (p >>= f) R E := by
  intro s hs
  have h := hp s hs
  change match EStateM.bind p f s with
    | .ok a s' => R a s'
    | .error stop s' => E stop s'
  unfold EStateM.bind
  cases hRun : p s with
  | ok a s' =>
    rw [hRun] at h
    exact hf a s' h
  | error stop s' =>
    rw [hRun] at h
    exact h

theorem Triple.of_discard
    (h : Triple P (do let _ ← p; Pure.pure ()) (fun _ => R) E) : Triple P p (fun _ => R) E := by
  intro s hs
  have hRun := h s hs
  simp only [Bind.bind, EStateM.bind] at hRun
  revert hRun
  cases p s <;> exact id

theorem Triple.pure {a} (h : ∀ s, P s → Q a s) :
    Triple P (Pure.pure a : Program ε σ α) Q E := fun s hs => h s hs

theorem Triple.skip {a} : Triple R (Pure.pure a : Program ε σ α) (fun _ => R) E := fun _ hs => hs

theorem Triple.fail {message} (h : ∀ s, P s → E (.failed message) s) :
    Triple P (Durable.fail message : Program ε σ α) Q E := fun s hs => h s hs

theorem Triple.write {f} {Q : Unit → σ → Prop} (h : ∀ s, P s → Q () (f s)) :
    Triple P (Transaction.write f : Program ε σ Unit) Q E := fun s hs => h s hs

theorem Triple.read {f} (h : ∀ s, P s → Q (f s) s) :
    Triple P (Transaction.read f : Program ε σ α) Q E := fun s hs => h s hs

theorem Triple.look {f} {k : α → Program ε σ β} {R : β → σ → Prop} (h : ∀ a, Triple P (k a) R E) :
    Triple P (Transaction.read f >>= k) R E := fun s hs => h (f s) s hs

theorem Triple.read_bind {f} {k : α → Program ε σ β} {s₀} {R : β → σ → Prop}
    (h : Triple (· = s₀) (k (f s₀)) R E) : Triple (· = s₀) (Transaction.read f >>= k) R E := by
  rintro s rfl
  exact h s rfl

theorem Triple.pure_bind {a} {k : α → Program ε σ β} {R : β → σ → Prop} (h : Triple P (k a) R E) :
    Triple P (Pure.pure a >>= k) R E := h

theorem Triple.pureAt {a s₀} (h : Q a s₀) : Triple (· = s₀) (Pure.pure a : Program ε σ α) Q E := by
  rintro s rfl
  exact h

theorem Triple.failAt {message s₀} (h : E (.failed message) s₀) :
    Triple (· = s₀) (Durable.fail message : Program ε σ α) Q E := by
  rintro s rfl
  exact h

theorem Triple.write_bind {f} {k : Unit → Program ε σ β} {s₀} {R : β → σ → Prop}
    (h : Triple (· = f s₀) (k ()) R E) : Triple (· = s₀) (Transaction.write f >>= k) R E := by
  rintro s rfl
  exact h (f s) rfl

theorem Triple.durable {dies f} {Q : Unit → σ → Prop}
    (hQ : ∀ s, P s → Q () (f s)) (hE : dies = true → ∀ s, P s → E .crashed (f s)) :
    Triple P (Durable.durable dies f) Q E := by
  intro s hs
  cases dies with
  | false => exact hQ s hs
  | true => exact hE rfl s hs

theorem Triple.durable_bind {dies f} {k : Unit → Program ε σ β} {s₀} {R : β → σ → Prop}
    (hE : dies = true → E .crashed (f s₀)) (h : Triple (· = f s₀) (k ()) R E) :
    Triple (· = s₀) (Durable.durable dies f >>= k) R E := by
  refine (Triple.durable (Q := fun _ s => s = f s₀) ?_ ?_).bind fun _ => h
  · rintro _ rfl
    rfl
  · rintro hDies _ rfl
    exact hE hDies

theorem Triple.weaken {P' : σ → Prop} {Q' : α → σ → Prop} {E' : Stop ε → σ → Prop}
    (h : Triple P p Q E) (hP : ∀ s, P' s → P s)
    (hQ : ∀ a s, Q a s → Q' a s) (hE : ∀ stop s, E stop s → E' stop s) : Triple P' p Q' E' := by
  intro s hs
  have hRun := h s (hP s hs)
  cases hp : p s with
  | ok a s' =>
    rw [hp] at hRun
    exact hQ a s' hRun
  | error stop s' =>
    rw [hp] at hRun
    exact hE stop s' hRun

theorem Triple.pre {P' : σ → Prop} (h : Triple P p Q E) (hP : ∀ s, P' s → P s) : Triple P' p Q E :=
  fun s hs => h s (hP s hs)

theorem Triple.of_forall (h : ∀ s, P s → Triple (· = s) p Q E) : Triple P p Q E := fun s hs => h s hs s rfl

theorem Triple.swallow {p : Program ε σ Unit} (h : Triple P p (fun _ => R) E)
    (hE : ∀ message s, E (.failed message) s → R s) : Triple P (Durable.swallow p) (fun _ => R) E := by
  intro s hs
  have hRun := h s hs
  unfold Durable.swallow
  revert hRun
  cases p s with
  | ok a s' => exact id
  | error stop s' =>
    cases stop with
    | crashed => exact id
    | failed message => exact hE message s'

theorem Triple.attempt (h : Triple P p Q E) :
    Triple P (Durable.attempt p) (fun answer s => (∀ a, answer = .ok a → Q a s) ∧
      ∀ message, answer = .error message → E (.failed message) s)
      (fun stop s => stop = .crashed ∧ E stop s) := by
  intro s hs
  have hRun := h s hs
  unfold Durable.attempt
  cases hp : p s with
  | ok a s' =>
    rw [hp] at hRun
    refine ⟨?_, fun _ hNot => (by cases hNot)⟩
    rintro _ ⟨rfl⟩
    exact hRun
  | error stop s' =>
    rw [hp] at hRun
    cases stop with
    | crashed => exact ⟨rfl, hRun⟩
    | failed message =>
      refine ⟨fun _ hNot => (by cases hNot), ?_⟩
      rintro _ ⟨rfl⟩
      exact hRun

theorem Triple.forM {I : σ → Prop} {body} {xs : List α} (h : ∀ x ∈ xs, Triple I (body x) (fun _ => I) E) :
    Triple I (xs.forM body) (fun _ => I) E := by
  induction xs with
  | nil => exact .pure fun _ hs => hs
  | cons x xs ih =>
    refine (h x List.mem_cons_self).bind fun _ => ?_
    exact ih fun y hy => h y (List.mem_cons_of_mem x hy)

theorem Triple.forM_rest {I : List α → σ → Prop} {body}
    (h : ∀ x xs, Triple (I (x :: xs)) (body x) (fun _ => I xs) E) (xs : List α) :
    Triple (I xs) (xs.forM body) (fun _ => I []) E := by
  induction xs with
  | nil => exact .pure fun _ hs => hs
  | cons x xs ih => exact (h x xs).bind fun _ => ih

theorem Triple.foldlM {I : β → List α → σ → Prop} {body}
    (h : ∀ b x xs, Triple (I b (x :: xs)) (body b x) (fun b' => I b' xs) E) (b : β) (xs : List α) :
    Triple (I b xs) (xs.foldlM body b) (fun b' => I b' []) E := by
  induction xs generalizing b with
  | nil => exact .pure fun _ hs => hs
  | cons x xs ih => exact (h b x xs).bind ih

theorem Triple.final (h : Triple P p (fun _ => R) (fun _ => R)) {s} (hs : P s) : R (Durable.final p s) := by
  have hRun := h s hs
  unfold Durable.final
  cases hp : p s with
  | ok a s' =>
    rw [hp] at hRun
    exact hRun
  | error stop s' =>
    rw [hp] at hRun
    exact hRun

end

end Durable
