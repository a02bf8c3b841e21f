import Mathlib.Logic.Basic

/-! # Guarded computations that refuse with a message

Validators return early with an error; `refuseIf` is that early return and
`okOr` turns a missing value into one.  The inversion lemmas read a successful
run as the conjunction of the guards it passed.
-/

namespace Guards

variable {ε α β : Type}

def refuseIf (bad : Bool) (message : ε) : Except ε Unit :=
  if bad then .error message else .ok ()

def okOr (value : Option α) (message : ε) : Except ε α :=
  match value with
  | some a => .ok a
  | none => .error message

@[simp]
theorem refuseIf_eq_ok {bad} {message : ε} {u} : refuseIf bad message = .ok u ↔ bad = false := by
  cases bad <;> simp [refuseIf]

@[simp]
theorem okOr_eq_ok {value} {message : ε} {a : α} : okOr value message = .ok a ↔ value = some a := by
  cases value <;> simp [okOr]

@[simp]
theorem bind_eq_ok {x} {f : α → Except ε β} {b} : (x >>= f) = .ok b ↔ ∃ a, x = .ok a ∧ f a = .ok b := by
  cases x <;> simp [bind, Except.bind]

@[simp]
theorem pure_eq_ok {a b} : (pure a : Except ε α) = .ok b ↔ a = b := by
  simp [pure, Except.pure]

theorem forM_eq_ok {f : α → Except ε Unit} {xs : List α} {u} :
    xs.forM f = .ok u ↔ ∀ x ∈ xs, f x = .ok () := by
  induction xs with
  | nil => simp [Except.pure]
  | cons x xs ih =>
    change (f x >>= fun _ => xs.forM f) = .ok u ↔ _
    rw [bind_eq_ok, List.forall_mem_cons, ← ih]
    constructor
    · rintro ⟨_, hx, hxs⟩
      exact ⟨hx, hxs⟩
    · rintro ⟨hx, hxs⟩
      exact ⟨(), hx, hxs⟩

theorem foldlM_ok {I : β → List α → Prop} {f : β → α → Except ε β}
    (hStep : ∀ b x xs b', I b (x :: xs) → f b x = .ok b' → I b' xs) {xs : List α} {b b'}
    (h : xs.foldlM f b = .ok b') (hI : I b xs) : I b' [] := by
  induction xs generalizing b with
  | nil =>
    cases h
    exact hI
  | cons x xs ih =>
    rw [List.foldlM_cons, bind_eq_ok] at h
    obtain ⟨b₁, hFirst, hRest⟩ := h
    exact ih hRest (hStep b x xs b₁ hI hFirst)

theorem map_eq_error {f : α → β} {x : Except ε α} {e} (h : x.map f = .error e) : x = .error e := by
  cases x with
  | ok a => cases h
  | error e' => simpa [Except.map] using h

end Guards
