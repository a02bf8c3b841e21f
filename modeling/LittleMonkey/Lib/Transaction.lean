import LittleMonkey.Lib.Guards

/-! # Transactions that roll back on an error

A body reads and writes a state and may fail after it has written.  `commit`
runs it: a body that returns keeps what it wrote, a body that fails leaves the
state it found.  The inversion lemmas read a successful body as the sequence of
its statements.
-/

namespace Transaction

open Guards

variable {ε σ α β : Type}

/-- Statements that may have written before one of them fails. -/
abbrev Body (ε σ α : Type) := EStateM ε σ α

def commit (body : Body ε σ α) (s : σ) : Except ε α × σ :=
  match body s with
  | .ok a s' => (.ok a, s')
  | .error e _ => (.error e, s)

theorem commit_of_ok {body : Body ε σ α} {s s' a} (h : body s = .ok a s') : commit body s = (.ok a, s') := by
  rw [commit, h]

theorem commit_cases {body} {s s' : σ} {r : Except ε α} (h : commit body s = (r, s')) :
    (∃ a, r = .ok a ∧ body s = .ok a s') ∨ (∃ e t, r = .error e ∧ body s = .error e t ∧ s' = s) := by
  unfold commit at h
  cases hBody : body s with
  | ok a t =>
    rw [hBody] at h
    cases h
    exact .inl ⟨a, rfl, rfl⟩
  | error e t =>
    rw [hBody] at h
    cases h
    exact .inr ⟨e, t, rfl, rfl, rfl⟩

theorem commit_state {body : Body ε σ α} {s} {P : σ → Prop} (hSame : P s)
    (hOk : ∀ a s', body s = .ok a s' → P s') : P (commit body s).2 := by
  rcases commit_cases (Prod.eta (commit body s)).symm with ⟨a, -, hBody⟩ | ⟨e, _, -, -, hRolledBack⟩
  · exact hOk a _ hBody
  · rw [hRolledBack]
    exact hSame

/-- A call that checks its arguments before it opens the transaction. -/
def guarded (arguments : Except ε α) (body : α → Body ε σ β) (s : σ) : Except ε β × σ :=
  match arguments with
  | .ok a => commit (body a) s
  | .error e => (.error e, s)

def pureBody (x : Except ε α) : Body ε σ α := fun s =>
  match x with
  | .ok a => .ok a s
  | .error e => .error e s

def require (bad : Bool) (message : ε) : Body ε σ Unit := pureBody (refuseIf bad message)

def write (f : σ → σ) : Body ε σ Unit := fun s => .ok () (f s)

def read (f : σ → α) : Body ε σ α := fun s => .ok (f s) s

theorem commit_read_cases {f} {rest : α → Body ε σ β} {s s' r} (h : commit (read f >>= rest) s = (r, s')) :
    (∃ b, r = .ok b ∧ rest (f s) s = .ok b s') ∨ ∃ e t, r = .error e ∧ rest (f s) s = .error e t ∧ s' = s :=
  commit_cases h

@[simp]
theorem bind_eq_done {x} {f : α → Body ε σ β} {s s' b} :
    (x >>= f) s = .ok b s' ↔ ∃ a s₁, x s = .ok a s₁ ∧ f a s₁ = .ok b s' := by
  change EStateM.bind x f s = .ok b s' ↔ _
  unfold EStateM.bind
  cases x s with
  | ok a t =>
    constructor
    · intro h
      exact ⟨a, t, rfl, h⟩
    · rintro ⟨_, _, hx, h⟩
      cases hx
      exact h
  | error e t => simp

@[simp]
theorem pure_eq_done {s s' a b} : (pure a : Body ε σ α) s = .ok b s' ↔ a = b ∧ s = s' := by
  change EStateM.Result.ok a s = .ok b s' ↔ _
  simp

@[simp]
theorem pureBody_eq_ok {x : Except ε α} {s s' : σ} {a} : pureBody x s = .ok a s' ↔ x = .ok a ∧ s = s' := by
  cases x <;> simp [pureBody]

@[simp]
theorem require_eq_ok {bad : Bool} {message : ε} {s s' : σ} {u} :
    require bad message s = .ok u s' ↔ bad = false ∧ s = s' := by
  rw [require, pureBody_eq_ok, refuseIf_eq_ok]

@[simp]
theorem write_eq_ok {f s s' u} : (write f : Body ε σ Unit) s = .ok u s' ↔ f s = s' := by
  simp [write]

@[simp]
theorem read_eq_ok {f s s' a} : (read f : Body ε σ α) s = .ok a s' ↔ f s = a ∧ s = s' := by
  simp [read]

/-! Forward: a statement that is known to return is stepped over. -/

theorem bind_of_done {x} {f : α → Body ε σ β} {s s₁ a} (h : x s = .ok a s₁) : (x >>= f) s = f a s₁ := by
  change EStateM.bind x f s = f a s₁
  rw [EStateM.bind, h]

theorem bind_require {bad} {message : ε} {f : Unit → Body ε σ β} {s} (h : bad = false) :
    (require bad message >>= f) s = f () s := bind_of_done (require_eq_ok.mpr ⟨h, rfl⟩)

theorem bind_write {w} {f : Unit → Body ε σ β} {s} : (write w >>= f) s = f () (w s) := rfl

theorem bind_read {g} {f : α → Body ε σ β} {s} : (read g >>= f) s = f (g s) s := rfl

/-! The same for bodies that fail. -/

@[simp]
theorem bind_eq_failed {x} {f : α → Body ε σ β} {s s' e} : (x >>= f) s = .error e s' ↔
      x s = .error e s' ∨ ∃ a s₁, x s = .ok a s₁ ∧ f a s₁ = .error e s' := by
  change EStateM.bind x f s = .error e s' ↔ _
  unfold EStateM.bind
  cases x s with
  | error e' t => simp
  | ok a t =>
    constructor
    · intro h
      exact .inr ⟨a, t, rfl, h⟩
    · rintro (hx | ⟨_, _, hx, h⟩)
      · cases hx
      · cases hx
        exact h

@[simp]
theorem pure_ne_failed {s s' a e} : (pure a : Body ε σ α) s ≠ .error e s' := by
  change EStateM.Result.ok a s ≠ .error e s'
  simp

@[simp]
theorem write_ne_failed {f s s' e} : (write f : Body ε σ Unit) s ≠ .error e s' := by
  simp [write]

@[simp]
theorem read_ne_failed {f s s' e} : (read f : Body ε σ α) s ≠ .error e s' := by
  simp [read]

def focus {τ : Type} (get : σ → τ) (put : τ → σ → σ) (body : Body ε τ α) : Body ε σ α := fun s =>
  match body (get s) with
  | .ok a t => .ok a (put t s)
  | .error e t => .error e (put t s)

@[simp]
theorem focus_eq_ok {τ : Type} {get put} {body : Body ε τ α} {s s' : σ} {a} :
    focus get put body s = .ok a s' ↔ ∃ t, body (get s) = .ok a t ∧ put t s = s' := by
  unfold focus
  cases body (get s) with
  | ok b t => simp [and_assoc]
  | error e t => simp

theorem guarded_ok {arguments} {body : α → Body ε σ β} {s b} (h : (guarded arguments body s).1 = .ok b) :
    ∃ a, arguments = .ok a ∧ body a s = .ok b (guarded arguments body s).2 := by
  cases arguments with
  | error e => cases h
  | ok a =>
    simp only [guarded, commit] at h ⊢
    cases hBody : body a s with
    | ok b' s' =>
      rw [hBody] at h
      cases h
      exact ⟨a, rfl, hBody⟩
    | error e s' =>
      rw [hBody] at h
      cases h

theorem guarded_refused {arguments} {body : α → Body ε σ β} {s e}
    (h : (guarded arguments body s).1 = .error e) : (guarded arguments body s).2 = s := by
  cases arguments with
  | error e' => rfl
  | ok a =>
    simp only [guarded, commit] at h ⊢
    cases hBody : body a s with
    | ok b s' =>
      rw [hBody] at h
      cases h
    | error e' s' => rfl

end Transaction
