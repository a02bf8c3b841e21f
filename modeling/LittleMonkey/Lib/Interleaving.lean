import Mathlib.Data.List.Basic
import LittleMonkey.Lib.Transaction

/-! # Workers that interleave their statements

A worker is a program of atomic statements on one shared state.  Any number of
workers take turns statement by statement; one that stops between two of its
statements leaves what it has written.  `Safe` is the rely-guarantee triple of
such a program: what it establishes while every other statement stays within
the guarantee.
-/

namespace Interleaving

open Transaction List

/-- Statements in order; the next one may depend on the state the last one found. -/
inductive Prog (ε σ α : Type)
  | done (result : Except ε α)
  | call (write : σ → σ) (next : σ → Prog ε σ α)

namespace Prog

variable {ε σ α β : Type}

def bind : Prog ε σ α → (α → Prog ε σ β) → Prog ε σ β
  | .done (.ok a), f => f a
  | .done (.error e), _ => .done (.error e)
  | .call write next, f => .call write fun s => (next s).bind f

instance : Monad (Prog ε σ) where
  pure a := .done (.ok a)
  bind := bind

def fail (e : ε) : Prog ε σ α := .done (.error e)

def ofExcept (r : Except ε α) : Prog ε σ α := .done r

/-- One statement, or one transaction: nothing comes between its reads and its writes. -/
def statement (f : σ → Except ε α × σ) : Prog ε σ α :=
  .call (fun s => (f s).2) fun s => .done (f s).1

def transaction (body : Body ε σ α) : Prog ε σ α := statement (commit body)

def read (f : σ → α) : Prog ε σ α := statement fun s => (.ok (f s), s)

def write (f : σ → σ) : Prog ε σ Unit := statement fun s => (.ok (), f s)

/-- The result as a value, for callers that carry on after an error. -/
def attempt {ε' : Type} : Prog ε σ α → Prog ε' σ (Except ε α)
  | .done r => .done (.ok r)
  | .call write next => .call write fun s => (next s).attempt

def forEach (f : α → Prog ε σ Unit) : List α → Prog ε σ Unit
  | [] => pure ()
  | a :: rest => do
    f a
    forEach f rest

def run : Prog ε σ α → σ → Except ε α × σ
  | .done r, s => (r, s)
  | .call write next, s => (next s).run (write s)

/-- The state after the first `n` statements, with nothing between them. -/
def cut : Nat → Prog ε σ α → σ → σ
  | n + 1, .call write next, s => cut n (next s) (write s)
  | _, _, s => s

/-- A program that is not interleaved and stops after `n` statements. -/
def uninterrupted (n : Nat) (p : Prog ε σ α) : Prog ε σ Unit := write (p.cut n)

def focus {τ : Type} (get : σ → τ) (put : τ → σ → σ) : Prog ε τ α → Prog ε σ α
  | .done r => .done r
  | .call write next =>
    .call (fun s => put (write (get s)) s) fun s => (next (get s)).focus get put

@[simp] theorem ofExcept_ok_bind (a : α) (f : α → Prog ε σ β) :
    (ofExcept (.ok a) : Prog ε σ α) >>= f = f a := rfl

theorem bind_assoc {γ : Type} (p : Prog ε σ α) (f : α → Prog ε σ β) (g : β → Prog ε σ γ) :
    p >>= f >>= g = p >>= fun a => f a >>= g := by
  induction p with
  | done r => cases r <;> rfl
  | call w k ih =>
    exact congrArg _ (funext ih)

theorem run_bind (p : Prog ε σ α) (f : α → Prog ε σ β) (s : σ) : (p >>= f).run s = match (p.run s).1 with
      | .ok a => (f a).run (p.run s).2
      | .error e => (.error e, (p.run s).2) := by
  induction p generalizing s with
  | done r => cases r <;> rfl
  | call w k ih => exact ih s (w s)

theorem run_bind_ok {p} {f : α → Prog ε σ β} {s s' a}
    (h : p.run s = (.ok a, s')) : (p >>= f).run s = (f a).run s' := by
  rw [run_bind, h]

theorem run_bind_error {p} {f : α → Prog ε σ β} {s s' e}
    (h : p.run s = (.error e, s')) : (p >>= f).run s = (.error e, s') := by
  rw [run_bind, h]

@[simp] theorem run_pure (a : α) (s : σ) : (pure a : Prog ε σ α).run s = (.ok a, s) := rfl

@[simp] theorem run_statement (f : σ → Except ε α × σ) (s : σ) : (statement f).run s = f s := rfl

@[simp] theorem run_read (f : σ → α) (s : σ) : (read f : Prog ε σ α).run s = (.ok (f s), s) := rfl

@[simp] theorem run_write (f : σ → σ) (s : σ) : (write f : Prog ε σ Unit).run s = (.ok (), f s) := rfl

theorem cut_statement_bind {p} {g : α → Prog ε σ β} {s s' a}
    (h : p.run s = (.ok a, s')) (hp : ∃ f, p = statement f) (n : Nat) :
    (p >>= g).cut (n + 1) s = (g a).cut n s' := by
  obtain ⟨f, rfl⟩ := hp
  rw [run_statement] at h
  change cut n ((.done (f s).1 : Prog ε σ α) >>= g) (f s).2 = _
  rw [h]
  rfl

theorem cut_read_bind (f : σ → α) (g : α → Prog ε σ β) (s : σ) (n : Nat) :
    (read f >>= g).cut (n + 1) s = (g (f s)).cut n s := rfl

theorem run_attempt {ε' : Type} (p : Prog ε σ α) (s : σ) :
    (p.attempt : Prog ε' σ (Except ε α)).run s = (.ok (p.run s).1, (p.run s).2) := by
  induction p generalizing s with
  | done r => rfl
  | call w k ih => exact ih s (w s)

end Prog

/-! ## What a program does among others -/

section

variable {ε σ α β : Type}
variable {p : Prog ε σ α} {f : α → Prog ε σ β} {s : σ} {Q₂ : Except ε β → σ → Prop} {g : σ → α}

/-- While the statements of others keep `I` and stay within `R`, every statement
of the program keeps `I` and stays within `G`, and its end satisfies `Q`. -/
def Safe (I : σ → Prop) (R G : σ → σ → Prop) (Q : Except ε α → σ → Prop) : Prog ε σ α → σ → Prop
  | .done r, s => ∀ s', R s s' → I s' → Q r s'
  | .call write next, s => ∀ s', R s s' → I s' →
      I (write s') ∧ G s' (write s') ∧ Safe I R G Q (next s') (write s')

/-- Interference composes, and is within what the workers guarantee. -/
structure Interference (R G : σ → σ → Prop) : Prop where
  refl : ∀ s, R s s
  trans : ∀ {a b c}, R a b → R b c → R a c
  within : ∀ {a b}, R a b → G a b
  chain : ∀ {a b c}, G a b → G b c → G a c

variable {I : σ → Prop} {R R' G : σ → σ → Prop} {Q Q' : Except ε α → σ → Prop}

theorem Interference.still (h : Interference R G) : Interference Eq G where
  refl _ := rfl
  trans hab hbc := hab.trans hbc
  within hab := hab ▸ h.within (h.refl _)
  chain := h.chain

theorem Safe.delayed (hTrans : ∀ a b c, R a b → R b c → R a c) {s s'}
    (h : Safe I R G Q p s) (hLater : R s s') : Safe I R G Q p s' := by
  cases p with
  | done r =>
    intro t hT hI
    exact h t (hTrans _ _ _ hLater hT) hI
  | call w k =>
    intro t hT hI
    exact h t (hTrans _ _ _ hLater hT) hI

theorem Safe.later (hR : Interference R G) {s s'} (h : Safe I R G Q p s)
    (hLater : R s s') : Safe I R G Q p s' :=
  Safe.delayed (R := R) (fun _ _ _ => hR.trans) h hLater

theorem Safe.upon (hR : Interference R G) (h : ∀ t, R s t → I t → Safe I R G Q p t) : Safe I R G Q p s := by
  cases p with
  | done r =>
    intro t hT hI
    exact h t hT hI t (hR.refl t) hI
  | call w k =>
    intro t hT hI
    exact h t hT hI t (hR.refl t) hI

theorem Safe.mono (h : Safe I R G Q p s) (hQ : ∀ r t, I t → Q r t → Q' r t) : Safe I R G Q' p s := by
  induction p generalizing s with
  | done r =>
    intro t hT hI
    exact hQ r t hI (h t hT hI)
  | call w k ih =>
    intro t hT hI
    obtain ⟨hInv, hStep, hNext⟩ := h t hT hI
    exact ⟨hInv, hStep, ih t hNext⟩

theorem Safe.carrying {H : σ → Prop} (hStable : ∀ a b, R a b → H a → H b)
    (h : Safe (fun t => I t ∧ H t) R G Q p s) (hs : ∀ t, R s t → I t → H t) :
    Safe I R G (fun r t => Q r t ∧ H t) p s := by
  induction p generalizing s with
  | done r =>
    intro t hT hI
    exact ⟨h t hT ⟨hI, hs t hT hI⟩, hs t hT hI⟩
  | call w k ih =>
    intro t hT hI
    obtain ⟨⟨hInv, hFact⟩, hStep, hNext⟩ := h t hT ⟨hI, hs t hT hI⟩
    exact ⟨hInv, hStep, ih t hNext fun u hU _ => hStable _ _ hU hFact⟩

theorem Safe.calmer (h : Safe I R G Q p s) (hR : ∀ {a b}, R' a b → R a b) : Safe I R' G Q p s := by
  induction p generalizing s with
  | done r =>
    intro t hT hI
    exact h t (hR hT) hI
  | call w k ih =>
    intro t hT hI
    obtain ⟨hInv, hStep, hNext⟩ := h t (hR hT) hI
    exact ⟨hInv, hStep, ih t hNext⟩

theorem Safe.statement {f} (h : ∀ t r t', R s t → I t → f t = (r, t') →
      I t' ∧ G t t' ∧ ∀ u, R t' u → I u → Q r u) : Safe I R G Q (Prog.statement f) s := by
  intro t hT hI
  obtain ⟨hInv, hStep, hPost⟩ := h t _ _ hT hI rfl
  exact ⟨hInv, hStep, hPost⟩

theorem Safe.inspect (hRefl : ∀ t, G t t)
    (hf : ∀ t, R s t → I t → Safe I R G Q₂ (f (g t)) t) : Safe I R G Q₂ (Prog.read g >>= f) s := by
  intro t hT hI
  exact ⟨hI, hRefl t, hf t hT hI⟩

theorem Safe.read (hR : Interference R G)
    (hf : ∀ t, R s t → I t → Safe I R G Q₂ (f (g t)) t) : Safe I R G Q₂ (Prog.read g >>= f) s :=
  .inspect (fun t => hR.within (hR.refl t)) hf

theorem Safe.ofExcept {r} (hError : ∀ e t, Q₂ (.error e) t)
    (hf : ∀ a, r = .ok a → Safe I R G Q₂ (f a) s) : Safe I R G Q₂ (Prog.ofExcept r >>= f) s := by
  cases r with
  | ok a => exact hf a rfl
  | error e => exact fun t _ _ => hError e t

theorem Safe.seq (h : Safe I R G Q p s)
    (hOk : ∀ a t, (∀ u, R t u → I u → Q (.ok a) u) → Safe I R G Q₂ (f a) t)
    (hError : ∀ e t, I t → Q (.error e) t → Q₂ (.error e) t) : Safe I R G Q₂ (p >>= f) s := by
  induction p generalizing s with
  | done r =>
    cases r with
    | ok a => exact hOk a s h
    | error e =>
      intro t hT hI
      exact hError e t hI (h t hT hI)
  | call w k ih =>
    intro t hT hI
    obtain ⟨hInv, hStep, hNext⟩ := h t hT hI
    exact ⟨hInv, hStep, ih t hNext⟩

theorem Safe.bind (hR : Interference R G) (h : Safe I R G Q p s)
    (hOk : ∀ a t, G s t → (∀ u, R t u → I u → Q (.ok a) u) → Safe I R G Q₂ (f a) t)
    (hError : ∀ e t, I t → Q (.error e) t → Q₂ (.error e) t) : Safe I R G Q₂ (p >>= f) s := by
  induction p generalizing s with
  | done r =>
    cases r with
    | ok a => exact hOk a s (hR.within (hR.refl s)) h
    | error e =>
      intro t hT hI
      exact hError e t hI (h t hT hI)
  | call w k ih =>
    intro t hT hI
    obtain ⟨hInv, hStep, hNext⟩ := h t hT hI
    refine ⟨hInv, hStep, ih t hNext ?_⟩
    intro a u hU
    exact hOk a u (hR.chain (hR.chain (hR.within hT) hStep) hU)

theorem Safe.attempt {ε' : Type} {Q₂ : Except ε' (Except ε α) → σ → Prop}
    (h : Safe I R G Q p s) (hQ : ∀ r t, I t → Q r t → Q₂ (.ok r) t) :
    Safe I R G Q₂ (p.attempt : Prog ε' σ (Except ε α)) s := by
  induction p generalizing s with
  | done r =>
    intro t hT hI
    exact hQ r t hI (h t hT hI)
  | call w k ih =>
    intro t hT hI
    obtain ⟨hInv, hStep, hNext⟩ := h t hT hI
    exact ⟨hInv, hStep, ih t hNext⟩

theorem Safe.forEach (hR : Interference R G) {f} {Q₂ : Except ε Unit → σ → Prop} {l : List α}
    (hRound : ∀ a ∈ l, ∀ t, G s t → Safe I R G (fun _ _ => True) (f a) t)
    (hQ : ∀ r t, I t → Q₂ r t) : Safe I R G Q₂ (Prog.forEach f l) s := by
  induction l generalizing s with
  | nil =>
    intro t _ hI
    exact hQ _ t hI
  | cons a l ih =>
    apply Safe.bind hR (hRound a mem_cons_self s (hR.within (hR.refl s)))
    · intro _ t hT _
      apply ih
      intro b hb u hU
      exact hRound b (mem_cons_of_mem a hb) u (hR.chain hT hU)
    · intro e t hI _
      exact hQ _ t hI

theorem Safe.cut (hR : Interference R G) (h : Safe I R G Q p s) (hI : I s)
    (n : Nat) : I (p.cut n s) ∧ G s (p.cut n s) := by
  induction n generalizing p s with
  | zero => exact ⟨hI, hR.within (hR.refl s)⟩
  | succ n ih =>
    cases p with
    | done r => exact ⟨hI, hR.within (hR.refl s)⟩
    | call w k =>
      obtain ⟨hInv, hStep, hNext⟩ := h s (hR.refl s) hI
      obtain ⟨hEnd, hRest⟩ := ih hNext hInv
      exact ⟨hEnd, hR.chain hStep hRest⟩

theorem Safe.run (hR : Interference R G) (h : Safe I R G Q p s) (hI : I s) :
    I (p.run s).2 ∧ G s (p.run s).2 ∧ Q (p.run s).1 (p.run s).2 := by
  induction p generalizing s with
  | done r => exact ⟨hI, hR.within (hR.refl s), h s (hR.refl s) hI⟩
  | call w k ih =>
    obtain ⟨hInv, hStep, hNext⟩ := h s (hR.refl s) hI
    obtain ⟨hEnd, hRest, hPost⟩ := ih s hNext hInv
    exact ⟨hEnd, hR.chain hStep hRest, hPost⟩

/-! ### Programs of which only the statements matter -/

abbrev Keeps (I : σ → Prop) (R G : σ → σ → Prop) (p : Prog ε σ α) (s : σ) : Prop :=
  Safe I R G (fun _ _ => True) p s

theorem Keeps.done (r : Except ε α) : Keeps I R G (Prog.done r) s := fun _ _ _ => trivial

theorem Keeps.statement {f : σ → Except ε α × σ} (h : ∀ t r t', R s t → I t → f t = (r, t') → I t' ∧ G t t') :
    Keeps I R G (Prog.statement f) s := by
  apply Safe.statement
  intro t r t' hT hI hRun
  obtain ⟨hInv, hStep⟩ := h t r t' hT hI hRun
  exact ⟨hInv, hStep, fun _ _ _ => trivial⟩

theorem Keeps.seq (hp : Keeps I R G p s) (hf : ∀ a t, Keeps I R G (f a) t) : Keeps I R G (p >>= f) s := by
  apply Safe.seq hp
  · intro a t _
    exact hf a t
  · intro e t _ _
    trivial

theorem Keeps.bind (hR : Interference R G)
    (hp : Keeps I R G p s) (hf : ∀ a t, G s t → Keeps I R G (f a) t) : Keeps I R G (p >>= f) s := by
  apply Safe.bind hR hp
  · intro a t hT _
    exact hf a t hT
  · intro e t _ _
    trivial

theorem Keeps.ofExcept {r}
    (hf : ∀ a, r = .ok a → Keeps I R G (f a) s) : Keeps I R G (Prog.ofExcept r >>= f) s :=
  Safe.ofExcept (fun _ _ => trivial) hf

theorem Keeps.read (hR : Interference R G)
    (hf : ∀ t, R s t → I t → Keeps I R G (f (g t)) t) : Keeps I R G (Prog.read g >>= f) s :=
  Safe.read hR hf

end

/-! ## Pools of workers -/

/-- The shared state and the workers, each at its next statement. -/
structure Pool (ε σ α : Type) where
  state : σ
  workers : List (Prog ε σ α)

/-- A worker begins, takes its next statement, or stops for good. -/
inductive Move (ε σ α : Type)
  | spawn (p : Prog ε σ α)
  | act (worker : Nat)
  | stop (worker : Nat)

section

variable {ε σ α : Type}
variable {Allowed : Pool ε σ α → Move ε σ α → Prop} {pool : Pool ε σ α} {start : σ}

def Pool.after (pool : Pool ε σ α) : Move ε σ α → Option (Pool ε σ α)
  | .spawn p => some ⟨pool.state, pool.workers ++ [p]⟩
  | .act worker =>
    match pool.workers[worker]? with
    | some (.call write next) =>
      some ⟨write pool.state, pool.workers.set worker (next pool.state)⟩
    | _ => none
  | .stop worker =>
    match pool.workers[worker]? with
    | some (.call _ _) => some ⟨pool.state, pool.workers.eraseIdx worker⟩
    | _ => none

/-- The pools of all runs whose moves are allowed where they are made. -/
inductive Arises (Allowed : Pool ε σ α → Move ε σ α → Prop) (start : σ) : Pool ε σ α → Prop
  | start : Arises Allowed start ⟨start, []⟩
  | move {pool pool'} {m} (before : Arises Allowed start pool)
      (allowed : Allowed pool m) (done : pool.after m = some pool') : Arises Allowed start pool'

def Pool.play : Pool ε σ α → List (Move ε σ α) → Option (Pool ε σ α)
  | pool, [] => some pool
  | pool, m :: rest => (pool.after m).bind fun pool => pool.play rest

theorem Arises.play {pool pool' moves} (h : Arises Allowed start pool)
    (hAllowed : ∀ pool, ∀ m ∈ moves, Allowed pool m) (hPlay : pool.play moves = some pool') :
    Arises Allowed start pool' := by
  induction moves generalizing pool with
  | nil =>
    cases hPlay
    exact h
  | cons m rest ih =>
    obtain ⟨next, hNext, hRest⟩ := Option.bind_eq_some_iff.mp hPlay
    apply ih (h.move (hAllowed pool m mem_cons_self) hNext) ?_ hRest
    intro p m' hm'
    exact hAllowed p m' (mem_cons_of_mem m hm')

section

variable (hAct : ∀ pool i, Allowed pool (.act i))

include hAct

theorem Arises.alone (h : Arises Allowed start pool) {p} (hSpawn : Allowed pool (.spawn p)) :
    Arises Allowed start ⟨(p.run pool.state).2, pool.workers ++ [.done (p.run pool.state).1]⟩ := by
  have hLast : ∀ (q : Prog ε σ α) (s : σ), Arises Allowed start ⟨s, pool.workers ++ [q]⟩ →
      Arises Allowed start ⟨(q.run s).2, pool.workers ++ [.done (q.run s).1]⟩ := by
    intro q
    induction q with
    | done r =>
      intro s hReached
      exact hReached
    | call write next ih =>
      intro s hReached
      apply ih
      apply hReached.move (hAct _ pool.workers.length)
      simp [Pool.after]
  exact hLast p pool.state (h.move hSpawn rfl)

theorem Arises.begun (h : Arises Allowed start pool) {p} (hSpawn : Allowed pool (.spawn p)) (n : Nat) :
    ∃ workers, Arises Allowed start ⟨p.cut n pool.state, workers⟩ := by
  have hLast : ∀ (n : Nat) (q : Prog ε σ α) (s : σ), Arises Allowed start ⟨s, pool.workers ++ [q]⟩ →
      ∃ workers, Arises Allowed start ⟨q.cut n s, workers⟩ := by
    intro n
    induction n with
    | zero =>
      intro q s hReached
      exact ⟨_, hReached⟩
    | succ n ih =>
      intro q s hReached
      cases q with
      | done r => exact ⟨_, hReached⟩
      | call write next =>
        apply ih (next s) (write s)
        apply hReached.move (hAct _ pool.workers.length)
        simp [Pool.after]
  exact hLast n p pool.state (h.move hSpawn rfl)

theorem Arises.sequence (programs : List (Prog ε σ α)) (h : Arises Allowed start pool)
    (hSpawn : ∀ pool, ∀ p ∈ programs, Allowed pool (.spawn p)) : ∃ workers, Arises Allowed start
      ⟨programs.foldl (fun s p => (p.run s).2) pool.state, workers⟩ := by
  induction programs generalizing pool with
  | nil => exact ⟨pool.workers, h⟩
  | cons p rest ih =>
    apply ih (h.alone hAct (hSpawn pool p mem_cons_self))
    intro q r hr
    exact hSpawn q r (mem_cons_of_mem p hr)

end

theorem split_at {ts i} {x : α} (h : ts[i]? = some x) :
    ∃ l r, ts = l ++ x :: r ∧ (∀ y, ts.set i y = l ++ y :: r) ∧ ts.eraseIdx i = l ++ r := by
  induction ts generalizing i with
  | nil => cases h
  | cons t ts ih =>
    cases i with
    | zero =>
      cases h
      exact ⟨[], ts, rfl, fun y => rfl, rfl⟩
    | succ i =>
      obtain ⟨l, r, hTs, hSet, hErase⟩ := ih h
      refine ⟨t :: l, r, ?_, ?_, ?_⟩
      · rw [hTs, cons_append]
      · intro y
        rw [set_cons_succ, hSet, cons_append]
      · rw [eraseIdx_cons_succ, hErase, cons_append]

inductive Turn (pool : Pool ε σ α) : Move ε σ α → Pool ε σ α → Prop
  | spawned (p : Prog ε σ α) : Turn pool (.spawn p) ⟨pool.state, pool.workers ++ [p]⟩
  | acted {i} (l r : List (Prog ε σ α)) (write : σ → σ) (next : σ → Prog ε σ α)
      (among : pool.workers = l ++ .call write next :: r) :
      Turn pool (.act i) ⟨write pool.state, l ++ next pool.state :: r⟩
  | stopped {i} (l r : List (Prog ε σ α)) (p : Prog ε σ α)
      (among : pool.workers = l ++ p :: r) : Turn pool (.stop i) ⟨pool.state, l ++ r⟩

theorem Pool.turn_of_after {pool pool'} {m : Move ε σ α}
    (h : pool.after m = some pool') : Turn pool m pool' := by
  cases m with
  | spawn p =>
    cases h
    exact .spawned p
  | act i =>
    simp only [Pool.after] at h
    split at h
    next write next hWorker =>
      obtain ⟨l, r, hAmong, hSet, -⟩ := split_at hWorker
      cases h
      rw [hSet]
      exact .acted l r write next hAmong
    · cases h
  | stop i =>
    simp only [Pool.after] at h
    split at h
    next write next hWorker =>
      obtain ⟨l, r, hAmong, -, hErase⟩ := split_at hWorker
      cases h
      rw [hErase]
      exact .stopped l r _ hAmong
    · cases h

theorem Arises.invariant {P : Pool ε σ α → Prop} (hStart : P ⟨start, []⟩)
    (hTurn : ∀ pool m pool', Arises Allowed start pool → P pool → Allowed pool m →
      Turn pool m pool' → P pool')
    (h : Arises Allowed start pool) : P pool := by
  induction h with
  | start => exact hStart
  | move hBefore hAllowed hDone ih =>
    exact hTurn _ _ _ hBefore ih hAllowed (Pool.turn_of_after hDone)

theorem Arises.safe {I : σ → Prop} {G : σ → σ → Prop} (hG : Interference G G) {Q : Except ε α → σ → Prop}
    (hStart : I start) (hSpawn : ∀ pool p, I pool.state → Allowed pool (.spawn p) → Safe I G G Q p pool.state)
    (h : Arises Allowed start pool) : I pool.state ∧ ∀ p ∈ pool.workers, Safe I G G Q p pool.state := by
  refine Arises.invariant (P := fun pool => I pool.state ∧
    ∀ p ∈ pool.workers, Safe I G G Q p pool.state) ⟨hStart, by simp⟩ ?_ h
  rintro pool m pool' - ⟨hI, hSafe⟩ hAllowed hTurn
  cases hTurn with
  | spawned p =>
    refine ⟨hI, fun q hq => ?_⟩
    rcases mem_append.mp hq with hOld | hNew
    · exact hSafe q hOld
    · rw [mem_singleton.mp hNew]
      exact hSpawn pool p hI hAllowed
  | acted l r write next hAmong =>
    have hSelf := hSafe (.call write next) (by rw [hAmong]; simp)
    obtain ⟨hInv, hStep, hNext⟩ := hSelf pool.state (hG.refl _) hI
    refine ⟨hInv, fun q hq => ?_⟩
    rcases mem_append.mp hq with hLeft | hRight
    · exact (hSafe q (by rw [hAmong]; simp [hLeft])).later hG hStep
    · rcases mem_cons.mp hRight with hSelf | hRight
      · rw [hSelf]
        exact hNext
      · exact (hSafe q (by rw [hAmong]; simp [hRight])).later hG hStep
  | stopped l r p hAmong =>
    refine ⟨hI, fun q hq => hSafe q ?_⟩
    rw [hAmong]
    rcases mem_append.mp hq with hLeft | hRight
    · simp [hLeft]
    · simp [hRight]

/-! ### Answers that are given once -/

/-- An answer in `P` is reached only through a statement that finds `spent` false
and makes it true. -/
def Guarded (P : Except ε α → Prop) (spent : σ → Prop) : Prog ε σ α → Prop
  | .done r => ¬ P r
  | .call write next => ∀ s, Guarded P spent (next s) ∨ ¬ spent s ∧ spent (write s)

section

variable {β : Type} {P : Except ε α → Prop} {spent : σ → Prop}

section

variable (hError : ∀ e, ¬ P (.error e))

include hError

theorem Guarded.andThen {P₁ : Except ε β → Prop} {p f} (hp : Guarded P₁ spent p)
    (hf : ∀ b, ¬ P₁ (.ok b) → Guarded P spent (f b)) : Guarded P spent (p >>= f) := by
  induction p with
  | done r =>
    cases r with
    | ok b => exact hf b hp
    | error e => exact hError e
  | call write next ih =>
    intro s
    exact (hp s).imp (ih s) id

theorem Guarded.bind {p} {f : β → Prog ε σ α}
    (hf : ∀ b, Guarded P spent (f b)) : Guarded P spent (p >>= f) := by
  induction p with
  | done r =>
    cases r with
    | ok b => exact hf b
    | error e => exact hError e
  | call write next ih =>
    intro s
    exact .inl (ih s)

theorem Guarded.statement {f} {g : β → Prog ε σ α}
    (h : ∀ s b, (f s).1 = .ok b → Guarded P spent (g b) ∨ ¬ spent s ∧ spent (f s).2) :
    Guarded P spent (Prog.statement f >>= g) := by
  intro s
  cases hAnswer : (f s).1 with
  | error e =>
    left
    change Guarded P spent ((.done (f s).1 : Prog ε σ β) >>= g)
    rw [hAnswer]
    exact hError e
  | ok b =>
    rcases h s b hAnswer with hGuarded | hSpends
    · left
      change Guarded P spent ((.done (f s).1 : Prog ε σ β) >>= g)
      rw [hAnswer]
      exact hGuarded
    · exact .inr hSpends

end

open Classical in
/-- The workers that may already give an answer in `P`. -/
noncomputable def Pool.claims (P : Except ε α → Prop) (spent : σ → Prop) (pool : Pool ε σ α) : Nat :=
  pool.workers.countP fun p => ¬ Guarded P spent p

theorem Arises.claims_le_one {I : σ → Prop} {G : σ → σ → Prop} (hG : Interference G G)
    (hStable : ∀ {s s'}, G s s' → spent s → spent s') {Q : Except ε α → σ → Prop}
    {Allowed : Pool ε σ α → Move ε σ α → Prop} {start} (hStart : I start)
    (hSpawn : ∀ pool p, I pool.state → Allowed pool (.spawn p) →
      Safe I G G Q p pool.state ∧ Guarded P spent p)
    {pool} (h : Arises Allowed start pool) :
    pool.claims P spent ≤ 1 ∧ (0 < pool.claims P spent → spent pool.state) := by
  classical
  refine Arises.invariant (P := fun pool => pool.claims P spent ≤ 1 ∧
    (0 < pool.claims P spent → spent pool.state)) ⟨by simp [Pool.claims], by simp [Pool.claims]⟩ ?_ h
  rintro pool m pool' hArises ⟨hOne, hSpent⟩ hAllowed hTurn
  obtain ⟨hI, hSafe⟩ := Arises.safe hG hStart (fun pool p hI hp => (hSpawn pool p hI hp).1) hArises
  cases hTurn with
  | spawned p =>
    have hSame : Pool.claims P spent ⟨pool.state, pool.workers ++ [p]⟩ = pool.claims P spent := by
      simp [Pool.claims, (hSpawn pool p hI hAllowed).2]
    rw [hSame]
    exact ⟨hOne, hSpent⟩
  | acted l r write next hAmong =>
    obtain ⟨-, hStep, -⟩ := hSafe (.call write next) (by rw [hAmong]; simp) pool.state (hG.refl _) hI
    simp only [Pool.claims, hAmong, countP_append, countP_cons, decide_eq_true_eq]
      at hOne hSpent ⊢
    by_cases hBefore : Guarded P spent (.call write next)
    · rcases hBefore pool.state with hAfter | ⟨hUnspent, hNow⟩
      · rw [if_neg (not_not.mpr hAfter)]
        rw [if_neg (not_not.mpr hBefore)] at hOne hSpent
        exact ⟨hOne, fun hPos => hStable hStep (hSpent hPos)⟩
      · -- Nobody had spent it, so nobody else may answer.
        rw [if_neg (not_not.mpr hBefore)] at hSpent
        have hNobody := Nat.eq_zero_of_not_pos fun hPos => hUnspent (hSpent hPos)
        refine ⟨?_, fun _ => hNow⟩
        split <;> omega
    · rw [if_pos hBefore] at hOne hSpent
      refine ⟨?_, fun _ => hStable hStep (hSpent (by omega))⟩
      split <;> omega
  | stopped l r p hAmong =>
    simp only [Pool.claims, hAmong, countP_append, countP_cons] at hOne hSpent ⊢
    constructor
    · omega
    · intro hPos
      exact hSpent (by omega)

end

end

end Interleaving
