import LittleMonkey.Lib.Interleaving

/-! # Workers that are not run beside one another

Every worker has a tag, and two workers whose tags conflict are never in progress
together.  A worker may then rely on everything that the tags it does not conflict
with guarantee.
-/

namespace Interleaving

open List

variable {ε σ α β τ : Type}

/-- What is left of a program after some of its statements. -/
inductive Prog.Remains (p : Prog ε σ α) : Prog ε σ α → Prop
  | all : Remains p p
  | after {write} {next} (before : Remains p (.call write next)) (s : σ) :
      Remains p (next s)

def Prog.InProgress : Prog ε σ α → Prop
  | .done _ => False
  | .call _ _ => True

/-! ## Pools without conflicts -/

/-- A tag of the worker: it is the rest of a program that serves the tag. -/
def Tagged (Serves : τ → Prog ε σ α → Prop) (a : τ) (p : Prog ε σ α) : Prop :=
  ∃ q, Serves a q ∧ q.Remains p

/-- A program for the tag may begin: no worker in progress has a tag that conflicts. -/
def Clear (Serves : τ → Prog ε σ α → Prop) (conflict : τ → τ → Prop) (pool : Pool ε σ α) (a : τ) :
    Prop :=
  ∀ p ∈ pool.workers, p.InProgress → ∀ b, Tagged Serves b p → ¬ conflict a b

section

variable {Serves : τ → Prog ε σ α → Prop} {conflict : τ → τ → Prop} {I : σ → Prop}
  {R G : τ → σ → σ → Prop} {Q : Except ε α → σ → Prop}

/-- The worker with its tag; its rely and its guarantee are those of the tag. -/
structure Tame (Serves : τ → Prog ε σ α → Prop) (I : σ → Prop) (R G : τ → σ → σ → Prop)
    (Q : Except ε α → σ → Prop) (s : σ) (worker : τ × Prog ε σ α) : Prop where
  tagged : Tagged Serves worker.1 worker.2
  safe : worker.2.InProgress → Safe I (R worker.1) (G worker.1) Q worker.2 s
  ended : ∀ r, worker.2 = .done r → ∃ t, Q r t

def Compatible (conflict : τ → τ → Prop) (a b : τ × Prog ε σ α) : Prop :=
  a.2.InProgress → b.2.InProgress → ¬ conflict a.1 b.1

theorem Arises.tame (hSymm : ∀ a b, conflict a b → conflict b a)
    (hRefl : ∀ a s, R a s s) (hTrans : ∀ a s t u, R a s t → R a t u → R a s u)
    (hApart : ∀ a b s s', ¬ conflict a b → G a s s' → R b s s')
    {Allowed : Pool ε σ α → Move ε σ α → Prop} {start} (hStart : I start)
    (hSpawn : ∀ pool p, I pool.state → Allowed pool (.spawn p) →
      ∃ a, Serves a p ∧ Clear Serves conflict pool a ∧ Safe I (R a) (G a) Q p pool.state)
    {pool} (h : Arises Allowed start pool) :
    I pool.state ∧ ∃ workers : List (τ × Prog ε σ α), pool.workers = workers.map (·.2) ∧
      (∀ worker ∈ workers, Tame Serves I R G Q pool.state worker) ∧
      workers.Pairwise (Compatible conflict) := by
  refine Arises.invariant (P := fun pool => I pool.state ∧
    ∃ workers : List (τ × Prog ε σ α), pool.workers = workers.map (·.2) ∧
      (∀ worker ∈ workers, Tame Serves I R G Q pool.state worker) ∧
      workers.Pairwise (Compatible conflict)) ⟨hStart, [], rfl, by simp, .nil⟩ ?_ h
  have hEnds : ∀ a p s, I s → Safe I (R a) (G a) Q p s → ∀ r, p = .done r → ∃ t, Q r t := by
    rintro a p s hI hSafe r rfl
    exact ⟨s, hSafe s (hRefl a s) hI⟩
  rintro pool m pool' - ⟨hI, workers, hWorkers, hTame, hPairwise⟩ hAllowed hTurn
  cases hTurn with
  | spawned p =>
    obtain ⟨a, hServes, hClear, hSafe⟩ := hSpawn pool p hI hAllowed
    refine ⟨hI, workers ++ [(a, p)], by simp [hWorkers], ?_, ?_⟩
    · intro worker hMem
      rcases mem_append.mp hMem with hOld | hNew
      · exact hTame worker hOld
      · rw [mem_singleton.mp hNew]
        exact ⟨⟨p, hServes, .all⟩, fun _ => hSafe, hEnds a p _ hI hSafe⟩
    · refine pairwise_append.mpr ⟨hPairwise, pairwise_singleton _ _, ?_⟩
      intro worker hOld _ hNew hBusy _
      rw [mem_singleton.mp hNew]
      have hMem : worker.2 ∈ pool.workers := by
        rw [hWorkers]
        exact mem_map_of_mem hOld
      intro hConflict
      exact hClear worker.2 hMem hBusy worker.1 (hTame worker hOld).tagged (hSymm _ _ hConflict)
  | acted l r write next hAmong =>
    obtain ⟨L, rest, rfl, hL, hRest⟩ := map_eq_append_iff.mp (hWorkers ▸ hAmong)
    obtain ⟨⟨a, p⟩, R', rfl, hp, hR'⟩ := map_eq_cons_iff.mp hRest
    subst hp
    have hSelf := hTame (a, .call write next) (by simp)
    obtain ⟨hInv, hStep, hNext⟩ := hSelf.safe trivial pool.state (hRefl a _) hI
    obtain ⟨hLeft, hRight, hAcross⟩ := pairwise_append.mp hPairwise
    obtain ⟨hFirst, hRight⟩ := pairwise_cons.mp hRight
    -- A worker in progress beside this one relies on nothing that it changes.
    have hOther : ∀ worker, Tame Serves I R G Q pool.state worker →
        (worker.2.InProgress → ¬ conflict a worker.1) → Tame Serves I R G Q (write pool.state) worker := by
      intro worker hWorker hApartTags
      refine ⟨hWorker.tagged, fun hBusy => ?_, hWorker.ended⟩
      exact (hWorker.safe hBusy).delayed (hTrans worker.1)
        (hApart a worker.1 _ _ (hApartTags hBusy) hStep)
    refine ⟨hInv, L ++ (a, next pool.state) :: R', by simp [hL, hR'], ?_, ?_⟩
    · intro worker hMem
      rcases mem_append.mp hMem with hIn | hIn
      · apply hOther worker (hTame worker (by simp [hIn]))
        intro hBusy hConflict
        exact hAcross worker hIn (a, .call write next) mem_cons_self hBusy trivial
          (hSymm _ _ hConflict)
      · rcases mem_cons.mp hIn with rfl | hIn
        · obtain ⟨q, hServes, hRemains⟩ := hSelf.tagged
          exact ⟨⟨q, hServes, hRemains.after pool.state⟩, fun _ => hNext, hEnds a _ _ hInv hNext⟩
        · apply hOther worker (hTame worker (by simp [hIn]))
          exact hFirst worker hIn trivial
    · refine pairwise_append.mpr ⟨hLeft, pairwise_cons.mpr ⟨?_, hRight⟩, ?_⟩
      · exact fun worker hIn _ => hFirst worker hIn trivial
      · intro worker hIn other hMem hBusy
        rcases mem_cons.mp hMem with rfl | hMem
        · exact fun _ => hAcross worker hIn (a, .call write next) mem_cons_self hBusy trivial
        · exact hAcross worker hIn other (mem_cons_of_mem _ hMem) hBusy
  | stopped l r p hAmong =>
    obtain ⟨L, rest, rfl, hL, hRest⟩ := map_eq_append_iff.mp (hWorkers ▸ hAmong)
    obtain ⟨worker, R', rfl, hp, hR'⟩ := map_eq_cons_iff.mp hRest
    have hSublist : (L ++ R').Sublist (L ++ worker :: R') :=
      (List.Sublist.refl L).append (sublist_cons_self worker R')
    refine ⟨hI, L ++ R', by simp [hL, hR'], ?_, hPairwise.sublist hSublist⟩
    exact fun other hMem => hTame other (hSublist.subset hMem)

end

/-! ## Calls -/

section

variable {program : τ → Prog ε σ α} {conflict : τ → τ → Prop} {start : σ} {pool : Pool ε σ α}

/-- Calls begin at any time. -/
def Begins (program : τ → Prog ε σ α) (_ : Pool ε σ α) : Move ε σ α → Prop
  | .spawn p => ∃ call, p = program call
  | .act _ | .stop _ => True

/-- No call begins beside one that it conflicts with. -/
def BeginsApart (program : τ → Prog ε σ α) (conflict : τ → τ → Prop) (pool : Pool ε σ α) :
    Move ε σ α → Prop
  | .spawn p => ∃ call, p = program call ∧ Clear (fun call p => p = program call) conflict pool call
  | .act _ | .stop _ => True

theorem Arises.apart {I : σ → Prop} {R G : τ → σ → σ → Prop}
    (hSymm : ∀ a b, conflict a b → conflict b a)
    (hRefl : ∀ a s, R a s s) (hTrans : ∀ a s t u, R a s t → R a t u → R a s u)
    (hApart : ∀ a b s s', ¬ conflict a b → G a s s' → R b s s') (hStart : I start)
    {Q : Except ε α → σ → Prop} (hSafe : ∀ call s, Safe I (R call) (G call) Q (program call) s)
    (h : Arises (BeginsApart program conflict) start pool) :
    I pool.state ∧ ∀ r, .done r ∈ pool.workers → ∃ s, Q r s := by
  have hSpawn : ∀ (pool : Pool ε σ α) p, I pool.state → BeginsApart program conflict pool (.spawn p) →
      ∃ a, p = program a ∧ Clear (fun call p => p = program call) conflict pool a ∧
        Safe I (R a) (G a) Q p pool.state := by
    rintro pool p - ⟨call, rfl, hClear⟩
    exact ⟨call, rfl, hClear, hSafe call pool.state⟩
  obtain ⟨hI, workers, hWorkers, hTame, -⟩ := Arises.tame hSymm hRefl hTrans hApart hStart hSpawn h
  refine ⟨hI, fun r hr => ?_⟩
  obtain ⟨worker, hMem, hWorker⟩ := mem_map.mp (hWorkers ▸ hr)
  exact (hTame worker hMem).ended r hWorker

/-- Calls one after another. -/
def inTurn (program : τ → Prog ε σ α) (calls : List τ) (start : σ) : σ :=
  calls.foldl (fun s call => ((program call).run s).2) start

theorem Arises.inTurn (program : τ → Prog ε σ α) (conflict : τ → τ → Prop) (calls : List τ) (start : σ) :
    ∃ workers, Arises (BeginsApart program conflict) start ⟨inTurn program calls start, workers⟩ := by
  have hRest : ∀ (calls : List τ) (pool : Pool ε σ α), (∀ p ∈ pool.workers, ¬ p.InProgress) →
      Arises (BeginsApart program conflict) start pool → ∃ workers,
        Arises (BeginsApart program conflict) start ⟨Interleaving.inTurn program calls pool.state, workers⟩ := by
    intro calls
    induction calls with
    | nil => exact fun pool _ h => ⟨pool.workers, h⟩
    | cons call rest ih =>
      intro pool hDone h
      refine ih ⟨_, _⟩ ?_ (h.alone (fun _ _ => trivial)
        ⟨call, rfl, fun p hp hBusy => absurd hBusy (hDone p hp)⟩)
      intro p hp
      rcases mem_append.mp hp with hOld | hNew
      · exact hDone p hOld
      · rw [mem_singleton.mp hNew]
        exact id
  exact hRest calls ⟨start, []⟩ (by simp) .start

/-- A call begins, or a worker takes its next statement. -/
def schedule (program : τ → Prog ε σ α) (steps : List (τ ⊕ Nat)) (start : σ) : Option (Pool ε σ α) :=
  Pool.play ⟨start, []⟩ (steps.map (Sum.elim (fun call => .spawn (program call)) .act))

theorem Arises.scheduled {steps} {P : Pool ε σ α → Bool} (h : (schedule program steps start).any P = true) :
    ∃ pool, Arises (Begins program) start pool ∧ P pool = true := by
  obtain ⟨pool, hPool, hP⟩ := (Option.any_eq_true _ _).mp h
  refine ⟨pool, Arises.start.play (fun _ m hm => ?_) hPool, hP⟩
  obtain ⟨step, -, rfl⟩ := mem_map.mp hm
  cases step with
  | inl call => exact ⟨call, rfl⟩
  | inr worker => trivial

end

end Interleaving
