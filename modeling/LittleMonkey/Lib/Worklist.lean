import Mathlib.Data.List.Perm.Subperm
import Mathlib.Data.List.Nodup
import Mathlib.Logic.Relation

/-! # Closure by a worklist

What is reached from a start over a successor function, gathered with a stack of the items
whose successors are still to be looked at.  Over finitely many items as many rounds as
there are items are enough, and the result is exactly what the edges reach.
-/

namespace Worklist

open List

variable {α : Type} [DecidableEq α]

structure State (α : Type) where
  (queue seen : List α)

def State.visit (s : State α) (a : α) : State α :=
  if a ∈ s.seen then s else ⟨a :: s.queue, a :: s.seen⟩

/-- One round takes an item from the stack and visits its successors. -/
def State.round (next : α → List α) (s : State α) : State α :=
  match s.queue with
  | [] => s
  | a :: rest => (next a).foldl State.visit ⟨rest, s.seen⟩

def run (next : α → List α) : Nat → State α → State α
  | 0, s => s
  | n + 1, s => run next n (s.round next)

/-- What is reached in as many rounds as there are items. -/
def closure (next : α → List α) (rounds : Nat) (start : α) : List α :=
  (run next rounds ⟨[start], [start]⟩).seen

/-! ## Invariant -/

/-- After `n` rounds: `n` of the items seen, or all of them, have had their successors seen. -/
structure Inv (next : α → List α) (members : List α) (start : α) (n : Nat) (s : State α) : Prop where
  begun : start ∈ s.seen
  nodup : s.seen.Nodup
  queueNodup : s.queue.Nodup
  within : s.seen ⊆ members
  queued : s.queue ⊆ s.seen
  closed : ∀ a ∈ s.seen, a ∉ s.queue → next a ⊆ s.seen
  reached : ∀ a ∈ s.seen, Relation.ReflTransGen (fun a b => b ∈ next a) start a
  rounds : s.queue = [] ∨ s.queue.length + n = s.seen.length

section

variable {next : α → List α} {members : List α} {start a : α} {n : Nat} {s : State α} {rest xs : List α}

/-- In the middle of a round: the item is off the stack, and `xs` are its successors so far. -/
structure Midway (next : α → List α) (members : List α) (start a : α) (n : Nat) (xs : List α)
    (s : State α) : Prop where
  begun : start ∈ s.seen
  item : a ∈ s.seen
  nodup : s.seen.Nodup
  queueNodup : s.queue.Nodup
  within : s.seen ⊆ members
  queued : s.queue ⊆ s.seen
  closed : ∀ b ∈ s.seen, b ∉ s.queue → b ≠ a → next b ⊆ s.seen
  visited : xs ⊆ s.seen
  reached : ∀ b ∈ s.seen, Relation.ReflTransGen (fun a b => b ∈ next a) start b
  rounds : s.queue.length + (n + 1) = s.seen.length

theorem Midway.visit {b} (h : Midway next members start a n xs s) (hb : b ∈ next a)
    (hUniverse : b ∈ members) : Midway next members start a n (b :: xs) (s.visit b) := by
  unfold State.visit
  split
  next hSeen =>
    exact { h with visited := cons_subset.mpr ⟨hSeen, h.visited⟩ }
  next hNew =>
    have hFresh : b ∉ s.queue := fun hMem => hNew (h.queued hMem)
    constructor
    · exact mem_cons_of_mem b h.begun
    · exact mem_cons_of_mem b h.item
    · exact nodup_cons.mpr ⟨hNew, h.nodup⟩
    · exact nodup_cons.mpr ⟨hFresh, h.queueNodup⟩
    · exact cons_subset.mpr ⟨hUniverse, h.within⟩
    · exact cons_subset_cons b h.queued
    · intro c hc hNot hOther
      rw [mem_cons, not_or] at hNot
      have hOld := (mem_cons.mp hc).resolve_left hNot.1
      exact List.Subset.trans (h.closed c hOld hNot.2 hOther) (subset_cons_self b _)
    · exact cons_subset.mpr ⟨mem_cons_self, List.Subset.trans h.visited (subset_cons_self b _)⟩
    · intro c hc
      rcases mem_cons.mp hc with rfl | hOld
      · exact (h.reached a h.item).tail hb
      · exact h.reached c hOld
    · have hCount := h.rounds
      simp only [length_cons]
      omega

theorem Midway.foldl {ys} (h : Midway next members start a n xs s) (hys : ys ⊆ next a)
    (hUniverse : next a ⊆ members) :
    Midway next members start a n (ys.reverse ++ xs) (ys.foldl State.visit s) := by
  induction ys generalizing s xs with
  | nil => exact h
  | cons y ys ih =>
    obtain ⟨hy, hys⟩ := cons_subset.mp hys
    rw [reverse_cons, append_assoc]
    exact ih (h.visit hy (hUniverse hy)) hys

theorem Inv.round (h : Inv next members start n s) (hUniverse : ∀ a ∈ members, next a ⊆ members) :
    Inv next members start (n + 1) (s.round next) := by
  unfold State.round
  cases hQueue : s.queue with
  | nil => exact { h with rounds := .inl hQueue }
  | cons a rest =>
    have hItem : a ∈ s.seen := h.queued (by rw [hQueue]; exact mem_cons_self)
    have hNodup := h.queueNodup
    rw [hQueue] at hNodup
    obtain ⟨hGone, hRest⟩ := nodup_cons.mp hNodup
    have hBegin : Midway next members start a n [] ⟨rest, s.seen⟩ := by
      constructor
      · exact h.begun
      · exact hItem
      · exact h.nodup
      · exact hRest
      · exact h.within
      · intro b hb
        exact h.queued (by rw [hQueue]; exact mem_cons_of_mem a hb)
      · intro b hb hNot hOther
        exact h.closed b hb (by rw [hQueue, mem_cons, not_or]; exact ⟨hOther, hNot⟩)
      · exact nil_subset _
      · exact h.reached
      · have hCount := h.rounds
        rw [hQueue] at hCount
        simp only [reduceCtorEq, length_cons, false_or] at hCount
        dsimp only
        omega
    have hEnd := hBegin.foldl (List.Subset.refl _) (hUniverse a (h.within hItem))
    rw [append_nil] at hEnd
    constructor
    · exact hEnd.begun
    · exact hEnd.nodup
    · exact hEnd.queueNodup
    · exact hEnd.within
    · exact hEnd.queued
    · intro b hb hNot
      by_cases hSelf : b = a
      · subst hSelf
        intro c hc
        exact hEnd.visited (mem_reverse.mpr hc)
      · exact hEnd.closed b hb hNot hSelf
    · exact hEnd.reached
    · exact .inr hEnd.rounds

theorem Inv.run {k} (h : Inv next members start n s) (hUniverse : ∀ a ∈ members, next a ⊆ members) :
    Inv next members start (n + k) (Worklist.run next k s) := by
  induction k generalizing n s with
  | zero => exact h
  | succ k ih =>
    have hNext := ih (h.round hUniverse)
    rwa [show n + 1 + k = n + (k + 1) by omega] at hNext

omit [DecidableEq α] in
theorem inv_start (hStart : start ∈ members) : Inv next members start 0 ⟨[start], [start]⟩ := by
  constructor
  · exact mem_singleton_self start
  · exact nodup_singleton start
  · exact nodup_singleton start
  · exact cons_subset.mpr ⟨hStart, nil_subset _⟩
  · exact List.Subset.refl _
  · intro a ha hNot
    exact absurd ha hNot
  · intro a ha
    rw [mem_singleton.mp ha]
  · exact .inr rfl

theorem queue_run_eq_nil (hStart : start ∈ members) (hUniverse : ∀ a ∈ members, next a ⊆ members) :
    (Worklist.run next members.length ⟨[start], [start]⟩).queue = [] := by
  have h : Inv next members start (0 + members.length) _ := (inv_start hStart).run hUniverse
  rcases h.rounds with hEmpty | hCount
  · exact hEmpty
  · have hBound := (subperm_of_subset h.nodup h.within).length_le
    apply eq_nil_of_length_eq_zero
    omega

theorem mem_closure (hStart : start ∈ members) (hUniverse : ∀ a ∈ members, next a ⊆ members) :
    a ∈ closure next members.length start ↔ Relation.ReflTransGen (fun a b => b ∈ next a) start a := by
  have h : Inv next members start (0 + members.length) _ := (inv_start hStart).run hUniverse
  constructor
  · exact h.reached a
  · intro hReached
    induction hReached with
    | refl => exact h.begun
    | tail _ hEdge ih =>
      apply h.closed _ ih
      · rw [queue_run_eq_nil hStart hUniverse]
        exact not_mem_nil
      · exact hEdge

end

end Worklist
