import Mathlib.Algebra.BigOperators.Group.List.Basic
import Mathlib.Algebra.GroupWithZero.Nat
import Mathlib.Data.List.Forall2
import Mathlib.Data.List.Nodup

/-! # Lists

Facts about related lists and about lists that grow by at most one entry.
-/

namespace Lists

open List

theorem map_eq_of_forall₂ {α β γ : Type} {R : α → β → Prop} {f} {g : β → γ}
    (hR : ∀ a b, R a b → f a = g b) {xs ys} (h : List.Forall₂ R xs ys) : xs.map f = ys.map g := by
  induction h with
  | nil => rfl
  | cons hab _ ih => rw [map_cons, map_cons, hR _ _ hab, ih]

theorem exists_of_mem_forall₂ {α β : Type} {R : α → β → Prop} {xs ys}
    (h : List.Forall₂ R xs ys) {a} (ha : a ∈ xs) : ∃ b ∈ ys, R a b := by
  induction h with
  | nil => cases ha
  | cons hab _ ih =>
    rcases mem_cons.mp ha with rfl | ha
    · exact ⟨_, mem_cons_self, hab⟩
    · obtain ⟨b, hb, hR⟩ := ih ha
      exact ⟨b, mem_cons_of_mem _ hb, hR⟩

theorem length_le_one_of_const {α β : Type} {f} {xs : List α} {c : β}
    (hNodup : (xs.map f).Nodup) (hConst : ∀ x ∈ xs, f x = c) : xs.length ≤ 1 := by
  have hReplicate : xs.map f = List.replicate xs.length c :=
    eq_replicate_iff.mpr ⟨length_map f, by simpa using hConst⟩
  rw [hReplicate] at hNodup
  exact nodup_replicate.mp hNodup

theorem countP_le_one_of_pairwise {α : Type} {R : α → α → Prop} {p} {xs : List α}
    (h : xs.Pairwise R) (hApart : ∀ a b, p a = true → p b = true → ¬ R a b) : xs.countP p ≤ 1 := by
  induction h with
  | nil => exact Nat.zero_le 1
  | @cons a xs hFirst _ ih =>
    by_cases ha : p a = true
    · have hNone : xs.countP p = 0 := by
        apply countP_eq_zero.mpr
        intro b hb hpb
        exact hApart a b ha hpb (hFirst b hb)
      apply Nat.le_of_eq
      rw [countP_cons_of_pos ha, hNone]
    · rw [countP_cons_of_neg ha]
      exact ih

theorem length_filter_le_one {α β : Type} [DecidableEq β] {f} {xs : List α}
    (h : (xs.map f).Nodup) (b : β) : (xs.filter fun a => f a = b).length ≤ 1 := by
  rw [← countP_eq_length_filter]
  apply countP_le_one_of_pairwise (pairwise_map.mp h)
  intro a a' ha ha' hDistinct
  exact hDistinct ((of_decide_eq_true ha).trans (of_decide_eq_true ha').symm)

theorem takeWhile_take {α : Type} (p : α → Bool) (n : Nat) (xs : List α) :
    (xs.take n).takeWhile p = (xs.takeWhile p).take n := by
  induction xs generalizing n with
  | nil => simp
  | cons x rest ih =>
    cases n with
    | zero => rfl
    | succ n =>
      rw [take_succ_cons, takeWhile_cons, takeWhile_cons, ih]
      split
      · rfl
      · rfl

theorem filterMap_append_ite {α β : Type} {p : Prop} [Decidable p] (f : α → Option β) (xs : List α) (a : α) :
    (xs ++ if p then [a] else []).filterMap f = xs.filterMap f ++ if p then (f a).toList else [] := by
  rw [filterMap_append]
  split
  · cases hf : f a <;> simp [hf]
  · rfl

theorem le_foldl_max {values : List Nat} {n value} (h : value ∈ values ∨ value ≤ n) :
    value ≤ values.foldl max n := by
  induction values generalizing n with
  | nil => simpa using h
  | cons x values ih =>
    refine ih ?_
    rcases h with hMem | hLe
    · rcases mem_cons.mp hMem with rfl | hMem
      · exact .inr (Nat.le_max_right n value)
      · exact .inl hMem
    · exact .inr (Nat.le_trans hLe (Nat.le_max_left n x))

theorem append_cons_inj_of_notMem_left {α : Type} {a} {xs ys xs' ys' : List α} (hxs : a ∉ xs)
    (hxs' : a ∉ xs') (h : xs ++ a :: ys = xs' ++ a :: ys') : xs = xs' ∧ ys = ys' := by
  induction xs generalizing xs' with
  | nil =>
    cases xs' with
    | nil => exact ⟨rfl, tail_eq_of_cons_eq h⟩
    | cons x' xs' =>
      obtain rfl : a = x' := head_eq_of_cons_eq h
      exact absurd mem_cons_self hxs'
  | cons x xs ih =>
    cases xs' with
    | nil =>
      obtain rfl : x = a := head_eq_of_cons_eq h
      exact absurd mem_cons_self hxs
    | cons x' xs' =>
      obtain ⟨rfl, hTail⟩ := cons_eq_cons.mp h
      obtain ⟨rfl, rfl⟩ := ih (fun ha => hxs (mem_cons_of_mem _ ha))
        (fun ha => hxs' (mem_cons_of_mem _ ha)) hTail
      exact ⟨rfl, rfl⟩

/-- `chunks`, in as many turns as there are members at most. -/
def chunks {α : Type} (size : Nat) : Nat → List α → List (List α)
  | 0, _ => []
  | _, [] => []
  | turns + 1, x :: xs => (x :: xs).take size :: chunks size turns ((x :: xs).drop size)

theorem flatten_chunks_sublist {α : Type} (size turns : Nat) (xs : List α) :
    (chunks size turns xs).flatten.Sublist xs := by
  induction turns generalizing xs with
  | zero => exact nil_sublist xs
  | succ turns ih =>
    cases xs with
    | nil => exact nil_sublist []
    | cons x xs =>
      have h := (ih ((x :: xs).drop size)).append_left ((x :: xs).take size)
      rwa [take_append_drop] at h

theorem flatten_chunks {α : Type} {size turns} {xs : List α} (hSize : 0 < size)
    (hTurns : xs.length ≤ turns) : (chunks size turns xs).flatten = xs := by
  induction turns generalizing xs with
  | zero =>
    rw [length_eq_zero_iff.mp (Nat.le_zero.mp hTurns)]
    rfl
  | succ turns ih =>
    cases xs with
    | nil => rfl
    | cons x xs =>
      have hRest : ((x :: xs).drop size).length ≤ turns := by
        rw [length_drop]
        omega
      rw [chunks, flatten_cons, ih hRest, take_append_drop]

theorem sum_ite_le {levels : List Nat} (h : levels.Nodup) (level amount : Nat) :
    (levels.map fun l => if level = l then amount else 0).sum ≤ amount := by
  induction levels with
  | nil => simp
  | cons l levels ih =>
    rw [nodup_cons] at h
    rw [map_cons, sum_cons]
    split
    · next hSame =>
      subst hSame
      have hZero : (levels.map fun l => if level = l then amount else 0).sum = 0 := by
        apply sum_eq_zero
        intro found hFound
        obtain ⟨l, hl, rfl⟩ := mem_map.mp hFound
        apply if_neg
        rintro rfl
        exact h.1 hl
      omega
    · have hRest := ih h.2
      omega

theorem sum_by_key_le {α : Type} (key weight : α → Nat) {levels : List Nat} (h : levels.Nodup) (xs : List α) :
    (levels.map fun l => ((xs.filter fun x => key x = l).map weight).sum).sum ≤ (xs.map weight).sum := by
  induction xs with
  | nil => simp
  | cons x xs ih =>
    have hSplit : (levels.map fun l => (((x :: xs).filter fun y => key y = l).map weight).sum) =
        levels.map fun l => (if key x = l then weight x else 0) +
          ((xs.filter fun y => key y = l).map weight).sum := by
      apply map_congr_left
      intro l _
      by_cases hKey : key x = l
      · simp [hKey]
      · simp [hKey]
    rw [hSplit, sum_map_add, map_cons]
    exact Nat.add_le_add (sum_ite_le h (key x) (weight x)) ih

end Lists
