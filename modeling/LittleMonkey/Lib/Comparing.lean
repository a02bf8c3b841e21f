import Mathlib.Data.List.Sort

/-! # Sorting with a comparison

`sort_by`: a stable sort with a three-way comparison.  What compares as less comes first.
-/

namespace Comparing

open Std List

variable {α : Type} (cmp : α → α → Ordering)

def sortBy (xs : List α) : List α := xs.insertionSort fun a b => (cmp a b).isLE

theorem sortBy_perm (xs : List α) : (sortBy cmp xs).Perm xs := perm_insertionSort _ xs

theorem mem_sortBy {xs a} : a ∈ sortBy cmp xs ↔ a ∈ xs := (sortBy_perm cmp xs).mem_iff

/-- Every occurrence of the first stands before every occurrence of the second. -/
def Precedes (xs : List α) (a b : α) : Prop :=
  ∀ i j : Nat, xs[i]? = some a → xs[j]? = some b → i < j

theorem isLE_compareLex {first second} {a b : α} (h : (compareLex first second a b).isLE = true) :
    first a b = .lt ∨ first a b = .eq ∧ (second a b).isLE = true := by
  unfold compareLex at h
  cases hFirst : first a b with
  | lt => exact .inl rfl
  | eq => exact .inr ⟨rfl, by simpa [hFirst] using h⟩
  | gt => simp [hFirst] at h

variable [TransCmp cmp]

theorem sortBy_pairwise (xs : List α) : (sortBy cmp xs).Pairwise fun a b => (cmp a b).isLE = true := by
  have : Std.Total fun a b : α => (cmp a b).isLE = true := by
    constructor
    intro a b
    have hSwap : cmp b a = (cmp a b).swap := OrientedCmp.eq_swap
    rw [hSwap]
    cases cmp a b <;> simp
  have : IsTrans α fun a b : α => (cmp a b).isLE = true := ⟨fun _ _ _ => TransCmp.isLE_trans⟩
  exact pairwise_insertionSort _ xs

variable {cmp}

theorem precedes_of_lt {xs a b} (h : cmp a b = .lt) : Precedes (sortBy cmp xs) a b := by
  intro i j hi hj
  by_contra hNot
  obtain ⟨hiBound, hiEq⟩ := List.getElem?_eq_some_iff.mp hi
  obtain ⟨hjBound, hjEq⟩ := List.getElem?_eq_some_iff.mp hj
  have hSwap : cmp b a = (cmp a b).swap := OrientedCmp.eq_swap
  have hOther : (cmp b a).isLE = false := by
    rw [hSwap, h]
    rfl
  rcases Nat.lt_or_eq_of_le (Nat.le_of_not_lt hNot) with hLess | hSame
  · have hOrder := pairwise_iff_getElem.mp (sortBy_pairwise cmp xs) j i hjBound hiBound hLess
    rw [hiEq, hjEq, hOther] at hOrder
    cases hOrder
  · subst hSame
    rw [hi, Option.some.injEq] at hj
    subst hj
    rw [h] at hOther
    cases hOther

theorem not_precedes_of_gt {xs a b} (ha : a ∈ xs) (hb : b ∈ xs) (h : cmp a b = .gt) :
    ¬ Precedes (sortBy cmp xs) a b := by
  intro hBefore
  obtain ⟨i, hi⟩ := mem_iff_getElem?.mp ((mem_sortBy cmp).mpr ha)
  obtain ⟨j, hj⟩ := mem_iff_getElem?.mp ((mem_sortBy cmp).mpr hb)
  have hSwap : cmp b a = (cmp a b).swap := OrientedCmp.eq_swap
  rw [h] at hSwap
  have hAfter := precedes_of_lt hSwap j i hj hi
  have hFirst := hBefore i j hi hj
  omega

/-- What is sorted does not depend on the order it came in, if no two of them compare as equal. -/
theorem sortBy_eq_of_perm {xs ys} (h : xs.Perm ys)
    (hDistinct : ∀ a ∈ xs, ∀ b ∈ xs, cmp a b = .eq → a = b) : sortBy cmp xs = sortBy cmp ys := by
  have hSorted := (sortBy_perm cmp xs).trans (h.trans (sortBy_perm cmp ys).symm)
  refine hSorted.eq_of_pairwise ?_ (sortBy_pairwise cmp xs) (sortBy_pairwise cmp ys)
  intro a b ha hb hLe hGe
  have hb' := h.mem_iff.mpr ((mem_sortBy cmp).mp hb)
  exact hDistinct a ((mem_sortBy cmp).mp ha) b hb' (OrientedCmp.isLE_antisymm hLe hGe)

end Comparing
