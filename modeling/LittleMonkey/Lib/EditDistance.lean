import Mathlib.Order.MinMax

/-! # Edit distance

The distance is given by its recursion on the first entries.  Edit scripts show that it is
the least number of edits, and so the same for two lists read backwards or exchanged.
-/

namespace EditDistance

variable {α : Type}

/-- `n` insertions, deletions and replacements, made from left to right, turn one list into the other. -/
inductive Edits : Nat → List α → List α → Prop
  | done : Edits 0 [] []
  | keep (x) {n xs ys} : Edits n xs ys → Edits n (x :: xs) (x :: ys)
  | replace (x y) {n xs ys} : Edits n xs ys → Edits (n + 1) (x :: xs) (y :: ys)
  | insert (y) {n xs ys} : Edits n xs ys → Edits (n + 1) xs (y :: ys)
  | delete (x) {n xs ys} : Edits n xs ys → Edits (n + 1) (x :: xs) ys

variable {n m : Nat} {xs ys xs' ys' : List α}

theorem Edits.swap (h : Edits n xs ys) : Edits n ys xs := by
  induction h with
  | done => exact .done
  | keep x _ ih => exact .keep x ih
  | replace x y _ ih => exact .replace y x ih
  | insert y _ ih => exact .delete y ih
  | delete x _ ih => exact .insert x ih

theorem Edits.append (h : Edits n xs ys) (h' : Edits m xs' ys') :
    Edits (m + n) (xs ++ xs') (ys ++ ys') := by
  induction h with
  | done => exact h'
  | keep x _ ih => exact .keep x ih
  | replace x y _ ih => exact .replace x y ih
  | insert y _ ih => exact .insert y ih
  | delete x _ ih => exact .delete x ih

theorem Edits.reverse (h : Edits n xs ys) : Edits n xs.reverse ys.reverse := by
  induction h with
  | done => exact .done
  | keep x _ ih => simpa using ih.append (.keep x .done)
  | replace x y _ ih => simpa [Nat.add_comm] using ih.append (.replace x y .done)
  | insert y _ ih => simpa [Nat.add_comm] using ih.append (.insert y .done)
  | delete x _ ih => simpa [Nat.add_comm] using ih.append (.delete x .done)

theorem edits_insert_all (ys : List α) : Edits ys.length [] ys := by
  induction ys with
  | nil => exact .done
  | cons y ys ih => exact .insert y ih

variable [DecidableEq α]

def levenshtein : List α → List α → Nat
  | [], ys => ys.length
  | x :: xs, [] => xs.length + 1
  | x :: xs, y :: ys =>
    min (min (levenshtein xs ys + if x = y then 0 else 1) (levenshtein (x :: xs) ys + 1))
      (levenshtein xs (y :: ys) + 1)
termination_by xs ys => xs.length + ys.length

theorem levenshtein_nil (xs : List α) : levenshtein xs [] = xs.length := by
  cases xs with
  | nil => rw [levenshtein]
  | cons x xs => rw [levenshtein, List.length_cons]

theorem edits_levenshtein (xs ys : List α) : Edits (levenshtein xs ys) xs ys := by
  induction xs, ys using levenshtein.induct with
  | case1 ys =>
    rw [levenshtein]
    exact edits_insert_all ys
  | case2 x xs =>
    rw [levenshtein]
    exact (edits_insert_all (x :: xs)).swap
  | case3 x xs y ys hBoth hRight hLeft =>
    rw [levenshtein]
    -- The least of the three is one of them.
    rcases min_choice (min (levenshtein xs ys + if x = y then 0 else 1) (levenshtein (x :: xs) ys + 1))
        (levenshtein xs (y :: ys) + 1) with h | h
    · rw [h]
      rcases min_choice (levenshtein xs ys + if x = y then 0 else 1) (levenshtein (x :: xs) ys + 1) with h | h
      · rw [h]
        split
        · next hEq => exact hEq ▸ .keep x hBoth
        · exact .replace x y hBoth
      · rw [h]
        exact .insert y hRight
    · rw [h]
      exact .delete x hLeft

theorem levenshtein_insert_le (xs : List α) (y ys) :
    levenshtein xs (y :: ys) ≤ levenshtein xs ys + 1 := by
  cases xs with
  | nil =>
    rw [levenshtein, levenshtein]
    exact Nat.le_refl _
  | cons x xs =>
    rw [levenshtein]
    omega

theorem levenshtein_delete_le (x : α) (xs ys) :
    levenshtein (x :: xs) ys ≤ levenshtein xs ys + 1 := by
  cases ys with
  | nil =>
    rw [levenshtein_nil, levenshtein_nil]
    exact Nat.le_refl _
  | cons y ys =>
    rw [levenshtein]
    omega

theorem levenshtein_le (h : Edits n xs ys) : levenshtein xs ys ≤ n := by
  induction h with
  | done =>
    rw [levenshtein]
    exact Nat.le_refl 0
  | keep x _ ih =>
    rw [levenshtein, if_pos rfl]
    omega
  | replace x y _ ih =>
    rw [levenshtein]
    split <;> omega
  | @insert y _ xs ys _ ih =>
    have := levenshtein_insert_le xs y ys
    omega
  | @delete x _ xs ys _ ih =>
    have := levenshtein_delete_le x xs ys
    omega

theorem levenshtein_comm (xs ys : List α) : levenshtein xs ys = levenshtein ys xs :=
  Nat.le_antisymm (levenshtein_le (edits_levenshtein ys xs).swap) (levenshtein_le (edits_levenshtein xs ys).swap)

theorem levenshtein_reverse (xs ys : List α) : levenshtein xs.reverse ys.reverse = levenshtein xs ys := by
  apply Nat.le_antisymm (levenshtein_le (edits_levenshtein xs ys).reverse)
  apply levenshtein_le
  simpa using (edits_levenshtein xs.reverse ys.reverse).reverse

end EditDistance
