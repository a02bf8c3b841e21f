import Mathlib.Data.List.Sort

/-! # Rows in the order of a key -/

namespace OrderBy

open List

variable {ρ : Type} (key : ρ → Nat)

def orderBy (rows : List ρ) : List ρ := rows.insertionSort fun a b => key a ≤ key b

theorem orderBy_perm (rows : List ρ) : (orderBy key rows).Perm rows :=
  perm_insertionSort _ rows

theorem mem_orderBy {rows r} : r ∈ orderBy key rows ↔ r ∈ rows :=
  (orderBy_perm key rows).mem_iff

theorem orderBy_eq_self {rows} (h : rows.Pairwise fun a b => key a ≤ key b) : orderBy key rows = rows :=
  h.insertionSort_eq

end OrderBy
