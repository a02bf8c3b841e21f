import Mathlib.Data.List.Chain
import Mathlib.Data.Set.Function

/-! # Hash chains

Rows are chained when each names the hash of the row before it.  If the hash
does not collide on the rows at hand, two chains with one tip are the same list
of rows, as far back as the shorter one reaches.
-/

namespace HashChain

open List

variable {ρ H : Type} {hash : ρ → H} {previous : ρ → Option H}

/-- A chain as its writer leaves it: each row went in at the end, with the hash
of the row that was last then. -/
inductive Grown (hash : ρ → H) (previous : ρ → Option H) : List ρ → Prop
  | nil : Grown hash previous []
  | snoc {rows} {row} (h : Grown hash previous rows)
      (hPrevious : previous row = rows.getLast?.map hash) : Grown hash previous (rows ++ [row])

end HashChain
