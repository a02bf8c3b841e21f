import Mathlib.Algebra.GroupWithZero.Nat
import Mathlib.Data.Finset.Card
import Mathlib.Logic.Relation

/-! # Memory of a process tree

The watchdog sums the working sets of a job's process and of its descendants, over rows of
process id, parent id and bytes.  Ids are reused, so the parent links may hold a cycle.
-/

namespace LittleMonkey.Daemon.ProcessTree

open List Relation

structure Row where
  (pid parent : UInt32)
  bytes : UInt64

def visit (members : Finset UInt32) (row : Row) : Finset UInt32 :=
  if row.pid ≠ row.parent ∧ row.parent ∈ members then insert row.pid members else members

def pass (parsed : List Row) (members : Finset UInt32) : Finset UInt32 := parsed.foldl visit members

section

variable {parsed : List Row} {members : Finset UInt32} {row : Row} {P : UInt32 → Prop}

theorem subset_visit : members ⊆ visit members row := by
  unfold visit
  split
  · exact Finset.subset_insert row.pid members
  · exact Finset.Subset.refl members

theorem mem_visit (h : row.parent ∈ members) : row.pid ∈ visit members row := by
  unfold visit
  split
  · exact Finset.mem_insert_self row.pid members
  next hNot =>
    -- A process that is its own parent is a member already.
    have hSelf : row.pid = row.parent := by
      by_contra hOther
      exact hNot ⟨hOther, h⟩
    rw [hSelf]
    exact h

theorem subset_pass : members ⊆ pass parsed members := by
  induction parsed generalizing members with
  | nil => exact Finset.Subset.refl members
  | cons row rest ih => exact subset_visit.trans ih

theorem mem_pass (hRow : row ∈ parsed) (h : row.parent ∈ members) : row.pid ∈ pass parsed members := by
  induction parsed generalizing members with
  | nil => cases hRow
  | cons first rest ih =>
    rcases mem_cons.mp hRow with rfl | hRow
    · have hRest : visit members row ⊆ pass rest (visit members row) := subset_pass
      exact hRest (mem_visit h)
    · exact ih hRow (subset_visit h)

theorem pass_within (hP : ∀ row ∈ parsed, P row.parent → P row.pid) (h : ∀ m ∈ members, P m) :
    ∀ m ∈ pass parsed members, P m := by
  induction parsed generalizing members with
  | nil => exact h
  | cons row rest ih =>
    refine ih (fun row hRow => hP row (mem_cons_of_mem _ hRow)) fun m hm => ?_
    unfold visit at hm
    split at hm
    next hParent =>
      rcases Finset.mem_insert.mp hm with rfl | hm
      · exact hP row mem_cons_self (h _ hParent.2)
      · exact h m hm
    · exact h m hm

/-- Each pass but the last adds the id of a row. -/
theorem unseen_pass_lt (h : (pass parsed members).card ≠ members.card) :
    ((parsed.map (·.pid)).toFinset \ pass parsed members).card <
      ((parsed.map (·.pid)).toFinset \ members).card := by
  have hNew : ¬ pass parsed members ⊆ members := fun hSub => h (congrArg Finset.card (hSub.antisymm subset_pass))
  obtain ⟨m, hm, hFresh⟩ := Finset.not_subset.mp hNew
  have hIds : m ∈ members ∨ m ∈ parsed.map (·.pid) :=
    pass_within (P := fun m => m ∈ members ∨ m ∈ parsed.map (·.pid))
      (fun row hRow _ => .inr (mem_map_of_mem hRow)) (fun _ => .inl) m hm
  refine Finset.card_lt_card ⟨Finset.sdiff_subset_sdiff (Finset.Subset.refl _) subset_pass, fun hSub => ?_⟩
  have hUnseen := hSub (Finset.mem_sdiff.mpr ⟨mem_toFinset.mpr (hIds.resolve_left hFresh), hFresh⟩)
  exact (Finset.mem_sdiff.mp hUnseen).2 hm

end

/-- The loop of passes, until one adds nothing. -/
def settle (parsed : List Row) (members : Finset UInt32) : Finset UInt32 :=
  if _ : (pass parsed members).card = members.card then pass parsed members
  else settle parsed (pass parsed members)
termination_by ((parsed.map (·.pid)).toFinset \ members).card
decreasing_by exact unseen_pass_lt ‹_›

def sumProcessTreeWorkingSet (parsed : List Row) (root : UInt32) : Option Nat :=
  let members := settle parsed (if parsed.any (·.pid == root) then {root} else ∅)
  if members = ∅ then none
  else some ((parsed.filter (·.pid ∈ members)).foldl
    (fun total row => min (2 ^ 64 - 1) (total + row.bytes.toNat)) 0)

/-! ## What the loop gathers -/

def Parent (parsed : List Row) (parent pid : UInt32) : Prop :=
  ∃ row ∈ parsed, row.parent = parent ∧ row.pid = pid

open Classical in
/-- The bytes of all rows whose process is the root or is reached from it through parent links. -/
noncomputable def treeBytes (parsed : List Row) (root : UInt32) : Nat :=
  ((parsed.filter fun row => ReflTransGen (Parent parsed) root row.pid).map (·.bytes.toNat)).sum

section

variable {parsed : List Row} {members : Finset UInt32} {P : UInt32 → Prop}

theorem subset_settle : members ⊆ settle parsed members := by
  fun_induction settle with
  | case1 => exact subset_pass
  | case2 _ _ ih => exact subset_pass.trans ih

theorem settle_within (hP : ∀ row ∈ parsed, P row.parent → P row.pid) (h : ∀ m ∈ members, P m) :
    ∀ m ∈ settle parsed members, P m := by
  fun_induction settle with
  | case1 => exact pass_within hP h
  | case2 _ _ ih => exact ih (pass_within hP h)

theorem settle_closed {row} (hRow : row ∈ parsed) (h : row.parent ∈ settle parsed members) :
    row.pid ∈ settle parsed members := by
  fun_induction settle with
  | case1 members hCard =>
    have hSame := Finset.eq_of_subset_of_card_le subset_pass hCard.le
    rw [← hSame] at h
    exact mem_pass hRow h
  | case2 _ _ ih => exact ih h

theorem mem_settle {root m} : m ∈ settle parsed {root} ↔ ReflTransGen (Parent parsed) root m := by
  constructor
  · refine settle_within (fun row hRow hParent => hParent.tail ⟨row, hRow, rfl, rfl⟩) ?_ m
    intro m hm
    rw [Finset.mem_singleton.mp hm]
  · intro hReached
    induction hReached with
    | refl => exact subset_settle (Finset.mem_singleton_self root)
    | tail _ hLink ih =>
      obtain ⟨row, hRow, rfl, rfl⟩ := hLink
      exact settle_closed hRow ih

end

theorem foldl_saturating (rows : List Row) {total} (h : total ≤ (2 ^ 64 - 1)) :
    rows.foldl (fun total row => min (2 ^ 64 - 1) (total + row.bytes.toNat)) total =
      min (2 ^ 64 - 1) (total + (rows.map (·.bytes.toNat)).sum) := by
  induction rows generalizing total with
  | nil => rw [foldl_nil, map_nil, sum_nil, Nat.add_zero, min_eq_right h]
  | cons row rest ih =>
    rw [foldl_cons, ih (min_le_left _ _), map_cons, sum_cons]
    omega

open Classical in
/-- Over any rows the loop ends, and what it sums is the tree below the root. -/
theorem sumProcessTreeWorkingSet_eq (parsed : List Row) (root : UInt32) :
    sumProcessTreeWorkingSet parsed root =
      if ∃ row ∈ parsed, row.pid = root then some (min (2 ^ 64 - 1) (treeBytes parsed root)) else none := by
  unfold sumProcessTreeWorkingSet
  by_cases hRoot : ∃ row ∈ parsed, row.pid = root
  · have hAny : parsed.any (·.pid == root) = true := by simpa using hRoot
    have hMembers : settle parsed {root} ≠ ∅ := Finset.ne_empty_of_mem (mem_settle.mpr .refl)
    have hTree : parsed.filter (·.pid ∈ settle parsed {root}) =
        parsed.filter fun row => ReflTransGen (Parent parsed) root row.pid :=
      filter_congr fun row _ => by simp only [mem_settle]
    rw [if_pos hAny, if_neg hMembers, if_pos hRoot, foldl_saturating _ (Nat.zero_le _), Nat.zero_add, hTree,
      treeBytes]
  · have hAny : ¬ parsed.any (·.pid == root) = true := by simpa using hRoot
    have hNone : settle parsed ∅ = ∅ :=
      Finset.eq_empty_of_forall_notMem (settle_within (fun _ _ h => h) fun _ => Finset.notMem_empty _)
    rw [if_neg hAny, hNone, if_pos rfl, if_neg hRoot]

end LittleMonkey.Daemon.ProcessTree
