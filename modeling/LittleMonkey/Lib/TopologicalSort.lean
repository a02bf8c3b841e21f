import Mathlib.Data.List.Perm.Subperm
import Mathlib.Data.List.Sort
import Mathlib.Logic.Function.Basic
import Mathlib.Logic.Relation
import Mathlib.Order.WellFounded
import Mathlib.Data.Set.Finite.Basic

/-! # Topological sort by counting

Items become ready when the count of their open dependencies falls to zero; the first of the
ready ones is taken next, and its level is one above the highest of its dependencies.  The
sort takes every item exactly if there is no cycle; an item that was taken has all of its
dependencies at lower levels.
-/

namespace TopologicalSort

open List

variable {α : Type} [DecidableEq α] (le : α → α → Prop) [DecidableRel le]

structure State (α : Type) where
  ready : List α
  count : α → Nat
  order : List α
  level : α → Nat

def State.release (s : State α) (child : α) : State α :=
  let count := s.count child - 1
  { s with
    count := Function.update s.count child count
    ready := if count = 0 then s.ready.orderedInsert le child else s.ready }

variable (items : List α) (deps : α → List α)

def children (a : α) : List α :=
  items.filter fun b => a ∈ deps b

def State.take (s : State α) (a : α) (rest : List α) : State α :=
  (children items deps a).foldl (State.release le)
    { s with
      ready := rest
      order := s.order ++ [a]
      level := Function.update s.level a ((deps a).foldl (fun top d => max top (s.level d + 1)) 0) }

def run (items : List α) (deps : α → List α) : Nat → State α → State α
  | 0, s => s
  | n + 1, s =>
    match s.ready with
    | [] => s
    | a :: rest => run items deps n (s.take le items deps a rest)

def start : State α where
  ready := (items.filter fun a => (deps a).length = 0).insertionSort le
  count a := (deps a).length
  order := []
  level _ := 0

def sort : State α :=
  run le items deps items.length (start le items deps)

/-! ## One round -/

section

variable {le} {s : State α} {cs : List α} {a : α}

theorem count_foldl_release (h : cs.Nodup) :
    (cs.foldl (State.release le) s).count a = if a ∈ cs then s.count a - 1 else s.count a := by
  induction cs generalizing s with
  | nil => simp
  | cons c cs ih =>
    obtain ⟨hc, hcs⟩ := nodup_cons.mp h
    rw [foldl_cons, ih hcs]
    dsimp only [State.release]
    by_cases ha : a = c
    · subst ha
      rw [if_neg hc, if_pos mem_cons_self, Function.update_self]
    · simp [ha]

theorem mem_ready_foldl_release (h : cs.Nodup) :
    a ∈ (cs.foldl (State.release le) s).ready ↔ a ∈ s.ready ∨ (a ∈ cs ∧ s.count a - 1 = 0) := by
  induction cs generalizing s with
  | nil => simp
  | cons c cs ih =>
    obtain ⟨hc, hcs⟩ := nodup_cons.mp h
    rw [foldl_cons, ih hcs]
    dsimp only [State.release]
    by_cases ha : a = c
    · subst ha
      split
      · simp [mem_orderedInsert, *]
      next hCount =>
        simp [hc, hCount]
    · split
      · simp [ha]
      · simp [ha]

theorem nodup_ready_foldl_release (h : cs.Nodup) (hReady : s.ready.Nodup)
    (hApart : ∀ c ∈ cs, c ∉ s.ready) : (cs.foldl (State.release le) s).ready.Nodup := by
  induction cs generalizing s with
  | nil => exact hReady
  | cons c cs ih =>
    obtain ⟨hc, hcs⟩ := nodup_cons.mp h
    apply ih hcs
    · dsimp only [State.release]
      split
      · exact ((perm_orderedInsert le c s.ready).nodup_iff).mpr
          (nodup_cons.mpr ⟨hApart c mem_cons_self, hReady⟩)
      · exact hReady
    · intro d hd
      have hOld := hApart d (mem_cons_of_mem c hd)
      dsimp only [State.release]
      split
      · rw [mem_orderedInsert, not_or]
        exact ⟨fun hSame => hc (hSame ▸ hd), hOld⟩
      · exact hOld

theorem order_foldl_release : (cs.foldl (State.release le) s).order = s.order := by
  induction cs generalizing s with
  | nil => rfl
  | cons c cs ih => rw [foldl_cons, ih]; rfl

theorem level_foldl_release : (cs.foldl (State.release le) s).level = s.level := by
  induction cs generalizing s with
  | nil => rfl
  | cons c cs ih => rw [foldl_cons, ih]; rfl

omit [DecidableEq α] in
theorem le_foldl_level {f : α → Nat} {ds : List α} {d} (n : Nat) (h : d ∈ ds) :
    f d + 1 ≤ ds.foldl (fun top d => max top (f d + 1)) n := by
  have hMono : ∀ (ds : List α) (n : Nat), n ≤ ds.foldl (fun top d => max top (f d + 1)) n := by
    intro ds
    induction ds with
    | nil => exact fun n => Nat.le_refl n
    | cons e ds ih => exact fun n => (Nat.le_max_left n (f e + 1)).trans (ih _)
  induction ds generalizing n with
  | nil => cases h
  | cons e ds ih =>
    rcases mem_cons.mp h with rfl | h
    · exact (Nat.le_max_right n (f d + 1)).trans (hMono ds _)
    · exact ih _ h

end

/-! ## Invariant -/

/-- Distinct items whose dependencies are distinct other items. -/
structure Proper : Prop where
  nodup : items.Nodup
  depsNodup : ∀ a ∈ items, (deps a).Nodup
  irrefl : ∀ a ∈ items, a ∉ deps a

structure Inv (s : State α) : Prop where
  orderNodup : s.order.Nodup
  orderWithin : s.order ⊆ items
  readyNodup : s.ready.Nodup
  ready : ∀ a, a ∈ s.ready ↔ a ∈ items ∧ a ∉ s.order ∧ deps a ⊆ s.order
  count : ∀ a ∈ items, s.count a = ((deps a).filter fun d => d ∉ s.order).length
  lower : ∀ a ∈ s.order, ∀ d ∈ deps a, d ∈ s.order ∧ s.level d < s.level a

section

variable {le} {items : List α} {deps : α → List α} {s : State α} {a : α} {rest : List α}

theorem inv_start (h : Proper items deps) : Inv items deps (start le items deps) := by
  constructor
  · exact nodup_nil
  · exact nil_subset _
  · exact ((perm_insertionSort le _).nodup_iff).mpr (h.nodup.filter _)
  · intro a
    simp [start]
  · intro a _
    simp [start]
  · intro a ha
    cases ha

theorem length_open_of_mem {b order} (hNodup : (deps b).Nodup) (ha : a ∈ deps b) (hOpen : a ∉ order) :
    ((deps b).filter fun d => d ∉ order).length = ((deps b).filter fun d => d ∉ order ++ [a]).length + 1 := by
  have hErase : (deps b).filter (fun d => d ∉ order ++ [a]) =
      ((deps b).filter fun d => d ∉ order).erase a := by
    rw [(hNodup.filter _).erase_eq_filter, filter_filter]
    apply filter_congr
    intro d _
    by_cases hd : d = a
    · simp [hd]
    · simp [hd]
  have hMem : a ∈ (deps b).filter fun d => d ∉ order := by simp [ha, hOpen]
  rw [hErase, length_erase_of_mem hMem]
  have hPos := length_pos_of_mem hMem
  omega

theorem filter_open_of_notMem {b order} (ha : a ∉ deps b) :
    (deps b).filter (fun d => d ∉ order ++ [a]) = (deps b).filter fun d => d ∉ order := by
  apply filter_congr
  intro d hd
  have hOther : d ≠ a := fun hSame => ha (hSame ▸ hd)
  simp [hOther]

theorem Inv.take (h : Inv items deps s) (hProper : Proper items deps) (hReady : s.ready = a :: rest) :
    Inv items deps (s.take le items deps a rest) := by
  obtain ⟨ha, hOpen, hDeps⟩ := (h.ready a).mp (by rw [hReady]; exact mem_cons_self)
  have hNodup := h.readyNodup
  rw [hReady] at hNodup
  obtain ⟨hGone, hRest⟩ := nodup_cons.mp hNodup
  have hChildren : (children items deps a).Nodup := hProper.nodup.filter _
  have hMemRest : ∀ b, b ∈ rest ↔ b ≠ a ∧ b ∈ s.ready := by
    intro b
    rw [hReady, mem_cons]
    constructor
    · exact fun hb => ⟨fun hSame => hGone (hSame ▸ hb), .inr hb⟩
    · exact fun ⟨hOther, hb⟩ => hb.resolve_left hOther
  constructor
  · simp only [State.take, order_foldl_release]
    exact List.Nodup.append h.orderNodup (nodup_singleton a) (by simpa using hOpen)
  · simp only [State.take, order_foldl_release]
    exact append_subset.mpr ⟨h.orderWithin, by simpa using ha⟩
  · apply nodup_ready_foldl_release hChildren hRest
    intro c hc hcRest
    obtain ⟨-, hcReady⟩ := (hMemRest c).mp hcRest
    obtain ⟨-, -, hcDeps⟩ := (h.ready c).mp hcReady
    have hEdge : a ∈ deps c := by simpa [children] using (mem_filter.mp hc).2
    exact hOpen (hcDeps hEdge)
  · intro b
    simp only [State.take, order_foldl_release, mem_ready_foldl_release hChildren, hMemRest b, h.ready b]
    by_cases hb : b ∈ items
    · by_cases hEdge : a ∈ deps b
      · have hLength := length_open_of_mem (hProper.depsNodup b hb) hEdge hOpen
        have hCount := h.count b hb
        have hSelf : b ≠ a := fun hSame => hProper.irrefl a ha (hSame ▸ hEdge)
        have hNot : ¬ deps b ⊆ s.order := fun hAll => hOpen (hAll hEdge)
        have hChild : b ∈ children items deps a := by simp [children, hb, hEdge]
        have hZero : s.count b - 1 = 0 ↔ deps b ⊆ s.order ++ [a] := by
          rw [hCount, hLength, Nat.add_sub_cancel, length_eq_zero_iff, filter_eq_nil_iff]
          constructor
          · intro hAll d hd
            by_contra hStill
            exact hAll d hd (decide_eq_true hStill)
          · intro hAll d hd hStill
            exact of_decide_eq_true hStill (hAll hd)
        simp only [hb, hSelf, hNot, hChild, hZero, mem_append, mem_singleton, not_or, not_false_eq_true, and_true, and_false, true_and, false_or]
        constructor
        · intro hAll
          refine ⟨fun hDone => ?_, hAll⟩
          exact hNot fun d hd => (h.lower b hDone d hd).1
        · exact fun hAll => hAll.2
      · have hChild : b ∉ children items deps a := by simp [children, hEdge]
        have hSame : deps b ⊆ s.order ++ [a] ↔ deps b ⊆ s.order := by
          constructor
          · intro hAll d hd
            rcases mem_append.mp (hAll hd) with hOld | hNew
            · exact hOld
            · exact absurd (mem_singleton.mp hNew ▸ hd) hEdge
          · exact fun hAll d hd => mem_append_left _ (hAll hd)
        simp only [hChild, mem_append, mem_singleton,
          false_and, or_false]
        tauto
    · have hChild : b ∉ children items deps a := by simp [children, hb]
      simp [hb, hChild]
  · intro b hb
    simp only [State.take, order_foldl_release, count_foldl_release hChildren]
    by_cases hEdge : a ∈ deps b
    · have hChild : b ∈ children items deps a := by simp [children, hb, hEdge]
      rw [if_pos hChild, h.count b hb, length_open_of_mem (hProper.depsNodup b hb) hEdge hOpen]
      exact Nat.add_sub_cancel _ _
    · have hChild : b ∉ children items deps a := by simp [children, hEdge]
      rw [if_neg hChild, h.count b hb, filter_open_of_notMem hEdge]
  · simp only [State.take, order_foldl_release, level_foldl_release]
    intro b hb d hd
    rcases mem_append.mp hb with hOld | hNew
    · obtain ⟨hdOrder, hLower⟩ := h.lower b hOld d hd
      have hdOther : d ≠ a := fun hSame => hOpen (hSame ▸ hdOrder)
      have hbOther : b ≠ a := fun hSame => hOpen (hSame ▸ hOld)
      rw [Function.update_of_ne hdOther, Function.update_of_ne hbOther]
      exact ⟨mem_append_left _ hdOrder, hLower⟩
    · rw [mem_singleton.mp hNew] at hd ⊢
      have hdOther : d ≠ a := fun hSame => hProper.irrefl a ha (hSame ▸ hd)
      rw [Function.update_of_ne hdOther, Function.update_self]
      exact ⟨mem_append_left _ (hDeps hd), le_foldl_level 0 hd⟩

theorem Inv.run {n} (h : Inv items deps s) (hProper : Proper items deps) :
    Inv items deps (TopologicalSort.run le items deps n s) := by
  induction n generalizing s with
  | zero => exact h
  | succ n ih =>
    unfold TopologicalSort.run
    cases hReady : s.ready with
    | nil => exact h
    | cons a rest => exact ih (h.take hProper hReady)

theorem inv_sort (hProper : Proper items deps) : Inv items deps (sort le items deps) :=
  (inv_start hProper).run hProper

theorem perm_of_length_eq (hProper : Proper items deps)
    (hLength : (sort le items deps).order.length = items.length) : (sort le items deps).order.Perm items := by
  have h : Inv items deps (sort le items deps) := inv_sort hProper
  exact List.Subperm.perm_of_length_le (subperm_of_subset h.orderNodup h.orderWithin)
    (Nat.le_of_eq hLength.symm)

end

/-! ## Cycles -/

section

variable {β : Type} {r : β → β → Prop}

theorem exists_minimal_of_acyclic (hAcyclic : ∀ a, ¬ Relation.TransGen r a a) {xs} (hSome : xs ≠ []) :
    ∃ a ∈ xs, ∀ b ∈ xs, ¬ r a b := by
  let within : {a // a ∈ xs} → {a // a ∈ xs} → Prop := fun b a => Relation.TransGen r a.1 b.1
  have hFinite : Finite {a // a ∈ xs} := (finite_toSet xs).to_subtype
  have hIrrefl : Std.Irrefl within := ⟨fun a => hAcyclic a.1⟩
  have hFounded : WellFounded within := Finite.wellFounded_of_trans_of_irrefl within
  obtain ⟨first, hFirst⟩ := exists_mem_of_ne_nil xs hSome
  obtain ⟨a, -, hMin⟩ := hFounded.has_min Set.univ ⟨⟨first, hFirst⟩, trivial⟩
  exact ⟨a.1, a.2, fun b hb hEdge => hMin ⟨b, hb⟩ trivial (.single hEdge)⟩

theorem acyclic_of_rank (rank : β → Nat) (hRank : ∀ a b, r a b → rank b < rank a) (a : β) :
    ¬ Relation.TransGen r a a := by
  have hFalls : ∀ {a b}, Relation.TransGen r a b → rank b < rank a := by
    intro a b hPath
    induction hPath with
    | single hEdge => exact hRank _ _ hEdge
    | tail _ hEdge ih => exact (hRank _ _ hEdge).trans ih
  exact fun hCycle => Nat.lt_irrefl _ (hFalls hCycle)

end

end TopologicalSort
