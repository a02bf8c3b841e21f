import LittleMonkey.Lib.Worklist
import LittleMonkey.Process.Histories

/-! # Descendants

`descendants` searches from a process over the parent links of the table.  Below the list limit
its loop is the worklist closure of the children, and what it returns is everything the closure
holds but the process it began with.
-/

namespace LittleMonkey.Process

open Comparing List

def Ledger.Child (s : Ledger) (parent child : String) : Prop :=
  ∃ row, s.rows.lookup child = some row ∧ row.parentProcessId = some parent

def Ledger.childIds (s : Ledger) (parent : String) : List String := (s.children parent).map (·.processId)

section

variable {s : Ledger}

theorem mem_children (hRows : s.records.length < maxListLimit) {parent record} :
    record ∈ s.children parent ↔ record ∈ s.records ∧ record.row.parentProcessId = some parent := by
  have hFew : ∀ p : ProcessRecord → Bool, (sortBy newestFirst (s.records.filter p)).length ≤ maxListLimit := by
    intro p
    have hFilter := length_filter_le p s.records
    rw [(sortBy_perm _ _).length_eq]
    omega
  unfold Ledger.children Ledger.list
  rw [take_of_length_le ((hFew _).trans (by simp)), mem_sortBy]
  simp [ProcessFilter.selects]

theorem mem_childIds (hRows : s.records.length < maxListLimit) {parent child} :
    child ∈ s.childIds parent ↔ s.Child parent child := by
  simp only [Ledger.childIds, mem_map, mem_children hRows, mem_records]
  constructor
  · rintro ⟨record, ⟨hRow, hParent⟩, rfl⟩
    exact ⟨record.row, hRow, hParent⟩
  · rintro ⟨row, hRow, hParent⟩
    exact ⟨⟨child, row⟩, ⟨hRow, hParent⟩, rfl⟩

end

/-! ## The loop is the worklist -/

def Search.work (search : Search) : Worklist.State String := ⟨search.frontier, search.seen⟩

theorem work_visit (search : Search) (child : ProcessRecord) :
    (search.visit child).work = search.work.visit child.processId := by
  unfold Search.visit Worklist.State.visit Search.work
  simp only [contains_iff_mem]
  split <;> rfl

theorem work_foldl (search : Search) (children : List ProcessRecord) :
    (children.foldl Search.visit search).work =
      (children.map (·.processId)).foldl Worklist.State.visit search.work := by
  induction children generalizing search with
  | nil => rfl
  | cons child children ih => simp only [foldl_cons, map_cons, ih, work_visit]

structure Tracks (s : Ledger) (start : String) (search : Search) : Prop where
  seen : ∀ id, id ∈ search.seen ↔ id = start ∨ id ∈ search.out.map (·.processId)
  other : start ∉ search.out.map (·.processId)
  nodup : (search.out.map (·.processId)).Nodup
  records : search.out ⊆ s.records

section

variable {s : Ledger} {start : String} {search : Search}

theorem Tracks.visit (h : Tracks s start search) {child} (hChild : child ∈ s.records) :
    Tracks s start (search.visit child) := by
  unfold Search.visit
  split
  · exact h
  · next hNew =>
    rw [contains_iff_mem, h.seen, not_or] at hNew
    constructor
    · intro id
      simp only [mem_cons, h.seen, map_append, mem_append, map_cons]
      tauto
    · simp [h.other, Ne.symm hNew.1]
    · rw [map_append, nodup_append]
      refine ⟨h.nodup, nodup_singleton _, ?_⟩
      rintro id hOld _ hLast rfl
      obtain rfl := mem_singleton.mp hLast
      exact hNew.2 hOld
    · exact append_subset.mpr ⟨h.records, by simpa using hChild⟩

theorem Tracks.foldl {children} (h : Tracks s start search) (hChildren : children ⊆ s.records) :
    Tracks s start (children.foldl Search.visit search) := by
  induction children generalizing search with
  | nil => exact h
  | cons child children ih =>
    obtain ⟨hChild, hRest⟩ := cons_subset.mp hChildren
    exact ih (h.visit hChild) hRest

theorem Tracks.length_out (h : Tracks s start search) : search.out.length ≤ s.records.length :=
  (subperm_of_subset (List.Nodup.of_map _ h.nodup) h.records).length_le

theorem run_of_done {next} (n : Nat) {w : Worklist.State String} (h : w.queue = []) :
    Worklist.run next n w = w := by
  induction n with
  | zero => rfl
  | succ n ih =>
    have hRound : w.round next = w := by
      unfold Worklist.State.round
      rw [h]
    rw [Worklist.run, hRound, ih]

theorem descendantsLoop_eq (hRows : s.records.length < maxListLimit) {n} (h : Tracks s start search)
    (hDone : (Worklist.run s.childIds n search.work).queue = []) :
    ∃ last, Tracks s start last ∧ last.work = Worklist.run s.childIds n search.work ∧
      ∀ fuel, n < fuel → s.descendantsLoop fuel search = some last.out := by
  induction n generalizing search with
  | zero =>
    refine ⟨search, h, rfl, fun fuel hFuel => ?_⟩
    obtain ⟨fuel, rfl⟩ := Nat.exists_eq_succ_of_ne_zero (Nat.ne_of_gt hFuel)
    rw [Ledger.descendantsLoop, show search.frontier = [] from hDone]
  | succ n ih =>
    cases hFrontier : search.frontier with
    | nil =>
      refine ⟨search, h, (run_of_done _ hFrontier).symm, fun fuel hFuel => ?_⟩
      obtain ⟨fuel, rfl⟩ := Nat.exists_eq_succ_of_ne_zero (Nat.ne_of_gt (Nat.zero_lt_of_lt hFuel))
      rw [Ledger.descendantsLoop, hFrontier]
    | cons parent rest =>
      have hRoom : ¬ maxListLimit ≤ search.out.length := by
        have hOut := h.length_out
        omega
      have hRound : ((s.children parent).foldl Search.visit { search with frontier := rest }).work =
          search.work.round s.childIds := by
        rw [work_foldl, Worklist.State.round, show search.work.queue = parent :: rest from hFrontier]
        rfl
      have hTracks : Tracks s start { search with frontier := rest } := ⟨h.seen, h.other, h.nodup, h.records⟩
      obtain ⟨last, hLast, hWork, hLoop⟩ := ih
        (hTracks.foldl fun record hRecord => ((mem_children hRows).mp hRecord).1) (by rw [hRound]; exact hDone)
      refine ⟨last, hLast, by rw [hWork, hRound]; rfl, fun fuel hFuel => ?_⟩
      obtain ⟨fuel, rfl⟩ := Nat.exists_eq_succ_of_ne_zero (Nat.ne_of_gt (Nat.zero_lt_of_lt hFuel))
      rw [Ledger.descendantsLoop, hFrontier]
      dsimp only
      rw [if_neg hRoom]
      exact hLoop fuel (by omega)

end

/-- Over any parent links the search ends, and it returns the records that are reached from the
process, without the process itself, each once. -/
theorem descendants_exact (s : Ledger) (hRows : s.records.length < maxListLimit) (id : String) :
    ∃ out, (∀ fuel, s.records.length + 1 < fuel → s.descendants id fuel = some out) ∧ out.Nodup ∧
      ∀ record, record ∈ out ↔
        record ∈ s.records ∧ record.processId ≠ id ∧ Relation.TransGen s.Child id record.processId := by
  have hMembers : ∀ parent ∈ id :: s.rows.keys, s.childIds parent ⊆ id :: s.rows.keys := by
    intro parent _ child hChild
    obtain ⟨row, hRow, -⟩ := (mem_childIds hRows).mp hChild
    exact mem_cons_of_mem _ (AList.mem_keys.mp (AList.lookup_isSome.mp (by rw [hRow]; rfl)))
  have hLength : (id :: s.rows.keys).length = s.records.length + 1 := by
    rw [← map_processId_records, length_cons, length_map]
  have hDone := Worklist.queue_run_eq_nil mem_cons_self hMembers
  have hStart : Tracks s id ⟨[id], [id], []⟩ := ⟨by simp, by simp, nodup_nil, nil_subset _⟩
  rw [hLength] at hDone
  obtain ⟨last, hTracks, hWork, hLoop⟩ := descendantsLoop_eq hRows hStart hDone
  have hSeen : ∀ other, other ∈ last.seen ↔ Relation.ReflTransGen s.Child id other := by
    intro other
    have hClosure := Worklist.mem_closure (a := other) mem_cons_self hMembers
    rw [hLength, Worklist.closure] at hClosure
    have hEdges : (fun a b => b ∈ s.childIds a) = s.Child := by
      funext a b
      exact propext (mem_childIds hRows)
    rw [hEdges] at hClosure
    rw [← hClosure, show last.seen = last.work.seen from rfl, hWork]
    rfl
  refine ⟨last.out, hLoop, List.Nodup.of_map _ hTracks.nodup, fun record => ?_⟩
  constructor
  · intro hOut
    have hMem := mem_map_of_mem (f := (·.processId)) hOut
    have hOther : record.processId ≠ id := fun h => hTracks.other (h ▸ hMem)
    refine ⟨hTracks.records hOut, hOther, ?_⟩
    have hReached := (hSeen _).mp ((hTracks.seen _).mpr (.inr hMem))
    exact (Relation.reflTransGen_iff_eq_or_transGen.mp hReached).resolve_left hOther
  · rintro ⟨hRecord, hOther, hReached⟩
    have hMem := ((hTracks.seen _).mp ((hSeen _).mpr hReached.to_reflTransGen)).resolve_left hOther
    obtain ⟨found, hFound, hId⟩ := mem_map.mp hMem
    have hRow := mem_records.mp (hTracks.records hFound)
    rw [hId, mem_records.mp hRecord] at hRow
    obtain ⟨_, _⟩ := found
    cases hId
    cases hRow
    exact hFound

/-! Two jobs, each the parent of the other. -/

namespace Cycle

def row (parent : String) : ProcessRow :=
  AdmitProcess.row ⟨.daemonJob, parent, some parent, none, none, none, ⟨none, none, none, none, none⟩⟩ 1

def ledger : Ledger := ⟨∅, AList.insert "a" (row "b") (AList.insert "b" (row "a") ∅)⟩

theorem descendants_without_start :
    Relation.TransGen ledger.Child "a" "a" ∧ ledger.rows.lookup "a" = some (row "b") ∧
      (ledger.descendants "a" 4).map (·.map (·.processId)) = some ["b"] := by
  refine ⟨.tail (.single ⟨row "a", rfl, rfl⟩) ⟨row "b", rfl, rfl⟩, rfl, ?_⟩
  decide +kernel

theorem descendants_of_first :
    ∃ out, (∀ fuel, 3 < fuel → ledger.descendants "a" fuel = some out) ∧ out.Nodup ∧ ∀ record, record ∈ out ↔
        record ∈ ledger.records ∧ record.processId ≠ "a" ∧ Relation.TransGen ledger.Child "a" record.processId :=
  descendants_exact ledger (by decide +kernel) "a"

end Cycle

end LittleMonkey.Process
