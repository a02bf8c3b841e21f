import Mathlib.Data.List.Sort
import LittleMonkey.Lib.Primitives

/-! # Ordered maps

Tables that are walked in the order of their keys, as texts compare byte by byte.
-/

namespace Primitives

open List AList

section

variable {ρ : Type} {table : Table String ρ}

def ascending (table : Table String ρ) : List (Sigma fun _ : String => ρ) :=
  table.entries.insertionSort fun a b => textBytes a.1 ≤ textBytes b.1

theorem mem_ascending {key row} :
    (⟨key, row⟩ : Sigma fun _ => ρ) ∈ ascending table ↔ table.lookup key = some row := by
  rw [ascending, mem_insertionSort]
  exact mem_lookup_iff.symm

theorem keys_ascending_perm : ((ascending table).map Sigma.fst).Perm table.keys :=
  (perm_insertionSort _ table.entries).map Sigma.fst

theorem nodup_keys_ascending : ((ascending table).map Sigma.fst).Nodup :=
  (keys_ascending_perm.nodup_iff).mpr table.nodupKeys

end

section

variable {κ ρ τ : Type} [DecidableEq κ]

omit [DecidableEq κ] in
theorem keys_map_entries (f : κ → ρ → τ) (entries : List (Sigma fun _ : κ => ρ)) :
    (entries.map fun entry => (⟨entry.1, f entry.1 entry.2⟩ : Sigma fun _ => τ)).keys = entries.keys := by
  simp [List.keys]

def mapValues (f : κ → ρ → τ) (table : Table κ ρ) : Table κ τ :=
  ⟨table.entries.map fun entry => ⟨entry.1, f entry.1 entry.2⟩, by
    rw [List.NodupKeys, keys_map_entries]
    exact table.nodupKeys⟩

end

section

variable {κ κ' ρ : Type} [DecidableEq κ'] {key : κ → κ'} {table : Table κ' ρ}
  {list : List (Sigma fun _ : κ => ρ)}

/-- The loop that inserts every entry, under a key made from its own. -/
def insertAll (key : κ → κ') (table : Table κ' ρ) (list : List (Sigma fun _ : κ => ρ)) : Table κ' ρ :=
  list.foldl (fun table entry => table.insert (key entry.1) entry.2) table

theorem lookup_insertAll_of_notMem {k} (h : ∀ entry ∈ list, k ≠ key entry.1) :
    (insertAll key table list).lookup k = table.lookup k := by
  induction list generalizing table with
  | nil => rfl
  | cons entry list ih =>
    rw [forall_mem_cons] at h
    change (insertAll key (table.insert (key entry.1) entry.2) list).lookup k = _
    rw [ih h.2, lookup_insert_ne h.1]

theorem lookup_insertAll_of_mem (hKey : key.Injective) (hNodup : (list.map Sigma.fst).Nodup) {a row}
    (h : ⟨a, row⟩ ∈ list) : (insertAll key table list).lookup (key a) = some row := by
  induction list generalizing table with
  | nil => cases h
  | cons entry list ih =>
    rw [map_cons, nodup_cons] at hNodup
    change (insertAll key (table.insert (key entry.1) entry.2) list).lookup (key a) = _
    rcases mem_cons.mp h with rfl | hRest
    · rw [lookup_insertAll_of_notMem, lookup_insert]
      intro other hOther hSame
      exact hNodup.1 (mem_map.mpr ⟨other, hOther, (hKey hSame).symm⟩)
    · exact ih hNodup.2 hRest

end

section

variable {κ ρ : Type} [DecidableEq κ] {R : ρ → ρ → Prop} {t t' t'' : Table κ ρ}

/-- No row is lost, and each is related to what it was. -/
def Extends (R : ρ → ρ → Prop) (t t' : Table κ ρ) : Prop :=
  ∀ key row, t.lookup key = some row → ∃ row', t'.lookup key = some row' ∧ R row row'

theorem Extends.refl (hR : ∀ row, R row row) (t : Table κ ρ) : Extends R t t :=
  fun _ row h => ⟨row, h, hR row⟩

theorem Extends.trans (hR : ∀ a b c, R a b → R b c → R a c) (h : Extends R t t') (h' : Extends R t' t'') :
    Extends R t t'' := by
  intro key row hRow
  obtain ⟨row', hRow', hFirst⟩ := h key row hRow
  obtain ⟨row'', hRow'', hSecond⟩ := h' key row' hRow'
  exact ⟨row'', hRow'', hR _ _ _ hFirst hSecond⟩

theorem extends_insert (hR : ∀ row, R row row) {key row}
    (h : ∀ old, t.lookup key = some old → R old row) : Extends R t (t.insert key row) := by
  intro other old hOld
  by_cases hKey : other = key
  · subst hKey
    exact ⟨row, lookup_insert t, h old hOld⟩
  · exact ⟨old, by rwa [lookup_insert_ne hKey], hR old⟩

end

end Primitives
