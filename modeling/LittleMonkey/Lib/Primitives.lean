import Mathlib.Algebra.Group.Nat.Defs
import Mathlib.Algebra.Ring.Int.Defs
import Mathlib.Data.List.AList

/-! # Fixed-width arithmetic, text bytes and keyed tables

The 64-bit operations of the source on integers, the byte string of a text, and
tables with a primary key as association lists.
-/

namespace Primitives

open List AList

abbrev Bytes := List UInt8

def textBytes (s : String) : Bytes := s.toByteArray.data.toList

theorem textBytes_injective : Function.Injective textBytes := by
  intro a b h
  have hData : a.toByteArray.data = b.toByteArray.data := Array.ext' h
  exact String.toByteArray_inj.mp (ByteArray.ext hData)

theorem textBytes_eq_flatMap (s : String) : textBytes s = s.toList.flatMap String.utf8EncodeChar := by
  conv_lhs => rw [← String.ofList_toList (s := s)]
  rw [textBytes, String.toByteArray_ofList, List.utf8Encode, toList_data_toByteArray]

/-! ## ASCII classes of a byte -/

def isAsciiDigit (c : UInt8) : Bool := 48 ≤ c && c ≤ 57
def isAsciiUppercase (c : UInt8) : Bool := 65 ≤ c && c ≤ 90
def isAsciiLowercase (c : UInt8) : Bool := 97 ≤ c && c ≤ 122

def isAsciiAlphanumeric (c : UInt8) : Bool :=
  isAsciiDigit c || isAsciiUppercase c || isAsciiLowercase c

def isAsciiHexdigit (c : UInt8) : Bool :=
  isAsciiDigit c || (65 ≤ c && c ≤ 70) || (97 ≤ c && c ≤ 102)

/-! ## White space of a text -/

def isWhitespace (c : Char) : Bool :=
  let n := c.toNat
  (9 ≤ n && n ≤ 13) || n = 32 || n = 133 || n = 160 || n = 5760 || (8192 ≤ n && n ≤ 8202) ||
    n = 8232 || n = 8233 || n = 8239 || n = 8287 || n = 12288

def isBlank (s : String) : Bool := s.toList.all isWhitespace

/-! ## Joined texts -/

theorem append_eq_append_cases {a b c d : String} (h : a ++ b = c ++ d) :
    (∃ more, c = a ++ more ∧ b = more ++ d) ∨ ∃ more, a = c ++ more ∧ d = more ++ b := by
  have hList := congrArg String.toList h
  rw [String.toList_append, String.toList_append] at hList
  rcases append_eq_append_iff.mp hList with ⟨more, hHead, hRest⟩ | ⟨more, hHead, hRest⟩
  · refine .inl ⟨String.ofList more, ?_, ?_⟩ <;> apply String.toList_injective <;> simpa
  · refine .inr ⟨String.ofList more, ?_, ?_⟩ <;> apply String.toList_injective <;> simpa

/-- Neither text begins with the other. -/
def Apart (a b : String) : Prop := ¬ a.toList <+: b.toList ∧ ¬ b.toList <+: a.toList

theorem Apart.append_ne {a b : String} (h : Apart a b) (c d : String) : a ++ c ≠ b ++ d := by
  intro hJoined
  rcases append_eq_append_cases hJoined with ⟨more, rfl, -⟩ | ⟨more, rfl, -⟩
  · exact h.1 ⟨more.toList, String.toList_append.symm⟩
  · exact h.2 ⟨more.toList, String.toList_append.symm⟩

theorem exists_append_of_not_apart {a b : String} (h : ¬ Apart a b) :
    ∃ more, b = a ++ more ∨ a = b ++ more := by
  rcases not_and_or.mp h with h | h
  · obtain ⟨more, hMore⟩ := not_not.mp h
    exact ⟨String.ofList more, .inl (String.toList_injective (by simpa using hMore.symm))⟩
  · obtain ⟨more, hMore⟩ := not_not.mp h
    exact ⟨String.ofList more, .inr (String.toList_injective (by simpa using hMore.symm))⟩

/-! ## 64-bit arithmetic -/

def i64Max : Int := 9223372036854775807
def i64Min : Int := -9223372036854775808

def inI64 (a : Int) : Bool := i64Min ≤ a && a ≤ i64Max

def checkedAdd (a b : Int) : Option Int := if inI64 (a + b) then some (a + b) else none
def checkedSub (a b : Int) : Option Int := if inI64 (a - b) then some (a - b) else none

def saturatingAdd (a b : Int) : Int := max i64Min (min i64Max (a + b))
def saturatingSub (a b : Int) : Int := max i64Min (min i64Max (a - b))

theorem eq_of_checkedAdd {a b c} (h : checkedAdd a b = some c) : c = a + b := by
  unfold checkedAdd at h
  split at h <;> simp_all

theorem eq_of_checkedSub {a b c} (h : checkedSub a b = some c) : c = a - b := by
  unfold checkedSub at h
  split at h <;> simp_all

theorem saturatingAdd_le {a b} (ha : i64Min ≤ a) (hb : 0 ≤ b) : saturatingAdd a b ≤ a + b := by
  unfold saturatingAdd
  omega

/-- Rows under a primary key: `lookup`, `insert` (insert or replace) and
`erase` are the association list's. -/
abbrev Table (κ ρ : Type) := AList (fun _ : κ => ρ)

theorem of_lookup_insert {κ ρ : Type} [DecidableEq κ] {table : Table κ ρ} {key other row found}
    (h : (table.insert key row).lookup other = some found) :
    other = key ∧ found = row ∨ other ≠ key ∧ table.lookup other = some found := by
  by_cases hOther : other = key
  · rw [hOther, lookup_insert] at h
    exact .inl ⟨hOther, (Option.some.inj h).symm⟩
  · rw [lookup_insert_ne hOther] at h
    exact .inr ⟨hOther, h⟩

section

variable {κ ρ : Type} [DecidableEq κ] {P P' : κ → ρ → Prop} {table : Table κ ρ}

/-- A property of every row of a table. -/
def Every (P : κ → ρ → Prop) (table : Table κ ρ) : Prop :=
  ∀ key row, table.lookup key = some row → P key row

theorem every_empty : Every P (∅ : Table κ ρ) := by
  intro key row hRow
  cases hRow

theorem Every.imp (h : Every P table) (hImp : ∀ key row, P key row → P' key row) :
    Every P' table := fun key row hRow => hImp key row (h key row hRow)

theorem Every.insert (h : Every P table) {key : κ} {row} (hRow : P key row) :
    Every P (table.insert key row) := by
  intro other found hFound
  obtain ⟨rfl, rfl⟩ | ⟨-, hFound⟩ := of_lookup_insert hFound
  · exact hRow
  · exact h other found hFound

theorem Every.entries (h : Every P table) : ∀ entry ∈ table.entries, P entry.1 entry.2 := by
  rintro ⟨key, row⟩ hEntry
  exact h key row (mem_lookup_iff.mpr hEntry)

end

section

variable {κ ρ γ : Type} [DecidableEq κ] {f : κ → ρ → Option γ} {table : Table κ ρ}

/-- No two rows have the same value in the index; `none` is not indexed. -/
def UniqueIndex (f : κ → ρ → Option γ) (table : Table κ ρ) : Prop :=
  ∀ a b rowA rowB value, table.lookup a = some rowA → table.lookup b = some rowB →
    f a rowA = some value → f b rowB = some value → a = b

theorem uniqueIndex_empty : UniqueIndex f (∅ : Table κ ρ) := by
  intro a b rowA rowB value hA
  cases hA

theorem UniqueIndex.insert (h : UniqueIndex f table) {key : κ} {row}
    (hFresh : ∀ other found value, table.lookup other = some found → f key row = some value →
      f other found = some value → other = key) : UniqueIndex f (table.insert key row) := by
  intro a b rowA rowB value hA hB hValueA hValueB
  by_cases hNewA : a = key
  · by_cases hNewB : b = key
    · rw [hNewA, hNewB]
    · subst hNewA
      rw [lookup_insert] at hA
      rw [lookup_insert_ne hNewB] at hB
      cases hA
      exact (hFresh b rowB value hB hValueA hValueB).symm
  · rw [lookup_insert_ne hNewA] at hA
    obtain ⟨rfl, rfl⟩ | ⟨-, hB⟩ := of_lookup_insert hB
    · exact hFresh a rowA value hA hValueB hValueA
    · exact h a b rowA rowB value hA hB hValueA hValueB

theorem UniqueIndex.replace (h : UniqueIndex f table) {key row old}
    (hOld : table.lookup key = some old) (hSame : f key row = f key old) :
    UniqueIndex f (table.insert key row) := by
  refine h.insert fun other found value hFound hValue hOther => ?_
  rw [hSame] at hValue
  exact h other key found old value hFound hOld hOther hValue

theorem UniqueIndex.nodup (h : UniqueIndex f table) :
    (table.entries.filterMap fun entry => f entry.1 entry.2).Nodup := by
  have hDistinct : table.entries.Pairwise (·.1 ≠ ·.1) := pairwise_map.mp table.nodupKeys
  apply pairwise_filterMap.mpr
  refine hDistinct.imp_of_mem fun {x y} hx hy hNe a ha b hb hab => hNe ?_
  subst hab
  exact h x.1 y.1 x.2 y.2 a (mem_lookup_iff.mpr hx) (mem_lookup_iff.mpr hy) ha hb

end

section

variable {κ ρ : Type} [DecidableEq κ]

def mapRows (f : κ → ρ → ρ) (table : Table κ ρ) : Table κ ρ :=
  ⟨table.entries.map fun entry => ⟨entry.1, f entry.1 entry.2⟩, by
    have hKeys : (table.entries.map fun entry => (⟨entry.1, f entry.1 entry.2⟩ : Sigma fun _ => ρ)).keys =
        table.entries.keys := by
      simp [List.keys]
    rw [List.NodupKeys, hKeys]
    exact table.nodupKeys⟩

theorem lookup_mapRows (f : κ → ρ → ρ) (table : Table κ ρ) (key : κ) :
    (mapRows f table).lookup key = (table.lookup key).map (f key) := by
  have hEntries : ∀ l : List (Sigma fun _ : κ => ρ),
      (l.map fun entry => (⟨entry.1, f entry.1 entry.2⟩ : Sigma fun _ => ρ)).dlookup key =
        (l.dlookup key).map (f key) := by
    intro l
    induction l with
    | nil => rfl
    | cons entry l ih =>
      obtain ⟨k, row⟩ := entry
      by_cases hKey : k = key
      · subst hKey
        simp
      · rw [map_cons, dlookup_cons_ne _ _ (Ne.symm hKey),
          dlookup_cons_ne _ _ (.symm hKey), ih]
  exact hEntries table.entries

theorem Every.mapRows {P : κ → ρ → Prop} {table f} (h : Every P table)
    (hRow : ∀ key row, P key row → P key (f key row)) : Every P (Primitives.mapRows f table) := by
  intro key row hFound
  rw [lookup_mapRows] at hFound
  obtain ⟨old, hOld, rfl⟩ := Option.map_eq_some_iff.mp hFound
  exact hRow key old (h key old hOld)

def updateRows (found : κ → ρ → Bool) (set : ρ → ρ) (table : Table κ ρ) : Table κ ρ :=
  mapRows (fun key row => if found key row then set row else row) table

def countRows (found : κ → ρ → Bool) (table : Table κ ρ) : Nat :=
  table.entries.countP fun entry => found entry.1 entry.2

theorem lookup_updateRows (found : κ → ρ → Bool) (set : ρ → ρ) (table : Table κ ρ) (key : κ) :
    (updateRows found set table).lookup key =
      (table.lookup key).map fun row => if found key row then set row else row :=
  lookup_mapRows _ _ _

theorem lookup_foldl_erase (entries : List (Sigma fun _ : κ => ρ)) (table : Table κ ρ) (key : κ) :
    (entries.foldl (fun table entry => table.erase entry.1) table).lookup key =
      if key ∈ entries.map (·.1) then none else table.lookup key := by
  induction entries generalizing table with
  | nil => rfl
  | cons entry rest ih =>
    rw [foldl_cons, ih]
    by_cases hKey : key = entry.1
    · subst hKey
      simp [lookup_erase]
    · rw [lookup_erase_ne hKey]
      simp only [map_cons, mem_cons, hKey, false_or]

theorem exists_of_countRows {found} {table : Table κ ρ} (h : countRows found table ≠ 0) :
    ∃ key row, table.lookup key = some row ∧ found key row = true := by
  obtain ⟨⟨key, row⟩, hEntry, hFound⟩ := countP_pos_iff.mp (Nat.pos_of_ne_zero h)
  exact ⟨key, row, mem_lookup_iff.mpr hEntry, hFound⟩

end

section

variable {κ₁ κ₂ ρ τ : Type} [DecidableEq κ₁] [DecidableEq κ₂]

/-- What the row under a key says about its past; a missing row has none. -/
def history (past : ρ → List τ) (table : Table (κ₁ × κ₂) ρ) (a : κ₁) (b : κ₂) : List τ :=
  (table.lookup (a, b)).elim [] past

theorem history_insert {past table a b} {row : ρ}
    {steps : List τ} (h : past row = history past table a b ++ steps) (x : κ₁) (y : κ₂) :
    history past (table.insert (a, b) row) x y =
      history past table x y ++ if x = a then (if b = y then steps else []) else [] := by
  by_cases hx : x = a
  · by_cases hy : b = y
    · subst hx hy
      rw [if_pos rfl, if_pos rfl, ← h, history, lookup_insert]
      rfl
    · have hne : (x, y) ≠ (a, b) := fun e => hy (congrArg Prod.snd e).symm
      simp [history, lookup_insert_ne hne, hy]
  · have hne : (x, y) ≠ (a, b) := fun e => hx (congrArg Prod.fst e)
    simp [history, hx]

end

end Primitives
