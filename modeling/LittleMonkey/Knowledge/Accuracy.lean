import LittleMonkey.Lib.EditDistance
import LittleMonkey.Lib.Guards
import LittleMonkey.Lib.Primitives

/-! # Character accuracy of a recognised text

Both texts are folded to one space between words.  The distance of the folded texts is
computed in two rows of a matrix whose rows run over the longer text.
-/

namespace LittleMonkey.Knowledge

open EditDistance Guards List Primitives

inductive PipelineError
  | invalidArgument (message : String)
  | limitExceeded (message : String)

def maxOcrAccuracyMatrixCells : Nat := 16000000

def splitWhitespace (text : List Char) : List (List Char) :=
  (text.splitOnP isWhitespace).filter (· ≠ [])

/-- The text with one space between its words. -/
def foldWhitespace (text : String) : List Char := [' '].intercalate (splitWhitespace text.toList)

/-- The cells from `left` on, each from the two above it in `previous` and the one to its left. -/
def currentRow (rowCharacter : Char) (left : Nat) : List Char → List Nat → List Nat
  | columnCharacter :: columns, corner :: above :: previous =>
    let substitution := corner + if rowCharacter = columnCharacter then 0 else 1
    left :: currentRow rowCharacter (min (min substitution (left + 1)) (above + 1)) columns (above :: previous)
  | _, _ => [left]

def lastRow (columns : List Char) (rowIndex : Nat) (previous : List Nat) : List Char → List Nat
  | [] => previous
  | rowCharacter :: rows =>
    lastRow columns (rowIndex + 1) (currentRow rowCharacter (rowIndex + 1) columns previous) rows

def matrixDistance (rows columns : List Char) : Nat :=
  (lastRow columns 0 (range (columns.length + 1)) rows).getD columns.length 0

def ocrCharacterAccuracyMicros (expected observed : String) : Except PipelineError Nat := do
  let expected := foldWhitespace expected
  let observed := foldWhitespace observed
  refuseIf expected.isEmpty (.invalidArgument "OCR accuracy reference text must not be empty")
  let cells := expected.length * max observed.length 1
  refuseIf (2 ^ 64 ≤ cells) (.limitExceeded "OCR accuracy matrix size overflowed")
  refuseIf (maxOcrAccuracyMatrixCells < cells)
    (.limitExceeded s!"OCR accuracy evaluation exceeds {maxOcrAccuracyMatrixCells} matrix cells")
  let distance :=
    if observed.length ≤ expected.length then matrixDistance expected observed
    else matrixDistance observed expected
  pure (1000000 - min (distance * 1000000 / expected.length) 1000000)

/-! ## Blank texts -/

theorem splitWhitespace_eq_nil {text : List Char} (h : splitWhitespace text = []) :
    text.all isWhitespace = true := by
  induction text with
  | nil => rfl
  | cons c text ih =>
    rw [splitWhitespace, splitOnP_cons_eq_if_modifyHead] at h
    split at h
    · next hc => simpa [hc] using ih h
    · -- A word begins at `c`.
      obtain ⟨word, words, hWords⟩ := exists_cons_of_ne_nil (splitOnP_ne_nil isWhitespace text)
      simp [hWords] at h

theorem foldWhitespace_ne_nil {text : String} (h : isBlank text = false) : foldWhitespace text ≠ [] := by
  intro hNil
  cases hWords : splitWhitespace text.toList with
  | nil => exact absurd (splitWhitespace_eq_nil hWords) (by simpa [isBlank] using h)
  | cons word words =>
    have hWord : word ≠ [] := by
      have hMem : word ∈ splitWhitespace text.toList := hWords ▸ mem_cons_self
      simpa using (mem_filter.mp hMem).2
    rw [foldWhitespace, hWords] at hNil
    cases words <;> simp_all [intercalate]

/-! ## Rows of the matrix -/

/-- The row of `p` from the column after `q` on; both prefixes are read backwards. -/
def distances (p q : List Char) : List Char → List Nat
  | [] => [levenshtein p q]
  | c :: columns => levenshtein p q :: distances p (c :: q) columns

theorem distances_nil (q columns : List Char) :
    distances [] q columns = range' q.length (columns.length + 1) := by
  induction columns generalizing q with
  | nil => simp [distances, levenshtein]
  | cons c columns ih =>
    rw [distances, ih, levenshtein]
    exact range'_succ.symm

theorem getD_distances (p q columns : List Char) :
    (distances p q columns).getD columns.length 0 = levenshtein p (columns.reverse ++ q) := by
  induction columns generalizing q with
  | nil => rfl
  | cons c columns ih =>
    rw [reverse_cons, append_assoc]
    exact ih (c :: q)

theorem currentRow_distances (c : Char) (p q columns : List Char) :
    currentRow c (levenshtein (c :: p) q) columns (distances p q columns) = distances (c :: p) q columns := by
  induction columns generalizing q with
  | nil => rfl
  | cons d columns ih =>
    have hAbove : ∃ more, distances p (d :: q) columns = levenshtein p (d :: q) :: more := by
      cases columns <;> exact ⟨_, rfl⟩
    obtain ⟨more, hMore⟩ := hAbove
    rw [distances, distances, ← ih, hMore, currentRow, levenshtein]

theorem lastRow_distances (columns p rows : List Char) :
    lastRow columns p.length (distances p [] columns) rows = distances (rows.reverse ++ p) [] columns := by
  induction rows generalizing p with
  | nil => rfl
  | cons c rows ih =>
    have hFirst : p.length + 1 = levenshtein (c :: p) [] := (levenshtein_nil (c :: p)).symm
    rw [lastRow, reverse_cons, append_assoc, hFirst, currentRow_distances, ← hFirst]
    exact ih (c :: p)

theorem matrixDistance_eq (rows columns : List Char) : matrixDistance rows columns = levenshtein rows columns := by
  have hStart : range (columns.length + 1) = distances [] [] columns := by
    rw [distances_nil, range_eq_range', length_nil]
  have hLast := lastRow_distances columns [] rows
  rw [length_nil, append_nil] at hLast
  rw [matrixDistance, hStart, hLast, getD_distances, append_nil, levenshtein_reverse]

theorem accuracy_is_one_minus_error_rate {expected observed : String} (hReference : isBlank expected = false)
    (hBound : (foldWhitespace expected).length * max (foldWhitespace observed).length 1 ≤ maxOcrAccuracyMatrixCells) :
    ocrCharacterAccuracyMicros expected observed =
      .ok (1000000 - min 1000000 (1000000 * levenshtein (foldWhitespace expected) (foldWhitespace observed) /
        (foldWhitespace expected).length)) := by
  have hFits : (foldWhitespace expected).length * max (foldWhitespace observed).length 1 < 2 ^ 64 :=
    hBound.trans_lt (by decide)
  have hNonempty := foldWhitespace_ne_nil hReference
  have hDistance : (if (foldWhitespace observed).length ≤ (foldWhitespace expected).length then
      matrixDistance (foldWhitespace expected) (foldWhitespace observed)
      else matrixDistance (foldWhitespace observed) (foldWhitespace expected)) =
      levenshtein (foldWhitespace expected) (foldWhitespace observed) := by
    split
    · exact matrixDistance_eq ..
    · rw [matrixDistance_eq, levenshtein_comm]
  simp only [ocrCharacterAccuracyMicros, bind_eq_ok, refuseIf_eq_ok, pure_eq_ok]
  refine ⟨(), by simpa using hNonempty, (), by simpa using hFits, (), by simpa using hBound, ?_⟩
  rw [hDistance, Nat.mul_comm, min_comm]

theorem folded_lines_compared :
    isBlank "Little\nMonkey OCR" = false ∧
      ocrCharacterAccuracyMicros "Little\nMonkey OCR" "Little Honey  OCR" =
        .ok (1000000 - min 1000000 (1000000 * levenshtein (foldWhitespace "Little\nMonkey OCR")
          (foldWhitespace "Little Honey  OCR") / (foldWhitespace "Little\nMonkey OCR").length)) :=
  ⟨by decide +kernel, accuracy_is_one_minus_error_rate (by decide +kernel) (by decide +kernel)⟩

end LittleMonkey.Knowledge
