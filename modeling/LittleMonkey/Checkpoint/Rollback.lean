import Mathlib.Data.List.Nodup
import Mathlib.Data.List.ReduceOption
import Mathlib.Logic.Function.Basic

/-! # Reverting and reapplying a turn

A checkpoint keeps, for each file the turn was about to change, what it held before.
`revert_impl` snapshots each file and puts that back; `reapply_impl` plays the snapshots
over the files again.  The files `<i>.bak` and `redo/<i>.bak` belong to the `i`-th entry
alone, so their contents are kept with it.
-/

namespace LittleMonkey.Checkpoint

open List

variable {β : Type}

abbrev Files (β : Type) := String → Option β

structure CheckpointEntry (β : Type) where
  path : String
  /-- What the file held before the turn, `none` if the turn created it. -/
  backup : Option β
  /-- Whether the manifest names `redo/<i>.bak`. -/
  redo : Bool
  /-- What `redo/<i>.bak` holds. -/
  snapshot : Option β

structure Disk (β : Type) where
  entries : List (CheckpointEntry β)
  reverted : Bool
  files : Files β

/-- `record_original`, called before a file is changed. -/
def recordOriginal (files : Files β) (path : String) (entries : List (CheckpointEntry β)) :
    List (CheckpointEntry β) :=
  if entries.any (·.path == path) then entries else entries ++ [⟨path, files path, false, none⟩]

/-- What goes wrong: copies of a path into `redo/`, writes to it with their error and what
they leave there, and the write of the manifest. -/
structure Faults (β : Type) where
  snapshot : String → Bool
  restore : String → Option (String × Option β)
  manifest : Bool

def Faults.clear : Faults β := ⟨fun _ => false, fun _ => none, false⟩

/-- A step at one file: the entry on disk and the error, and the file afterwards. -/
abbrev FileStep (β : Type) :=
  Faults β → CheckpointEntry β → Option β → (CheckpointEntry β × Option String) × Option β

def attempt (faults : Faults β) (path : String) (source : Except String (Option β)) (now : Option β) :
    Option String × Option β :=
  match faults.restore path, source with
  | some (error, left), _ => (some s!"{path}: {error}", left)
  | none, .error error => (some s!"{path}: {error}", now)
  | none, .ok content => (none, content)

-- The snapshot is on disk before the manifest that names it.
def revertEntry : FileStep β := fun faults entry now =>
  let kept :=
    if now.isSome && !faults.snapshot entry.path then
      { entry with redo := entry.redo || !faults.manifest, snapshot := now }
    else entry
  let result := attempt faults entry.path (.ok entry.backup) now
  ((kept, result.1), result.2)

def reapplyEntry : FileStep β := fun faults entry now =>
  let result :=
    match entry.redo, entry.backup with
    | true, _ => attempt faults entry.path
        (entry.snapshot.elim (.error "No such file or directory (os error 2)") (.ok ∘ some)) now
    | false, none => attempt faults entry.path (.ok none) now
    | false, some _ => (none, now)
  ((entry, result.1), result.2)

def forEntries (step : FileStep β) (faults : Faults β) : List (CheckpointEntry β) → Files β →
    List (CheckpointEntry β × Option String) × Files β
  | [], files => ([], files)
  | entry :: rest, files =>
    let first := step faults entry (files entry.path)
    let later := forEntries step faults rest (Function.update files entry.path first.2)
    (first.1 :: later.1, later.2)

def answer (verb : String) (outcomes : List (Option String)) : Except String Nat :=
  let done := outcomes.count none
  let failures := "; ".intercalate outcomes.reduceOption
  if outcomes.reduceOption.isEmpty then .ok done
  else .error s!"{verb} {done} of {outcomes.length} files; failures: {failures}"

/-- `revert_impl` and `reapply_impl`: the step, the word of the answer and the flag they set. -/
def runImpl (step : FileStep β) (verb : String) (flag : Bool) (faults : Faults β) (d : Disk β) :
    Except String Nat × Disk β :=
  if d.reverted = flag then (.ok 0, d)
  else
    let result := forEntries step faults d.entries d.files
    (answer verb (result.1.map (·.2)),
      ⟨result.1.map (·.1), if faults.manifest then d.reverted else flag, result.2⟩)

def revertImpl : Faults β → Disk β → Except String Nat × Disk β := runImpl revertEntry "Reverted" true

def reapplyImpl : Faults β → Disk β → Except String Nat × Disk β := runImpl reapplyEntry "Re-applied" false

inductive Event (β : Type)
  | revert (faults : Faults β)
  | reapply (faults : Faults β)
  | edit (path : String) (content : Option β)

def Event.apply : Event β → Disk β → Disk β
  | .revert faults, d => (revertImpl faults d).2
  | .reapply faults, d => (reapplyImpl faults d).2
  | .edit path content, d => { d with files := Function.update d.files path content }

inductive Recorded : List (CheckpointEntry β) → Prop
  | start : Recorded []
  | record {entries} (files : Files β) (path : String) :
    Recorded entries → Recorded (recordOriginal files path entries)

/-- The checkpoints of every turn, and what reverts, reapplies and edits make of them. -/
inductive Reached : Disk β → Prop
  | turn {entries} (files : Files β) : Recorded entries → Reached ⟨entries, false, files⟩
  | step {d} (e : Event β) : Reached d → Reached (e.apply d)

/-! ## What a run does at each file -/

structure Sound (entries : List (CheckpointEntry β)) : Prop where
  nodup : (entries.map (·.path)).Nodup
  snapshot : ∀ entry ∈ entries, entry.redo = true → entry.snapshot.isSome = true

structure Keeps (step : FileStep β) : Prop where
  path : ∀ faults entry now, (step faults entry now).1.1.path = entry.path
  snapshot : ∀ faults entry now, (entry.redo = true → entry.snapshot.isSome = true) →
    (step faults entry now).1.1.redo = true → (step faults entry now).1.1.snapshot.isSome = true

theorem revertEntry_kept (faults : Faults β) (entry : CheckpointEntry β) (now : Option β) :
    (revertEntry faults entry now).1.1 = entry ∨ now.isSome = true ∧ (revertEntry faults entry now).1.1 =
      { entry with redo := entry.redo || !faults.manifest, snapshot := now } := by
  unfold revertEntry
  dsimp only
  split
  next hNow => exact .inr ⟨(Bool.and_eq_true_iff.mp hNow).1, rfl⟩
  next => exact .inl rfl

theorem keeps_revertEntry : Keeps (revertEntry (β := β)) := by
  constructor
  all_goals
    intro faults entry now
    rcases revertEntry_kept faults entry now with hKept | ⟨hNow, hKept⟩
    all_goals rw [hKept]
  · exact fun h => h
  · exact fun _ _ => hNow

theorem keeps_reapplyEntry : Keeps (reapplyEntry (β := β)) := ⟨fun _ _ _ => rfl, fun _ _ _ h => h⟩

section

variable {step : FileStep β} {faults : Faults β} {entries : List (CheckpointEntry β)} {files : Files β}
  {d : Disk β} {entry : CheckpointEntry β} {verb : String} {flag : Bool}

theorem forEntries_of_notMem {path} (h : path ∉ entries.map (·.path)) :
    (forEntries step faults entries files).2 path = files path := by
  induction entries generalizing files with
  | nil => rfl
  | cons entry rest ih =>
    rw [map_cons, mem_cons, not_or] at h
    exact (ih h.2).trans (Function.update_of_ne h.1 _ _)

/-- No step sees what the steps at other files did. -/
theorem forEntries_spec (h : (entries.map (·.path)).Nodup) :
    (forEntries step faults entries files).1 = entries.map (fun e => (step faults e (files e.path)).1) ∧
    ∀ entry ∈ entries, (forEntries step faults entries files).2 entry.path =
      (step faults entry (files entry.path)).2 := by
  induction entries generalizing files with
  | nil => exact ⟨rfl, nofun⟩
  | cons first rest ih =>
    rw [map_cons, nodup_cons] at h
    have hOther : ∀ entry ∈ rest, Function.update files first.path (step faults first (files first.path)).2
        entry.path = files entry.path := by
      intro entry hEntry
      apply Function.update_of_ne
      intro hSame
      exact h.1 (hSame ▸ mem_map_of_mem hEntry)
    obtain ⟨hEntries, hFiles⟩ := @ih (Function.update files first.path (step faults first (files first.path)).2) h.2
    constructor
    · refine congrArg (List.cons _) (hEntries.trans (map_congr_left ?_))
      intro entry hEntry
      rw [hOther entry hEntry]
    · intro entry hEntry
      rcases mem_cons.mp hEntry with rfl | hRest
      · exact (forEntries_of_notMem h.1).trans (Function.update_self _ _ _)
      · exact (hFiles entry hRest).trans (by rw [hOther entry hRest])

theorem runImpl_entries (h : Sound d.entries) (hFlag : d.reverted ≠ flag) :
    (runImpl step verb flag faults d).2.entries =
      d.entries.map fun e => (step faults e (d.files e.path)).1.1 := by
  rw [runImpl, if_neg hFlag]
  dsimp only
  rw [(forEntries_spec h.nodup).1, map_map]
  rfl

theorem runImpl_file (h : Sound d.entries) (hFlag : d.reverted ≠ flag) (hEntry : entry ∈ d.entries) :
    (runImpl step verb flag faults d).2.files entry.path = (step faults entry (d.files entry.path)).2 := by
  rw [runImpl, if_neg hFlag]
  exact (forEntries_spec h.nodup).2 entry hEntry

theorem Sound.runImpl (h : Sound d.entries) (hStep : Keeps step) :
    Sound (runImpl step verb flag faults d).2.entries := by
  by_cases hFlag : d.reverted = flag
  · rwa [Checkpoint.runImpl, if_pos hFlag]
  · rw [runImpl_entries h hFlag]
    constructor
    · simpa only [map_map, Function.comp_def, hStep.path] using h.nodup
    · rw [forall_mem_map]
      exact fun entry hEntry => hStep.snapshot faults entry _ (h.snapshot entry hEntry)

theorem Recorded.sound (h : Recorded entries) : Sound entries := by
  induction h with
  | start => exact ⟨nodup_nil, nofun⟩
  | @record entries files path _ ih =>
    unfold recordOriginal
    split
    next => exact ih
    next hNew =>
      have hPath : ∀ entry ∈ entries, entry.path ≠ path := by simpa using hNew
      constructor
      · rw [map_append]
        exact ih.nodup.append (nodup_singleton _) (by simpa using hPath)
      · simpa [or_imp, forall_and] using ih.snapshot

theorem Reached.sound (h : Reached d) : Sound d.entries := by
  induction h with
  | turn files hRecorded => exact hRecorded.sound
  | step e _ ih =>
    cases e with
    | revert faults => exact ih.runImpl keeps_revertEntry
    | reapply faults => exact ih.runImpl keeps_reapplyEntry
    | edit path content => exact ih

theorem revert_reverted (hOpen : d.reverted = false) :
    (revertImpl faults d).2.reverted = !faults.manifest := by
  cases hManifest : faults.manifest <;> simp [revertImpl, runImpl, hOpen, hManifest]

theorem mem_revert_entries (h : Sound d.entries) (hOpen : d.reverted = false) (hEntry : entry ∈ d.entries) :
    (revertEntry faults entry (d.files entry.path)).1.1 ∈ (revertImpl faults d).2.entries := by
  rw [revertImpl, runImpl_entries h (by simp [hOpen])]
  exact mem_map_of_mem hEntry

theorem revert_file (h : Sound d.entries) (hOpen : d.reverted = false) (hEntry : entry ∈ d.entries) :
    (revertImpl faults d).2.files entry.path = (faults.restore entry.path).elim entry.backup Prod.snd := by
  rw [revertImpl, runImpl_file h (by simp [hOpen]) hEntry]
  cases hFault : faults.restore entry.path <;> simp [revertEntry, attempt, hFault]

theorem reapply_revert_file (h : Sound d.entries) (hOpen : d.reverted = false) (hEntry : entry ∈ d.entries)
    (hExists : entry.backup.isSome = true → (d.files entry.path).isSome = true) :
    (reapplyImpl .clear (revertImpl .clear d).2).2.files entry.path =
      if d.files entry.path = none ∧ entry.redo = true then entry.snapshot else d.files entry.path := by
  have hFile := @runImpl_file β reapplyEntry .clear (revertImpl .clear d).2 _ "Re-applied" false
    (h.runImpl keeps_revertEntry) (by simp [revert_reverted hOpen, Faults.clear])
    (mem_revert_entries h hOpen hEntry)
  rw [keeps_revertEntry.path] at hFile
  refine hFile.trans ?_
  cases hNow : d.files entry.path with
  | some content => simp [revertEntry, reapplyEntry, attempt, Faults.clear]
  | none =>
    have hNew : entry.backup = none := by simpa [hNow] using hExists
    cases hRedo : entry.redo with
    | true =>
      obtain ⟨content, hContent⟩ := Option.isSome_iff_exists.mp (h.snapshot entry hEntry hRedo)
      simp [revertEntry, reapplyEntry, attempt, Faults.clear, hRedo, hContent]
    | false => simp [revertEntry, reapplyEntry, attempt, Faults.clear, hRedo, hNew]

end

/-- A revert and the reapply after it leave every recorded file as it was exactly when no
file that is gone still has a snapshot of an earlier revert. -/
theorem reapply_undoes_revert_iff {d : Disk β} (h : Reached d) (hOpen : d.reverted = false)
    (hExists : ∀ entry ∈ d.entries, entry.backup.isSome = true → (d.files entry.path).isSome = true) :
    (∀ entry ∈ d.entries,
      (reapplyImpl .clear (revertImpl .clear d).2).2.files entry.path = d.files entry.path) ↔
    ∀ entry ∈ d.entries, d.files entry.path = none → entry.redo = false := by
  refine forall₂_congr fun entry hEntry => ?_
  rw [reapply_revert_file h.sound hOpen hEntry (hExists entry hEntry)]
  split
  next hGone =>
    obtain ⟨content, hContent⟩ := Option.isSome_iff_exists.mp (h.sound.snapshot entry hEntry hGone.2)
    simp [hGone.1, hGone.2, hContent]
  next hKept => simpa using hKept

namespace Draft

/-- A turn that created one file. -/
def disk : Disk String :=
  ⟨[⟨"draft.md", none, false, none⟩], false, fun path => if path = "draft.md" then some "text" else none⟩

theorem disk_reached : Reached disk := .turn _ (.record (fun _ => none) "draft.md" .start)

theorem reapply_undoes_first_revert : Reached disk ∧ ∀ entry ∈ disk.entries,
    (reapplyImpl .clear (revertImpl .clear disk).2).2.files entry.path = disk.files entry.path :=
  ⟨disk_reached, (reapply_undoes_revert_iff disk_reached rfl (by simp [disk])).mpr (by simp [disk])⟩

/-- Reverted, reapplied and then deleted: the next reapply brings the file back. -/
def deleted : Disk String :=
  (Event.edit "draft.md" none).apply ((Event.reapply .clear).apply ((Event.revert .clear).apply disk))

theorem reapply_recreates_deleted : Reached deleted ∧ deleted.reverted = false ∧
    (∀ entry ∈ deleted.entries, entry.backup = none) ∧ deleted.files "draft.md" = none ∧
    (reapplyImpl .clear (revertImpl .clear deleted).2).2.files "draft.md" = some "text" := by
  refine ⟨.step _ (.step _ (.step _ disk_reached)), ?_⟩
  decide +kernel

end Draft

/-! ## Finishing a revert that failed -/

/-- A second revert finishes one that failed exactly when the manifest was not written
either, or every failed step left its file as it was before the turn. -/
theorem retry_restores_iff {d : Disk β} (h : Reached d) {faults error}
    (hError : (revertImpl faults d).1 = .error error) :
    (∀ entry ∈ d.entries, (revertImpl .clear (revertImpl faults d).2).2.files entry.path = entry.backup) ↔
      faults.manifest = true ∨
        ∀ entry ∈ d.entries, ∀ fault, faults.restore entry.path = some fault → fault.2 = entry.backup := by
  have hOpen : d.reverted = false := by
    cases hFlag : d.reverted with
    | false => rfl
    | true => simp [revertImpl, runImpl, hFlag] at hError
  cases hManifest : faults.manifest with
  | false =>
    have hRetry : revertImpl .clear (revertImpl faults d).2 = (.ok 0, (revertImpl faults d).2) :=
      if_pos (by rw [revert_reverted hOpen, hManifest]; rfl)
    simp only [hRetry, Bool.false_eq_true, false_or]
    refine forall₂_congr fun entry hEntry => ?_
    rw [revert_file h.sound hOpen hEntry]
    cases faults.restore entry.path <;> simp
  | true =>
    simp only [true_or, iff_true]
    intro entry hEntry
    have hStill : (revertImpl faults d).2.reverted = false := by rw [revert_reverted hOpen, hManifest]; rfl
    have hFile := @revert_file β .clear _ _ (h.sound.runImpl keeps_revertEntry) hStill
      (mem_revert_entries h.sound hOpen hEntry)
    rw [keeps_revertEntry.path] at hFile
    refine hFile.trans ?_
    rcases revertEntry_kept faults entry (d.files entry.path) with hSame | ⟨-, hSame⟩ <;> rw [hSame] <;> rfl

namespace Draft

/-- The file cannot be removed, and the manifest is written or not. -/
def refused (manifest : Bool) : Faults String :=
  ⟨fun _ => false, fun _ => some ("Permission denied (os error 13)", some "text"), manifest⟩

theorem revert_refused : ∀ manifest, (revertImpl (refused manifest) disk).1 =
    .error "Reverted 0 of 1 files; failures: draft.md: Permission denied (os error 13)" := by decide +kernel

theorem retry_without_manifest : (∃ error, (revertImpl (refused true) disk).1 = .error error) ∧
    ∀ entry ∈ disk.entries,
      (revertImpl .clear (revertImpl (refused true) disk).2).2.files entry.path = entry.backup :=
  ⟨⟨_, revert_refused true⟩, (retry_restores_iff disk_reached (revert_refused true)).mpr (.inl rfl)⟩

theorem retry_restores_nothing : Reached disk ∧ (revertImpl (refused false) disk).1 =
      .error "Reverted 0 of 1 files; failures: draft.md: Permission denied (os error 13)" ∧
    (revertImpl .clear (revertImpl (refused false) disk).2).1 = .ok 0 ∧
    (revertImpl .clear (revertImpl (refused false) disk).2).2.files "draft.md" = some "text" := by
  refine ⟨disk_reached, revert_refused false, ?_⟩
  decide +kernel

end Draft

end LittleMonkey.Checkpoint
