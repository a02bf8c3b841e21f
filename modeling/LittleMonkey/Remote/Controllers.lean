import LittleMonkey.Lib.Conflicts
import LittleMonkey.Lib.Maps

/-! # Sequence numbers of a remote controller

`allocate_controller_sequence` counts in the stored profile of a controller.
`update_controller_cursor` writes back the whole profile that it read before.
-/

namespace LittleMonkey.Remote

open Guards Transaction Interleaving Primitives

structure ControllerProfile where
  nextSequence : Nat
  eventCursors : Table String Nat

/-- The controllers since the last key rotation, with the numbers they were given in their order. -/
structure Controllers where
  profiles : Table String ControllerProfile
  allocated : String → List Nat

namespace Controllers

variable (s : Controllers)

def updateProfile (name : String) (profile : ControllerProfile) : Controllers :=
  if (s.profiles.lookup name).isSome then { s with profiles := s.profiles.insert name profile } else s

def controller (name : String) : Except String ControllerProfile :=
  okOr (s.profiles.lookup name) s!"Unknown remote controller '{name}'"

def nextOf (name : String) : Option Nat := (s.profiles.lookup name).map (·.nextSequence)

end Controllers

def allocateControllerSequence (name : String) : Prog String Controllers Nat := Prog.transaction do
  let found ← Transaction.read (·.controller name)
  let profile ← pureBody found
  let allocated := max profile.nextSequence 1
  require (2 ^ 64 ≤ allocated + 1) "Remote controller sequence overflow"
  Transaction.write fun s =>
    { s.updateProfile name { profile with nextSequence := allocated + 1 } with
      allocated := Function.update s.allocated name (s.allocated name ++ [allocated]) }
  pure allocated

def updateControllerCursor (name runId : String) (sequence : Nat) : Prog String Controllers Unit := do
  let found ← Prog.read (·.controller name)
  let profile ← Prog.ofExcept found
  let cursor := (profile.eventCursors.lookup runId).getD 0
  Prog.write (·.updateProfile name
    { profile with eventCursors := profile.eventCursors.insert runId (max cursor sequence) })

inductive ControllerCall
  | allocate (name : String)
  | updateCursor (name runId : String) (sequence : Nat)

namespace ControllerCall

def program : ControllerCall → Prog String Controllers Unit
  | .allocate name => allocateControllerSequence name >>= fun _ => pure ()
  | .updateCursor name runId sequence => updateControllerCursor name runId sequence

/-- An allocation and an update of a cursor of the same controller. -/
def conflict : ControllerCall → ControllerCall → Prop
  | .allocate name, .updateCursor other _ _ | .updateCursor other _ _, .allocate name => name = other
  | _, _ => False

def rely : ControllerCall → Controllers → Controllers → Prop
  | .allocate _, _, _ => True
  | .updateCursor name _ _, s, t => t.nextOf name = s.nextOf name

def guarantee : ControllerCall → Controllers → Controllers → Prop
  | .allocate name, s, t => ∀ other, other ≠ name → t.nextOf other = s.nextOf other
  | .updateCursor _ _ _, s, t => ∀ other, t.nextOf other = s.nextOf other

end ControllerCall

/-- The numbers of a controller grow, and the next one is larger. -/
def Counting (s : Controllers) : Prop :=
  ∀ name, (s.allocated name ++ (s.nextOf name).toList).Pairwise (· < ·)

theorem nextOf_updateProfile (s : Controllers) (name : String) (profile : ControllerProfile) (other : String) :
    (s.updateProfile name profile).nextOf other =
      if other = name then (s.nextOf name).map fun _ => profile.nextSequence else s.nextOf other := by
  unfold Controllers.updateProfile Controllers.nextOf
  by_cases hAlias : other = name
  · subst hAlias
    cases hFound : s.profiles.lookup other <;> simp [hFound]
  · split <;> simp [hAlias]

theorem Counting.allocate {s : Controllers} (h : Counting s) {name profile}
    (hProfile : s.controller name = .ok profile) {allocated} (hNext : profile.nextSequence ≤ allocated) :
    Counting { s.updateProfile name { profile with nextSequence := allocated + 1 } with
      allocated := Function.update s.allocated name (s.allocated name ++ [allocated]) } := by
  intro other
  change (_ ++ ((s.updateProfile name _).nextOf other).toList).Pairwise (· < ·)
  rw [nextOf_updateProfile]
  by_cases hOther : other = name
  · have hBefore := h name
    subst hOther
    rw [Controllers.nextOf, okOr_eq_ok.mp hProfile] at hBefore ⊢
    simp only [Option.map_some, Option.toList_some, List.pairwise_append, List.mem_singleton, forall_eq,
      if_pos, Function.update_self] at hBefore ⊢
    grind
  · rw [if_neg hOther]
    dsimp only
    rw [Function.update_of_ne hOther]
    exact h other

theorem Counting.updateProfile {s : Controllers} (h : Counting s) {name profile}
    (hNext : s.nextOf name = some profile.nextSequence) : Counting (s.updateProfile name profile) ∧
      ∀ other, (s.updateProfile name profile).nextOf other = s.nextOf other := by
  have hSame : ∀ other, (s.updateProfile name profile).nextOf other = s.nextOf other := by
    intro other
    rw [nextOf_updateProfile]
    split
    · next hName => rw [hName, hNext, Option.map_some]
    · rfl
  refine ⟨fun other => ?_, hSame⟩
  have hAllocated : (s.updateProfile name profile).allocated = s.allocated := by
    unfold Controllers.updateProfile
    split <;> rfl
  rw [hSame, hAllocated]
  exact h other

theorem keeps_controllerCall (call : ControllerCall) (s : Controllers) :
    Keeps Counting call.rely call.guarantee call.program s := by
  cases call with
  | allocate name =>
    refine .seq (.statement fun t r t' _ hI hRun => ?_) fun _ _ => .done _
    rcases commit_cases hRun with ⟨_, -, hBody⟩ | ⟨_, _, -, -, rfl⟩
    · simp only [bind_eq_done, read_eq_ok, pureBody_eq_ok, require_eq_ok, write_eq_ok] at hBody
      obtain ⟨_, _, ⟨rfl, rfl⟩, profile, _, ⟨hProfile, rfl⟩, _, _, ⟨_, rfl⟩, _, _, rfl, _, rfl⟩ := hBody
      refine ⟨hI.allocate hProfile (Nat.le_max_left _ _), fun other hOther => ?_⟩
      exact (nextOf_updateProfile _ name _ other).trans (if_neg hOther)
    · exact ⟨hI, fun _ _ => rfl⟩
  | updateCursor name runId sequence =>
    refine .inspect (fun _ _ => rfl) fun t _ hI => Keeps.ofExcept fun profile hProfile => ?_
    refine .statement fun u _ _ hSame hI hRun => ?_
    cases hRun
    refine hI.updateProfile (hSame.trans ?_)
    rw [Controllers.nextOf, okOr_eq_ok.mp hProfile]
    rfl

/-- Where no allocation runs beside an update of a cursor of its controller, the numbers of a controller
only grow. -/
theorem sequences_increase {profiles : Table String ControllerProfile} {pool : Pool String Controllers Unit}
    (h : Arises (BeginsApart ControllerCall.program ControllerCall.conflict) ⟨profiles, fun _ => []⟩ pool)
    (name : String) : (pool.state.allocated name).Pairwise (· < ·) := by
  have hStart : Counting ⟨profiles, fun _ => []⟩ := by
    intro name
    cases (Controllers.nextOf ⟨profiles, fun _ => []⟩ name) <;> simp
  refine (List.pairwise_append.mp ((Arises.apart ?_ ?_ ?_ ?_ hStart keeps_controllerCall h).1 name)).1
  · intro a b hConflict
    cases a <;> cases b <;> exact hConflict
  · intro a s
    cases a <;> trivial
  · intro a s t u hst htu
    cases a with
    | allocate name => trivial
    | updateCursor name runId sequence => exact htu.trans hst
  · intro a b s t hApart hStep
    cases b with
    | allocate name => trivial
    | updateCursor name runId sequence =>
      cases a with
      | allocate other => exact hStep name fun hSame => hApart hSame.symm
      | updateCursor other _ _ => exact hStep name

def studio : Controllers := ⟨(∅ : Table String ControllerProfile).insert "studio" ⟨1, ∅⟩, fun _ => []⟩

theorem studio_sequences_increase :
    let s := inTurn ControllerCall.program
      [.allocate "studio", .updateCursor "studio" "run" 7, .allocate "studio"] studio
    s.allocated "studio" = [1, 2] ∧ (s.allocated "studio").Pairwise (· < ·) := by
  obtain ⟨workers, hArises⟩ := Arises.inTurn ControllerCall.program ControllerCall.conflict
    [.allocate "studio", .updateCursor "studio" "run" 7, .allocate "studio"] studio
  exact ⟨by decide +kernel, sequences_increase hArises "studio"⟩

/-- The cursor is written back with the count of before the first allocation. -/
theorem sequence_given_twice : ∃ pool, Arises (Begins ControllerCall.program) studio pool ∧
    pool.state.allocated "studio" = [1, 1] := by
  have hPlayed : (schedule ControllerCall.program [.inl (.updateCursor "studio" "run" 7), .inr 0,
      .inl (.allocate "studio"), .inr 1, .inr 0, .inl (.allocate "studio"), .inr 2] studio).any
        (fun pool => pool.state.allocated "studio" = [1, 1]) = true := by decide +kernel
  simpa using Arises.scheduled hPlayed

end LittleMonkey.Remote
