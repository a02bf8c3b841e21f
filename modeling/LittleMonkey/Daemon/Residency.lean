import Mathlib.Algebra.Order.BigOperators.Group.List
import Mathlib.Data.List.Dedup
import LittleMonkey.Daemon.Ticks
import LittleMonkey.Lib.Lists

/-! # Device rows and the resident model

A model stays resident as long as one active job holds it.  The device rows of
its placement are written by the job that loaded it, and the holders that join
later book no device: the charge follows the model only in runs in which that
first job leaves last.
-/

namespace LittleMonkey.Daemon

open Durable Transaction List Option

def Holds (e : Engine) (id key : String) : Prop :=
  ∃ standing reservation, e.standing id = some standing ∧ standing.state.isActive = true ∧
    standing.reservation = some reservation ∧ reservation.modelKey = key

def Carries (e : Engine) (id key : String) : Prop :=
  Holds e id key ∧ ∃ devices, e.admitted.lookup key = some devices ∧
    ∀ claim ∈ devices, ⟨id, claim⟩ ∈ e.store.deviceRows

structure Charged (e : Engine) : Prop where
  carried : ∀ id key, Holds e id key → ∃ carrier, Carries e carrier key
  idle : ∀ id standing, e.standing id = some standing → standing.state.isActive = false →
    standing.reservation = none
  supervised : ∀ id ∈ e.active, ∃ standing, e.standing id = some standing ∧ standing.state.isActive = true

/-! ## The charge of a carried model -/

theorem Holds.job {e id key} (h : Holds e id key) :
    ∃ job reservation, e.store.jobs.lookup id = some job ∧ job.state.isActive = true ∧
      job.reservation = some reservation ∧ reservation.modelKey = key := by
  obtain ⟨standing, reservation, hStanding, hActive, hReservation, hKey⟩ := h
  obtain ⟨job, hJob, rfl⟩ := map_eq_some_iff.mp hStanding
  exact ⟨job, reservation, hJob, hActive, hReservation, hKey⟩

theorem holds_iff {e key} : e.store.holds key = true ↔ ∃ id, Holds e id key := by
  simp only [JobStore.holds, List.any_eq_true, Bool.and_eq_true]
  constructor
  · rintro ⟨⟨id, job⟩, hMem, hActive, hKey⟩
    cases hReservation : job.reservation with
    | none =>
      rw [hReservation] at hKey
      cases hKey
    | some reservation =>
      rw [hReservation, any_some, beq_iff_eq] at hKey
      exact ⟨id, job.standing, reservation,
        Engine.standing_of_lookup (JobStore.mem_all.mp hMem), hActive, hReservation, hKey⟩
  · rintro ⟨id, hHolds⟩
    obtain ⟨job, reservation, hJob, hActive, hReservation, hKey⟩ := hHolds.job
    refine ⟨(id, job), JobStore.mem_all.mpr hJob, hActive, ?_⟩
    rw [hReservation, Option.any_some, hKey, beq_self_eq_true]

theorem Holds.mem_residentKeys {e id key} (h : Holds e id key) : key ∈ e.store.residentKeys := by
  obtain ⟨job, reservation, hJob, hActive, hReservation, hKey⟩ := h.job
  refine mem_dedup.mpr (mem_filterMap.mpr ⟨(id, job), JobStore.mem_all.mpr hJob, ?_⟩)
  simp [hActive, hReservation, hKey]

def ChargedFor (e : Engine) (key : String) : Prop :=
  ∃ devices, e.admitted.lookup key = some devices ∧
    ∀ claim ∈ devices, ∃ total, (claim.device, total) ∈ e.store.committedDeviceReservations ∧
      claim.bytes ≤ total

theorem Carries.chargedFor {e id key} (h : Carries e id key) : ChargedFor e key := by
  obtain ⟨hHolds, devices, hDevices, hRows⟩ := h
  obtain ⟨job, reservation, hJob, hActive, hReservation, hKey⟩ := hHolds.job
  refine ⟨devices, hDevices, fun claim hClaim => ⟨e.store.committedDevice claim.device, ?_, ?_⟩⟩
  all_goals
    have hResident := hHolds.mem_residentKeys
    have hRow : (⟨id, claim⟩ : DeviceRow) ∈ e.store.deviceRowsOf key := by
      refine mem_filter.mpr ⟨hRows claim hClaim, ?_⟩
      simp [hJob, hActive, hReservation, hKey]
  · refine mem_map.mpr ⟨claim.device, mem_dedup.mpr ?_, rfl⟩
    exact mem_flatMap.mpr ⟨key, hResident, mem_map.mpr ⟨_, hRow, rfl⟩⟩
  · have hModel : claim.bytes ≤ e.store.modelDeviceBytes key claim.device := by
      refine Lists.le_foldl_max (.inl (mem_map.mpr ⟨⟨id, claim⟩, ?_, rfl⟩))
      exact mem_filter.mpr ⟨hRow, beq_self_eq_true _⟩
    calc claim.bytes ≤ e.store.modelDeviceBytes key claim.device := hModel
      _ ≤ e.store.committedDevice claim.device := single_le_sum (fun _ _ => Nat.zero_le _) _
          (mem_map.mpr ⟨key, hResident, rfl⟩)

/-! ## Writes -/

structure SameClaims (e e' : Engine) : Prop where
  holds : ∀ id key, Holds e' id key ↔ Holds e id key
  deviceRows : e'.store.deviceRows = e.store.deviceRows
  admitted : e'.admitted = e.admitted

theorem SameClaims.carries {e e'} (h : SameClaims e e') {id key}
    (hCarries : Carries e id key) : Carries e' id key := by
  obtain ⟨hHolds, devices, hDevices, hRows⟩ := hCarries
  refine ⟨(h.holds id key).mpr hHolds, devices, h.admitted ▸ hDevices, fun claim hClaim => ?_⟩
  rw [h.deviceRows]
  exact hRows claim hClaim

theorem SameClaims.charged {e e'} (h : SameClaims e e') (hCharged : Charged e)
    (hIdle : ∀ id standing, e'.standing id = some standing →
      standing.state.isActive = false → standing.reservation = none)
    (hSupervised : ∀ id ∈ e'.active,
      ∃ standing, e'.standing id = some standing ∧ standing.state.isActive = true) :
    Charged e' where
  carried id key hHolds := by
    obtain ⟨carrier, hCarries⟩ := hCharged.carried id key ((h.holds id key).mp hHolds)
    exact ⟨carrier, h.carries hCarries⟩
  idle := hIdle
  supervised := hSupervised

theorem Quietly.sameClaims {e₀ e} (h : Quietly e₀ e) : SameClaims e₀ e :=
  { h with
    holds := fun id key => by simp only [Holds, h.standing] }

theorem Charged.stable : Stable Charged := by
  intro e₀ e h he
  refine h.sameClaims.charged he (fun id standing hStanding => ?_) fun id hMem => ?_
  · exact he.idle id standing (h.standing id ▸ hStanding)
  · rw [h.standing]
    exact he.supervised id (h.active ▸ hMem)

theorem sameClaims_setRow {e id job} (hSelf : ∀ key, Holds (e.setRow id job) id key ↔ Holds e id key) :
    SameClaims e (e.setRow id job) where
  holds other key := by
    by_cases hOther : other = id
    · exact hOther ▸ hSelf key
    · simp only [Holds, Engine.standing_setRow_of_ne e job hOther]
  deviceRows := rfl
  admitted := rfl

theorem sameClaims_of_isActive {e id old job}
    (hOld : e.standing id = some old) (hReservation : job.reservation = old.reservation)
    (hActive : old.state.isActive = true) (hState : job.state.isActive = true) :
    SameClaims e (e.setRow id job) := by
  refine sameClaims_setRow fun key => ?_
  simp only [Holds, Engine.standing_setRow_self, hOld, Option.some.injEq]
  constructor
  · rintro ⟨_, reservation, rfl, -, hSome, hKey⟩
    exact ⟨old, reservation, rfl, hActive, hReservation ▸ hSome, hKey⟩
  · rintro ⟨_, reservation, rfl, -, hSome, hKey⟩
    exact ⟨job.standing, reservation, rfl, hState, hReservation.trans hSome, hKey⟩

theorem Charged.setRow {e} (h : Charged e) {id job} (hSame : SameClaims e (e.setRow id job))
    (hIdle : job.state.isActive = false → job.reservation = none)
    (hActive : id ∈ e.active → job.state.isActive = true) : Charged (e.setRow id job) := by
  refine hSame.charged h (fun other standing hStanding hState => ?_) fun other hMem => ?_
  · obtain ⟨rfl, rfl⟩ | ⟨-, hStanding⟩ := Engine.of_standing_setRow hStanding
    · exact hIdle hState
    · exact h.idle other standing hStanding hState
  by_cases hOther : other = id
  · subst hOther
    exact ⟨job.standing, Engine.standing_setRow_self e other job, hActive hMem⟩
  · rw [Engine.standing_setRow_of_ne e job hOther]
    exact h.supervised other hMem

theorem Charged.setRow_free {e} (h : Charged e) {id job}
    (hBefore : ∀ key, ¬ Holds e id key) (hAfter : job.reservation = none)
    (hActive : id ∈ e.active → job.state.isActive = true) : Charged (e.setRow id job) := by
  refine h.setRow (sameClaims_setRow fun key => ?_) (fun _ => hAfter) hActive
  refine iff_of_false ?_ (hBefore key)
  rintro ⟨standing, reservation, hStanding, -, hSome, -⟩
  rw [Engine.standing_setRow_self, Option.some.injEq] at hStanding
  subst hStanding
  cases hAfter.symm.trans hSome

theorem not_holds_of_free {e id} (h : ∀ standing, e.standing id = some standing → standing.reservation = none)
    (key : String) : ¬ Holds e id key := by
  rintro ⟨standing, reservation, hStanding, -, hSome, -⟩
  cases (h standing hStanding).symm.trans hSome

def Dispensable (e : Engine) (id : String) : Prop :=
  ∀ other key, other ≠ id → Holds e other key → ∃ carrier, carrier ≠ id ∧ Carries e carrier key

theorem holds_release {e id other key} : Holds (e.release id) other key ↔ other ≠ id ∧ Holds e other key := by
  by_cases hOther : other = id
  · subst hOther
    simp only [Holds, Engine.standing_release_self, ne_eq, not_true_eq_false, false_and, iff_false]
    rintro ⟨standing, reservation, hStanding, -, hSome, -⟩
    obtain ⟨old, -, rfl⟩ := map_eq_some_iff.mp hStanding
    cases hSome
  · simp only [Holds, Engine.standing_release_of_ne e hOther, ne_eq, hOther, not_false_eq_true, true_and]

theorem Carries.release {e id carrier key} (h : Carries e carrier key)
    (hOther : carrier ≠ id) : Carries (e.release id) carrier key := by
  obtain ⟨hHolds, devices, hDevices, hRows⟩ := h
  refine ⟨holds_release.mpr ⟨hOther, hHolds⟩, devices, hDevices, fun claim hClaim => ?_⟩
  exact mem_filter.mpr ⟨hRows claim hClaim, bne_iff_ne.mpr hOther⟩

theorem Charged.release {e id} (h : Charged e)
    (hDispensable : Dispensable e id) : Charged (e.release id) where
  carried other key hHolds := by
    obtain ⟨hOther, hHeld⟩ := holds_release.mp hHolds
    obtain ⟨carrier, hCarrier, hCarries⟩ := hDispensable other key hOther hHeld
    exact ⟨carrier, hCarries.release hCarrier⟩
  idle other standing hStanding hIdle := by
    by_cases hOther : other = id
    · rw [hOther, Engine.standing_release_self] at hStanding
      obtain ⟨old, -, rfl⟩ := map_eq_some_iff.mp hStanding
      rfl
    · rw [Engine.standing_release_of_ne e hOther] at hStanding
      exact h.idle other standing hStanding hIdle
  supervised other hMem := by
    obtain ⟨standing, hStanding, hActive⟩ := h.supervised other hMem
    by_cases hOther : other = id
    · refine ⟨standing.unclaimed, ?_, hActive⟩
      rw [hOther, Engine.standing_release_self, ← hOther, hStanding, map_some]
    · exact ⟨standing, (Engine.standing_release_of_ne e hOther).trans hStanding, hActive⟩

theorem Charged.dispensable {e} (h : Charged e) {id}
    (hNothing : ∀ key, ¬ Holds e id key) : Dispensable e id := by
  intro other key _ hHolds
  obtain ⟨carrier, hCarries⟩ := h.carried other key hHolds
  refine ⟨carrier, ?_, hCarries⟩
  rintro rfl
  exact hNothing key hCarries.1

/-! ## A new holder -/

section

variable {e : Engine} {id : String} {job : DaemonJob} {claim : AdmittedClaim}

theorem holds_record_of_ne {other key} (hOther : other ≠ id) :
    Holds (e.record id job claim) other key ↔ Holds e other key := by
  simp only [Holds, Engine.standing_record_of_ne e job claim hOther]

theorem Holds.record_self {key} (h : Holds (e.record id job claim) id key) :
    key = claim.reservation.modelKey := by
  obtain ⟨standing, reservation, hStanding, -, hSome, rfl⟩ := h
  rw [Engine.standing_record_self, Option.some.injEq] at hStanding
  subst hStanding
  exact congrArg ModelReservation.modelKey (Option.some.inj hSome).symm

theorem admitted_record {other key} (hHolds : Holds e other key) :
    (e.record id job claim).admitted.lookup key = e.admitted.lookup key := by
  change (e.noteAdmission claim).admitted.lookup key = _
  unfold Engine.noteAdmission
  split
  · rfl
  next hFree =>
    refine AList.lookup_insert_ne ?_
    rintro rfl
    exact hFree (holds_iff.mpr ⟨other, hHolds⟩)

theorem Carries.record {carrier key} (h : Carries e carrier key)
    (hCarrier : carrier ≠ id) : Carries (e.record id job claim) carrier key := by
  obtain ⟨hHolds, devices, hDevices, hRows⟩ := h
  refine ⟨(holds_record_of_ne hCarrier).mpr hHolds, devices,
    (admitted_record hHolds).trans hDevices, fun placed hPlaced => ?_⟩
  refine mem_append_left _ (mem_filter.mpr ⟨hRows placed hPlaced, ?_⟩)
  exact bne_iff_ne.mpr hCarrier

theorem carries_record (hActive : job.state.isActive = true)
    (hFree : e.store.holds claim.reservation.modelKey = false) :
    Carries (e.record id job claim) id claim.reservation.modelKey := by
  refine ⟨⟨_, claim.reservation, Engine.standing_record_self _ _ _ _, hActive, rfl, rfl⟩,
    claim.devices, ?_, fun placed hPlaced => ?_⟩
  · change (e.noteAdmission claim).admitted.lookup _ = _
    rw [Engine.noteAdmission, hFree]
    exact AList.lookup_insert _
  · exact mem_append_right _ (mem_map.mpr ⟨placed, hPlaced, rfl⟩)

theorem Dispensable.record (h : Dispensable e id) : Dispensable (e.record id job claim) id := by
  intro other key hOther hHolds
  obtain ⟨carrier, hCarrier, hCarries⟩ := h other key hOther ((holds_record_of_ne hOther).mp hHolds)
  exact ⟨carrier, hCarrier, hCarries.record hCarrier⟩

theorem Charged.record (h : Charged e) (hActive : job.state.isActive = true)
    (hDispensable : Dispensable e id) (hFree : ∀ key, ¬ Holds e id key) :
    Charged (e.record id job claim) where
  carried other key hHolds := by
    by_cases hOther : other = id
    · subst hOther
      obtain rfl := hHolds.record_self
      cases hHeld : e.store.holds claim.reservation.modelKey with
      | false => exact ⟨other, carries_record hActive hHeld⟩
      | true =>
        obtain ⟨holder, hHolder⟩ := holds_iff.mp hHeld
        have hNe : holder ≠ other := by
          rintro rfl
          exact hFree _ hHolder
        obtain ⟨carrier, hCarrier, hCarries⟩ := hDispensable holder _ hNe hHolder
        exact ⟨carrier, hCarries.record hCarrier⟩
    · obtain ⟨carrier, -, hCarries⟩ := hDispensable.record other key hOther hHolds
      exact ⟨carrier, hCarries⟩
  idle other standing hStanding hIdle := by
    by_cases hOther : other = id
    · subst hOther
      rw [Engine.standing_record_self, Option.some.injEq] at hStanding
      subst hStanding
      exact absurd (hActive.symm.trans hIdle) (by decide)
    · rw [Engine.standing_record_of_ne e job claim hOther] at hStanding
      exact h.idle other standing hStanding hIdle
  supervised other hMem := by
    have hActiveList : (e.record id job claim).active = e.active := (e.noteAdmission_fields claim).1
    obtain ⟨standing, hStanding, hState⟩ := h.supervised other (hActiveList ▸ hMem)
    by_cases hOther : other = id
    · subst hOther
      exact ⟨_, Engine.standing_record_self _ _ _ _, hActive⟩
    · exact ⟨standing, (Engine.standing_record_of_ne e job claim hOther).trans hStanding, hState⟩

end

theorem Charged.of_store {e e'} (h : Charged e) (hStore : e'.store.jobs = e.store.jobs)
    (hRows : e'.store.deviceRows = e.store.deviceRows) (hAdmitted : e'.admitted = e.admitted)
    (hActive : ∀ id ∈ e'.active, id ∈ e.active) : Charged e' := by
  have hStanding : ∀ id, e'.standing id = e.standing id := by
    intro id
    rw [Engine.standing, Engine.standing, hStore]
  have hSame : SameClaims e e' := ⟨fun _ _ => by simp only [Holds, hStanding], hRows, hAdmitted⟩
  refine hSame.charged h (fun id standing hFound => ?_) fun id hMem => ?_
  · exact h.idle id standing (hStanding id ▸ hFound)
  · rw [hStanding]
    exact h.supervised id (hActive id hMem)

theorem Charged.drop {e} (h : Charged e) (id : String) : Charged (e.drop id) :=
  h.of_store rfl rfl rfl fun _ hMem => mem_of_mem_filter hMem

theorem Charged.reborn (e : Engine) (h : Charged e) : Charged e.reborn :=
  h.of_store rfl rfl rfl nofun

/-! ## A supervised job -/

structure Occupied (id : String) (e : Engine) : Prop where
  charged : Charged e
  active : ∃ standing, e.standing id = some standing ∧ standing.state.isActive = true

/-- The job may go: what the others hold is carried without it. -/
structure Departing (id : String) (e : Engine) : Prop extends Occupied id e where
  dispensable : Dispensable e id

structure Freed (id : String) (e : Engine) : Prop extends Occupied id e where
  free : ∀ standing, e.standing id = some standing → standing.reservation = none

namespace Occupied

variable {id : String} {e e₀ : Engine}

theorem stable (id : String) : Stable (Occupied id) := by
  intro e₀ e h he
  obtain ⟨standing, hStanding, hActive⟩ := he.active
  exact ⟨.stable h he.charged, standing, (h.standing id).trans hStanding, hActive⟩

theorem moved (h : Occupied id e) {job} (hJob : e.store.jobs.lookup id = some job)
    {state} (hState : state.isActive = true) (now : Nat) (processId : Option Nat) (error : Option String) :
    Occupied id (e.setRow id (job.moved state now processId error)) := by
  obtain ⟨standing, hStanding, hActive⟩ := h.active
  cases hStanding.symm.trans (Engine.standing_of_lookup hJob)
  refine ⟨h.charged.setRow (sameClaims_of_isActive hStanding rfl hActive hState) (fun hIdle => ?_)
    fun _ => hState, _, Engine.standing_setRow_self _ _ _, hState⟩
  exact absurd (hState.symm.trans hIdle) (by decide)

theorem enlisted (h : Occupied id e) : Charged (e.enlist id) where
  carried := h.charged.carried
  idle := h.charged.idle
  supervised other hMem := by
    rcases mem_cons.mp hMem with rfl | hMem
    · exact h.active
    · exact h.charged.supervised other hMem

end Occupied

theorem Dispensable.sameClaims {e e' id} (h : Dispensable e id)
    (hSame : SameClaims e e') : Dispensable e' id := by
  intro other key hOther hHolds
  obtain ⟨carrier, hCarrier, hCarries⟩ := h other key hOther ((hSame.holds other key).mp hHolds)
  exact ⟨carrier, hCarrier, hSame.carries hCarries⟩

namespace Departing

variable {id : String} {e : Engine}

theorem stable (id : String) : Stable (Departing id) := fun _ _ h he =>
  ⟨.stable id h he.toOccupied, he.dispensable.sameClaims h.sameClaims⟩

theorem resumed (h : Departing id e) {job}
    (hJob : e.store.jobs.lookup id = some job) (now : Nat) (processId : Option Nat) :
    Departing id (e.setRow id (job.moved .running now processId none)) := by
  refine ⟨h.toOccupied.moved hJob rfl now processId none, h.dispensable.sameClaims ?_⟩
  obtain ⟨standing, hStanding, hActive⟩ := h.active
  cases hStanding.symm.trans (Engine.standing_of_lookup hJob)
  exact sameClaims_of_isActive hStanding rfl hActive rfl

theorem released (h : Departing id e) : Freed id (e.release id) := by
  obtain ⟨standing, hStanding, hActive⟩ := h.active
  have hReleased : (e.release id).standing id = some standing.unclaimed := by
    rw [Engine.standing_release_self, hStanding, map_some]
  refine ⟨⟨h.charged.release h.dispensable, standing.unclaimed, hReleased, hActive⟩, ?_⟩
  intro found hFound
  cases hFound.symm.trans hReleased
  rfl

end Departing

namespace Freed

variable {id : String} {e : Engine}

theorem stable (id : String) : Stable (Freed id) := fun _ _ h he =>
  ⟨.stable id h he.toOccupied, fun standing hStanding => he.free standing (h.standing id ▸ hStanding)⟩

theorem departing (h : Freed id e) : Departing id e :=
  ⟨h.toOccupied, h.charged.dispensable (not_holds_of_free h.free)⟩

theorem recorded (h : Freed id e) {job} (hJob : e.store.jobs.lookup id = some job) (claim : AdmittedClaim) :
    Departing id (e.record id job claim) := by
  obtain ⟨standing, hStanding, hActive⟩ := h.active
  cases hStanding.symm.trans (Engine.standing_of_lookup hJob)
  have hDispensable := h.departing.dispensable
  exact ⟨⟨h.charged.record hActive hDispensable (not_holds_of_free h.free), _,
    Engine.standing_record_self _ _ _ _, hActive⟩, hDispensable.record⟩

theorem settled (h : Freed id e) {job}
    (hJob : e.store.jobs.lookup id = some job) (state : JobState) (now : Nat) (error : Option String) :
    Charged ((e.setRow id (job.moved state now none error)).drop id) := by
  have hDropped : Charged (e.drop id) := h.charged.drop id
  exact hDropped.setRow_free (not_holds_of_free h.free)
    (h.free _ (Engine.standing_of_lookup hJob)) fun hMem => absurd hMem (e.notMem_drop id)

end Freed

def Occupied.outline (id runId : String) : Outline Charged id runId where
  requeues := True
  busy := Occupied id
  leaving := Departing id
  freed := Freed id
  stable := Charged.stable
  busy_stable := Occupied.stable id
  leaving_stable := Departing.stable id
  freed_stable := Freed.stable id
  of_busy _ h := h.charged
  busy_of_leaving _ h := h.toOccupied
  leaving_of_freed _ h := h.departing
  reborn := Charged.reborn
  drop _ h := ⟨⟨h.charged.drop id, h.active⟩, h.dispensable⟩
  enlist _ h := h.enlisted
  release _ h := h.released
  record _ _ claim h hJob := h.recorded hJob claim
  resume _ _ now processId h hJob := h.resumed hJob now processId
  approval _ _ now processId h hJob := (h.moved hJob rfl now processId none).charged
  park _ _ now processId h hJob := (h.toOccupied.moved hJob rfl now processId none).charged
  settle _ _ state now error h hJob _ := h.settled hJob state now error

/-! ## A job that waits -/

structure Unclaimed (id : String) (e : Engine) : Prop where
  charged : Charged e
  away : id ∉ e.active
  free : ∀ standing, e.standing id = some standing → standing.reservation = none

namespace Unclaimed

variable {id : String} {e : Engine}

theorem of_lookup (h : Charged e) {job} (hJob : e.store.jobs.lookup id = some job)
    (hWaiting : job.state.isActive = false) : Unclaimed id e := by
  have hRow := Engine.standing_of_lookup hJob
  refine ⟨h, fun hMem => ?_, fun standing hStanding => ?_⟩
  · obtain ⟨standing, hStanding, hActive⟩ := h.supervised id hMem
    cases hStanding.symm.trans hRow
    exact absurd (hWaiting.symm.trans hActive) (by decide)
  · cases hStanding.symm.trans hRow
    exact h.idle id _ hStanding hWaiting

theorem stable (id : String) : Stable (Unclaimed id) := fun _ _ h he =>
  ⟨.stable h he.charged, h.active ▸ he.away,
    fun standing hStanding => he.free standing (h.standing id ▸ hStanding)⟩

theorem setRow (h : Unclaimed id e) {job} (hNone : job.reservation = none) : Charged (e.setRow id job) :=
  h.charged.setRow_free (not_holds_of_free h.free) hNone fun hMem => absurd hMem h.away

theorem moved (h : Unclaimed id e) {job}
    (hJob : e.store.jobs.lookup id = some job) (state : JobState) (now : Nat)
    (processId : Option Nat) (error : Option String) :
    Charged (e.setRow id (job.moved state now processId error)) :=
  h.setRow (h.free _ (Engine.standing_of_lookup hJob))

def queueOutline (id : String) : QueueOutline Charged id where
  waits := Unclaimed id
  stable := stable id
  of_waits _ h := h.charged
  reborn := Charged.reborn
  ended _ _ state now error h hJob _ := h.moved hJob state now none error

theorem startJob (w : World) (job : DaemonJob) (claim : Option AdmittedClaim) :
    Triple (Unclaimed id) (startJob w id job claim) (fun _ => Charged) (Kept Charged) := by
  have hMoved : ∀ state error, Triple (Unclaimed id) (transition w id state none error)
      (fun _ => Charged) (Kept Charged) := fun state error =>
    transition_spec w (fun e he _ => he.charged) Charged.reborn fun e row he hRow =>
      he.moved hRow state w.now none error
  unfold Daemon.startJob
  cases job.runId with
  | none => exact .fail fun e he => he.charged
  | some runId =>
    cases w.validateWorktree id with
    | error message => exact .fail fun e he => he.charged
    | ok _ =>
      dsimp only
      split
      swap
      · exact .pure fun e he => he.charged
      refine .bind (Q := fun _ => Unclaimed id) ?_ fun _ => ?_
      · have hSpawned : ∀ e, Unclaimed id e → Unclaimed id { e with spawned := id :: e.spawned } :=
          fun e he => ⟨he.charged.of_store rfl rfl rfl fun _ hMem => hMem, he.away, he.free⟩
        exact .durable hSpawned fun _ e he => .reborn _ (hSpawned e he).charged
      cases w.spawn id with
      | ok processId =>
        have hEnlist : Triple (Occupied id) (write fun e => { e with active := id :: e.active })
            (fun _ => Charged) (Kept Charged) := .write fun e he =>
          (Occupied.outline id runId).enlist e he
        refine .bind (Q := fun _ => Freed id) ?_ fun _ => ?_
        · refine transition_spec w (fun e he _ => he.charged) (fun e he => .reborn e he.charged)
            fun e row he hRow => ?_
          have hNone : row.reservation = none := he.free _ (Engine.standing_of_lookup hRow)
          refine ⟨⟨he.moved hRow _ _ _ _, _, Engine.standing_setRow_self _ _ _, rfl⟩, ?_⟩
          intro standing hStanding
          cases hStanding.symm.trans (Engine.standing_setRow_self _ _ _)
          exact hNone
        · cases claim with
          | none => exact hEnlist.pre fun e he => he.toOccupied
          | some claim =>
            refine .bind (Q := fun _ => Occupied id) ?_ fun _ => hEnlist
            exact recordReservation_spec w (fun e he => he.charged)
              (fun e he => .reborn e he.charged) fun e row he hRow =>
                (he.recorded hRow claim).toOccupied
      | error message =>
        dsimp only
        split
        · exact hMoved .queued (some message)
        · exact ((queueOutline id).quiet (quiet_failRun w runId)).bind fun _ =>
            hMoved .failed (some message)

end Unclaimed

/-! ## Runs -/

def HoldsAlone (e : Engine) (id : String) : Prop :=
  ∀ other key claim, Holds e id key → ⟨id, claim⟩ ∈ e.store.deviceRows → Holds e other key → other = id

theorem HoldsAlone.dispensable {e id} (h : HoldsAlone e id) (hCharged : Charged e) : Dispensable e id := by
  intro other key hOther hHolds
  obtain ⟨carrier, hCarries⟩ := hCharged.carried other key hHolds
  by_cases hCarrier : carrier = id
  swap
  · exact ⟨carrier, hCarrier, hCarries⟩
  subst hCarrier
  obtain ⟨hSelf, devices, hDevices, hRows⟩ := hCarries
  cases devices with
  | nil => exact ⟨other, hOther, hHolds, [], hDevices, nofun⟩
  | cons claim devices =>
    exact absurd (h other key claim hSelf (hRows claim mem_cons_self) hHolds) hOther

/-- The steps that keep the charge: the job with the device rows of a model gives
its claim back when no other active job holds the model, and a job is resumed
while it holds none. -/
def CarrierLast : Event → Engine → Prop
  | .supervise w id, e => ∀ job, id ∈ e.active → e.store.jobs.lookup id = some job →
      (w.leaves e id job = true → HoldsAlone e id) ∧ (job.resumes = true → job.reservation = none)
  | .recover w id _, e => (w.liveHandoff && w.adopts id) = false → HoldsAlone e id
  | _, _ => True

theorem Charged.empty : Charged Engine.empty where
  carried _ _ h := by
    obtain ⟨standing, -, hStanding, -⟩ := h
    cases hStanding
  idle _ _ h := by cases h
  supervised _ h := by cases h

theorem Charged.sweep {e} (h : Charged e) : Charged { e with store := e.store.sweepStaleReservations } := by
  have hNone : e.store.all.filter (fun row => row.2.reservation.isSome && !row.2.state.isActive) = [] := by
    refine filter_eq_nil_iff.mpr fun row hRow hStale => ?_
    rw [Bool.and_eq_true, Bool.not_eq_true'] at hStale
    have hStanding := Engine.standing_of_lookup (JobStore.mem_all.mp hRow)
    have hFree : row.2.reservation = none := h.idle row.1 _ hStanding hStale.2
    rw [hFree] at hStale
    cases hStale.1
  have hStore : e.store.sweepStaleReservations = e.store := by
    unfold JobStore.sweepStaleReservations
    exact congrArg (List.foldl _ e.store) hNone
  rw [hStore]
  exact h

theorem tickActive_charged (w : World) (id : String) :
    Triple (fun e => Charged e ∧ CarrierLast (.supervise w id) e) (tickActive w id)
      (fun _ => Charged) (Kept Charged) := by
  refine tickActive_spec (fun _ he => he.1) fun e job runId he hRow hRun => ?_
  have hBusy : id ∈ e.active → Occupied id e := fun hMem => ⟨he.1, he.1.supervised id hMem⟩
  refine (Occupied.outline id runId).tickActive hRow hRun (fun _ => trivial) he.1 hBusy
    (fun hMem hLeaves => ?_) fun hMem hResumes => ?_
  · exact ⟨hBusy hMem, ((he.2 job hMem hRow).1 hLeaves).dispensable he.1⟩
  · refine ⟨hBusy hMem, fun standing hStanding => ?_⟩
    cases hStanding.symm.trans (Engine.standing_of_lookup hRow)
    exact (he.2 job hMem hRow).2 hResumes

theorem recoverJob_charged (w : World) (id : String) (job : DaemonJob) :
    Triple (fun e => Charged e ∧ Event.enabled (.recover w id job) e ∧ CarrierLast (.recover w id job) e)
      (recoverJob w id job) (fun _ => Charged) (Kept Charged) := by
  rintro e ⟨hI, ⟨hRow, hActive, hAway⟩, hC⟩
  have hRun : ∀ r, job.runId = some r → r = job.runId.getD "" := by
    intro r hr
    rw [hr, getD_some]
  have hBusy : Occupied id e := ⟨hI, job.standing, Engine.standing_of_lookup hRow, hActive⟩
  exact (Occupied.outline id _).recoverJob hRun (fun _ _ => trivial) e
    ⟨hBusy, hAway, fun hLeaves => ⟨hBusy, (hC hLeaves).dispensable hI⟩⟩

def charging : EventOutline Charged CarrierLast where
  queue := Unclaimed.queueOutline
  stable := .stable
  waits h hJob hWaiting := .of_lookup h hJob (JobState.isActive_of_isWaiting hWaiting)
  supervise := tickActive_charged
  start h _ _ claim := (Unclaimed.startJob _ _ claim).pre fun _ he => he ▸ h
  recover := recoverJob_charged
  sweep h := h.sweep
  runs _ h := h.of_store rfl rfl rfl fun _ hMem => hMem
  submit {e id new} h hNone _ := by
    refine h.setRow_free (not_holds_of_free fun standing hStanding => ?_) rfl fun hMem => ?_
    · cases hNone.symm.trans hStanding
    · obtain ⟨standing, hStanding, -⟩ := h.supervised id hMem
      cases hNone.symm.trans hStanding
  prepared {e id job job'} h hJob hPreparing _ _ hReservation := by
    have hWaits : Unclaimed id e := .of_lookup h hJob (by rw [hPreparing]; rfl)
    exact hWaits.setRow (hReservation.trans (hWaits.free _ (Engine.standing_of_lookup hJob)))

/-- In every run in which the job with the device rows leaves last, every device a
held model was placed on is charged with what it was placed with. -/
theorem resident_devices_charged {e : Engine} (h : Reachable CarrierLast e)
    {id key : String} (hHolds : Holds e id key) : ChargedFor e key := by
  have hInv : Charged e := h.invariant Charged.empty charging.step
  obtain ⟨carrier, hCarries⟩ := hInv.carried id key hHolds
  exact hCarries.chargedFor

namespace ResidencySample

def gpu : DeviceId := ⟨.cuda, some 0⟩

def loading (now : Nat) : World :=
  { calm now with
    measured := true
    reservation := fun _ => .localModel "m"
    fit := fun _ _ _ => .fits ⟨10, 10⟩ [⟨gpu, 10⟩] }

def new (createdAtMs : Nat) : NewJob := ⟨0, 1, createdAtMs, 100000, none, 100000⟩

def queued : Engine := (Engine.empty.submitted "a" "run-a" (new 0)).submitted "b" "run-b" (new 1)

def first : DaemonJob := (new 0).row.queuedWith "run-a" 0

def loaded : Engine := outcome (Event.start (loading 0) ⟨4, [], []⟩ "a" first).program queued

theorem reachable_loaded : Reachable CarrierLast loaded := by
  have hOutside : ∀ event e, event.isOutside = true → CarrierLast event e :=
    fun event _ h => by cases event <;> trivial
  have hQueued : Reachable CarrierLast queued :=
    (Reachable.empty.submitted hOutside "a" "run-a" (new 0)).submitted hOutside "b" "run-b" (new 1)
  exact .step _ hQueued ⟨by decide +kernel, rfl⟩ trivial

theorem holds_loaded : Holds loaded "a" "m" :=
  ⟨(first.moved .running 0 (some 7) none).standing.claiming ⟨"m", ⟨10, 10⟩⟩, ⟨"m", ⟨10, 10⟩⟩,
    by decide +kernel, rfl, rfl, rfl⟩

end ResidencySample

theorem resident_devices_charged_first :
    Holds ResidencySample.loaded "a" "m" ∧ ChargedFor ResidencySample.loaded "m" :=
  ⟨ResidencySample.holds_loaded,
    resident_devices_charged ResidencySample.reachable_loaded ResidencySample.holds_loaded⟩

namespace ResidencySample

def second : DaemonJob := (new 1).row.queuedWith "run-b" 1

def outlived : Engine :=
  outcome (tick { loading 2 with exitCode := fun id => if id = "a" then some 0 else none })
    (outcome (Event.child "run-a" ⟨.succeeded, []⟩).program (outcome (tick (loading 1)) queued))

theorem daemonRun_outlived : DaemonRun outlived := .tick _ (.event _ rfl (.tick _
    ((DaemonRun.empty.submitted "a" "run-a" (new 0)).submitted "b" "run-b" (new 1))))

theorem holds_outlived : Holds outlived "b" "m" :=
  ⟨(second.moved .running 1 (some 7) none).standing.claiming ⟨"m", ⟨10, 10⟩⟩, ⟨"m", ⟨10, 10⟩⟩,
    by decide +kernel, rfl, rfl, rfl⟩

end ResidencySample

/-- The model is still held, and the device it was placed on is charged nothing. -/
theorem resident_devices_uncharged : ¬ ∀ e, DaemonRun e → ∀ id key, Holds e id key → ChargedFor e key := by
  intro h
  obtain ⟨devices, hDevices, hCharged⟩ :=
    h _ ResidencySample.daemonRun_outlived "b" "m" ResidencySample.holds_outlived
  have hPlaced : ResidencySample.outlived.admitted.lookup "m" = some [⟨ResidencySample.gpu, 10⟩] := by
    decide +kernel
  have hNothing : ResidencySample.outlived.store.committedDeviceReservations = [] := by
    decide +kernel
  cases hDevices.symm.trans hPlaced
  obtain ⟨total, hMem, -⟩ := hCharged _ mem_cons_self
  rw [hNothing] at hMem
  cases hMem

end LittleMonkey.Daemon
