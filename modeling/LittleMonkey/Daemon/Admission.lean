import LittleMonkey.Daemon.Scheduler
import LittleMonkey.Lib.Guards

/-! # Admission

Whether a queued job fits beside what is committed: in the memory of the machine, under the
ceiling of the profile, and on each device the planner puts it on.
-/

namespace LittleMonkey.Daemon.Admission

open Guards Primitives Scheduler List

/-! ## Hardware and placements -/

structure MemoryRequirement where
  (ramBytes vramBytes : Nat)
  deriving DecidableEq

structure AcceleratorDevice where
  index : Nat
  (totalMemoryBytes availableMemoryBytes : Option Nat)

structure AcceleratorCapability where
  kind : Scheduler.AcceleratorKind
  available : Bool
  (totalMemoryBytes availableMemoryBytes : Option Nat)
  devices : List AcceleratorDevice

structure HardwareSnapshot where
  (totalRamBytes availableRamBytes : Nat)
  recommendedRamReserveBytes : Option Nat
  accelerators : List AcceleratorCapability

structure OffloadModelProfile where
  (estimatedRamBytes estimatedVramBytes : Nat)
  requiredAccelerator : Option Scheduler.AcceleratorKind

/-- Of a split across devices the bytes are given, which the weight of each ordinal comes to. -/
inductive DeviceSplit
  | singleDevice (index : Nat)
  | across (shares : Nat → List Nat)

structure OffloadPlan where
  accelerator : Scheduler.AcceleratorKind
  (estimatedTotalLayers gpuLayers : Nat)
  deviceSplit : DeviceSplit

abbrev Planner := HardwareSnapshot → OffloadModelProfile → Option OffloadPlan

structure Placement where
  claim : MemoryRequirement
  devices : List Scheduler.DeviceClaim

def acceleratorCapability (kind : Scheduler.AcceleratorKind) (snapshot : HardwareSnapshot) :
    Option AcceleratorCapability :=
  snapshot.accelerators.find? fun entry => entry.kind = kind && entry.available

def share (bytes numerator denominator : Nat) : Nat :=
  if denominator = 0 then 0 else min (bytes * numerator / denominator) u64Max

def deviceClaims (accelerator : Scheduler.AcceleratorKind) (split : DeviceSplit) (vramBytes : Nat)
    (capability : Option AcceleratorCapability) : List Scheduler.DeviceClaim :=
  if vramBytes = 0 then []
  else if !capability.any (!·.devices.isEmpty) then [⟨⟨accelerator, none⟩, vramBytes⟩]
  else
    match split with
    | .singleDevice index => [⟨⟨accelerator, some index⟩, vramBytes⟩]
    | .across shares =>
      ((shares vramBytes).zipIdx.map fun (bytes, ordinal) => ⟨⟨accelerator, some ordinal⟩, bytes⟩).filter
        fun claim => 0 < claim.bytes

def placement (planner : Planner) (model : OffloadModelProfile) (snapshot : HardwareSnapshot) : Placement :=
  let ramOnly : Placement := ⟨⟨model.estimatedRamBytes, 0⟩, []⟩
  match planner snapshot model with
  | none => ramOnly
  | some plan =>
    if plan.accelerator = .cpu || plan.accelerator = .metal then ramOnly
    else
      let totalLayers := max plan.estimatedTotalLayers 1
      let onGpu := min plan.gpuLayers plan.estimatedTotalLayers
      let vramBytes := share model.estimatedVramBytes onGpu totalLayers
      { claim := ⟨model.estimatedRamBytes - share model.estimatedRamBytes onGpu totalLayers, vramBytes⟩
        devices := deviceClaims plan.accelerator plan.deviceSplit vramBytes
          (acceleratorCapability plan.accelerator snapshot) }

def deviceFreeBytes (device : Scheduler.DeviceId) (snapshot : HardwareSnapshot) : Option Nat := do
  let capability ← acceleratorCapability device.kind snapshot
  match device.index with
  | some index =>
    let entry ← capability.devices.find? fun entry => entry.index = index
    pure ((entry.availableMemoryBytes.or entry.totalMemoryBytes).getD 0)
  | none => pure ((capability.availableMemoryBytes.or capability.totalMemoryBytes).getD 0)

def deviceTotalBytes (device : Scheduler.DeviceId) (snapshot : HardwareSnapshot) : Option Nat := do
  let capability ← acceleratorCapability device.kind snapshot
  match device.index with
  | some index =>
    let entry ← capability.devices.find? fun entry => entry.index = index
    pure (entry.totalMemoryBytes.getD 0)
  | none => pure (capability.totalMemoryBytes.getD 0)

/-! ## What is committed -/

inductive Reservation
  | remote
  | unmeasured (modelId : String)
  | localModel (modelKey : String) (model : OffloadModelProfile)

inductive Refusal
  | hold (resource : Resource) (shortfallBytes : Nat)
  | never (resource : Resource) (shortfallBytes : Nat)

inductive Fit
  | fits (claim : MemoryRequirement) (devices : List Scheduler.DeviceClaim)
  | unmeasured
  | hold (resource : Resource) (shortfallBytes : Nat)
  | never (resource : Resource) (shortfallBytes : Nat)
  deriving DecidableEq

def Refusal.fit : Refusal → Fit
  | hold resource shortfallBytes => .hold resource shortfallBytes
  | never resource shortfallBytes => .never resource shortfallBytes

structure Load where
  committed : MemoryRequirement
  devices : Table Scheduler.DeviceId Nat

def held (devices : Table Scheduler.DeviceId Nat) (device : Scheduler.DeviceId) : Nat := (devices.lookup device).getD 0

def commitDevices (devices : Table Scheduler.DeviceId Nat) (claims : List Scheduler.DeviceClaim) : Table Scheduler.DeviceId Nat :=
  claims.foldl (fun into claim => into.insert claim.device (min (held into claim.device + claim.bytes) u64Max))
    devices

def Load.commit (load : Load) (claim : MemoryRequirement) (claims : List Scheduler.DeviceClaim) : Load where
  committed := ⟨min (load.committed.ramBytes + claim.ramBytes) u64Max,
    min (load.committed.vramBytes + claim.vramBytes) u64Max⟩
  devices := commitDevices load.devices claims

/-! ## The checks -/

section

variable (snapshot : HardwareSnapshot) (ceiling : Option Nat)

/-- The largest device of the accelerator and its memory, or all of it where none is listed. -/
def acceleratorCeiling (required : Scheduler.AcceleratorKind) (capability : AcceleratorCapability) : Nat × Scheduler.DeviceId :=
  let memory (entry : AcceleratorDevice) := entry.availableMemoryBytes.or entry.totalMemoryBytes
  match (capability.devices.filterMap memory).max? with
  | some largest =>
    (largest, ⟨required, ((capability.devices.filter fun entry => memory entry = some largest).map (·.index)).min?⟩)
  | none => ((capability.totalMemoryBytes.or capability.availableMemoryBytes).getD 0, ⟨required, none⟩)

def reserve : Nat := snapshot.recommendedRamReserveBytes.getD 0

def checkAccelerator (model : OffloadModelProfile) : Except Refusal Unit :=
  match model.requiredAccelerator.bind fun required =>
    (acceleratorCapability required snapshot).map (acceleratorCeiling required) with
  | some (largest, device) =>
    refuseIf (largest < model.estimatedVramBytes) (.never (.accelerator device) (model.estimatedVramBytes - largest))
  | none => .ok ()

def checkCeiling (claim : MemoryRequirement) : Except Refusal Unit :=
  match ceiling with
  | some bytes => refuseIf (bytes < claim.ramBytes) (.never .ram (claim.ramBytes - bytes))
  | none => .ok ()

/-- What no load of the machine can change. -/
def checkCapacity (model : OffloadModelProfile) (claim : MemoryRequirement) : Except Refusal Unit := do
  let ramCeiling := snapshot.totalRamBytes - reserve snapshot
  refuseIf (ramCeiling < claim.ramBytes) (.never .ram (claim.ramBytes - ramCeiling))
  checkAccelerator snapshot model
  checkCeiling ceiling claim

def ramBudget : Nat :=
  match ceiling with
  | some bytes => min (snapshot.availableRamBytes - reserve snapshot) bytes
  | none => snapshot.availableRamBytes - reserve snapshot

def checkRam (claim : MemoryRequirement) (load : Load) : Except Refusal Unit :=
  let wanted := min (claim.ramBytes + load.committed.ramBytes) u64Max
  refuseIf (ramBudget snapshot ceiling < wanted) (.hold .ram (wanted - ramBudget snapshot ceiling))

def checkDevice (load : Load) (claim : Scheduler.DeviceClaim) : Except Refusal Unit :=
  match deviceFreeBytes claim.device snapshot with
  | none => .ok ()
  | some free => do
    let total := (deviceTotalBytes claim.device snapshot).getD 0
    refuseIf (0 < total && total < claim.bytes) (.never (.accelerator claim.device) (claim.bytes - total))
    let wanted := min (claim.bytes + held load.devices claim.device) u64Max
    refuseIf (free < wanted) (.hold (.accelerator claim.device) (wanted - free))

def checkAll (model : OffloadModelProfile) (placed : Placement) (load : Load) : Except Refusal Unit := do
  checkCapacity snapshot ceiling model placed.claim
  checkRam snapshot ceiling placed.claim load
  placed.devices.forM (checkDevice snapshot load)

def fit (planner : Planner) (reservation : Reservation) (load : Load) : Fit :=
  match reservation with
  | .remote => .fits ⟨0, 0⟩ []
  | .unmeasured _ => .unmeasured
  | .localModel _ model =>
    let placed := placement planner model snapshot
    match checkAll snapshot ceiling model placed load with
    | .error refusal => refusal.fit
    | .ok () => .fits placed.claim placed.devices

/-- The reservations in turn, each committed if it fits beside the ones before. -/
def admitAll (planner : Planner) (load : Load) : List Reservation → Load
  | [] => load
  | reservation :: rest =>
    match fit snapshot ceiling planner reservation load with
    | .fits claim devices => admitAll planner (load.commit claim devices) rest
    | _ => admitAll planner load rest

end

/-! ## What the checks compare -/

section

variable {hw : HardwareSnapshot} {cap : Option Nat} {planner : Planner} {load : Load}

variable (hw) in
/-- The device is listed, and too small for the claim. -/
def oversized (claim : Scheduler.DeviceClaim) : Bool :=
  let total := (deviceTotalBytes claim.device hw).getD 0
  (deviceFreeBytes claim.device hw).isSome && (0 < total && total < claim.bytes)

variable (hw cap) in
def RamFits (claim : MemoryRequirement) (bytes : Nat) : Prop :=
  min (claim.ramBytes + bytes) u64Max ≤ ramBudget hw cap

variable (hw) in
def DeviceFits (claim : Scheduler.DeviceClaim) (bytes : Nat) : Prop :=
  ∀ free, deviceFreeBytes claim.device hw = some free → min (claim.bytes + bytes) u64Max ≤ free

theorem RamFits.of_le {claim m n} (h : RamFits hw cap claim n) (hLe : m ≤ n ∨ n = u64Max) :
    RamFits hw cap claim m := by
  unfold RamFits at h ⊢
  omega

theorem DeviceFits.of_le {claim m n} (h : DeviceFits hw claim n) (hLe : m ≤ n ∨ n = u64Max) :
    DeviceFits hw claim m := by
  intro free hFree
  have hFits := h free hFree
  omega

theorem checkRam_ok {claim} :
    checkRam hw cap claim load = .ok () ↔ RamFits hw cap claim load.committed.ramBytes := by
  simp only [checkRam, RamFits, refuseIf_eq_ok, decide_eq_false_iff_not, not_lt]

theorem checkDevice_ok {claim} : checkDevice hw load claim = .ok () ↔
    oversized hw claim = false ∧ DeviceFits hw claim (held load.devices claim.device) := by
  unfold checkDevice oversized DeviceFits
  cases hFree : deviceFreeBytes claim.device hw with
  | none => simp
  | some free =>
    simp only [bind_eq_ok, refuseIf_eq_ok, decide_eq_false_iff_not, not_lt,
      Option.some.injEq, forall_eq']
    constructor
    · rintro ⟨_, h⟩
      exact h
    · intro h
      exact ⟨(), h⟩

theorem checkAll_ok {m p} : checkAll hw cap m p load = .ok () ↔
    checkCapacity hw cap m p.claim = .ok () ∧ RamFits hw cap p.claim load.committed.ramBytes ∧
      ∀ claim ∈ p.devices, oversized hw claim = false ∧
        DeviceFits hw claim (held load.devices claim.device) := by
  simp only [checkAll, bind_eq_ok, forM_eq_ok, checkDevice_ok]
  rw [← checkRam_ok]
  constructor
  · rintro ⟨_, hCapacity, _, hRam, hAll⟩
    exact ⟨hCapacity, hRam, hAll⟩
  · rintro ⟨hCapacity, hRam, hAll⟩
    exact ⟨(), hCapacity, (), hRam, hAll⟩

/-! ## Refusals for good -/

variable (hw) in
/-- The devices that are checked before one that is too small. -/
def checkedBefore (devices : List Scheduler.DeviceClaim) : List Scheduler.DeviceClaim :=
  devices.takeWhile fun claim => !oversized hw claim

variable (hw cap) in
/-- Where so much is held, nothing is in the way before a device that is too small. -/
structure Refused (p : Placement) (ram : Nat) (on : Scheduler.DeviceId → Nat) : Prop where
  tooSmall : ∃ claim ∈ p.devices, oversized hw claim = true
  ram : RamFits hw cap p.claim ram
  devices : ∀ claim ∈ checkedBefore hw p.devices, DeviceFits hw claim (on claim.device)

namespace SmallCard

def machine : HardwareSnapshot := ⟨100, 100, none, [⟨.cuda, true, some 8, some 8, [⟨0, some 8, some 8⟩]⟩]⟩
def m : Reservation := .localModel "model" ⟨20, 20, none⟩
def plan : Planner := fun _ _ => some ⟨.cuda, 2, 1, .singleDevice 0⟩

end SmallCard

/-! ## Loads within the budgets -/

variable (hw cap) in
structure Within (load : Load) : Prop where
  ram : load.committed.ramBytes ≤ hw.availableRamBytes - reserve hw
  ceiling : ∀ bytes, cap = some bytes → load.committed.ramBytes ≤ bytes
  devices : ∀ device free, deviceFreeBytes device hw = some free → held load.devices device ≤ free

theorem le_ramBudget_iff {bytes} : bytes ≤ ramBudget hw cap ↔
    bytes ≤ hw.availableRamBytes - reserve hw ∧ ∀ limit, cap = some limit → bytes ≤ limit := by
  cases cap <;> simp [ramBudget]

theorem deviceClaims_distinct (accelerator : Scheduler.AcceleratorKind) (split : DeviceSplit) (vramBytes : Nat)
    (capability : Option AcceleratorCapability) :
    ((deviceClaims accelerator split vramBytes capability).map (·.device)).Nodup := by
  unfold deviceClaims
  split
  · exact nodup_nil
  split
  · exact nodup_singleton _
  cases split with
  | singleDevice index => exact nodup_singleton _
  | across shares =>
    -- The device of a claim has its position as its index.
    apply List.Nodup.sublist (filter_sublist.map _)
    rw [map_map]
    apply List.Nodup.of_map (·.index)
    rw [map_map]
    have hRange : (shares vramBytes).zipIdx.map Prod.snd = List.range' 0 _ := zipIdx_map_snd ..
    have hOrdinals := (hRange ▸ nodup_range').map (Option.some_injective Nat)
    rwa [map_map] at hOrdinals

theorem placement_distinct (planner : Planner) (m : OffloadModelProfile) (hw : HardwareSnapshot) :
    ((placement planner m hw).devices.map (·.device)).Nodup := by
  unfold placement
  split
  · exact nodup_nil
  split
  · exact nodup_nil
  · exact deviceClaims_distinct ..

theorem held_insert {devices device other bytes} :
    held (AList.insert device bytes devices) other = if other = device then bytes else held devices other := by
  unfold held
  split
  · next h => rw [h, AList.lookup_insert, Option.getD_some]
  · next h => rw [AList.lookup_insert_ne h]

theorem commitDevices_within {devices : Table Scheduler.DeviceId Nat} {claims : List Scheduler.DeviceClaim}
    (hDistinct : (claims.map (·.device)).Nodup)
    (hFits : ∀ claim ∈ claims, DeviceFits hw claim (held devices claim.device))
    (h : ∀ device free, deviceFreeBytes device hw = some free → held devices device ≤ free) :
    ∀ device free, deviceFreeBytes device hw = some free → held (commitDevices devices claims) device ≤ free := by
  induction claims generalizing devices with
  | nil => exact h
  | cons claim rest ih =>
    rw [map_cons, nodup_cons] at hDistinct
    rw [forall_mem_cons] at hFits
    apply ih hDistinct.2
    · intro other hMem
      have hOther : other.device ≠ claim.device := fun hSame =>
        hDistinct.1 (mem_map.mpr ⟨other, hMem, hSame⟩)
      rw [held_insert, if_neg hOther]
      exact hFits.2 other hMem
    · intro device free hFree
      rw [held_insert]
      split
      · next hSame =>
        subst hSame
        have hClaim := hFits.1 free hFree
        omega
      · exact h device free hFree

theorem fit_eq_fits {key m claim claims}
    (h : fit hw cap planner (.localModel key m) load = .fits claim claims) :
    checkAll hw cap m (placement planner m hw) load = .ok () ∧
      claim = (placement planner m hw).claim ∧ claims = (placement planner m hw).devices := by
  unfold fit at h
  dsimp only at h
  cases hChecks : checkAll hw cap m (placement planner m hw) load with
  | error e =>
    rw [hChecks] at h
    cases e <;> cases h
  | ok _ =>
    rw [hChecks] at h
    cases h
    exact ⟨rfl, rfl, rfl⟩

theorem Within.commit {r claim claims} (h : Within hw cap load)
    (hFit : fit hw cap planner r load = .fits claim claims) : Within hw cap (load.commit claim claims) := by
  cases r with
  | unmeasured modelId => cases hFit
  | remote =>
    cases hFit
    have hRam := h.ram
    refine ⟨by simp only [Load.commit]; omega, fun bytes hCap => ?_, h.devices⟩
    have hCeiling := h.ceiling bytes hCap
    simp only [Load.commit]
    omega
  | localModel key m =>
    obtain ⟨hChecks, rfl, rfl⟩ := fit_eq_fits hFit
    obtain ⟨-, hRam, hDevices⟩ := checkAll_ok.mp hChecks
    rw [RamFits, Nat.add_comm, le_ramBudget_iff] at hRam
    exact ⟨hRam.1, hRam.2, commitDevices_within (placement_distinct ..)
      (fun claim hMem => (hDevices claim hMem).2) h.devices⟩

theorem admitAll_within (planner : Planner) {reservations : List Reservation} (h : Within hw cap load) :
    Within hw cap (admitAll hw cap planner load reservations) := by
  induction reservations generalizing load with
  | nil => exact h
  | cons r rest ih =>
    unfold admitAll
    split
    · next hFit => exact ih (h.commit hFit)
    · exact ih h

theorem fit_of_smaller {r claim claims} {smaller : Load}
    (hRam : smaller.committed.ramBytes ≤ load.committed.ramBytes)
    (hDevices : ∀ device, held smaller.devices device ≤ held load.devices device)
    (h : fit hw cap planner r load = .fits claim claims) :
    fit hw cap planner r smaller = .fits claim claims := by
  cases r with
  | unmeasured modelId => cases h
  | remote => exact h
  | localModel key m =>
    obtain ⟨hChecks, rfl, rfl⟩ := fit_eq_fits h
    obtain ⟨hCapacity, hFits, hAll⟩ := checkAll_ok.mp hChecks
    have hSmaller : checkAll hw cap m (placement planner m hw) smaller = .ok () :=
      checkAll_ok.mpr ⟨hCapacity, hFits.of_le (.inl hRam), fun claim hMem =>
        ⟨(hAll claim hMem).1, (hAll claim hMem).2.of_le (.inl (hDevices claim.device))⟩⟩
    simp only [fit, hSmaller]

/-- Whatever is admitted in turn stays within the budgets, and what fits beside a load fits beside a
smaller one. -/
theorem never_overcommitted (hw : HardwareSnapshot) (cap : Option Nat) (planner : Planner) :
    (∀ reservations, Within hw cap (admitAll hw cap planner ⟨⟨0, 0⟩, ∅⟩ reservations)) ∧
    ∀ r load smaller claim claims, smaller.committed.ramBytes ≤ load.committed.ramBytes →
      (∀ device, held smaller.devices device ≤ held load.devices device) →
      fit hw cap planner r load = .fits claim claims →
        fit hw cap planner r smaller = .fits claim claims :=
  ⟨fun _ => admitAll_within planner ⟨Nat.zero_le _, fun _ _ => Nat.zero_le _, fun _ _ _ => Nat.zero_le _⟩,
    fun _ _ _ _ _ hRam hDevices h => fit_of_smaller hRam hDevices h⟩

end

end LittleMonkey.Daemon.Admission
