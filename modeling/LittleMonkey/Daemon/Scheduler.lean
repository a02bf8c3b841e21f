import Mathlib.Algebra.BigOperators.Group.List.Basic
import Mathlib.Algebra.GroupWithZero.Nat
import LittleMonkey.Lib.Comparing
import LittleMonkey.Lib.Primitives

/-! # Arbitration

The ranking of the queued jobs and the choice of the running jobs that step aside: classes,
aging, fair share and preemption.
-/

namespace LittleMonkey.Daemon.Scheduler

open Primitives Comparing List

inductive ProcessClass
  | interactive | batch | background | maintenance
  deriving DecidableEq

namespace ProcessClass

def rank : ProcessClass → Nat
  | interactive => 0
  | batch => 1
  | background => 2
  | maintenance => 3

def token : ProcessClass → String
  | interactive => "interactive"
  | batch => "batch"
  | background => "background"
  | maintenance => "maintenance"

def promoted (c : ProcessClass) (steps : Nat) : ProcessClass :=
  match c.rank - steps with
  | 0 => interactive
  | 1 => batch
  | 2 => background
  | _ => maintenance

theorem rank_promoted (c : ProcessClass) (steps : Nat) : (c.promoted steps).rank = c.rank - steps := by
  have hRank : c.rank ≤ 3 := by cases c <;> decide
  obtain h | h | h | h : c.rank - steps = 0 ∨ c.rank - steps = 1 ∨ c.rank - steps = 2 ∨ c.rank - steps = 3 := by
    omega
  all_goals
    rw [promoted, h]
    rfl

end ProcessClass

def agingIntervalMs : Nat := 60000
def classCount : Nat := 4
def fairShareQuantumMs : Nat := 30000

def agingSteps (queuedMs : Nat) : Nat :=
  let steps := queuedMs / agingIntervalMs
  if 2 ^ 32 - 1 < steps then 2 ^ 32 - 1 else steps

def starvationBoundMs : Nat := (classCount - 1) * agingIntervalMs

structure Candidate where
  jobId : String
  processClass : ProcessClass
  workspace : Option String
  priority : Int
  (createdAtMs chargedMs : Nat)
  deriving DecidableEq

namespace Candidate

def agingSteps (nowMs : Nat) (c : Candidate) : Nat := Scheduler.agingSteps (nowMs - c.createdAtMs)

def effectiveClass (nowMs : Nat) (c : Candidate) : ProcessClass := c.processClass.promoted (c.agingSteps nowMs)

def chargeBucket (c : Candidate) : Nat := c.chargedMs / fairShareQuantumMs

end Candidate

def ranking (nowMs : Nat) : Candidate → Candidate → Ordering :=
  compareLex (compareOn fun c => (c.effectiveClass nowMs).rank) <|
  compareLex (fun left right => compareOn (Candidate.agingSteps nowMs) right left) <|
  compareLex (compareOn Candidate.chargeBucket) <|
  compareLex (fun left right => compareOn Candidate.priority right left) <|
  compareLex (compareOn Candidate.createdAtMs) <|
  compareOn fun c => textBytes c.jobId

instance (nowMs : Nat) : Std.TransCmp (ranking nowMs) := by
  unfold ranking
  infer_instance

def rank (candidates : List Candidate) (nowMs : Nat) : List Candidate := sortBy (ranking nowMs) candidates

/-! ## Starvation -/

theorem agingSteps_mono {m n} (h : m ≤ n) : agingSteps m ≤ agingSteps n := by
  have hDiv : m / agingIntervalMs ≤ n / agingIntervalMs := Nat.div_le_div_right h
  simp only [agingSteps]
  split <;> split <;> omega

theorem effectiveClass_of_starved {nowMs} {c : Candidate} (h : starvationBoundMs ≤ nowMs - c.createdAtMs) :
    3 ≤ c.agingSteps nowMs ∧ (c.effectiveClass nowMs).rank = 0 := by
  have hSteps : 3 ≤ c.agingSteps nowMs := agingSteps_mono h
  refine ⟨hSteps, ?_⟩
  rw [Candidate.effectiveClass, ProcessClass.rank_promoted]
  have hRank : c.processClass.rank ≤ 3 := by cases c.processClass <;> decide
  omega

/-- The job goes before the one that came later by its aging, its charge or its priority. -/
def Outlasts (nowMs : Nat) (a b : Candidate) : Prop :=
  b.agingSteps nowMs < a.agingSteps nowMs ∨ a.chargeBucket < b.chargeBucket ∨
    a.chargeBucket = b.chargeBucket ∧ b.priority ≤ a.priority

instance (nowMs : Nat) (a b : Candidate) : Decidable (Outlasts nowMs a b) :=
  inferInstanceAs (Decidable (_ ∨ _ ∨ _ ∧ _))

section

variable {nowMs : Nat} {a b : Candidate} (hStarved : starvationBoundMs ≤ nowMs - a.createdAtMs)

include hStarved

theorem rank_eq_of_steps_eq (h : b.agingSteps nowMs = a.agingSteps nowMs) :
    (b.effectiveClass nowMs).rank = 0 := by
  have hSteps := (effectiveClass_of_starved hStarved).1
  have hRank : b.processClass.rank ≤ 3 := by cases b.processClass <;> decide
  rw [Candidate.effectiveClass, ProcessClass.rank_promoted]
  omega

variable (hLater : a.createdAtMs < b.createdAtMs)

include hLater

theorem ranking_lt_of_outlasts (h : Outlasts nowMs a b) : ranking nowMs a b = .lt := by
  have hRank := (effectiveClass_of_starved hStarved).2
  have hSteps : b.agingSteps nowMs ≤ a.agingSteps nowMs := agingSteps_mono (by omega)
  simp only [ranking, compareLex, compareOn, hRank, Ordering.then_eq_lt, compare_eq_iff_eq, compare_lt_iff_lt]
  rcases Nat.eq_zero_or_pos (b.effectiveClass nowMs).rank with hZero | hPositive
  · refine .inr ⟨hZero.symm, ?_⟩
    rcases Nat.lt_or_eq_of_le hSteps with hLess | hSame
    · exact .inl hLess
    · refine .inr ⟨hSame, ?_⟩
      rcases h with hMore | hCharge | ⟨hBucket, hPriority⟩
      · omega
      · exact .inl hCharge
      · refine .inr ⟨hBucket, ?_⟩
        rcases lt_or_eq_of_le hPriority with hAbove | hEqual
        · exact .inl hAbove
        · exact .inr ⟨hEqual, .inl hLater⟩
  · exact .inl hPositive

theorem ranking_gt_of_not_outlasts (h : ¬ Outlasts nowMs a b) : ranking nowMs a b = .gt := by
  have hRank := (effectiveClass_of_starved hStarved).2
  have hSteps : b.agingSteps nowMs ≤ a.agingSteps nowMs := agingSteps_mono (by omega)
  simp only [Outlasts, not_or, not_lt, not_and, not_le] at h
  obtain ⟨hNotMore, hCharge, hPriority⟩ := h
  have hSame : b.agingSteps nowMs = a.agingSteps nowMs := by omega
  have hZero := rank_eq_of_steps_eq hStarved hSame
  have hSwap : ranking nowMs a b = (ranking nowMs b a).swap := Std.OrientedCmp.eq_swap
  have hLess : ranking nowMs b a = .lt := by
    simp only [ranking, compareLex, compareOn, hRank, hZero, Ordering.then_eq_lt, compare_eq_iff_eq,
      compare_lt_iff_lt]
    refine .inr ⟨trivial, .inr ⟨hSame.symm, ?_⟩⟩
    rcases Nat.lt_or_eq_of_le hCharge with hLow | hEqual
    · exact .inl hLow
    · exact .inr ⟨hEqual, .inl (hPriority hEqual.symm)⟩
  rw [hSwap, hLess]
  rfl

/-- A job that has waited for the bound goes before a later one exactly if it outlasts it. -/
theorem starved_precedes_iff {candidates : List Candidate} (ha : a ∈ candidates) (hb : b ∈ candidates) :
    Precedes (rank candidates nowMs) a b ↔ Outlasts nowMs a b := by
  constructor
  · intro hBefore
    by_contra hNot
    exact not_precedes_of_gt ha hb (ranking_gt_of_not_outlasts hStarved hLater hNot) hBefore
  · intro h
    exact precedes_of_lt (ranking_lt_of_outlasts hStarved hLater h)

end

/-! Two maintenance jobs of different workspaces, queued four and three and a half minutes ago. -/

namespace Maintenance

def first : Candidate := ⟨"job-a", .maintenance, some "/a", 0, 0, 60000⟩
def second : Candidate := ⟨"job-b", .maintenance, some "/b", 0, 30000, 0⟩

/-- The later job overtakes, for its workspace was charged less. -/
theorem later_overtakes : starvationBoundMs ≤ 210000 - first.createdAtMs ∧
    first.createdAtMs < second.createdAtMs ∧ ¬ Precedes (rank [first, second] 210000) first second := by
  refine ⟨by decide, by decide, fun h => ?_⟩
  have hOrder := h 1 0 (by decide +kernel) (by decide +kernel)
  omega

theorem earlier_precedes : Precedes (rank [first, second] 240000) first second :=
  (starved_precedes_iff (by decide) (by decide) (by simp) (by simp)).mpr (by decide)

end Maintenance

/-! ## The deciding key -/

inductive RankingKey
  | effectiveClass | agingSteps | fairShare | priority | queueAge | jobId

namespace RankingKey

def token : RankingKey → String
  | effectiveClass => "effective_class"
  | agingSteps => "aging_steps"
  | fairShare => "cpu_time_ms"
  | priority => "priority"
  | queueAge => "created_at_ms"
  | jobId => "job_id"

/-- How the key compares two candidates; aging and priority go downwards. -/
def compare (nowMs : Nat) : RankingKey → Candidate → Candidate → Ordering
  | effectiveClass => compareOn fun c => (c.effectiveClass nowMs).rank
  | agingSteps => fun left right => compareOn (Candidate.agingSteps nowMs) right left
  | fairShare => compareOn Candidate.chargeBucket
  | priority => fun left right => compareOn Candidate.priority right left
  | queueAge => compareOn Candidate.createdAtMs
  | jobId => compareOn fun c => textBytes c.jobId

end RankingKey

def rankingKeys : List RankingKey :=
  [.effectiveClass, .agingSteps, .fairShare, .priority, .queueAge, .jobId]

def keySoleCandidate : String := "sole_candidate"

def decidingKey (chosen : Candidate) (runnerUp : Option Candidate) (nowMs : Nat) : String × Option Nat :=
  match runnerUp with
  | none => (keySoleCandidate, none)
  | some other =>
    if chosen.effectiveClass nowMs ≠ other.effectiveClass nowMs then
      (RankingKey.effectiveClass.token, some (chosen.effectiveClass nowMs).rank)
    else if chosen.agingSteps nowMs ≠ other.agingSteps nowMs then
      (RankingKey.agingSteps.token, some (chosen.agingSteps nowMs))
    else if chosen.chargeBucket ≠ other.chargeBucket then (RankingKey.fairShare.token, some chosen.chargedMs)
    else if chosen.priority ≠ other.priority then (RankingKey.priority.token, none)
    else if chosen.createdAtMs ≠ other.createdAtMs then
      (RankingKey.queueAge.token, some chosen.createdAtMs)
    else (RankingKey.jobId.token, none)

theorem ProcessClass.rank_injective : Function.Injective ProcessClass.rank := by
  intro c d h
  cases c <;> cases d <;> first | rfl | cases h

/-- The key puts the one before the other, and the keys before it do not tell them apart. -/
structure Decides (nowMs : Nat) (a b : Candidate) (earlier : List RankingKey) (key : RankingKey) : Prop where
  puts : key.compare nowMs a b = .lt
  equal : ∀ other ∈ earlier, other.compare nowMs a b = .eq

theorem decidingKey_decides {nowMs a b} (h : ranking nowMs a b = .lt) :
    ∃ earlier key later, rankingKeys = earlier ++ key :: later ∧ Decides nowMs a b earlier key ∧
      (decidingKey a (some b) nowMs).1 = key.token := by
  simp only [ranking, compareLex, Ordering.then_eq_lt] at h
  -- One case a key, with the equalities of the keys before it.
  rcases h with hClass | ⟨hClass, h⟩
  · refine ⟨[], .effectiveClass, _, rfl, ⟨hClass, by simp⟩, ?_⟩
    have hOther : a.effectiveClass nowMs ≠ b.effectiveClass nowMs := fun hSame => by
      simp [compareOn, hSame] at hClass
    simp [decidingKey, hOther]
  have hClass' := ProcessClass.rank_injective (compare_eq_iff_eq.mp hClass)
  rcases h with hSteps | ⟨hSteps, h⟩
  · refine ⟨[.effectiveClass], .agingSteps, _, rfl, ⟨hSteps, by simp [RankingKey.compare, hClass]⟩, ?_⟩
    simp [decidingKey, hClass', (compare_lt_iff_lt.mp hSteps).ne']
  have hSteps' := compare_eq_iff_eq.mp hSteps
  rcases h with hShare | ⟨hShare, h⟩
  · refine ⟨[.effectiveClass, .agingSteps], .fairShare, _, rfl,
      ⟨hShare, by simp [RankingKey.compare, hClass, hSteps]⟩, ?_⟩
    simp [decidingKey, hClass', hSteps', (compare_lt_iff_lt.mp hShare).ne]
  have hShare' := compare_eq_iff_eq.mp hShare
  rcases h with hPriority | ⟨hPriority, h⟩
  · refine ⟨[.effectiveClass, .agingSteps, .fairShare], .priority, _, rfl,
      ⟨hPriority, by simp [RankingKey.compare, hClass, hSteps, hShare]⟩, ?_⟩
    simp [decidingKey, hClass', hSteps', hShare', (compare_lt_iff_lt.mp hPriority).ne']
  have hPriority' := compare_eq_iff_eq.mp hPriority
  rcases h with hAge | ⟨hAge, hId⟩
  · refine ⟨[.effectiveClass, .agingSteps, .fairShare, .priority], .queueAge, _, rfl,
      ⟨hAge, by simp [RankingKey.compare, hClass, hSteps, hShare, hPriority]⟩, ?_⟩
    simp [decidingKey, hClass', hSteps', hShare', hPriority', (compare_lt_iff_lt.mp hAge).ne]
  · refine ⟨[.effectiveClass, .agingSteps, .fairShare, .priority, .queueAge], .jobId, _, rfl,
      ⟨hId, by simp [RankingKey.compare, hClass, hSteps, hShare, hPriority, hAge]⟩, ?_⟩
    simp [decidingKey, hClass', hSteps', hShare', hPriority', compare_eq_iff_eq.mp hAge]

theorem jobId_eq_of_ranking_eq {nowMs a b} (h : ranking nowMs a b = .eq) : a.jobId = b.jobId := by
  simp only [ranking, compareLex, Ordering.then_eq_eq] at h
  exact textBytes_injective (Std.LawfulEqOrd.compare_eq_iff_eq.mp h.2.2.2.2.2)

/-- The order of the ranking is that of the set, and of two neighbours the named key is the first
that tells them apart. -/
theorem rank_explained {candidates : List Candidate} (hIds : (candidates.map (·.jobId)).Nodup) (nowMs : Nat) :
    (∀ permuted, candidates.Perm permuted → rank candidates nowMs = rank permuted nowMs) ∧
    ∀ before chosen other after, rank candidates nowMs = before ++ chosen :: other :: after →
      ∃ earlier key later, rankingKeys = earlier ++ key :: later ∧ Decides nowMs chosen other earlier key ∧
        (decidingKey chosen (some other) nowMs).1 = key.token := by
  constructor
  · intro permuted hPerm
    apply sortBy_eq_of_perm hPerm
    intro a ha b hb h
    exact inj_on_of_nodup_map hIds ha hb (jobId_eq_of_ranking_eq h)
  · intro before chosen other after hOrder
    have hSorted := sortBy_pairwise (ranking nowMs) candidates
    have hPerm := (sortBy_perm (ranking nowMs) candidates).map (·.jobId)
    have hDistinct := hPerm.nodup_iff.mpr hIds
    rw [show sortBy (ranking nowMs) candidates = _ from hOrder] at hSorted hDistinct
    have hLe := (pairwise_cons.mp (pairwise_append.mp hSorted).2.1).1 other (by simp)
    have hOther : chosen.jobId ≠ other.jobId := by
      have hTail := (nodup_append.mp (map_append ▸ hDistinct)).2.1
      simp only [map_cons, nodup_cons, mem_cons, not_or] at hTail
      exact hTail.1.1
    apply decidingKey_decides
    cases h : ranking nowMs chosen other with
    | lt => rfl
    | eq => exact absurd (jobId_eq_of_ranking_eq h) hOther
    | gt => simp [h] at hLe

theorem maintenance_explained :
    (decidingKey Maintenance.second (some Maintenance.first) 210000).1 = "cpu_time_ms" ∧
    rank [Maintenance.first, Maintenance.second] 210000 = rank [Maintenance.second, Maintenance.first] 210000 :=
  ⟨by decide +kernel, (rank_explained (by decide) 210000).1 _ (List.Perm.swap ..)⟩

/-! ## Preemption -/

inductive AcceleratorKind
  | cpu | metal | cuda | rocm | vulkan | directMl | appleNeuralEngine
  deriving DecidableEq

structure DeviceId where
  kind : AcceleratorKind
  index : Option Nat
  deriving DecidableEq

inductive Resource
  | ram
  | accelerator (device : DeviceId)
  deriving DecidableEq

structure DeviceClaim where
  device : DeviceId
  bytes : Nat
  deriving DecidableEq

structure Running where
  jobId : String
  processClass : ProcessClass
  ramBytes : Nat
  deviceBytes : List DeviceClaim
  preempted : Bool
  startedAtMs : Nat
  deriving DecidableEq

def Running.claim (res : Resource) (job : Running) : Nat :=
  match res with
  | .ram => job.ramBytes
  | .accelerator device => ((job.deviceBytes.find? fun c => c.device = device).map (·.bytes)).getD 0

def u64Max : Nat := 2 ^ 64 - 1

def eligible (claimant : ProcessClass) (running : List Running) : List Running :=
  running.filter fun victim => !victim.preempted && claimant.rank < victim.processClass.rank

/-- Lowest class first, then the largest claim, then the latest start. -/
def preference (res : Resource) : Running → Running → Ordering :=
  compareLex (fun left right => compareOn (fun job => job.processClass.rank) right left) <|
  compareLex (fun left right => compareOn (Running.claim res) right left) <|
  compareLex (fun left right => compareOn Running.startedAtMs right left) <|
  compareOn fun job => textBytes job.jobId

instance (res : Resource) : Std.TransCmp (preference res) := by
  unfold preference
  infer_instance

def gather (res : Resource) (shortfallBytes freed : Nat) (chosen : List Running) : List Running → List Running
  | [] => []
  | victim :: rest =>
    let freed := min (freed + victim.claim res) u64Max
    let chosen := chosen ++ [victim]
    if shortfallBytes ≤ freed then chosen else gather res shortfallBytes freed chosen rest

def preemptionVictims (claimant : ProcessClass) (res : Resource) (shortfallBytes : Nat)
    (running : List Running) : List Running :=
  if shortfallBytes = 0 then []
  else gather res shortfallBytes 0 [] (sortBy (preference res) (eligible claimant running))

def total (res : Resource) (jobs : List Running) : Nat := (jobs.map (Running.claim res)).sum

section

variable {claimant : ProcessClass} {res : Resource} {shortfall : Nat} {running : List Running}

@[simp]
theorem total_nil : total res [] = 0 := rfl

theorem total_append (xs ys : List Running) : total res (xs ++ ys) = total res xs + total res ys := by
  simp [total]

@[simp]
theorem total_cons (job : Running) (jobs : List Running) :
    total res (job :: jobs) = job.claim res + total res jobs := by
  simp [total]

theorem total_perm {xs ys} (h : xs.Perm ys) : total res xs = total res ys :=
  (h.map _).sum_eq

theorem gather_spec (hWidth : shortfall ≤ u64Max) {chosen rest} (hShort : total res chosen < shortfall) :
    (total res (chosen ++ rest) < shortfall ∧ gather res shortfall (total res chosen) chosen rest = []) ∨
    ∃ before victim after, rest = before ++ victim :: after ∧
      gather res shortfall (total res chosen) chosen rest = chosen ++ before ++ [victim] ∧
      total res (chosen ++ before) < shortfall ∧
      shortfall ≤ total res (chosen ++ before ++ [victim]) := by
  induction rest generalizing chosen with
  | nil => exact .inl ⟨by simpa using hShort, rfl⟩
  | cons victim rest ih =>
    have hFreed : total res (chosen ++ [victim]) = total res chosen + victim.claim res := by simp [total]
    by_cases hCovers : shortfall ≤ total res (chosen ++ [victim])
    · right
      refine ⟨[], victim, rest, rfl, ?_, by simpa using hShort, by simpa using hCovers⟩
      rw [gather, if_pos (by omega), append_nil]
    · have hStep : gather res shortfall (total res chosen) chosen (victim :: rest) =
          gather res shortfall (total res (chosen ++ [victim])) (chosen ++ [victim]) rest := by
        rw [gather, if_neg (by omega), hFreed, Nat.min_eq_left (by omega)]
      rw [hStep]
      rcases ih (Nat.lt_of_not_le hCovers) with ⟨hLess, hNone⟩ | ⟨before, v, after, rfl, hGather, hBefore, hAfter⟩
      · exact .inl ⟨by simpa using hLess, hNone⟩
      · exact .inr ⟨victim :: before, v, after, rfl, by simpa using hGather, by simpa using hBefore,
          by simpa using hAfter⟩

variable (claimant res running) in
theorem preemptionVictims_spec (hPositive : 0 < shortfall) (hWidth : shortfall ≤ u64Max) :
    (total res (eligible claimant running) < shortfall ∧
      preemptionVictims claimant res shortfall running = []) ∨
    ∃ before victim after, sortBy (preference res) (eligible claimant running) = before ++ victim :: after ∧
      preemptionVictims claimant res shortfall running = before ++ [victim] ∧
      total res before < shortfall ∧ shortfall ≤ total res (before ++ [victim]) := by
  have hPerm : total res (sortBy (preference res) (eligible claimant running)) = _ :=
    total_perm (sortBy_perm (preference res) (eligible claimant running))
  have hNone : total res [] < shortfall := hPositive
  rw [preemptionVictims, if_neg (by omega)]
  rcases gather_spec hWidth hNone with ⟨hLess, hEmpty⟩ | ⟨before, victim, after, hOrder, hGather, hBefore, hAfter⟩
  · exact .inl ⟨hPerm ▸ hLess, hEmpty⟩
  · exact .inr ⟨before, victim, after, hOrder, hGather, hBefore, hAfter⟩

theorem preference_le {left right} (h : (preference res left right).isLE = true) :
    right.processClass.rank < left.processClass.rank ∨
      right.processClass.rank = left.processClass.rank ∧ right.claim res ≤ left.claim res := by
  rcases isLE_compareLex h with hClass | ⟨hClass, hRest⟩
  · exact .inl (Nat.compare_eq_lt.mp hClass)
  · right
    refine ⟨Nat.compare_eq_eq.mp hClass, ?_⟩
    rcases isLE_compareLex hRest with hClaim | ⟨hClaim, -⟩
    · exact Nat.le_of_lt (Nat.compare_eq_lt.mp hClaim)
    · exact Nat.le_of_eq (Nat.compare_eq_eq.mp hClaim)

def fromBelow (res : Resource) (victim : Running) (jobs : List Running) : Nat :=
  total res (jobs.filter fun job => victim.processClass.rank ≤ job.processClass.rank)

theorem total_filter_le (res : Resource) (p : Running → Bool) (jobs : List Running) :
    total res (jobs.filter p) ≤ total res jobs := by
  induction jobs with
  | nil => exact Nat.le_refl _
  | cons job jobs ih =>
    rw [filter_cons]
    split <;> simp only [total_cons] <;> omega

theorem fromBelow_perm {victim xs ys} (h : xs.Perm ys) :
    fromBelow res victim xs = fromBelow res victim ys := total_perm (h.filter _)

theorem fromBelow_le_before {before after idle} (hIdle : idle.claim res = 0)
    (hSorted : (before ++ idle :: after).Pairwise fun a b => (preference res a b).isLE = true) :
    fromBelow res idle (before ++ idle :: after) ≤ total res before := by
  have hAfter : ∀ job ∈ after, idle.processClass.rank ≤ job.processClass.rank → job.claim res = 0 := by
    intro job hJob hRank
    have hLe := (pairwise_cons.mp (pairwise_append.mp hSorted).2.1).1 job hJob
    rcases preference_le hLe with hLower | ⟨-, hClaim⟩ <;> omega
  have hZero : total res (after.filter fun job => idle.processClass.rank ≤ job.processClass.rank) = 0 := by
    apply sum_eq_zero
    intro found hFound
    obtain ⟨job, hJob, rfl⟩ := mem_map.mp hFound
    obtain ⟨hMem, hRank⟩ := mem_filter.mp hJob
    exact hAfter job hMem (of_decide_eq_true hRank)
  have hBefore := total_filter_le res (fun job =>
    decide (idle.processClass.rank ≤ job.processClass.rank)) before
  simp only [fromBelow, filter_append, filter_cons, Nat.le_refl, decide_true, if_true, total_append,
    total_cons]
  omega

theorem total_le_fromBelow {before after idle} (hMem : idle ∈ after)
    (hSorted : (before ++ after).Pairwise fun a b => (preference res a b).isLE = true) :
    total res before ≤ fromBelow res idle (before ++ after) := by
  have hAll : before.filter (fun job => idle.processClass.rank ≤ job.processClass.rank) = before := by
    apply filter_eq_self.mpr
    intro job hJob
    have hLe := (pairwise_append.mp hSorted).2.2 job hJob idle hMem
    apply decide_eq_true
    rcases preference_le hLe with hLower | ⟨hSame, -⟩ <;> omega
  rw [fromBelow, filter_append, total_append, hAll]
  omega

/-- What is asked of the victims: they are chosen if there is enough, they cover the shortfall, and
each of them has something to give. -/
structure Relieves (claimant : ProcessClass) (res : Resource) (shortfall : Nat)
    (running victims : List Running) : Prop where
  chosen : victims ≠ [] ↔ shortfall ≤ total res (eligible claimant running)
  covers : victims ≠ [] → shortfall ≤ total res victims
  positive : ∀ victim ∈ victims, 0 < victim.claim res

/-- The victims relieve the shortfall exactly if each class that has an idle job covers it with the
classes below, or all together do not. -/
theorem preemption_relieves_iff (hPositive : 0 < shortfall) (hWidth : shortfall ≤ u64Max) :
    Relieves claimant res shortfall running (preemptionVictims claimant res shortfall running) ↔
      ∀ idle ∈ eligible claimant running, idle.claim res = 0 →
        shortfall ≤ total res (eligible claimant running) →
          shortfall ≤ fromBelow res idle (eligible claimant running) := by
  rcases preemptionVictims_spec claimant res running hPositive hWidth with ⟨hLess, hNone⟩ | ⟨before, victim, after, hOrder, hVictims, hBefore, hCovers⟩
  · rw [hNone]
    constructor
    · intro _ idle _ _ hEnough
      omega
    · intro _
      refine ⟨⟨fun h => absurd rfl h, fun hEnough => by omega⟩, absurd rfl, ?_⟩
      exact nofun
  · rw [hVictims]
    have hPerm := sortBy_perm (preference res) (eligible claimant running)
    have hSorted := sortBy_pairwise (preference res) (eligible claimant running)
    rw [hOrder] at hPerm hSorted
    have hEnough : shortfall ≤ total res (eligible claimant running) := by
      rw [← total_perm hPerm]
      simp only [total_append, total_cons, total_nil] at hCovers ⊢
      omega
    constructor
    · intro hRelieves idle hIdle hZero _
      -- An idle job is not among the victims, so they all stand before it.
      have hLater : idle ∈ after := by
        rcases mem_append.mp (hPerm.mem_iff.mpr hIdle) with hIn | hIn
        · have hNot := hRelieves.positive idle (mem_append_left _ hIn)
          omega
        · rcases mem_cons.mp hIn with rfl | hIn
          · have hNot := hRelieves.positive idle (by simp)
            omega
          · exact hIn
      have hSplit : before ++ victim :: after = (before ++ [victim]) ++ after := by simp
      rw [hSplit] at hSorted hPerm
      have hLe := total_le_fromBelow hLater hSorted
      rw [fromBelow_perm hPerm] at hLe
      omega
    · intro hCondition
      refine ⟨⟨fun _ => hEnough, fun _ => by simp⟩, fun _ => hCovers, fun job hJob => ?_⟩
      by_contra hNot
      have hZero : job.claim res = 0 := by omega
      have hMem : job ∈ eligible claimant running := by
        apply hPerm.mem_iff.mp
        rcases mem_append.mp hJob with hIn | hIn
        · exact mem_append_left _ hIn
        · exact mem_append_right _ (by simp [mem_singleton.mp hIn])
      have hBelow := hCondition job hMem hZero hEnough
      rcases mem_append.mp hJob with hIn | hIn
      · obtain ⟨first, rest, rfl⟩ := append_of_mem hIn
        rw [append_assoc, cons_append] at hSorted hPerm
        have hLe := fromBelow_le_before hZero hSorted
        rw [fromBelow_perm hPerm] at hLe
        simp only [total_append, total_cons] at hBefore
        omega
      · obtain rfl := mem_singleton.mp hIn
        simp only [total_append, total_cons, total_nil] at hCovers
        omega

end

/-! Two jobs that could step aside, each on a card of its own. -/

namespace Cards

def card (index : Nat) : DeviceId := ⟨.cuda, some index⟩
def onCard0 : Running := ⟨"on-card-0", .maintenance, 0, [⟨card 0, 8000⟩], false, 1⟩
def onCard1 : Running := ⟨"on-card-1", .background, 0, [⟨card 1, 8000⟩], false, 1⟩

/-- The job on the other card is suspended too, since its class is the lower one. -/
theorem other_card_suspended : ¬ Relieves .interactive (.accelerator (card 1)) 4000 [onCard0, onCard1]
      (preemptionVictims .interactive (.accelerator (card 1)) 4000 [onCard0, onCard1]) := by
  intro h
  have hVictim : onCard0 ∈ preemptionVictims .interactive (.accelerator (card 1)) 4000 [onCard0, onCard1] := by
    decide +kernel
  have hPositive := h.positive onCard0 hVictim
  exact absurd hPositive (by decide)

theorem own_card_relieved : Relieves .interactive (.accelerator (card 0)) 4000 [onCard0, onCard1]
      (preemptionVictims .interactive (.accelerator (card 0)) 4000 [onCard0, onCard1]) :=
  (preemption_relieves_iff (by decide) (by decide)).mpr (by decide)

end Cards

end LittleMonkey.Daemon.Scheduler
