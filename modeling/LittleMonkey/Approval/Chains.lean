import Mathlib.Data.List.Basic

/-! # Approval chains

`run_approval_chain` waits at one stage after another.  `approval_chain_respond` names the chain
only, and answers the stage that is pending when it arrives.
-/

namespace LittleMonkey.Approval

open List

inductive StageDecisionKind
  | allow | deny | expired

inductive ChainStatus
  | pending | approved | rejected | expired

/-- An answer: the stage its sender was looking at, and the one that it answered. -/
structure Message where
  sentFor : Nat
  allow : Bool
  answered : Option Nat

/-- A call of `run_approval_chain`, at the stage after those it has decisions for: its entry in
the map of pending stages, and what came through the channel of the stage. -/
structure Chain where
  stages : Nat
  decisions : List StageDecisionKind
  pending : Option Nat
  answer : Option Bool
  status : ChainStatus
  result : Option (Except String Bool)
  messages : List Message

namespace Chain

variable (chain : Chain)

def openStage : Chain := { chain with pending := some chain.decisions.length, answer := none }

def finish (status : ChainStatus) (result : Except String Bool) : Chain :=
  { chain with pending := none, status := status, result := some result }

def start (stages : Nat) : Chain :=
  let chain : Chain := ⟨stages, [], none, none, .pending, none, []⟩
  if stages = 0 then { chain with result := some (.error "Approval chain template has no stages") }
  else chain.openStage

/-- An answer for a chain without a pending stage is refused. -/
def respond (sentFor : Nat) (allow : Bool) : Chain :=
  { chain with
    pending := none
    answer := if chain.pending.isSome then some allow else chain.answer
    messages := chain.messages ++ [⟨sentFor, allow, chain.pending⟩] }

def record (decision : StageDecisionKind) : Chain :=
  { chain with decisions := chain.decisions ++ [decision] }

/-- The wait of a stage ends with its answer, or without one when its time is up. -/
def decide : Chain :=
  match chain.answer with
  | none => (chain.record .expired).finish .expired (.ok false)
  | some false => (chain.record .deny).finish .rejected (.ok false)
  | some true =>
    if chain.decisions.length + 1 < chain.stages then (chain.record .allow).openStage
    else (chain.record .allow).finish .approved (.ok true)

end Chain

inductive ChainEvent
  | respond (sentFor : Nat) (allow : Bool)
  | wake
  /-- There is no window, or the clock or the ledger fails. -/
  | fail (status : ChainStatus) (message : String)

def Chain.step (chain : Chain) : ChainEvent → Chain
  | .respond sentFor allow => chain.respond sentFor allow
  | .wake => if chain.result.isSome then chain else chain.decide
  | .fail status message => if chain.result.isSome then chain else chain.finish status (.error message)

def Chain.Answered (chain : Chain) (stage : Nat) : Prop :=
  ∃ m ∈ chain.messages, m.sentFor = stage ∧ m.allow = true

/-- An answer is for the stage that it answers, and an approved chain has one for every stage. -/
structure OwnAnswers (chain : Chain) : Prop where
  own : ∀ m ∈ chain.messages, ∀ stage, m.answered = some stage → m.sentFor = stage
  every : chain.result = some (.ok true) → ∀ stage < chain.stages, chain.Answered stage

/-- No answer arrives while another stage than its own is pending. -/
def Timely (chain : Chain) : ChainEvent → Prop
  | .respond sentFor _ => ∀ stage, chain.pending = some stage → sentFor = stage
  | _ => True

inductive Ran (stages : Nat) : Chain → Prop
  | start : Ran stages (.start stages)
  | step {chain} {e} (before : Ran stages chain) (timely : Timely chain e) :
      Ran stages (chain.step e)

structure Sound (chain : Chain) : Prop extends OwnAnswers chain where
  current : ∀ stage, chain.pending = some stage → stage = chain.decisions.length
  passed : chain.result = none → ∀ stage < chain.decisions.length, chain.Answered stage
  answered : chain.result = none → chain.answer = some true → chain.Answered chain.decisions.length

section

variable {chain : Chain}

theorem Sound.finish (h : OwnAnswers chain) (status : ChainStatus) {result : Except String Bool}
    (hResult : result = .ok true → ∀ stage < chain.stages, chain.Answered stage) :
    Sound (chain.finish status result) :=
  ⟨⟨h.own, fun hEnd => hResult (Option.some.inj hEnd)⟩, nofun, nofun, nofun⟩

theorem Sound.decide (h : Sound chain) (hOpen : chain.result = none) : Sound chain.decide := by
  have hRecord : ∀ decision, OwnAnswers (chain.record decision) := fun _ => ⟨h.own, h.every⟩
  unfold Chain.decide
  split
  · exact .finish (hRecord .expired) _ nofun
  · exact .finish (hRecord .deny) _ nofun
  next hAnswer =>
  have hPassed : ∀ stage < chain.decisions.length + 1, (chain.record .allow).Answered stage := by
    intro stage hLess
    rcases Nat.lt_succ_iff_lt_or_eq.mp hLess with hBefore | rfl
    · exact h.passed hOpen stage hBefore
    · exact h.answered hOpen hAnswer
  split
  · refine ⟨⟨h.own, h.every⟩, fun _ hPending => (Option.some.inj hPending).symm, fun _ stage hLess => ?_, nofun⟩
    exact hPassed stage (by simpa [Chain.openStage, Chain.record] using hLess)
  · next hLast =>
    exact .finish (hRecord .allow) _ fun _ stage hLess => hPassed stage (Nat.lt_of_lt_of_le hLess (Nat.not_lt.mp hLast))

theorem Sound.respond (h : Sound chain) {sentFor : Nat} (allow : Bool)
    (hTimely : ∀ stage, chain.pending = some stage → sentFor = stage) : Sound (chain.respond sentFor allow) := by
  have hStays : ∀ {stage}, chain.Answered stage → (chain.respond sentFor allow).Answered stage :=
    fun ⟨m, hm, hIs⟩ => ⟨m, mem_append_left _ hm, hIs⟩
  refine ⟨⟨fun m hm stage hStage => ?_, fun hEnd stage hLess => hStays (h.every hEnd stage hLess)⟩, nofun,
    fun hOpen stage hLess => hStays (h.passed hOpen stage hLess), fun hOpen hAnswer => ?_⟩
  · rcases mem_append.mp hm with hOld | hNew
    · exact h.own m hOld stage hStage
    · obtain rfl := mem_singleton.mp hNew
      exact hTimely stage hStage
  · cases hPending : chain.pending with
    | none =>
      simp only [Chain.respond, hPending] at hAnswer
      exact hStays (h.answered hOpen hAnswer)
    | some stage =>
      simp only [Chain.respond, hPending] at hAnswer
      refine ⟨_, mem_append_right _ mem_cons_self, ?_, Option.some.inj hAnswer⟩
      exact (hTimely stage hPending).trans (h.current stage hPending)

theorem Sound.step (h : Sound chain) {event : ChainEvent} (hTimely : Timely chain event) :
    Sound (chain.step event) := by
  cases event with
  | respond sentFor allow => exact h.respond allow hTimely
  | wake =>
    simp only [Chain.step]
    split
    · exact h
    · next hOpen => exact h.decide (by simpa using hOpen)
  | fail status message =>
    simp only [Chain.step]
    split
    · exact h
    · exact .finish h.toOwnAnswers status nofun

end

/-- Where no answer arrives at another stage than its own, each stage has its own answer. -/
theorem stages_answered {stages : Nat} {chain : Chain} (h : Ran stages chain) : OwnAnswers chain := by
  have hSound : Sound chain := by
    induction h with
    | start =>
      unfold Chain.start
      split
      · exact ⟨⟨nofun, nofun⟩, nofun, nofun, nofun⟩
      · exact ⟨⟨nofun, nofun⟩, fun _ hPending => (Option.some.inj hPending).symm, nofun, nofun⟩
    | step _ hTimely ih => exact ih.step hTimely
  exact hSound.toOwnAnswers

/-- Two stages are allowed in turn; the second answer was sent for this stage. -/
def allowedTwice (sentFor : Nat) : Chain :=
  [.respond 0 true, .wake, .respond sentFor true, .wake].foldl Chain.step (.start 2)

theorem two_stages_answered : (allowedTwice 1).result = some (.ok true) ∧ OwnAnswers (allowedTwice 1) := by
  have hFirst : Ran 2 ((Chain.start 2).step (.respond 0 true)) := .step .start (by rintro stage ⟨⟩; rfl)
  have hSecond := hFirst.step (e := .wake) trivial
  refine ⟨rfl, stages_answered (hSecond.step (e := .respond 1 true) ?_ |>.step (e := .wake) trivial)⟩
  rintro stage ⟨⟩
  rfl

/-- The second click on the first stage approves the second one. -/
theorem first_stage_answers_second : (allowedTwice 0).result = some (.ok true) ∧ ¬ (allowedTwice 0).Answered 1 := by
  refine ⟨rfl, ?_⟩
  simp [Chain.Answered, allowedTwice, Chain.step, Chain.start, Chain.respond, Chain.decide, Chain.openStage,
    Chain.record, Chain.finish]

/-- An open chain has a stage left, and only an allowance lets it go on to the next or be approved. -/
structure Allowed (chain : Chain) : Prop where
  running : chain.result = none → chain.decisions.length < chain.stages ∧ ∀ d ∈ chain.decisions, d = .allow
  approved : chain.result = some (.ok true) →
    chain.decisions.length = chain.stages ∧ ∀ d ∈ chain.decisions, d = .allow

theorem Allowed.step {chain : Chain} (h : Allowed chain) (event : ChainEvent) : Allowed (chain.step event) := by
  obtain ⟨hRunning, hApproved⟩ := h
  -- Only `wake` adds a decision, and only to a chain without a result.
  cases hResult : chain.result <;> constructor <;> cases event <;>
    grind [Chain.step, Chain.respond, Chain.decide, Chain.finish, Chain.record, Chain.openStage]

/-- Whoever answers for which stage, an approved chain has allowed each, and no result changes. -/
theorem approval_final (stages : Nat) (events later : List ChainEvent) :
    let chain := events.foldl Chain.step (.start stages)
    Allowed chain ∧ (chain.result.isSome = true → (later.foldl Chain.step chain).result = chain.result) := by
  refine ⟨foldlRecOn events _ ?_ fun _ h event _ => h.step event, fun hDone => ?_⟩
  · constructor <;> grind [Chain.start, Chain.openStage]
  · refine foldlRecOn (motive := (Chain.result · = _)) later _ rfl fun _ h event _ => ?_
    cases event <;> simp [Chain.step, Chain.respond, h, hDone]

end LittleMonkey.Approval
