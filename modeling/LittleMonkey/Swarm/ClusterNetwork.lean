import LittleMonkey.Swarm.Cluster
import Mathlib.Logic.Function.Basic
import Mathlib.Logic.Relation

/-! # The election network

All installations with their stores, the campaigns they have started and the
answers that are on the wire, where an answer may be delivered late, several
times or never.  `issued` and `persisted` are history: every receipt a `vote`
call returned and every quorum that was accepted, with the instant of the call.
-/

namespace LittleMonkey.Swarm.Cluster

open Primitives List

/-- `clock m t now`: member `m` may read `now` at the instant `t`. -/
abbrev Clock := String → Int → Int → Prop

structure Started where
  node : String
  startedAt : Int
  campaign : Campaign
  deriving DecidableEq

structure Reply where
  index : Nat
  node : String
  receipt : VoteReceipt
  deriving DecidableEq

structure Issued where
  node : String
  issuedAt : Int
  receipt : VoteReceipt

structure Persisted where
  node : String
  campaign : Campaign
  receipts : List VoteReceipt
  (startedAt expires : Int)

structure System where
  time : Int
  node : String → Store
  campaigns : List Started
  replies : List Reply
  issued : List Issued
  persisted : List Persisted

namespace System

def setNode (s : System) (m : String) (store : Store) : System :=
  { s with node := Function.update s.node m store }

def grant (s : System) (m : String) (receipt : VoteReceipt) (store : Store) : System :=
  { s.setNode m store with issued := ⟨m, s.time, receipt⟩ :: s.issued }

end System

section

variable (sha : Bytes → String)

def System.startCampaign (s : System) (m group : String) (term : Nat) (now : Int) : System :=
  match campaignStart sha (s.node m) group term now with
  | (.ok campaign, store) =>
    { s.grant m campaign.own store with campaigns := s.campaigns ++ [⟨m, s.time, campaign⟩] }
  | (.error _, store) => s.setNode m store

def System.answerBallot (s : System) (index : Nat) (req : VoteRequest) (m caller : String)
    (now : Int) : System :=
  match peerSwarmVote sha (s.node m) caller req now with
  | .ok (receipt, store) =>
    { s.grant m receipt store with replies := ⟨index, m, receipt⟩ :: s.replies }
  | .error _ => s

def System.castVote (s : System) (m caller : String) (req : VoteRequest) (now : Int) : System :=
  match vote sha (s.node m) req caller now with
  | .ok (receipt, store) => s.grant m receipt store
  | .error _ => s

def System.finishCampaign (s : System) (started : Started)
    (answers : List (String × Option VoteReceipt)) : System :=
  let campaign := started.campaign
  let receipts := collectReplies campaign.config.roster.members.length [campaign.own] answers
  match campaignFinish sha (s.node started.node) campaign receipts with
  | (.ok expires, store) =>
    { s.setNode started.node store with
      persisted := ⟨started.node, campaign, receipts, started.startedAt, expires⟩ :: s.persisted }
  | (.error _, store) => s.setNode started.node store

/-- One step of the network.  A campaign may take any term (the operator's
command does), or the one the lease worker chooses; a ballot is answered by the
member its connection is pinned to, under whatever pairing id it sees. -/
inductive Step (clock : Clock) : System → System → Prop
  | advance (s : System) {t} (hTime : s.time ≤ t) : Step clock s { s with time := t }
  | campaign (s : System) (m group : String) (term : Nat) {now}
      (hNow : clock m s.time now) : Step clock s (s.startCampaign sha m group term now)
  | renewal (s : System) (m group : String) {term} {now} (hNow : clock m s.time now)
      (hTerm : leaseWorkerTerm (s.node m) group now = some term) :
      Step clock s (s.startCampaign sha m group term now)
  | ballot (s : System) {index} {started} (m caller : String) {now}
      (hStarted : s.campaigns[index]? = some started) (hNow : clock m s.time now) :
      Step clock s (s.answerBallot sha index started.campaign.req m caller now)
  | vote (s : System) (m caller : String) (req : VoteRequest) {now}
      (hNow : clock m s.time now) : Step clock s (s.castVote sha m caller req now)
  | finish (s : System) {index} {started}
      (answers : List (String × Option VoteReceipt))
      (hStarted : s.campaigns[index]? = some started)
      (hAnswers : ∀ expected receipt, (expected, some receipt) ∈ answers →
        ⟨index, expected, receipt⟩ ∈ s.replies) : Step clock s (s.finishCampaign sha started answers)
  | expireLeader (s : System) (m group : String) :
      Step clock s (s.setNode m (Cluster.expireLeader (s.node m) group))
  | killSwitch (s : System) (m : String) (engaged : Bool) :
      Step clock s (s.setNode m { s.node m with killSwitch := engaged })

end

/-! ## What a step does -/

/-- The effect of a step on stores and history, with what its guards established. -/
inductive Effect (clock : Clock) (s : System) : System → Prop
  | idle {t} (hTime : s.time ≤ t) : Effect clock s { s with time := t }
  | lapsed (m group : String) : Effect clock s (s.setNode m (expireLeader (s.node m) group))
  | switched (m : String) (engaged : Bool) :
      Effect clock s (s.setNode m { s.node m with killSwitch := engaged })
  | granted {m} {req} {now} {receipt} {store}
      {campaigns} {replies} (hNow : clock m s.time now)
      (hVote : VoteGranted (s.node m) req now receipt store)
      (hCampaigns : ∀ c ∈ campaigns, c ∈ s.campaigns ∨
        c.node = m ∧ c.startedAt = s.time ∧ c.campaign.now = now ∧ c.campaign.own = receipt)
      (hIndexed : ∀ (i : Nat) (c : Started), s.campaigns[i]? = some c → campaigns[i]? = some c)
      (hReplies : ∀ r ∈ replies, r ∈ s.replies ∨ r.node = m ∧ r.receipt = receipt ∧
        ∃ c, s.campaigns[r.index]? = some c) :
      Effect clock s { s.grant m receipt store with campaigns := campaigns, replies := replies }
  | elected {index} {started} {receipts} {expires}
      {store} (hStarted : s.campaigns[index]? = some started)
      (hReceipts : ∀ r ∈ receipts, r = started.campaign.own ∨ ⟨index, r.voterFingerprint, r⟩ ∈ s.replies)
      (hQuorum : QuorumPersisted (s.node started.node) started.campaign.req receipts
        started.campaign.now expires store) : Effect clock s { s.setNode started.node store with
        persisted := ⟨started.node, started.campaign, receipts, started.startedAt, expires⟩ ::
          s.persisted }

section

variable {sha : Bytes → String} {clock : Clock} {s : System}
variable {s' : System} {now : Int}

theorem effect_startCampaign {m group term}
    (hNow : clock m s.time now) : Effect clock s (s.startCampaign sha m group term now) := by
  have hIdle (store : Store) (h : store = s.node m) : Effect clock s (s.setNode m store) := by
    rw [h, System.setNode, Function.update_eq_self]
    exact .idle le_rfl
  unfold System.startCampaign campaignStart
  cases hRoster : roster (s.node m) group with
  | error message => exact hIdle _ rfl
  | ok config =>
      by_cases hKill : (s.node m).killSwitch = true
      · simp only [hKill]
        exact .lapsed m group
      · simp only [hKill, Bool.false_eq_true, if_false]
        split
        next campaign store hStart =>
          split at hStart
          · cases hStart
          next own voted hVote =>
            cases hStart
            refine .granted hNow (voteGranted_of_vote hVote) ?_ ?_ fun r hr => .inl hr
            · intro c hc
              rcases mem_append.mp hc with hc | hc
              · exact .inl hc
              · obtain rfl := mem_singleton.mp hc
                exact .inr ⟨rfl, rfl, rfl, rfl⟩
            · intro i c hc
              rw [List.getElem?_append_left (List.getElem?_eq_some_iff.mp hc).1]
              exact hc
        next message store hStart =>
          split at hStart
          · cases hStart
            exact hIdle _ rfl
          · cases hStart

theorem effect_answerBallot {index started m caller}
    (hStarted : s.campaigns[index]? = some started) (hNow : clock m s.time now) :
    Effect clock s (s.answerBallot sha index started.campaign.req m caller now) := by
  unfold System.answerBallot
  split
  next receipt store hVote =>
    simp only [peerSwarmVote, Guards.bind_eq_ok] at hVote
    obtain ⟨-, -, hVote⟩ := hVote
    refine .granted hNow (voteGranted_of_vote hVote) (fun c hc => .inl hc) (fun _ _ hc => hc) ?_
    intro r hr
    rcases mem_cons.mp hr with rfl | hr
    · exact .inr ⟨rfl, rfl, started, hStarted⟩
    · exact .inl hr
  · exact .idle le_rfl

theorem effect_castVote {m caller req}
    (hNow : clock m s.time now) : Effect clock s (s.castVote sha m caller req now) := by
  unfold System.castVote
  split
  next receipt store hVote =>
    exact .granted hNow (voteGranted_of_vote hVote) (fun c hc => .inl hc) (fun _ _ hc => hc)
      fun r hr => .inl hr
  · exact .idle le_rfl

theorem effect_finishCampaign {index started answers} (hStarted : s.campaigns[index]? = some started)
    (hAnswers : ∀ expected receipt, (expected, some receipt) ∈ answers →
      ⟨index, expected, receipt⟩ ∈ s.replies) :
    Effect clock s (s.finishCampaign sha started answers) := by
  simp only [System.finishCampaign, campaignFinish]
  cases hPersist : persistQuorum sha (s.node started.node) started.campaign.req
      (collectReplies started.campaign.config.roster.members.length [started.campaign.own] answers)
      started.campaign.now with
  | error message => exact .lapsed started.node started.campaign.req.group
  | ok result =>
      refine .elected hStarted ?_ (quorumPersisted_of_persistQuorum hPersist)
      intro r hr
      exact (mem_collectReplies hr).imp (fun h => mem_singleton.mp h) fun h => hAnswers _ _ h

theorem Step.effect (h : Step sha clock s s') : Effect clock s s' := by
  cases h with
  | advance hTime => exact .idle hTime
  | campaign _ _ _ hNow => exact effect_startCampaign hNow
  | renewal _ _ hNow => exact effect_startCampaign hNow
  | ballot _ _ hStarted hNow => exact effect_answerBallot hStarted hNow
  | vote _ _ _ hNow => exact effect_castVote hNow
  | finish _ hStarted hAnswers => exact effect_finishCampaign hStarted hAnswers
  | expireLeader m group => exact .lapsed m group
  | killSwitch m engaged => exact .switched m engaged

theorem Effect.rosters (h : Effect clock s s') (k : String) :
    (s'.node k).rosters = (s.node k).rosters := by
  have hUpdate {m : String} {store : Store} (hStore : store.rosters = (s.node m).rosters) :
      (Function.update s.node m store k).rosters = (s.node k).rosters := by
    rcases eq_or_ne k m with rfl | hne
    · rw [Function.update_self, hStore]
    · rw [Function.update_of_ne hne]
  cases h with
  | idle => rfl
  | lapsed => exact hUpdate rfl
  | switched => exact hUpdate rfl
  | granted _ hVote => exact hUpdate (hVote.stored ▸ rfl)
  | elected _ _ hQuorum => exact hUpdate (hQuorum.stored ▸ rfl)

theorem Effect.time_le (h : Effect clock s s') : s.time ≤ s'.time := by
  cases h with
  | idle hTime => exact hTime
  | lapsed | switched | granted | elected => exact le_rfl

/-- A vote is the only effect on ballots: it issues one receipt and writes the
ballot of that receipt. -/
structure Voted (clock : Clock) (s s' : System) (m : String)
    (req : VoteRequest) (now : Int) (receipt : VoteReceipt) : Prop where
  read : clock m s.time now
  vote : ∃ store, VoteGranted (s.node m) req now receipt store
  issued : s'.issued = ⟨m, s.time, receipt⟩ :: s.issued
  ballot : (s'.node m).votes =
    (s.node m).votes.insert req.group ⟨req.term, req.candidateFingerprint, now + leaseMs⟩
  others : ∀ k, k ≠ m → (s'.node k).votes = (s.node k).votes
  leases : ∀ k, (s'.node k).leases = (s.node k).leases
  persisted : s'.persisted = s.persisted

/-- An accepted quorum is the only effect that writes a lease row. -/
structure Elected (s s' : System) (index : Nat) (started : Started)
    (receipts : List VoteReceipt) (expires : Int) : Prop where
  running : s.campaigns[index]? = some started
  gathered : ∀ r ∈ receipts, r = started.campaign.own ∨ ⟨index, r.voterFingerprint, r⟩ ∈ s.replies
  quorum : ∃ store, QuorumPersisted (s.node started.node) started.campaign.req receipts
    started.campaign.now expires store
  lease : (s'.node started.node).leases = (s.node started.node).leases.insert
    started.campaign.req.group
    ⟨started.campaign.req.term, started.campaign.req.candidateFingerprint, expires, receipts⟩
  others : ∀ k, k ≠ started.node → (s'.node k).leases = (s.node k).leases
  votes : ∀ k, (s'.node k).votes = (s.node k).votes
  persisted : s'.persisted =
    ⟨started.node, started.campaign, receipts, started.startedAt, expires⟩ :: s.persisted
  issued : s'.issued = s.issued

/-- No ballot and no certificate: at most lease rows disappear. -/
structure Quiet (s s' : System) : Prop where
  issued : s'.issued = s.issued
  votes : ∀ k, (s'.node k).votes = (s.node k).votes
  leases : ∀ k group l, (s'.node k).leases.lookup group = some l → (s.node k).leases.lookup group = some l
  persisted : s'.persisted = s.persisted

theorem lookup_erase_of_eq_some {store group other l}
    (h : (expireLeader store group).leases.lookup other = some l) : store.leases.lookup other = some l := by
  rcases eq_or_ne other group with rfl | hne
  · simp [expireLeader] at h
  · simpa [expireLeader, AList.lookup_erase_ne hne] using h

theorem Effect.classify (h : Effect clock s s') :
    Quiet s s' ∨ (∃ m req now receipt, Voted clock s s' m req now receipt) ∨
      ∃ index started receipts expires, Elected s s' index started receipts expires := by
  cases h with
  | idle => exact .inl ⟨rfl, fun _ => rfl, fun _ _ _ h => h, rfl⟩
  | lapsed m group =>
      refine .inl ⟨rfl, fun k => ?_, fun k other l hl => ?_, rfl⟩
      · rcases eq_or_ne k m with rfl | hne <;> simp [System.setNode, expireLeader, *]
      · rcases eq_or_ne k m with rfl | hne
        · exact lookup_erase_of_eq_some (by simpa [System.setNode] using hl)
        · simpa [System.setNode, hne] using hl
  | switched m engaged =>
      refine .inl ⟨rfl, fun k => ?_, fun k other l hl => ?_, rfl⟩
      · rcases eq_or_ne k m with rfl | hne <;> simp [System.setNode, *]
      · rcases eq_or_ne k m with rfl | hne <;> simpa [System.setNode, *] using hl
  | @granted m req now receipt store campaigns replies hNow hVote hCampaigns hIndexed hReplies =>
      refine .inr (.inl ⟨m, req, now, receipt, hNow, ⟨store, hVote⟩, rfl, ?_, fun k hne => ?_,
        fun k => ?_, rfl⟩)
      · simp [System.grant, System.setNode, hVote.stored]
      · simp [System.grant, System.setNode, hne]
      · rcases eq_or_ne k m with rfl | hne <;> simp [System.grant, System.setNode, hVote.stored, *]
  | @elected index started receipts expires store hStarted hReceipts hQuorum =>
      refine .inr (.inr ⟨index, started, receipts, expires, hStarted, hReceipts, ⟨store, hQuorum⟩,
        ?_, fun k hne => ?_, fun k => ?_, rfl, rfl⟩)
      · simp [System.setNode, hQuorum.stored]
      · simp [System.setNode, hne]
      · rcases eq_or_ne k started.node with rfl | hne <;> simp [System.setNode, hQuorum.stored, *]

end

end LittleMonkey.Swarm.Cluster
