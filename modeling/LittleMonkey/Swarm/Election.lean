import LittleMonkey.Lib.ExclusiveGrants
import LittleMonkey.Swarm.ClusterNetwork

/-! # Election safety

The receipts issued for one group are read as grants of an exclusive-promise
voter, and every accepted quorum as a majority certificate.  Terms are then
unique whatever the clocks do; with clocks a constant offset apart, the 20 s
promise and the 5 s margins keep leases of different members disjoint.
-/

namespace LittleMonkey.Swarm.Cluster

open ExclusiveGrants Primitives List AList

/-- One roster, enrolled by every member under its own local view of it. -/
structure Electorate where
  base : EnrolledRoster
  config : String → EnrolledRoster

namespace Electorate

def group (e : Electorate) : String := e.base.roster.group

def members (e : Electorate) : Finset String := e.base.roster.fingerprints.toFinset

/-- Each member enrolled the group as itself, and all digests agree. -/
structure Identical (sha : Bytes → String) (e : Electorate) : Prop where
  group : ∀ m ∈ e.members, (e.config m).roster.group = e.group
  own : ∀ m ∈ e.members, (e.config m).localMember.fingerprint = m
  digest : ∀ m ∈ e.members, (e.config m).roster.digest sha = e.base.roster.digest sha

def CollisionFree (sha : Bytes → String) (e : Electorate) : Prop :=
  ∀ m ∈ e.members, sha (textBytes (e.config m).roster.digestText) = sha (textBytes e.base.roster.digestText) →
    textBytes (e.config m).roster.digestText = textBytes e.base.roster.digestText

/-- Every member has just run `configure`; nothing has been sent yet. -/
structure Initial (e : Electorate) (s : System) : Prop where
  configured : ∀ m ∈ e.members, ∃ store now, configure store (e.config m).roster now = .ok (s.node m)
  campaigns : s.campaigns = []
  replies : s.replies = []
  issued : s.issued = []
  persisted : s.persisted = []

def Registered (e : Electorate) (s : System) : Prop :=
  ∀ m ∈ e.members, ∃ r, roster (s.node m) e.group = .ok r ∧ r.localMember.fingerprint = m ∧
    r.roster.fingerprints.Perm e.base.roster.fingerprints

end Electorate

/-! ## Reading stores and history as promises and grants -/

def Issued.toGrant (i : Issued) : Grant String String :=
  ⟨i.node, i.receipt.term, i.receipt.candidateFingerprint, i.receipt.decidedAtMs⟩

def promiseOf (store : Store) (group : String) : Option (Promise String) :=
  (store.votes.lookup group).map fun row => ⟨row.term, row.candidate, row.expiresAtMs⟩

namespace Electorate

variable (e : Electorate)

def issued (s : System) : Set Issued :=
  { i | i ∈ s.issued ∧ i.node ∈ e.members ∧ i.receipt.group = e.group }

def grants (s : System) : Set (Grant String String) := Issued.toGrant '' e.issued s

/-- The grants an accepted quorum rests on: cast after its campaign began, not
later than 5 s on the candidate's clock, and outliving the lease by the margin. -/
def supporting (s : System) (p : Persisted) : Set (Grant String String) :=
  Issued.toGrant '' { i | i ∈ e.issued s ∧ p.startedAt ≤ i.issuedAt ∧
    i.receipt.decidedAtMs ≤ p.campaign.now + 5000 ∧ p.expires + safetyMs ≤ i.receipt.decidedAtMs + leaseMs }

theorem supporting_subset_grants {s p} : e.supporting s p ⊆ e.grants s :=
  Set.image_mono fun _ h => h.1

end Electorate

structure Traced (clock : Clock) (s : System) : Prop where
  receipts : ∀ i ∈ s.issued, i.issuedAt ≤ s.time ∧ clock i.node i.issuedAt i.receipt.decidedAtMs
  campaigns : ∀ c ∈ s.campaigns, c.startedAt ≤ s.time ∧
    clock c.node c.startedAt c.campaign.now ∧ ⟨c.node, c.startedAt, c.campaign.own⟩ ∈ s.issued
  replies : ∀ r ∈ s.replies, ∃ c t, s.campaigns[r.index]? = some c ∧ c.startedAt ≤ t ∧
    ⟨r.node, t, r.receipt⟩ ∈ s.issued

namespace Electorate

/-- Each voter's stored ballot binds the grants it has issued. -/
structure Bound (e : Electorate) (s : System) : Prop where
  accounted : ∀ m ∈ e.members, Accounted Promise.Binds (e.grants s) m (promiseOf (s.node m) e.group)
  binding : TermBinding (e.grants s)

def Signed (e : Electorate) (s : System) : Prop :=
  ∀ i ∈ e.issued s, i.receipt.voterFingerprint = i.node

/-- Accepted quorums are majority certificates for the member that wrote them. -/
def Certified (clock : Clock) (e : Electorate) (s : System) : Prop :=
  ∀ p ∈ s.persisted, p.node ∈ e.members → p.campaign.req.group = e.group →
    p.campaign.req.candidateFingerprint = p.node ∧ clock p.node p.startedAt p.campaign.now ∧
      ∃ quorum, Certificate (e.supporting s p) e.members quorum p.campaign.req.term p.node

/-- A member's lease row comes from a quorum it persisted, in a term not above
the one it last voted in. -/
structure Leased (e : Electorate) (s : System) : Prop where
  persisted : ∀ m ∈ e.members, ∀ l, (s.node m).leases.lookup e.group = some l →
    ∃ p ∈ s.persisted, p.node = m ∧ p.campaign.req.group = e.group ∧
      p.campaign.req.term = l.term ∧ p.campaign.req.candidateFingerprint = l.leader ∧
      p.expires = l.expiresAtMs
  voted : ∀ m ∈ e.members, ∀ l, (s.node m).leases.lookup e.group = some l →
    ∃ v, (s.node m).votes.lookup e.group = some v ∧ l.term ≤ v.term

end Electorate

/-! ## Ballots -/

variable {clock : Clock} {e : Electorate} {s s' : System}

section

variable {sha : Bytes → String} {m : String} {req : VoteRequest} {now : Int} {receipt : VoteReceipt}

theorem Electorate.Registered.step (h : e.Registered s) (hStep : Effect clock s s') :
    e.Registered s' := by
  intro k hk
  rw [roster, hStep.rosters k]
  exact h k hk

theorem promiseOf_congr {store store'} (h : store'.votes = store.votes) (group : String) :
    promiseOf store' group = promiseOf store group := by
  rw [promiseOf, promiseOf, h]

section

variable (h : Voted clock s s' m req now receipt)

include h

theorem Voted.promiseOf_self :
    promiseOf (s'.node m) req.group = some ⟨req.term, req.candidateFingerprint, now + leaseMs⟩ := by
  simp [promiseOf, h.ballot]

theorem Voted.promiseOf_other (hOther : ¬ (m ∈ e.members ∧ req.group = e.group)) {k} (hk : k ∈ e.members) :
    promiseOf (s'.node k) e.group = promiseOf (s.node k) e.group := by
  rcases eq_or_ne k m with rfl | hne
  · have hGroup : e.group ≠ req.group := fun hg => hOther ⟨hk, hg.symm⟩
    rw [promiseOf, promiseOf, h.ballot, lookup_insert_ne hGroup]
  · exact promiseOf_congr (h.others k hne) _

theorem Voted.admits {q} (hq : promiseOf (s.node m) req.group = some q) :
    q.Admits req.term req.candidateFingerprint now := by
  obtain ⟨store, hVote⟩ := h.vote
  obtain ⟨row, hRow, rfl⟩ := Option.map_eq_some_iff.mp hq
  have hPermits := hVote.permits row hRow
  exact ⟨hPermits.notOlder, hPermits.sameCandidate, hPermits.expired⟩

theorem Voted.toGrant :
    Issued.toGrant ⟨m, s.time, receipt⟩ = ⟨m, req.term, req.candidateFingerprint, now⟩ := by
  obtain ⟨store, hVote⟩ := h.vote
  rw [Issued.toGrant, hVote.receiptTerm, hVote.receiptCandidate, hVote.decided]

theorem Voted.grants_self (hm : m ∈ e.members) (hGroup : req.group = e.group) :
    e.grants s' = insert ⟨m, req.term, req.candidateFingerprint, now⟩ (e.grants s) := by
  obtain ⟨store, hVote⟩ := h.vote
  have hIssued : e.issued s' = insert ⟨m, s.time, receipt⟩ (e.issued s) := by
    ext i
    simp only [Electorate.issued, h.issued, mem_cons]
    constructor
    · rintro ⟨rfl | hi, hNode, hg⟩
      · exact .inl rfl
      · exact .inr ⟨hi, hNode, hg⟩
    · rintro (rfl | ⟨hi, hNode, hg⟩)
      · exact ⟨.inl rfl, hm, hVote.receiptGroup.trans hGroup⟩
      · exact ⟨.inr hi, hNode, hg⟩
  rw [Electorate.grants, hIssued, Set.image_insert_eq, h.toGrant, Electorate.grants]

theorem Voted.grants_other (hOther : ¬ (m ∈ e.members ∧ req.group = e.group)) : e.grants s' = e.grants s := by
  obtain ⟨store, hVote⟩ := h.vote
  have hIssued : e.issued s' = e.issued s := by
    ext i
    simp only [Electorate.issued, h.issued, mem_cons]
    constructor
    · rintro ⟨rfl | hi, hNode, hg⟩
      · exact absurd ⟨hNode, hVote.receiptGroup.symm.trans hg⟩ hOther
      · exact ⟨hi, hNode, hg⟩
    · rintro ⟨hi, hNode, hg⟩
      exact ⟨.inr hi, hNode, hg⟩
  rw [Electorate.grants, hIssued, Electorate.grants]

end

theorem Electorate.grants_congr (h : s'.issued = s.issued) : e.grants s' = e.grants s := by
  simp only [Electorate.grants, Electorate.issued, h]

theorem Electorate.Bound.congr (h : e.Bound s) (hIssued : s'.issued = s.issued)
    (hVotes : ∀ k, (s'.node k).votes = (s.node k).votes) : e.Bound s' := by
  refine ⟨fun k hk => ?_, ?_⟩
  · rw [grants_congr hIssued, promiseOf_congr (hVotes k)]
    exact h.accounted k hk
  · rw [grants_congr hIssued]
    exact h.binding

theorem Electorate.Bound.voted (h : e.Bound s) (hVoted : Voted clock s s' m req now receipt) :
    e.Bound s' := by
  by_cases hSelf : m ∈ e.members ∧ req.group = e.group
  · obtain ⟨hm, hGroup⟩ := hSelf
    have hAccounted := h.accounted m hm
    have hAdmits : ∀ q, promiseOf (s.node m) e.group = some q →
        q.Admits req.term req.candidateFingerprint now := by
      rw [← hGroup]
      exact fun q => hVoted.admits
    refine ⟨fun k hk => ?_, ?_⟩
    · rw [hVoted.grants_self hm hGroup]
      rcases eq_or_ne k m with rfl | hne
      · rw [← hGroup, hVoted.promiseOf_self]
        exact .binds_insert hAccounted hAdmits _
      · rw [promiseOf_congr (hVoted.others k hne)]
        exact (h.accounted k hk).insert_other hne.symm
    · rw [hVoted.grants_self hm hGroup]
      exact h.binding.insert hAccounted hAdmits
  · refine ⟨fun k hk => ?_, ?_⟩
    · rw [hVoted.grants_other hSelf, hVoted.promiseOf_other hSelf hk]
      exact h.accounted k hk
    · rw [hVoted.grants_other hSelf]
      exact h.binding

theorem Electorate.Bound.step (h : e.Bound s) (hStep : Effect clock s s') : e.Bound s' := by
  obtain hQuiet | ⟨_, _, _, _, hVoted⟩ | ⟨_, _, _, _, hElected⟩ := hStep.classify
  · exact h.congr hQuiet.issued hQuiet.votes
  · exact h.voted hVoted
  · exact h.congr hElected.issued hElected.votes

end

/-! ## Certificates -/

section

variable {sha : Bytes → String}

theorem Traced.step (h : Traced clock s) (hStep : Effect clock s s') : Traced clock s' := by
  cases hStep with
  | idle hTime =>
      exact ⟨fun i hi => (h.receipts i hi).imp_left (·.trans hTime),
        fun c hc => (h.campaigns c hc).imp_left (·.trans hTime), h.replies⟩
  | lapsed | switched | elected => exact ⟨h.receipts, h.campaigns, h.replies⟩
  | granted hNow hVote hCampaigns hIndexed hReplies =>
      refine ⟨?_, ?_, ?_⟩
      · intro i hi
        rcases mem_cons.mp hi with rfl | hi
        · exact ⟨le_rfl, hVote.decided ▸ hNow⟩
        · exact h.receipts i hi
      · intro c hc
        rcases hCampaigns c hc with hc | ⟨hNode, hStarted, hRead, hOwn⟩
        · obtain ⟨hTime, hClock, hIssued⟩ := h.campaigns c hc
          exact ⟨hTime, hClock, mem_cons_of_mem _ hIssued⟩
        · rw [hNode, hStarted, hRead, hOwn]
          exact ⟨le_rfl, hNow, mem_cons_self⟩
      · intro r hr
        rcases hReplies r hr with hr | ⟨hNode, hReceipt, c, hc⟩
        · obtain ⟨c, t, hc, hTime, hIssued⟩ := h.replies r hr
          exact ⟨c, t, hIndexed _ _ hc, hTime, mem_cons_of_mem _ hIssued⟩
        · refine ⟨c, s.time, hIndexed _ _ hc, (h.campaigns c (mem_of_getElem? hc)).1, ?_⟩
          rw [hNode, hReceipt]
          exact mem_cons_self

theorem Electorate.issued_subset (h : ∀ i ∈ s.issued, i ∈ s'.issued) : e.issued s ⊆ e.issued s' :=
  fun i hi => ⟨h i hi.1, hi.2⟩

theorem Electorate.Signed.step (h : e.Signed s) (hRegistered : e.Registered s)
    (hStep : Effect clock s s') : e.Signed s' := by
  rintro i ⟨hi, hNode, hGroup⟩
  obtain hQuiet | ⟨m, req, now, receipt, hVoted⟩ | ⟨_, _, _, _, hElected⟩ := hStep.classify
  · exact h i ⟨hQuiet.issued ▸ hi, hNode, hGroup⟩
  · rw [hVoted.issued] at hi
    rcases mem_cons.mp hi with rfl | hi
    · obtain ⟨store, hVote⟩ := hVoted.vote
      obtain ⟨r, hRoster, hVoter⟩ := hVote.voter
      obtain ⟨r', hRoster', hOwn, -⟩ := hRegistered m hNode
      rw [← hVote.receiptGroup, show receipt.group = e.group from hGroup, hRoster'] at hRoster
      cases hRoster
      exact hVoter.trans hOwn
    · exact h i ⟨hi, hNode, hGroup⟩
  · exact h i ⟨hElected.issued ▸ hi, hNode, hGroup⟩

theorem Electorate.mem_members {f} : f ∈ e.members ↔ f ∈ e.base.roster.fingerprints :=
  mem_toFinset

theorem Electorate.card_members {r : EnrolledRoster}
    (h : r.roster.fingerprints.Perm e.base.roster.fingerprints) :
    e.members.card = r.roster.members.length := by
  rw [Electorate.members, toFinset_card_of_nodup e.base.fingerprints_nodup, ← h.length_eq,
    ClusterRoster.fingerprints, length_map]

theorem Elected.supporting {index started receipts expires} (h : Elected s s' index started receipts expires)
    (hTraced : Traced clock s) (hSigned : e.Signed s) (hNode : started.node ∈ e.members)
    (hGroup : started.campaign.req.group = e.group) {r} (hr : r ∈ receipts)
    (hVoter : r.voterFingerprint ∈ e.members) :
    ⟨r.voterFingerprint, started.campaign.req.term, started.campaign.req.candidateFingerprint,
        r.decidedAtMs⟩ ∈
      e.supporting s ⟨started.node, started.campaign, receipts, started.startedAt, expires⟩ := by
  obtain ⟨store, hQuorum⟩ := h.quorum
  have hCounts := VoteReceipt.counts_of_stray_eq_false hQuorum.clock (hQuorum.stray r hr)
  obtain ⟨t, hStart, hIssued⟩ : ∃ t, started.startedAt ≤ t ∧ ⟨r.voterFingerprint, t, r⟩ ∈ s.issued := by
    rcases h.gathered r hr with rfl | hReply
    · have hIssued := (hTraced.campaigns started (mem_of_getElem? h.running)).2.2
      have hSelf := hSigned _ ⟨hIssued, hNode, hCounts.group.trans hGroup⟩
      exact ⟨started.startedAt, le_rfl, hSelf ▸ hIssued⟩
    · obtain ⟨c, t, hc, hTime, hIssued⟩ := hTraced.replies _ hReply
      rw [h.running] at hc
      cases hc
      exact ⟨t, hTime, hIssued⟩
  refine ⟨⟨r.voterFingerprint, t, r⟩, ⟨⟨hIssued, hVoter, hCounts.group.trans hGroup⟩, hStart,
    hCounts.notAfter, ?_⟩, ?_⟩
  · exact hCounts.lease ▸ hQuorum.margin r hr
  · rw [Issued.toGrant, hCounts.term, hCounts.candidate]

theorem Elected.certificate {index : Nat} {started receipts expires} (h : Elected s s' index started receipts expires)
    (hTraced : Traced clock s) (hSigned : e.Signed s) (hRegistered : e.Registered s)
    (hNode : started.node ∈ e.members) (hGroup : started.campaign.req.group = e.group) :
    started.campaign.req.candidateFingerprint = started.node ∧ ∃ quorum, Certificate
        (e.supporting s ⟨started.node, started.campaign, receipts, started.startedAt, expires⟩)
        e.members quorum started.campaign.req.term started.node := by
  obtain ⟨store, hQuorum⟩ := h.quorum
  obtain ⟨r, hRoster, hCandidate, hMajority, hSubset⟩ := hQuorum.members
  obtain ⟨r', hRoster', hOwn, hPerm⟩ := hRegistered started.node hNode
  rw [hGroup, hRoster'] at hRoster
  cases hRoster
  have hSelf := hCandidate.trans hOwn
  have hMembers : ∀ v ∈ receipts, v.voterFingerprint ∈ e.members := fun v hv =>
    Electorate.mem_members.mpr (hPerm.mem_iff.mp (hSubset v hv))
  refine ⟨hSelf, (receipts.map (·.voterFingerprint)).toFinset, ?_, ?_, ?_⟩
  · intro f hf
    obtain ⟨v, hv, rfl⟩ := mem_map.mp (mem_toFinset.mp hf)
    exact hMembers v hv
  · rw [toFinset_card_of_nodup hQuorum.distinct, length_map, Electorate.card_members hPerm]
    omega
  · intro f hf
    obtain ⟨v, hv, rfl⟩ := mem_map.mp (mem_toFinset.mp hf)
    exact ⟨_, h.supporting hTraced hSigned hNode hGroup hv (hMembers v hv), rfl, rfl, hSelf⟩

theorem Electorate.supporting_mono (h : ∀ i ∈ s.issued, i ∈ s'.issued) (p : Persisted) :
    e.supporting s p ⊆ e.supporting s' p :=
  Set.image_mono fun _ hi => ⟨issued_subset h hi.1, hi.2⟩

theorem Electorate.Certified.step (h : e.Certified clock s) (hTraced : Traced clock s)
    (hSigned : e.Signed s) (hRegistered : e.Registered s) (hStep : Effect clock s s') :
    e.Certified clock s' := by
  have hKeep (hIssued : ∀ i ∈ s.issued, i ∈ s'.issued) (p : Persisted) (hp : p ∈ s.persisted)
      (hNode : p.node ∈ e.members) (hGroup : p.campaign.req.group = e.group) :
      p.campaign.req.candidateFingerprint = p.node ∧ clock p.node p.startedAt p.campaign.now ∧
        ∃ quorum, Certificate (e.supporting s' p) e.members quorum p.campaign.req.term p.node := by
    obtain ⟨hSelf, hClock, quorum, hQuorum⟩ := h p hp hNode hGroup
    exact ⟨hSelf, hClock, quorum, hQuorum.mono (supporting_mono hIssued p)⟩
  intro p hp hNode hGroup
  obtain hQuiet | ⟨m, req, now, receipt, hVoted⟩ | ⟨_, started, _, _, hElected⟩ := hStep.classify
  · exact hKeep (fun i hi => hQuiet.issued ▸ hi) p (hQuiet.persisted ▸ hp) hNode hGroup
  · exact hKeep (fun i hi => hVoted.issued ▸ mem_cons_of_mem _ hi) p
      (hVoted.persisted ▸ hp) hNode hGroup
  · have hIssued : ∀ i ∈ s.issued, i ∈ s'.issued := fun i hi => hElected.issued ▸ hi
    rw [hElected.persisted] at hp
    rcases mem_cons.mp hp with rfl | hp
    · obtain ⟨hSelf, quorum, hQuorum⟩ := hElected.certificate hTraced hSigned hRegistered hNode hGroup
      exact ⟨hSelf, (hTraced.campaigns started (mem_of_getElem? hElected.running)).2.1,
        quorum, hQuorum.mono (supporting_mono hIssued _)⟩
    · exact hKeep hIssued p hp hNode hGroup

end

/-! ## Lease rows -/

section

variable {sha : Bytes → String} {clock : Clock} {e : Electorate} {s s' : System}
variable {k group : String}

theorem Effect.ballot_mono (h : Effect clock s s') {v} (hv : (s.node k).votes.lookup group = some v) :
    ∃ v', (s'.node k).votes.lookup group = some v' ∧ v.term ≤ v'.term := by
  obtain hQuiet | ⟨m, req, now, receipt, hVoted⟩ | ⟨_, _, _, _, hElected⟩ := h.classify
  · exact ⟨v, hQuiet.votes k ▸ hv, le_rfl⟩
  · rcases eq_or_ne k m with rfl | hne
    · rw [hVoted.ballot]
      rcases eq_or_ne group req.group with rfl | hGroup
      · obtain ⟨store, hVote⟩ := hVoted.vote
        exact ⟨_, lookup_insert _, (hVote.permits v hv).notOlder⟩
      · exact ⟨v, (lookup_insert_ne hGroup).trans hv, le_rfl⟩
    · exact ⟨v, hVoted.others k hne ▸ hv, le_rfl⟩
  · exact ⟨v, hElected.votes k ▸ hv, le_rfl⟩

theorem Effect.lease_cases (h : Effect clock s s') {l} (hl : (s'.node k).leases.lookup group = some l) :
    (s.node k).leases.lookup group = some l ∨
      (∃ v, (s.node k).votes.lookup group = some v ∧ v.term = l.term) ∧
        ∃ p ∈ s'.persisted, p.node = k ∧ p.campaign.req.group = group ∧
          p.campaign.req.term = l.term ∧ p.campaign.req.candidateFingerprint = l.leader ∧
          p.expires = l.expiresAtMs := by
  obtain hQuiet | ⟨m, req, now, receipt, hVoted⟩ | ⟨_, started, receipts, expires, hElected⟩ := h.classify
  · exact .inl (hQuiet.leases k group l hl)
  · exact .inl (hVoted.leases k ▸ hl)
  · rcases eq_or_ne k started.node with rfl | hne
    · rw [hElected.lease] at hl
      rcases eq_or_ne group started.campaign.req.group with rfl | hGroup
      · rw [lookup_insert, Option.some.injEq] at hl
        subst hl
        obtain ⟨store, hQuorum⟩ := hElected.quorum
        obtain ⟨v, hv, hTerm⟩ := hQuorum.backed
        exact .inr ⟨⟨v, hv, hTerm⟩, ⟨started.node, started.campaign, receipts, started.startedAt, expires⟩,
          hElected.persisted ▸ mem_cons_self, rfl, rfl, rfl, rfl, rfl⟩
      · rw [lookup_insert_ne hGroup] at hl
        exact .inl hl
    · exact .inl (hElected.others k hne ▸ hl)

theorem Effect.persisted_subset (h : Effect clock s s') {p}
    (hp : p ∈ s.persisted) : p ∈ s'.persisted := by
  obtain hQuiet | ⟨_, _, _, _, hVoted⟩ | ⟨_, _, _, _, hElected⟩ := h.classify
  · exact hQuiet.persisted ▸ hp
  · exact hVoted.persisted ▸ hp
  · exact hElected.persisted ▸ mem_cons_of_mem _ hp

theorem Electorate.Leased.step (h : e.Leased s) (hStep : Effect clock s s') : e.Leased s' := by
  refine ⟨fun k hk l hl => ?_, fun k hk l hl => ?_⟩
  · rcases hStep.lease_cases hl with hl | ⟨-, hNew⟩
    · obtain ⟨p, hp, hRow⟩ := h.persisted k hk l hl
      exact ⟨p, hStep.persisted_subset hp, hRow⟩
    · exact hNew
  · obtain ⟨v, hv, hLe⟩ : ∃ v, (s.node k).votes.lookup e.group = some v ∧ l.term ≤ v.term := by
      rcases hStep.lease_cases hl with hl | ⟨⟨v, hv, hTerm⟩, -⟩
      · exact h.voted k hk l hl
      · exact ⟨v, hv, hTerm.ge⟩
    obtain ⟨v', hv', hMono⟩ := hStep.ballot_mono hv
    exact ⟨v', hv', hLe.trans hMono⟩

/-- Store `k` has voted in term `t` or later and holds no lease below it. -/
def TermFloor (group : String) (t : Nat) (store : Store) : Prop :=
  (∃ v, store.votes.lookup group = some v ∧ t ≤ v.term) ∧ ∀ l, store.leases.lookup group = some l → t ≤ l.term

theorem TermFloor.step {t} (h : TermFloor group t (s.node k))
    (hStep : Effect clock s s') : TermFloor group t (s'.node k) := by
  obtain ⟨⟨v, hv, hFloor⟩, hLeases⟩ := h
  refine ⟨?_, fun l hl => ?_⟩
  · obtain ⟨v', hv', hMono⟩ := hStep.ballot_mono hv
    exact ⟨v', hv', hFloor.trans hMono⟩
  · rcases hStep.lease_cases hl with hl | ⟨⟨v', hv', hTerm⟩, -⟩
    · exact hLeases l hl
    · rw [hv, Option.some.injEq] at hv'
      exact hFloor.trans (hv' ▸ hTerm).le

end

/-! ## Runs -/

variable {s₀ s s' : System}

section

open Relation

variable {sha : Bytes → String}

/-- What every run keeps, whatever the clocks read. -/
structure Electorate.Sound (clock : Clock) (e : Electorate) (s : System) : Prop where
  registered : e.Registered s
  traced : Traced clock s
  signed : e.Signed s
  bound : e.Bound s
  certified : e.Certified clock s
  leased : e.Leased s

theorem Electorate.Sound.step (h : e.Sound clock s) (hStep : Effect clock s s') : e.Sound clock s' where
  registered := h.registered.step hStep
  traced := h.traced.step hStep
  signed := h.signed.step h.registered hStep
  bound := h.bound.step hStep
  certified := h.certified.step h.traced h.signed h.registered hStep
  leased := h.leased.step hStep

theorem configure_eq_ok {store store' r now} (h : configure store r.roster now = .ok store') :
    roster store' r.roster.group = .ok r ∧ store'.votes.lookup r.roster.group = none ∧
      store'.leases.lookup r.roster.group = none := by
  simp only [configure, Guards.bind_eq_ok, Guards.pure_eq_ok] at h
  obtain ⟨-, -, -, -, -, -, rfl⟩ := h
  refine ⟨roster_eq_ok.mpr ?_, ?_, ?_⟩ <;> simp

theorem Electorate.Identical.perm (hIdentical : e.Identical sha) (hFree : e.CollisionFree sha)
    {m} (hm : m ∈ e.members) : (e.config m).roster.fingerprints.Perm e.base.roster.fingerprints :=
  EnrolledRoster.fingerprints_perm_of_digestText_eq
    (textBytes_injective (hFree m hm (hIdentical.digest m hm)))

theorem Electorate.Initial.sound (h : e.Initial s) (hIdentical : e.Identical sha)
    (hFree : e.CollisionFree sha) : e.Sound clock s := by
  have hStores : ∀ m ∈ e.members, roster (s.node m) e.group = .ok (e.config m) ∧
      (s.node m).votes.lookup e.group = none ∧ (s.node m).leases.lookup e.group = none := by
    intro m hm
    obtain ⟨store, now, hConfigured⟩ := h.configured m hm
    exact hIdentical.group m hm ▸ configure_eq_ok hConfigured
  have hIssued : e.issued s = ∅ := by
    simp only [Electorate.issued, h.issued, not_mem_nil, false_and]
    rfl
  have hGrants : e.grants s = ∅ := by
    rw [Electorate.grants, hIssued, Set.image_empty]
  refine
    { registered := fun m hm =>
        ⟨e.config m, (hStores m hm).1, hIdentical.own m hm, hIdentical.perm hFree hm⟩
      traced := ⟨by simp [h.issued], by simp [h.campaigns], by simp [h.replies]⟩
      signed := by simp [Electorate.Signed, hIssued]
      bound := ⟨fun m _ g hg => ?_, hGrants ▸ termBinding_empty⟩
      certified := by simp [Electorate.Certified, h.persisted]
      leased := ⟨fun m hm l hl => ?_, fun m hm l hl => ?_⟩ }
  · rw [hGrants] at hg
    exact absurd hg (Set.notMem_empty g)
  · exact absurd hl (by simp [(hStores m hm).2.2])
  · exact absurd hl (by simp [(hStores m hm).2.2])

theorem Electorate.Sound.run (h : e.Sound clock s)
    (hRun : ReflTransGen (Step sha clock) s s') : e.Sound clock s' := by
  induction hRun with
  | refl => exact h
  | tail _ hStep ih => exact ih.step hStep.effect

theorem TermFloor.run {k group t} (h : TermFloor group t (s.node k))
    (hRun : ReflTransGen (Step sha clock) s s') : TermFloor group t (s'.node k) := by
  induction hRun with
  | refl => exact h
  | tail _ hStep ih => exact ih.step hStep.effect

theorem Electorate.Sound.candidate_eq (h : e.Sound clock s) {p q}
    (hp : p ∈ s.persisted) (hq : q ∈ s.persisted) (hpNode : p.node ∈ e.members)
    (hqNode : q.node ∈ e.members) (hpGroup : p.campaign.req.group = e.group)
    (hqGroup : q.campaign.req.group = e.group)
    (hTerm : p.campaign.req.term = q.campaign.req.term) : p.node = q.node := by
  obtain ⟨-, -, P, hP⟩ := h.certified p hp hpNode hpGroup
  obtain ⟨-, -, Q, hQ⟩ := h.certified q hq hqNode hqGroup
  exact Certificate.candidate_eq h.bound.binding e.supporting_subset_grants
    e.supporting_subset_grants (hTerm ▸ hP) hQ

end

/-! ## Clocks a constant offset apart -/

variable {offset : String → Int}

section

open Relation

/-- Every member reads one non-decreasing clock, shifted by its own constant. -/
def offsetClock (offset : String → Int) : Clock := fun m t now => now = t + offset m

variable {sha : Bytes → String}

/-- Ballots of different terms lie a lease apart on each voter's clock. -/
structure Electorate.Spaced (offset : String → Int) (e : Electorate) (s : System) : Prop where
  outlasts : ∀ m ∈ e.members,
    Accounted (Promise.Outlasts leaseMs) (e.grants s) m (promiseOf (s.node m) e.group)
  separated : TermSeparated leaseMs (e.grants s)
  past : ∀ m ∈ e.members, ∀ q, promiseOf (s.node m) e.group = some q → q.expires - leaseMs ≤ s.time + offset m

theorem Electorate.Spaced.congr (h : e.Spaced offset s) (hIssued : s'.issued = s.issued)
    (hVotes : ∀ k, (s'.node k).votes = (s.node k).votes) (hTime : s.time ≤ s'.time) : e.Spaced offset s' := by
  refine ⟨fun k hk => ?_, ?_, fun k hk q hq => ?_⟩
  · rw [grants_congr hIssued, promiseOf_congr (hVotes k)]
    exact h.outlasts k hk
  · rw [grants_congr hIssued]
    exact h.separated
  · rw [promiseOf_congr (hVotes k)] at hq
    have := h.past k hk q hq
    omega

theorem Electorate.Spaced.voted (h : e.Spaced offset s) (hBound : e.Bound s)
    (hTime : s.time ≤ s'.time) {m req now receipt}
    (hVoted : Voted (offsetClock offset) s s' m req now receipt) : e.Spaced offset s' := by
  by_cases hSelf : m ∈ e.members ∧ req.group = e.group
  · obtain ⟨hm, hGroup⟩ := hSelf
    have hRead : now = s.time + offset m := hVoted.read
    have hAdmits : ∀ q, promiseOf (s.node m) e.group = some q →
        q.Admits req.term req.candidateFingerprint now := by
      rw [← hGroup]
      exact fun q => hVoted.admits
    have hClock : ∀ q, promiseOf (s.node m) e.group = some q → q.expires - leaseMs ≤ now :=
      hRead ▸ h.past m hm
    have hBinds := hBound.accounted m hm
    have hOutlasts := h.outlasts m hm
    refine ⟨fun k hk => ?_, ?_, fun k hk q hq => ?_⟩
    · rw [hVoted.grants_self hm hGroup]
      rcases eq_or_ne k m with rfl | hne
      · rw [← hGroup, hVoted.promiseOf_self]
        exact .outlasts_insert hBinds hAdmits hOutlasts hClock
      · rw [promiseOf_congr (hVoted.others k hne)]
        exact (h.outlasts k hk).insert_other hne.symm
    · rw [hVoted.grants_self hm hGroup]
      exact h.separated.insert hBinds hAdmits hOutlasts hClock
    · rcases eq_or_ne k m with rfl | hne
      · rw [← hGroup, hVoted.promiseOf_self, Option.some.injEq] at hq
        subst hq
        change now + leaseMs - leaseMs ≤ s'.time + offset k
        omega
      · rw [promiseOf_congr (hVoted.others k hne)] at hq
        have := h.past k hk q hq
        omega
  · refine ⟨fun k hk => ?_, ?_, fun k hk q hq => ?_⟩
    · rw [hVoted.grants_other hSelf, hVoted.promiseOf_other hSelf hk]
      exact h.outlasts k hk
    · rw [hVoted.grants_other hSelf]
      exact h.separated
    · rw [hVoted.promiseOf_other hSelf hk] at hq
      have := h.past k hk q hq
      omega

theorem Electorate.Spaced.step (h : e.Spaced offset s) (hBound : e.Bound s)
    (hStep : Effect (offsetClock offset) s s') : e.Spaced offset s' := by
  obtain hQuiet | ⟨_, _, _, _, hVoted⟩ | ⟨_, _, _, _, hElected⟩ := hStep.classify
  · exact h.congr hQuiet.issued hQuiet.votes hStep.time_le
  · exact h.voted hBound hStep.time_le hVoted
  · exact h.congr hElected.issued hElected.votes hStep.time_le

theorem Electorate.Spaced.run (h : e.Spaced offset s) (hSound : e.Sound (offsetClock offset) s)
    (hRun : ReflTransGen (Step sha (offsetClock offset)) s s') : e.Spaced offset s' := by
  induction hRun with
  | refl => exact h
  | tail hPrefix hStep ih => exact ih.step (hSound.run hPrefix).bound hStep.effect

end

/-! ## A three-member election

Members a, b and c enrol; a campaigns in term 1, b answers, and a persists the
quorum of the two receipts. -/

namespace Sample

open Relation

def fpA : String := "aaaaaaaaaaaaaaaaaaaaaaaaaaaaaaaaaaaaaaaaaaaaaaaaaaaaaaaaaaaaaaaa"
def fpB : String := "bbbbbbbbbbbbbbbbbbbbbbbbbbbbbbbbbbbbbbbbbbbbbbbbbbbbbbbbbbbbbbbb"
def fpC : String := "cccccccccccccccccccccccccccccccccccccccccccccccccccccccccccccccc"

def digestText : String := "\n".intercalate [fpA, fpB, fpC]

def sha (input : Bytes) : String :=
  if input = textBytes digestText then
    "3a9126ada7449a9ae43078e666cc5105bcd9700245277275a7a95ab954d338df"
  else ""

def member (own fp device : String) : ClusterMember :=
  if own = fp then ⟨fp, "@local", none⟩ else ⟨fp, "signed-" ++ device, some device⟩

def configuration (own : String) : ClusterRoster :=
  ⟨1, "team", [member own fpA "a", member own fpB "b", member own fpC "c"]⟩

theorem check_configuration : ∀ own ∈ [fpA, fpB, fpC], (configuration own).check = .ok () := by
  decide

def electorate : Electorate where
  base := ⟨configuration fpA, check_configuration fpA (by decide +kernel)⟩
  config m := if h : m ∈ [fpA, fpB, fpC] then ⟨configuration m, check_configuration m h⟩
    else ⟨configuration fpA, check_configuration fpA (by decide +kernel)⟩

def emptyStore : Store := ⟨∅, ∅, ∅, false⟩

def enrolledStore (m : String) : Store :=
  match configure emptyStore (electorate.config m).roster 1000 with
  | .ok store => store
  | .error _ => emptyStore

def start : System := ⟨1000, enrolledStore, [], [], [], []⟩

def campaigning : System := start.startCampaign sha fpA "team" 1 1000

def request : VoteRequest :=
  ⟨"team", 1, fpA, "3a9126ada7449a9ae43078e666cc5105bcd9700245277275a7a95ab954d338df"⟩

def receipt (voter : String) : VoteReceipt :=
  ⟨"team", 1, fpA, voter, "3a9126ada7449a9ae43078e666cc5105bcd9700245277275a7a95ab954d338df", 21000, 1000⟩

def campaign : Campaign := ⟨electorate.config fpA, request, 1000, receipt fpA⟩

def answered : System := campaigning.answerBallot sha 0 request fpB "signed-a" 1000

def elected : System :=
  answered.finishCampaign sha ⟨fpA, 1000, campaign⟩ [(fpB, some (receipt fpB))]

theorem members_eq : electorate.members = {fpA, fpB, fpC} := by decide

theorem identical : electorate.Identical sha := by
  refine ⟨?_, ?_, ?_⟩ <;> rw [members_eq] <;> decide

theorem collisionFree : electorate.CollisionFree sha := by
  unfold Electorate.CollisionFree
  rw [members_eq]
  decide +kernel

theorem initial : electorate.Initial start := by
  refine ⟨fun m hm => ⟨emptyStore, 1000, ?_⟩, rfl, rfl, rfl, rfl⟩
  rw [members_eq] at hm
  simp only [Finset.mem_insert, Finset.mem_singleton] at hm
  rcases hm with rfl | rfl | rfl <;> rfl

theorem campaigning_eq : campaigning.time = 1000 ∧ campaigning.campaigns = [⟨fpA, 1000, campaign⟩] := by
  decide +kernel

theorem answered_eq : answered.campaigns = [⟨fpA, 1000, campaign⟩] ∧
    answered.replies = [⟨0, fpB, receipt fpB⟩] := by
  decide +kernel

theorem elected_eq : elected.persisted.length = 1 ∧ maySchedule (elected.node fpA) "team" 1000 = .ok true ∧
    ((elected.node fpA).leases.lookup "team").isSome = true := by
  decide +kernel

theorem run : ReflTransGen (Step sha (offsetClock fun _ => 0)) start elected := by
  have hStart : Step sha (offsetClock fun _ => 0) start campaigning := .campaign start fpA "team" 1 rfl
  have hOpened : campaigning.campaigns[0]? = some ⟨fpA, 1000, campaign⟩ := by
    rw [campaigning_eq.2]
    rfl
  have hNow : offsetClock (fun _ => 0) fpB campaigning.time 1000 := by
    rw [campaigning_eq.1]
    rfl
  have hBallot : Step sha (offsetClock fun _ => 0) campaigning answered :=
    @Step.ballot sha _ campaigning 0 ⟨fpA, 1000, campaign⟩ fpB "signed-a" 1000 hOpened hNow
  have hOpen : answered.campaigns[0]? = some ⟨fpA, 1000, campaign⟩ := by
    rw [answered_eq.1]
    rfl
  have hAnswers : ∀ expected r, (expected, some r) ∈ [(fpB, some (receipt fpB))] →
      ⟨0, expected, r⟩ ∈ answered.replies := by
    intro expected r hr
    simp only [mem_singleton, Prod.mk.injEq, Option.some.injEq] at hr
    rw [hr.1, hr.2, answered_eq.2]
    exact mem_cons_self
  have hFinish : Step sha (offsetClock fun _ => 0) answered elected := .finish answered _ hOpen hAnswers
  exact ((ReflTransGen.single hStart).tail hBallot).tail hFinish

end Sample

/-! ## Main results -/

section

open Relation

variable {sha : Bytes → String} {s₀ s : System}

/-- Terms are unique and lease terms monotone, for arbitrary clock readings. -/
theorem persisted_terms_unique_and_lease_term_monotone (hIdentical : e.Identical sha)
    (hFree : e.CollisionFree sha) (hInitial : e.Initial s₀) (hRun : ReflTransGen (Step sha clock) s₀ s) :
    (∀ p ∈ s.persisted, ∀ q ∈ s.persisted, p.node ∈ e.members → q.node ∈ e.members →
        p.campaign.req.group = e.group → q.campaign.req.group = e.group →
        p.campaign.req.term = q.campaign.req.term →
        p.campaign.req.candidateFingerprint = q.campaign.req.candidateFingerprint) ∧
      ∀ s', ReflTransGen (Step sha clock) s s' → ∀ m ∈ e.members, ∀ l l',
        (s.node m).leases.lookup e.group = some l →
        (s'.node m).leases.lookup e.group = some l' → l.term ≤ l'.term := by
  have hSound : e.Sound clock s := (hInitial.sound hIdentical hFree).run hRun
  refine ⟨?_, ?_⟩
  · intro p hp q hq hpNode hqNode hpGroup hqGroup hTerm
    rw [(hSound.certified p hp hpNode hpGroup).1, (hSound.certified q hq hqNode hqGroup).1]
    exact hSound.candidate_eq hp hq hpNode hqNode hpGroup hqGroup hTerm
  · intro s' hLater m hm l l' hl hl'
    obtain ⟨v, hv, hLe⟩ := hSound.leased.voted m hm l hl
    have hFloor : TermFloor e.group l.term (s.node m) := by
      refine ⟨⟨v, hv, hLe⟩, fun k hk => ?_⟩
      rw [hl, Option.some.injEq] at hk
      exact (congrArg LeaseRow.term hk).le
    exact (hFloor.run hLater).2 l' hl'

theorem sample_terms_unique_and_lease_term_monotone : Sample.elected.persisted.length = 1 ∧
      (∀ p ∈ Sample.elected.persisted, ∀ q ∈ Sample.elected.persisted,
        p.node ∈ Sample.electorate.members → q.node ∈ Sample.electorate.members →
        p.campaign.req.group = Sample.electorate.group →
        q.campaign.req.group = Sample.electorate.group →
        p.campaign.req.term = q.campaign.req.term →
        p.campaign.req.candidateFingerprint = q.campaign.req.candidateFingerprint) ∧
      ∀ s', ReflTransGen (Step Sample.sha (offsetClock fun _ => 0)) Sample.elected s' →
        ∀ m ∈ Sample.electorate.members, ∀ l l',
          (Sample.elected.node m).leases.lookup Sample.electorate.group = some l →
          (s'.node m).leases.lookup Sample.electorate.group = some l' → l.term ≤ l'.term :=
  ⟨Sample.elected_eq.1, persisted_terms_unique_and_lease_term_monotone Sample.identical Sample.collisionFree
      Sample.initial Sample.run⟩

/-- Whatever is lost, repeated or late, no member votes for two candidates of one
term, or holds a lease of a term in which no majority voted for it. -/
theorem leases_won (hIdentical : e.Identical sha) (hFree : e.CollisionFree sha) (hInitial : e.Initial s₀)
    (hRun : ReflTransGen (Step sha clock) s₀ s) : TermBinding (e.grants s) ∧
    ∀ m ∈ e.members, ∀ l, (s.node m).leases.lookup e.group = some l →
      l.leader = m ∧ ∃ quorum, Certificate (e.grants s) e.members quorum l.term m := by
  have hSound : e.Sound clock s := (hInitial.sound hIdentical hFree).run hRun
  refine ⟨hSound.bound.binding, fun m hm l hl => ?_⟩
  obtain ⟨p, hp, rfl, hGroup, hTerm, hLeader, -⟩ := hSound.leased.persisted m hm l hl
  obtain ⟨hOwn, -, quorum, hWon⟩ := hSound.certified p hp hm hGroup
  exact ⟨hLeader.symm.trans hOwn, quorum, hTerm ▸ hWon.mono e.supporting_subset_grants⟩

theorem sample_lease_won : ∃ term quorum,
    Certificate (Sample.electorate.grants Sample.elected) Sample.electorate.members quorum term Sample.fpA := by
  obtain ⟨l, hl⟩ := Option.isSome_iff_exists.mp Sample.elected_eq.2.2
  have hWon := (leases_won Sample.identical Sample.collisionFree Sample.initial Sample.run).2
  exact ⟨l.term, (hWon _ (by decide) l hl).2⟩

end

end LittleMonkey.Swarm.Cluster
