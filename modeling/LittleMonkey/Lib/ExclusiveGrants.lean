import Mathlib.Data.Finset.Card
import Mathlib.Data.Set.Insert

/-! # Exclusive grants and majority certificates

A voter keeps one promise: a term, its candidate, and the instant until which no
higher term is served.  Its grants bind each term to one candidate and keep
different terms a full lease apart.  Two majorities of one electorate share a
voter, so both facts lift to certificates.
-/

namespace ExclusiveGrants

variable {V C : Type*}

@[ext]
structure Grant (V C : Type*) where
  voter : V
  term : Nat
  candidate : C
  castAt : Int

structure Promise (C : Type*) where
  term : Nat
  candidate : C
  expires : Int

/-- The rule under which a voter grants `term` to `candidate` at `now`: no
older term, no second candidate in a term, no higher term before the promise
runs out. -/
structure Promise.Admits (p : Promise C) (term : Nat) (candidate : C) (now : Int) : Prop where
  notOlder : p.term ≤ term
  sameCandidate : term = p.term → candidate = p.candidate
  expired : p.term < term → p.expires ≤ now

/-- A promise accounts for a grant: it is of the grant's term or of a later
one, and within the term it names the grant's candidate. -/
structure Promise.Binds (p : Promise C) (g : Grant V C) : Prop where
  termLe : g.term ≤ p.term
  candidateEq : g.term = p.term → g.candidate = p.candidate

/-- A promise of a later term was given a full lease after the grant, and no
promise ends before the lease of a grant it accounts for. -/
structure Promise.Outlasts (lease : Int) (p : Promise C) (g : Grant V C) : Prop where
  sameTerm : g.term = p.term → g.castAt + lease ≤ p.expires
  laterTerm : g.term < p.term → g.castAt + lease ≤ p.expires - lease

/-- Every grant of `v` in the history is accounted for by the promise `v` now
keeps; a voter without a promise has granted nothing. -/
def Accounted (rel : Promise C → Grant V C → Prop) (history : Set (Grant V C)) (v : V)
    (p : Option (Promise C)) : Prop :=
  ∀ g ∈ history, g.voter = v → ∃ q, p = some q ∧ rel q g

/-- One voter gives one term to one candidate. -/
def TermBinding (history : Set (Grant V C)) : Prop :=
  ∀ g ∈ history, ∀ h ∈ history, g.voter = h.voter → g.term = h.term → g.candidate = h.candidate

/-- One voter serves a higher term only a full lease after every lower one. -/
def TermSeparated (lease : Int) (history : Set (Grant V C)) : Prop :=
  ∀ g ∈ history, ∀ h ∈ history, g.voter = h.voter → g.term < h.term → g.castAt + lease ≤ h.castAt

section

variable {history : Set (Grant V C)} {g : Grant V C} {p : Option (Promise C)} {lease : Int}

theorem termBinding_empty : TermBinding (∅ : Set (Grant V C)) :=
  fun _ hg => absurd hg (Set.notMem_empty _)

section

variable (hBinds : Accounted Promise.Binds history g.voter p)
  (hAdmits : ∀ q, p = some q → q.Admits g.term g.candidate g.castAt)

include hBinds hAdmits

theorem TermBinding.insert (hBinding : TermBinding history) : TermBinding (insert g history) := by
  have hNew : ∀ h ∈ history, h.voter = g.voter → h.term = g.term → h.candidate = g.candidate := by
    intro h hh hVoter hTerm
    obtain ⟨q, rfl, hq⟩ := hBinds h hh hVoter
    have hAdm := hAdmits q rfl
    have hEq : h.term = q.term := le_antisymm hq.termLe (hTerm ▸ hAdm.notOlder)
    rw [hq.candidateEq hEq, hAdm.sameCandidate (hTerm ▸ hEq)]
  rintro a (rfl | ha) b (rfl | hb) hVoter hTerm
  · rfl
  · exact (hNew b hb hVoter.symm hTerm.symm).symm
  · exact hNew a ha hVoter hTerm
  · exact hBinding a ha b hb hVoter hTerm

theorem Accounted.binds_insert (e : Int) :
    Accounted Promise.Binds (insert g history) g.voter (some ⟨g.term, g.candidate, e⟩) := by
  rintro a (rfl | ha) hVoter
  · exact ⟨_, rfl, le_rfl, fun _ => rfl⟩
  · obtain ⟨q, rfl, hq⟩ := hBinds a ha hVoter
    have hAdm := hAdmits q rfl
    refine ⟨_, rfl, hq.termLe.trans hAdm.notOlder, fun hTerm => ?_⟩
    have hEq : a.term = q.term := le_antisymm hq.termLe (hTerm ▸ hAdm.notOlder)
    rw [hq.candidateEq hEq, hAdm.sameCandidate (hTerm.symm.trans hEq)]

variable (hOutlasts : Accounted (Promise.Outlasts lease) history g.voter p)
  (hClock : ∀ q, p = some q → q.expires - lease ≤ g.castAt)

include hOutlasts hClock

/-- A grant cast at `now` follows every lower-term grant of its voter by a
lease, provided the voter's clock has not run back behind its last promise. -/
theorem castAt_add_lease_le {a} (ha : a ∈ history) (hVoter : a.voter = g.voter) (hTerm : a.term < g.term) :
    a.castAt + lease ≤ g.castAt := by
  obtain ⟨q, rfl, hq⟩ := hBinds a ha hVoter
  obtain ⟨_, hqq, hOut⟩ := hOutlasts a ha hVoter
  cases hqq
  rcases hq.termLe.lt_or_eq with hLt | hEq
  · exact (hOut.laterTerm hLt).trans (hClock q rfl)
  · exact (hOut.sameTerm hEq).trans ((hAdmits q rfl).expired (hEq ▸ hTerm))

theorem TermSeparated.insert (hSeparated : TermSeparated lease history) :
    TermSeparated lease (insert g history) := by
  rintro a (rfl | ha) b (rfl | hb) hVoter hTerm
  · exact absurd hTerm (lt_irrefl _)
  · -- a grant of a higher term is already in the history: the promise would refuse this one
    obtain ⟨q, rfl, hq⟩ := hBinds b hb hVoter.symm
    exact absurd ((hAdmits q rfl).notOlder.trans_lt hTerm) (not_lt.mpr hq.termLe)
  · exact castAt_add_lease_le hBinds hAdmits hOutlasts hClock ha hVoter hTerm
  · exact hSeparated a ha b hb hVoter hTerm

theorem Accounted.outlasts_insert : Accounted (Promise.Outlasts lease) (insert g history) g.voter
      (some ⟨g.term, g.candidate, g.castAt + lease⟩) := by
  rintro a (rfl | ha) hVoter
  · exact ⟨_, rfl, fun _ => le_rfl, fun h => absurd h (lt_irrefl _)⟩
  · refine ⟨_, rfl, fun hTerm => ?_, fun hTerm => ?_⟩
    · obtain ⟨q, rfl, hq⟩ := hBinds a ha hVoter
      obtain ⟨_, hqq, hOut⟩ := hOutlasts a ha hVoter
      cases hqq
      have hEq : a.term = q.term := le_antisymm hq.termLe (hTerm ▸ (hAdmits q rfl).notOlder)
      have hExp := hOut.sameTerm hEq
      have hNow := hClock q rfl
      change a.castAt + lease ≤ g.castAt + lease
      omega
    · have := castAt_add_lease_le hBinds hAdmits hOutlasts hClock ha hVoter hTerm
      change a.castAt + lease ≤ g.castAt + lease - lease
      omega

end

theorem Accounted.insert_other {rel : Promise C → Grant V C → Prop} {v}
    (h : Accounted rel history v p) (hne : g.voter ≠ v) : Accounted rel (insert g history) v p := by
  rintro a (rfl | ha) hVoter
  · exact absurd hVoter hne
  · exact h a ha hVoter

end

/-! ## Certificates -/

/-- A strict majority of the electorate granted `term` to `candidate`, each by
one of the given grants. -/
structure Certificate (grants : Set (Grant V C)) (members quorum : Finset V) (term : Nat)
    (candidate : C) : Prop where
  subset : quorum ⊆ members
  majority : members.card < 2 * quorum.card
  granted : ∀ v ∈ quorum, ∃ g ∈ grants, g.voter = v ∧ g.term = term ∧ g.candidate = candidate

theorem exists_common_voter [DecidableEq V] {members Q R : Finset V} (hQ : Q ⊆ members)
    (hR : R ⊆ members) (hQMaj : members.card < 2 * Q.card) (hRMaj : members.card < 2 * R.card) :
    ∃ v ∈ Q, v ∈ R := by
  obtain ⟨v, hv⟩ := Finset.inter_nonempty_of_card_lt_card_add_card hQ hR (by omega)
  exact ⟨v, Finset.mem_of_mem_inter_left hv, Finset.mem_of_mem_inter_right hv⟩

section

variable [DecidableEq V] {history G H : Set (Grant V C)} {members Q R : Finset V} {t u : Nat}
  {c d : C}

omit [DecidableEq V] in
theorem Certificate.mono (h : G ⊆ H) (hQ : Certificate G members Q t c) : Certificate H members Q t c :=
  ⟨hQ.subset, hQ.majority, fun v hv => (hQ.granted v hv).imp fun _ hg => hg.imp_left (h ·)⟩

theorem Certificate.exists_common_grants (hQ : Certificate G members Q t c)
    (hR : Certificate H members R u d) :
    ∃ g ∈ G, ∃ h ∈ H, g.voter = h.voter ∧ (g.term = t ∧ g.candidate = c) ∧ h.term = u ∧ h.candidate = d := by
  obtain ⟨v, hvQ, hvR⟩ := exists_common_voter hQ.subset hR.subset hQ.majority hR.majority
  obtain ⟨g, hg, hgVoter, hgGrant⟩ := hQ.granted v hvQ
  obtain ⟨h, hh, hhVoter, hhGrant⟩ := hR.granted v hvR
  exact ⟨g, hg, h, hh, hgVoter.trans hhVoter.symm, hgGrant, hhGrant⟩

theorem Certificate.candidate_eq (hBinding : TermBinding history) (hG : G ⊆ history)
    (hH : H ⊆ history) (hQ : Certificate G members Q t c) (hR : Certificate H members R t d) : c = d := by
  obtain ⟨g, hg, h, hh, hVoter, ⟨hgTerm, rfl⟩, hhTerm, rfl⟩ := hQ.exists_common_grants hR
  exact hBinding g (hG hg) h (hH hh) hVoter (hgTerm.trans hhTerm.symm)

end

end ExclusiveGrants
