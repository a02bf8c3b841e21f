import LittleMonkey.Lib.Guards
import LittleMonkey.Lib.Primitives
import Mathlib.Data.List.Dedup
import Mathlib.Data.List.Sort
import Mathlib.Data.String.Basic
import Mathlib.Tactic.NormNum

/-! # Quorum leases of one installation

The election half of `swarm_cluster.rs`: the operator's roster, the durable
ballot of a voter, and the lease row a candidate writes from a strict majority
of receipts.  `Store` holds the three cluster tables of one daemon store and
its kill switch.  SHA-256 is the parameter `sha`, from bytes to lowercase hex.
-/

namespace LittleMonkey.Swarm.Cluster

open Guards Primitives List

def leaseMs : Int := 20000
def safetyMs : Int := 5000
def maxElectionTerm : Nat := 1000000000

def validId (value : String) : Bool :=
  1 ≤ value.utf8ByteSize && value.utf8ByteSize ≤ 80 &&
    (textBytes value).all fun c => isAsciiAlphanumeric c || c == 45 || c == 95 || c == 46

def validFp (value : String) : Bool :=
  value.utf8ByteSize == 64 &&
    (textBytes value).all fun c => isAsciiHexdigit c && !isAsciiUppercase c

def textLe (a b : String) : Bool := textBytes a ≤ textBytes b

structure ClusterMember where
  fingerprint : String
  /-- `@local` for the installation itself, else the inbound pairing id. -/
  deviceId : String
  aliasName : Option String
  deriving DecidableEq

def ClusterMember.isLocal (m : ClusterMember) : Bool := m.deviceId == "@local"

structure ClusterRoster where
  version : Nat
  group : String
  members : List ClusterMember
  deriving DecidableEq

def checkMembers (ids fps aliases : List String) : List ClusterMember → Bool
  | [] => true
  | m :: rest =>
    if !validFp m.fingerprint || m.deviceId.isEmpty || 200 < m.deviceId.utf8ByteSize ||
        ids.contains m.deviceId || fps.contains m.fingerprint || m.isLocal != m.aliasName.isNone ||
        m.aliasName.any fun x => !validId x || aliases.contains x then
      false
    else
      checkMembers (m.deviceId :: ids) (m.fingerprint :: fps) (m.aliasName.toList ++ aliases) rest

def ClusterRoster.check (r : ClusterRoster) : Except String Unit := do
  refuseIf (r.version != 1 || !validId r.group || !(2 ≤ r.members.length && r.members.length ≤ 7))
    "Cluster requires version 1, valid group and 2–7 explicit members"
  refuseIf (!checkMembers [] [] [] r.members)
    "Duplicate, malformed or incomplete cluster membership"
  refuseIf ((r.members.filter ClusterMember.isLocal).length != 1)
    "Exactly one locally owned cluster member required"

/-- A roster as `roster` hands it out: it has passed `check`. -/
def EnrolledRoster : Type := { r : ClusterRoster // r.check = .ok () }
  deriving DecidableEq

def ClusterRoster.fingerprints (r : ClusterRoster) : List String := r.members.map (·.fingerprint)

def ClusterRoster.digestText (r : ClusterRoster) : String :=
  "\n".intercalate (r.fingerprints.insertionSort (textLe · ·))

variable (sha : Bytes → String)

def ClusterRoster.digest (r : ClusterRoster) : String :=
  sha (textBytes r.digestText)

structure VoteRequest where
  group : String
  term : Nat
  (candidateFingerprint rosterSha256 : String)
  deriving DecidableEq

structure VoteReceipt where
  group : String
  term : Nat
  (candidateFingerprint voterFingerprint rosterSha256 : String)
  (expiresAtMs decidedAtMs : Int)
  deriving DecidableEq

structure VoteRow where
  term : Nat
  candidate : String
  expiresAtMs : Int

structure LeaseRow where
  term : Nat
  leader : String
  expiresAtMs : Int
  quorum : List VoteReceipt

structure Store where
  rosters : Table String ClusterRoster
  votes : Table String VoteRow
  leases : Table String LeaseRow
  killSwitch : Bool

/-! ## Roster checks -/

theorem ClusterRoster.check_eq_ok {r : ClusterRoster} : r.check = .ok () ↔
      (r.version = 1 ∧ validId r.group = true ∧ 2 ≤ r.members.length ∧ r.members.length ≤ 7) ∧
        checkMembers [] [] [] r.members = true ∧
        (r.members.filter ClusterMember.isLocal).length = 1 := by
  simp [ClusterRoster.check, and_assoc]

theorem checkMembers_fingerprints {members} :
    ∀ {ids fps aliases : List String}, checkMembers ids fps aliases members = true →
      (members.map (·.fingerprint)).Nodup ∧
        ∀ f ∈ members.map (·.fingerprint), validFp f = true ∧ f ∉ fps := by
  induction members with
  | nil => simp
  | cons m rest ih =>
      intro ids fps aliases h
      simp only [checkMembers] at h
      split at h
      · exact absurd h Bool.false_ne_true
      next hHead =>
        obtain ⟨hNodup, hRest⟩ := ih h
        simp only [Bool.or_eq_true, not_or, Bool.not_eq_true, Bool.not_eq_false',
          contains_eq_mem, decide_eq_false_iff_not] at hHead
        have hFp : validFp m.fingerprint = true ∧ m.fingerprint ∉ fps := by tauto
        refine ⟨nodup_cons.mpr ⟨fun hm => (hRest _ hm).2 mem_cons_self, hNodup⟩, ?_⟩
        intro f hf
        rcases mem_cons.mp hf with rfl | hf
        · exact hFp
        · exact ⟨(hRest f hf).1, fun hSeen => (hRest f hf).2 (mem_cons_of_mem _ hSeen)⟩

theorem newline_notMem_of_validFp {f} (h : validFp f = true) : '\n' ∉ f.toList := by
  intro hMem
  simp only [validFp, Bool.and_eq_true, all_eq_true] at h
  have hByte : (10 : UInt8) ∈ textBytes f :=
    textBytes_eq_flatMap f ▸ mem_flatMap.mpr ⟨'\n', hMem, by decide⟩
  exact absurd (h.2 _ hByte) (by decide)

namespace EnrolledRoster

def roster (r : EnrolledRoster) : ClusterRoster := r.1

theorem fingerprints_nodup (r : EnrolledRoster) : r.roster.fingerprints.Nodup :=
  (checkMembers_fingerprints (ClusterRoster.check_eq_ok.mp r.2).2.1).1

theorem validFp_of_mem (r : EnrolledRoster) {f : String} (h : f ∈ r.roster.fingerprints) : validFp f = true :=
  ((checkMembers_fingerprints (ClusterRoster.check_eq_ok.mp r.2).2.1).2 f h).1

theorem exists_local (r : EnrolledRoster) : (r.roster.members.find? ClusterMember.isLocal).isSome = true := by
  have hOne := (ClusterRoster.check_eq_ok.mp r.2).2.2
  obtain ⟨m, hm⟩ := exists_mem_of_length_pos (by rw [hOne]; exact Nat.one_pos)
  obtain ⟨hMem, hLocal⟩ := mem_filter.mp hm
  exact List.find?_isSome.mpr ⟨m, hMem, hLocal⟩

def localMember (r : EnrolledRoster) : ClusterMember :=
  (r.roster.members.find? ClusterMember.isLocal).get r.exists_local

theorem members_length_pos (r : EnrolledRoster) : 0 < r.roster.members.length :=
  Nat.two_pos.trans_le (ClusterRoster.check_eq_ok.mp r.2).1.2.2.1

theorem splitOn_digestText (r : EnrolledRoster) : r.roster.digestText.toList.splitOn '\n' =
      (r.roster.fingerprints.insertionSort (textLe · ·)).map String.toList := by
  have hPerm := perm_insertionSort (textLe · ·) r.roster.fingerprints
  rw [ClusterRoster.digestText, String.toList_intercalate]
  refine splitOn_intercalate '\n' ?_ ?_
  · intro line hLine
    obtain ⟨f, hf, rfl⟩ := mem_map.mp hLine
    exact newline_notMem_of_validFp (r.validFp_of_mem (hPerm.mem_iff.mp hf))
  · intro hNil
    have hLength := congrArg List.length hNil
    rw [length_map, hPerm.length_eq, ClusterRoster.fingerprints, length_map] at hLength
    exact r.members_length_pos.ne' hLength

theorem fingerprints_perm_of_digestText_eq {r r' : EnrolledRoster}
    (h : r.roster.digestText = r'.roster.digestText) : r.roster.fingerprints.Perm r'.roster.fingerprints := by
  have hSorted : r.roster.fingerprints.insertionSort (textLe · ·) =
      r'.roster.fingerprints.insertionSort (textLe · ·) := by
    refine map_injective_iff.mpr (fun a b hab => String.toList_inj.mp hab) ?_
    rw [← splitOn_digestText, ← splitOn_digestText, h]
  have hPerm := (perm_insertionSort (textLe · ·) r.roster.fingerprints).symm
  rw [hSorted] at hPerm
  exact hPerm.trans (perm_insertionSort (textLe · ·) _)

end EnrolledRoster

/-! ## Store operations -/

variable (store : Store)

def configure (roster : ClusterRoster) (now : Int) : Except String Store := do
  roster.check
  refuseIf (now ≤ 0) "Invalid local election clock"
  refuseIf ((store.votes.lookup roster.group).any fun row => now < row.expiresAtMs)
    "Cannot reconfigure membership during an active election lease"
  return { store with
    rosters := store.rosters.insert roster.group roster
    leases := store.leases.erase roster.group
    votes := store.votes.erase roster.group }

def ClusterRoster.checked (r : ClusterRoster) : Except String EnrolledRoster :=
  match hCheck : r.check with
  | .ok () => .ok ⟨r, hCheck⟩
  | .error message => .error message

def roster (group : String) : Except String EnrolledRoster := do
  let result ← okOr (store.rosters.lookup group) "Cluster must be enrolled by the local operator"
  result.checked

def VoteRow.opposes (row : VoteRow) (req : VoteRequest) (now : Int) : Bool :=
  req.term < row.term || (req.term == row.term && row.candidate != req.candidateFingerprint) ||
    (row.term < req.term && now < row.expiresAtMs)

def vote (req : VoteRequest) (callerDeviceId : String) (now : Int) :
    Except String (VoteReceipt × Store) := do
  refuseIf (now ≤ 0 || req.term == 0 || maxElectionTerm < req.term ||
    !validFp req.candidateFingerprint) "Invalid election term, identity or clock"
  let registered ← roster store req.group
  refuseIf (registered.roster.digest sha != req.rosterSha256)
    "Cluster roster differs between nodes"
  refuseIf (!registered.roster.members.any fun m =>
      m.deviceId == callerDeviceId && m.fingerprint == req.candidateFingerprint)
    "Signed peer identity is not enrolled as this candidate"
  refuseIf ((store.votes.lookup req.group).any fun row => row.opposes req now)
    "Voter has a newer term or an overlapping lease for another candidate"
  let expires ← okOr (checkedAdd now leaseMs) "Lease timestamp overflow"
  return (
    { group := req.group
      term := req.term
      candidateFingerprint := req.candidateFingerprint
      voterFingerprint := registered.localMember.fingerprint
      rosterSha256 := req.rosterSha256
      expiresAtMs := expires
      decidedAtMs := now },
    { store with votes := store.votes.insert req.group ⟨req.term, req.candidateFingerprint, expires⟩ })

def nextTerm (group : String) : Except String Nat := do
  let next := ((store.votes.lookup group).map (·.term)).getD 0 + 1
  refuseIf (maxElectionTerm < next)
    "Election term exhausted; explicitly re-enroll the roster after lease expiry"
  return next

def VoteReceipt.stray (v : VoteReceipt) (req : VoteRequest) (now : Int) : Bool :=
  v.group != req.group || v.term != req.term ||
    v.candidateFingerprint != req.candidateFingerprint || v.rosterSha256 != req.rosterSha256 ||
    v.decidedAtMs < saturatingSub now 5000 || saturatingAdd now 5000 < v.decidedAtMs ||
    checkedSub v.expiresAtMs v.decidedAtMs != some leaseMs

/-- The compare-and-set statement of `persist_quorum`; `none` when no row changed. -/
def Store.installLease (group : String) (row : LeaseRow) (now : Int) : Option Store :=
  let backed := (store.votes.lookup group).any fun v =>
    v.term == row.term && v.candidate == row.leader && now < v.expiresAtMs
  let replaces := (store.leases.lookup group).all fun l =>
    l.term < row.term || (l.term == row.term && l.leader == row.leader)
  if backed && replaces then some { store with leases := store.leases.insert group row } else none

def persistQuorum (req : VoteRequest) (votes : List VoteReceipt) (now : Int) :
    Except String (Int × Store) := do
  let members ← roster store req.group
  let voters := (votes.map (·.voterFingerprint)).dedup
  refuseIf (now ≤ 0 || req.term == 0 || maxElectionTerm < req.term ||
      members.roster.digest sha != req.rosterSha256 ||
      req.candidateFingerprint != members.localMember.fingerprint ||
      voters.length ≤ members.roster.members.length / 2 || voters.length != votes.length ||
      !(voters.all fun v => members.roster.fingerprints.contains v) ||
      votes.any fun v => v.stray req now)
    "Signed peer replies did not establish a fresh strict majority"
  let expires ← okOr (checkedSub ((votes.map (·.expiresAtMs)).min?.getD 0) safetyMs)
    "Election lease timestamp underflow"
  refuseIf (expires ≤ now + 2000) "Quorum lease expired before it could be accepted"
  let updated ← okOr
    (store.installLease req.group ⟨req.term, req.candidateFingerprint, expires, votes⟩ now)
    "Quorum certificate is stale, nonlocal or not backed by the current durable voter term"
  return (expires, updated)

def maySchedule (group : String) (now : Int) : Except String Bool := do
  let registered ← roster store group
  return (store.leases.lookup group).any fun row =>
    row.leader == registered.localMember.fingerprint && now < row.expiresAtMs

def expireLeader (group : String) : Store :=
  { store with leases := store.leases.erase group }

/-! ## Campaigns

`campaign` holds no statement or lock across its network round, so it is two
store steps: `campaignStart` up to the first `await`, and `campaignFinish` on
the receipts gathered by `collectReplies`.  The finish runs with the clock
reading of the start. -/

structure Campaign where
  config : EnrolledRoster
  req : VoteRequest
  now : Int
  own : VoteReceipt
  deriving DecidableEq

def campaignStart (group : String) (term : Nat) (now : Int) : Except String Campaign × Store :=
  match roster store group with
  | .error message => (.error message, store)
  | .ok config =>
    if store.killSwitch then
      (.error "Global kill switch prevents local cluster election and renewal", expireLeader store group)
    else
      let req : VoteRequest := {
          group := group
          term := term
          candidateFingerprint := config.localMember.fingerprint
          rosterSha256 := config.roster.digest sha }
      match vote sha store req "@local" now with
      | .error message => (.error message, store)
      | .ok (own, voted) => (.ok ⟨config, req, now, own⟩, voted)

/-- The gathering loop: each answer comes with the fingerprint its connection
is pinned to, `none` when the call failed or did not parse. -/
def collectReplies (members : Nat) (receipts : List VoteReceipt) :
    List (String × Option VoteReceipt) → List VoteReceipt
  | [] => receipts
  | (expected, answer) :: rest =>
    if receipts.length ≤ members / 2 then
      match answer with
      | some reply =>
        if reply.voterFingerprint == expected then
          collectReplies members (receipts ++ [reply]) rest
        else collectReplies members receipts rest
      | none => collectReplies members receipts rest
    else receipts

def campaignFinish (campaign : Campaign) (receipts : List VoteReceipt) :
    Except String Int × Store :=
  match persistQuorum sha store campaign.req receipts campaign.now with
  | .ok (expires, updated) => (.ok expires, updated)
  | .error message => (.error message, expireLeader store campaign.req.group)

/-- The remote side of a ballot: `peer_swarm_vote` on an authenticated call. -/
def peerSwarmVote (callerDeviceId : String) (req : VoteRequest) (now : Int) :
    Except String (VoteReceipt × Store) := do
  refuseIf store.killSwitch "Global kill switch prevents new election votes"
  vote sha store req callerDeviceId now

/-- One pass of the lease worker over one group: the term it campaigns with. -/
def leaseWorkerTerm (group : String) (now : Int) : Option Nat :=
  match roster store group with
  | .error _ => none
  | .ok conf =>
    let isLeader := (maySchedule store group now).toOption.getD false
    let existing := ((store.leases.lookup group).map (·.expiresAtMs)).getD 0
    let voted := store.votes.lookup group
    let rank := (conf.roster.members.filter fun m =>
      !textLe conf.localMember.fingerprint m.fingerprint).length
    if isLeader && existing < now + 10000 then some ((voted.map (·.term)).getD 1)
    else if !isLeader && existing ≤ now &&
        (voted.map fun v => decide (v.expiresAtMs + rank * 4000 ≤ now)).getD true then
      some ((nextTerm store group).toOption.getD 1)
    else none

/-! ## Inversion lemmas -/

theorem ClusterRoster.checked_eq_ok {r} {e : EnrolledRoster} : r.checked = .ok e ↔ r = e.roster := by
  obtain ⟨e, he⟩ := e
  unfold ClusterRoster.checked EnrolledRoster.roster
  constructor
  · intro h
    split at h
    · exact congrArg Subtype.val (Except.ok.inj h)
    · cases h
  · rintro rfl
    split
    · rfl
    next hBad =>
      rw [he] at hBad
      cases hBad

theorem roster_eq_ok {store} {group : String} {r} :
    roster store group = .ok r ↔ store.rosters.lookup group = some r.roster := by
  simp [roster, ClusterRoster.checked_eq_ok]

/-- The row a voter holds does not stand against the request. -/
structure VoteRow.Permits (row : VoteRow) (req : VoteRequest) (now : Int) : Prop where
  notOlder : row.term ≤ req.term
  sameCandidate : req.term = row.term → req.candidateFingerprint = row.candidate
  expired : row.term < req.term → row.expiresAtMs ≤ now

theorem VoteRow.opposes_eq_false {row : VoteRow} {req now} :
    row.opposes req now = false ↔ row.Permits req now := by
  simp only [VoteRow.opposes, Bool.or_eq_false_iff, Bool.and_eq_false_imp, decide_eq_false_iff_not,
    beq_iff_eq, bne_eq_false_iff_eq, decide_eq_true_eq, not_lt]
  constructor
  · rintro ⟨⟨hOld, hSame⟩, hExpired⟩
    exact ⟨hOld, fun h => (hSame h).symm, hExpired⟩
  · rintro ⟨hOld, hSame, hExpired⟩
    exact ⟨⟨hOld, fun h => (hSame h).symm⟩, hExpired⟩

structure VoteGranted (req : VoteRequest) (now : Int) (receipt : VoteReceipt) (store' : Store) :
    Prop where
  permits : ∀ row, store.votes.lookup req.group = some row → row.Permits req now
  voter : ∃ r, roster store req.group = .ok r ∧ receipt.voterFingerprint = r.localMember.fingerprint
  receiptGroup : receipt.group = req.group
  receiptTerm : receipt.term = req.term
  receiptCandidate : receipt.candidateFingerprint = req.candidateFingerprint
  decided : receipt.decidedAtMs = now
  stored : store' = { store with
    votes := store.votes.insert req.group ⟨req.term, req.candidateFingerprint, now + leaseMs⟩ }

theorem voteGranted_of_vote {sha : Bytes → String} {store store' req caller now receipt}
    (h : vote sha store req caller now = .ok (receipt, store')) :
    VoteGranted store req now receipt store' := by
  simp only [vote, bind_eq_ok, refuseIf_eq_ok, okOr_eq_ok, pure_eq_ok] at h
  obtain ⟨-, -, r, hRoster, -, -, -, -, -, hPermits, expires, hExpires, rfl, rfl⟩ := h
  obtain rfl := eq_of_checkedAdd hExpires
  exact
    { permits := fun row hRow => VoteRow.opposes_eq_false.mp (by simpa [hRow] using hPermits)
      voter := ⟨r, hRoster, rfl⟩
      receiptGroup := rfl
      receiptTerm := rfl
      receiptCandidate := rfl
      decided := rfl
      stored := rfl }

/-- A receipt that counts towards the quorum of a request at `now`. -/
structure VoteReceipt.Counts (v : VoteReceipt) (req : VoteRequest) (now : Int) : Prop where
  group : v.group = req.group
  term : v.term = req.term
  candidate : v.candidateFingerprint = req.candidateFingerprint
  notAfter : v.decidedAtMs ≤ now + 5000
  lease : v.expiresAtMs = v.decidedAtMs + leaseMs

theorem VoteReceipt.counts_of_stray_eq_false {v : VoteReceipt} {req now}
    (hClock : 0 < now) (h : v.stray req now = false) : v.Counts req now := by
  simp only [VoteReceipt.stray, Bool.or_eq_false_iff, bne_eq_false_iff_eq, decide_eq_false_iff_not,
    not_lt] at h
  obtain ⟨⟨⟨⟨⟨⟨hGroup, hTerm⟩, hCandidate⟩, -⟩, -⟩, hHigh⟩, hLease⟩ := h
  have hSub := eq_of_checkedSub hLease
  exact
    { group := hGroup
      term := hTerm
      candidate := hCandidate
      notAfter := hHigh.trans (saturatingAdd_le (by unfold i64Min; omega) (by omega))
      lease := by omega }

structure QuorumPersisted (req : VoteRequest) (votes : List VoteReceipt) (now expires : Int)
    (store' : Store) : Prop where
  clock : 0 < now
  members : ∃ r, roster store req.group = .ok r ∧ req.candidateFingerprint = r.localMember.fingerprint ∧
    r.roster.members.length / 2 < votes.length ∧ ∀ v ∈ votes, v.voterFingerprint ∈ r.roster.fingerprints
  distinct : (votes.map (·.voterFingerprint)).Nodup
  stray : ∀ v ∈ votes, v.stray req now = false
  margin : ∀ v ∈ votes, expires + safetyMs ≤ v.expiresAtMs
  backed : ∃ v, store.votes.lookup req.group = some v ∧ v.term = req.term
  stored : store' = { store with
    leases := store.leases.insert req.group ⟨req.term, req.candidateFingerprint, expires, votes⟩ }

theorem Store.installLease_eq_some {store store' : Store} {group row now} (h : store.installLease group row now = some store') :
    (∃ v, store.votes.lookup group = some v ∧ v.term = row.term) ∧
      store' = { store with leases := store.leases.insert group row } := by
  simp only [Store.installLease, Option.ite_none_right_eq_some, Bool.and_eq_true, Option.some.injEq] at h
  obtain ⟨⟨hBacked, -⟩, rfl⟩ := h
  obtain ⟨v, hv, hRow⟩ := (Option.any_eq_true _ _).mp hBacked
  simp only [Bool.and_eq_true, beq_iff_eq, decide_eq_true_eq] at hRow
  exact ⟨⟨v, hv, hRow.1.1⟩, rfl⟩

theorem quorumPersisted_of_persistQuorum {sha : Bytes → String} {store store' req votes now expires}
    (h : persistQuorum sha store req votes now = .ok (expires, store')) :
    QuorumPersisted store req votes now expires store' := by
  simp only [persistQuorum, bind_eq_ok, refuseIf_eq_ok, okOr_eq_ok, pure_eq_ok, Prod.mk.injEq] at h
  obtain ⟨r, hRoster, -, hGuard, e, hExpires, -, -, installed, hInstall, rfl, rfl⟩ := h
  simp only [Bool.or_eq_false_iff, decide_eq_false_iff_not, beq_eq_false_iff_ne,
    bne_eq_false_iff_eq, not_le, not_lt, Bool.not_eq_false', all_eq_true,
    any_eq_false, Bool.not_eq_true, contains_eq_mem, decide_eq_true_eq] at hGuard
  obtain ⟨⟨⟨⟨⟨⟨⟨⟨hClock, -⟩, -⟩, -⟩, hCandidate⟩, hMajority⟩, hDistinct⟩, hSubset⟩,
    hStray⟩ := hGuard
  obtain ⟨hBacked, hStored⟩ := Store.installLease_eq_some hInstall
  have hNodup : (votes.map (·.voterFingerprint)).Nodup := by
    refine dedup_eq_self.mp ((dedup_sublist _).eq_of_length ?_)
    rw [hDistinct, length_map]
  refine
    { clock := hClock
      members := ⟨r, hRoster, hCandidate, hDistinct ▸ hMajority, fun v hv =>
        hSubset _ (mem_dedup.mpr (mem_map_of_mem hv))⟩
      distinct := hNodup
      stray := hStray
      margin := fun v hv => ?_
      backed := hBacked
      stored := hStored }
  have hMin : (votes.map (·.expiresAtMs)).min?.getD 0 ≤ v.expiresAtMs := by
    have hMem : v.expiresAtMs ∈ votes.map (·.expiresAtMs) := mem_map_of_mem hv
    cases hm : (votes.map (·.expiresAtMs)).min? with
    | none => rw [List.min?_eq_none_iff.mp hm] at hMem; cases hMem
    | some m => exact (List.min?_eq_some_iff.mp hm).2 _ hMem
  have := eq_of_checkedSub hExpires
  omega

theorem mem_collectReplies {members answers} : ∀ {receipts : List VoteReceipt} {v : VoteReceipt},
      v ∈ collectReplies members receipts answers →
        v ∈ receipts ∨ (v.voterFingerprint, some v) ∈ answers := by
  induction answers with
  | nil => exact .inl
  | cons answer rest ih =>
      intro receipts v h
      obtain ⟨expected, reply⟩ := answer
      unfold collectReplies at h
      split at h
      · cases reply with
        | none => exact (ih h).imp_right (mem_cons_of_mem _)
        | some reply =>
            simp only [beq_iff_eq] at h
            split at h
            next hExpected =>
              rcases ih h with hv | hv
              · rcases mem_append.mp hv with hv | hv
                · exact .inl hv
                · obtain rfl := mem_singleton.mp hv
                  exact .inr (hExpected ▸ mem_cons_self)
              · exact .inr (mem_cons_of_mem _ hv)
            · exact (ih h).imp_right (mem_cons_of_mem _)
      · exact .inl h

end LittleMonkey.Swarm.Cluster
