import LittleMonkey.Lib.Lists
import LittleMonkey.Lib.Primitives
import LittleMonkey.Lib.Transaction

/-! # Run leases

One row of `run_leases` per run says which daemon may drive it and until when.
A token is accepted as long as the row still is the one it was issued with, so
a lease outlives its expiry until another owner acquires the run.
-/

namespace LittleMonkey.Daemon.RunLease

open Primitives Transaction List AList

structure LeaseToken where
  (runId ownerId tokenSha256 : String)
  generation : Nat
  deriving DecidableEq

structure LeaseRow where
  (ownerId tokenSha256 : String)
  (generation acquiredAtMs heartbeatAtMs expiresAtMs : Nat)

def LeaseRow.checked (row : LeaseRow) : Bool :=
  row.tokenSha256.length == 64 && decide (0 < row.generation) && decide (0 < row.acquiredAtMs) &&
    decide (0 < row.heartbeatAtMs) && decide (row.heartbeatAtMs < row.expiresAtMs)

abbrev LeaseTable := Table String LeaseRow
abbrev Statement := Body String LeaseTable

def toI64 (value : Nat) : Except String Nat :=
  if (value : Int) ≤ i64Max then .ok value else .error "numeric value exceeds SQLite range"

def expiry (now dur : Nat) : Except String Nat :=
  if now + dur < 2 ^ 64 then .ok (now + dur) else .error "lease expiry overflow"

def heldByOther (current : Option LeaseRow) (ownerId : String) (now : Nat) : Except String Bool :=
  match current with
  | none => .ok false
  | some row => (toI64 now).map fun now => decide (now < row.expiresAtMs) && row.ownerId != ownerId

def nextGeneration (current : Option LeaseRow) : Except String Nat :=
  let generation := (current.map (·.generation)).getD 0 + 1
  if (generation : Int) ≤ i64Max then .ok generation else .error "lease generation overflow"

def putLease (runExists : Bool) (runId : String) (row : LeaseRow) : Statement Unit := do
  require (!row.checked) "CHECK constraint failed: run_leases"
  require (!runExists) "FOREIGN KEY constraint failed"
  write (·.insert runId row)

/-- `uuid` is the fresh token; `runExists` whether `runs` has the run. -/
def acquireBody (sha : Bytes → String) (runId ownerId : String) (now : Nat) (uuid : String)
    (runExists : Bool) (expiresAtMs : Nat) : Statement (Option LeaseToken) := do
  let current ← read (·.lookup runId)
  let held ← pureBody (heldByOther current ownerId now)
  if held then pure none
  else do
    let generation ← pureBody (nextGeneration current)
    let tokenSha256 := sha (textBytes uuid)
    let now ← pureBody (toI64 now)
    let expiresAtMs ← pureBody (toI64 expiresAtMs)
    putLease runExists runId ⟨ownerId, tokenSha256, generation, now, now, expiresAtMs⟩
    pure (some ⟨runId, ownerId, tokenSha256, generation⟩)

def acquireLease (sha : Bytes → String) (runId ownerId : String) (now dur : Nat)
    (uuid : String) (runExists : Bool) (leases : LeaseTable) :
    Except String (Option LeaseToken) × LeaseTable :=
  guarded (expiry now dur) (acquireBody sha runId ownerId now uuid runExists) leases

/-- `WHERE run_id=?1 AND owner_id=?2 AND lease_token_sha256=?3 AND generation=?4`. -/
def LeaseTable.rowOf (leases : LeaseTable) (lease : LeaseToken) : Option LeaseRow :=
  (leases.lookup lease.runId).filter fun row => row.ownerId == lease.ownerId &&
    row.tokenSha256 == lease.tokenSha256 && row.generation == lease.generation

def heartbeatBody (lease : LeaseToken) (now expiresAtMs : Nat) : Statement Bool := do
  let _ ← pureBody (toI64 lease.generation)
  let now ← pureBody (toI64 now)
  let expiresAtMs ← pureBody (toI64 expiresAtMs)
  let found ← read (LeaseTable.rowOf · lease)
  match found with
  | none => pure false
  | some row => do
    let row := { row with heartbeatAtMs := now, expiresAtMs := expiresAtMs }
    require (!row.checked) "CHECK constraint failed: run_leases"
    write (·.insert lease.runId row)
    pure true

def heartbeatLease (lease : LeaseToken) (now dur : Nat) (leases : LeaseTable) :
    Except String Bool × LeaseTable :=
  guarded (expiry now dur) (heartbeatBody lease now) leases

def releaseBody (lease : LeaseToken) (_ : Nat) : Statement Bool := do
  let found ← read (LeaseTable.rowOf · lease)
  if found.isSome then do
    write (·.erase lease.runId)
    pure true
  else pure false

def releaseLease (lease : LeaseToken) (leases : LeaseTable) : Except String Bool × LeaseTable :=
  guarded (toI64 lease.generation) (releaseBody lease) leases

/-! ## Histories -/

inductive LeaseCall
  | acquire (runId ownerId : String) (now dur : Nat) (uuid : String) (runExists : Bool)
  | heartbeat (lease : LeaseToken) (now dur : Nat)
  | release (lease : LeaseToken) (now : Nat)
  deriving DecidableEq

def LeaseCall.time : LeaseCall → Nat
  | .acquire _ _ now _ _ _ | .heartbeat _ now _ | .release _ now => now

inductive Reply
  | acquired (token : LeaseToken)
  | heldByOther
  | changed (yes : Bool)
  | refused (message : String)
  deriving DecidableEq

def Reply.ofAcquire : Except String (Option LeaseToken) → Reply
  | .ok (some token) => .acquired token
  | .ok none => .heldByOther
  | .error message => .refused message

def Reply.ofChange : Except String Bool → Reply
  | .ok yes => .changed yes
  | .error message => .refused message

def LeaseCall.perform (sha : Bytes → String) (leases : LeaseTable) :
    LeaseCall → Reply × LeaseTable
  | .acquire runId ownerId now dur uuid runExists =>
    let done := acquireLease sha runId ownerId now dur uuid runExists leases
    (.ofAcquire done.1, done.2)
  | .heartbeat lease now dur =>
    let done := heartbeatLease lease now dur leases
    (.ofChange done.1, done.2)
  | .release lease _ =>
    let done := releaseLease lease leases
    (.ofChange done.1, done.2)

def leasesAfter (sha : Bytes → String) (calls : List LeaseCall) (leases : LeaseTable) : LeaseTable :=
  calls.foldl (fun leases call => (call.perform sha leases).2) leases

def replies (sha : Bytes → String) : List LeaseCall → LeaseTable → List (LeaseCall × Reply)
  | [], _ => []
  | call :: calls, leases =>
    (call, (call.perform sha leases).1) :: replies sha calls (call.perform sha leases).2

section

variable {sha : Bytes → String} {leases : LeaseTable}
variable {leases' : LeaseTable} {lease : LeaseToken}

/-! ## What a call does -/

theorem toI64_ok {value column} (h : toI64 value = .ok column) : column = value := by
  unfold toI64 at h
  split at h
  · cases h
    rfl
  · cases h

theorem expiry_ok {now dur expiresAtMs} (h : expiry now dur = .ok expiresAtMs) : expiresAtMs = now + dur := by
  unfold expiry at h
  split at h
  · cases h
    rfl
  · cases h

/-- Everything a call can do to the table, with what it had checked. -/
inductive Effect (sha : Bytes → String) (leases : LeaseTable) : LeaseCall → Reply → LeaseTable → Prop
  | acquired {runId ownerId} {now dur} {uuid} {runExists}
      (generation : Nat)
      (free : ∀ row, leases.lookup runId = some row → row.ownerId = ownerId ∨ row.expiresAtMs ≤ now) :
      Effect sha leases (.acquire runId ownerId now dur uuid runExists)
        (.acquired ⟨runId, ownerId, sha (textBytes uuid), generation⟩)
        (leases.insert runId
          ⟨ownerId, sha (textBytes uuid), generation, now, now, now + dur⟩)
  | renewed {lease : LeaseToken} {now dur} {row}
      (found : leases.rowOf lease = some row) : Effect sha leases (.heartbeat lease now dur) (.changed true)
        (leases.insert lease.runId { row with heartbeatAtMs := now, expiresAtMs := now + dur })
  | released {lease : LeaseToken} {now} {row}
      (found : leases.rowOf lease = some row) :
      Effect sha leases (.release lease now) (.changed true) (leases.erase lease.runId)
  | idle {call} {reply} (hToken : ∀ token, reply ≠ .acquired token)
      (hChanged : reply ≠ .changed true) : Effect sha leases call reply leases

theorem heldByOther_eq_false {current ownerId now} (h : heldByOther current ownerId now = .ok false) :
    ∀ row, current = some row → row.ownerId = ownerId ∨ row.expiresAtMs ≤ now := by
  rintro row rfl
  unfold heldByOther at h
  cases hNow : toI64 now with
  | error message =>
    rw [hNow] at h
    cases h
  | ok column =>
    rw [hNow, toI64_ok hNow] at h
    simp only [Except.map, Except.ok.injEq, Bool.and_eq_false_iff, decide_eq_false_iff_not,
      Nat.not_lt, bne_eq_false_iff_eq] at h
    exact h.symm

theorem acquireBody_ok {runId ownerId now uuid runExists expiresAtMs token}
    (h : acquireBody sha runId ownerId now uuid runExists expiresAtMs leases = .ok token leases') :
    token = none ∧ leases' = leases ∨ ∃ generation,
      (∀ row, leases.lookup runId = some row → row.ownerId = ownerId ∨ row.expiresAtMs ≤ now) ∧
      token = some ⟨runId, ownerId, sha (textBytes uuid), generation⟩ ∧
      leases' = leases.insert runId
        ⟨ownerId, sha (textBytes uuid), generation, now, now, expiresAtMs⟩ := by
  simp only [acquireBody, bind_eq_done, read_eq_ok, pureBody_eq_ok] at h
  obtain ⟨_, _, ⟨rfl, rfl⟩, held, _, ⟨hHeld, rfl⟩, h⟩ := h
  cases held with
  | true =>
    rw [if_pos rfl, pure_eq_done] at h
    exact .inl ⟨h.1.symm, h.2.symm⟩
  | false =>
    simp only [Bool.false_eq_true, if_false, bind_eq_done, pureBody_eq_ok, putLease, require_eq_ok,
      write_eq_ok] at h
    obtain ⟨generation, _, ⟨_, rfl⟩, _, _, ⟨hNow, rfl⟩, _, _, ⟨hExpires, rfl⟩, _, _,
      ⟨_, _, ⟨_, rfl⟩, _, _, ⟨_, rfl⟩, rfl⟩, rfl, rfl⟩ := h
    rw [toI64_ok hNow, toI64_ok hExpires]
    exact .inr ⟨generation, heldByOther_eq_false hHeld, rfl, rfl⟩

theorem heartbeatBody_ok {now expiresAtMs yes}
    (h : heartbeatBody lease now expiresAtMs leases = .ok yes leases') :
    yes = false ∧ leases' = leases ∨ ∃ row, leases.rowOf lease = some row ∧ yes = true ∧
      leases' = leases.insert lease.runId
        { row with heartbeatAtMs := now, expiresAtMs := expiresAtMs } := by
  simp only [heartbeatBody, bind_eq_done, pureBody_eq_ok, read_eq_ok] at h
  obtain ⟨_, _, ⟨_, rfl⟩, _, _, ⟨hNow, rfl⟩, _, _, ⟨hExpires, rfl⟩, found, _, ⟨hFound, rfl⟩, h⟩ := h
  rw [toI64_ok hNow, toI64_ok hExpires] at h
  cases found with
  | none =>
    rw [pure_eq_done] at h
    exact .inl ⟨h.1.symm, h.2.symm⟩
  | some row =>
    simp only [bind_eq_done, require_eq_ok, write_eq_ok] at h
    obtain ⟨_, _, ⟨_, rfl⟩, _, _, rfl, rfl, rfl⟩ := h
    exact .inr ⟨row, hFound, rfl, rfl⟩

theorem releaseBody_ok {generation yes} (h : releaseBody lease generation leases = .ok yes leases') :
    yes = false ∧ leases' = leases ∨ ∃ row, leases.rowOf lease = some row ∧ yes = true ∧
      leases' = leases.erase lease.runId := by
  simp only [releaseBody, bind_eq_done, read_eq_ok] at h
  obtain ⟨found, _, ⟨hFound, rfl⟩, h⟩ := h
  cases found with
  | none =>
    simp only [Option.isSome_none, Bool.false_eq_true, if_false, pure_eq_done] at h
    exact .inl ⟨h.1.symm, h.2.symm⟩
  | some row =>
    obtain ⟨_, _, rfl, rfl, rfl⟩ := h
    exact .inr ⟨row, hFound, rfl, rfl⟩

theorem effect_acquire (runId ownerId : String) (now dur : Nat) (uuid : String) (runExists : Bool) :
    let call := LeaseCall.acquire runId ownerId now dur uuid runExists
    Effect sha leases call (call.perform sha leases).1 (call.perform sha leases).2 := by
  intro call
  change Effect sha leases call
    (.ofAcquire (acquireLease sha runId ownerId now dur uuid runExists leases).1)
    (acquireLease sha runId ownerId now dur uuid runExists leases).2
  cases hDone : (acquireLease sha runId ownerId now dur uuid runExists leases).1 with
  | error message =>
    rw [acquireLease, guarded_refused hDone]
    exact .idle nofun nofun
  | ok token =>
    obtain ⟨expiresAtMs, hExpiry, hBody⟩ := guarded_ok hDone
    rcases acquireBody_ok hBody with ⟨rfl, hSame⟩ | ⟨generation, hFree, rfl, hNext⟩
    · rw [acquireLease, hSame]
      exact .idle nofun nofun
    · rw [acquireLease, hNext, expiry_ok hExpiry]
      exact .acquired generation hFree

theorem effect_heartbeat (lease : LeaseToken) (now dur : Nat) : let call := LeaseCall.heartbeat lease now dur
    Effect sha leases call (call.perform sha leases).1 (call.perform sha leases).2 := by
  intro call
  change Effect sha leases call (.ofChange (heartbeatLease lease now dur leases).1)
    (heartbeatLease lease now dur leases).2
  cases hDone : (heartbeatLease lease now dur leases).1 with
  | error message =>
    rw [heartbeatLease, guarded_refused hDone]
    exact .idle nofun nofun
  | ok yes =>
    obtain ⟨expiresAtMs, hExpiry, hBody⟩ := guarded_ok hDone
    rcases heartbeatBody_ok hBody with ⟨rfl, hSame⟩ | ⟨row, hRow, rfl, hNext⟩
    · rw [heartbeatLease, hSame]
      exact .idle nofun nofun
    · rw [heartbeatLease, hNext, expiry_ok hExpiry]
      exact .renewed hRow

theorem effect_release (lease : LeaseToken) (now : Nat) : let call := LeaseCall.release lease now
    Effect sha leases call (call.perform sha leases).1 (call.perform sha leases).2 := by
  intro call
  change Effect sha leases call (.ofChange (releaseLease lease leases).1) (releaseLease lease leases).2
  cases hDone : (releaseLease lease leases).1 with
  | error message =>
    rw [releaseLease, guarded_refused hDone]
    exact .idle nofun nofun
  | ok yes =>
    obtain ⟨_, _, hBody⟩ := guarded_ok hDone
    rcases releaseBody_ok hBody with ⟨rfl, hSame⟩ | ⟨row, hRow, rfl, hNext⟩
    · rw [releaseLease, hSame]
      exact .idle nofun nofun
    · rw [releaseLease, hNext]
      exact .released hRow

theorem LeaseCall.effect (sha : Bytes → String) (leases : LeaseTable) (call : LeaseCall) :
    Effect sha leases call (call.perform sha leases).1 (call.perform sha leases).2 := by
  cases call with
  | acquire runId ownerId now dur uuid runExists =>
    exact effect_acquire runId ownerId now dur uuid runExists
  | heartbeat lease now dur => exact effect_heartbeat lease now dur
  | release lease now => exact effect_release lease now

theorem LeaseTable.rowOf_eq_some {row}
    (h : leases.rowOf lease = some row) : leases.lookup lease.runId = some row ∧
      row.ownerId = lease.ownerId ∧ row.tokenSha256 = lease.tokenSha256 ∧
      row.generation = lease.generation := by
  obtain ⟨hRow, hMatch⟩ := Option.filter_eq_some_iff.mp h
  simp only [Bool.and_eq_true, beq_iff_eq] at hMatch
  exact ⟨hRow, hMatch.1.1, hMatch.1.2, hMatch.2⟩

theorem LeaseTable.rowOf_unique {lease lease' row row'}
    (hRun : lease.runId = lease'.runId) (h : leases.rowOf lease = some row)
    (h' : leases.rowOf lease' = some row') : lease = lease' := by
  obtain ⟨hRow, hOwner, hToken, hGeneration⟩ := LeaseTable.rowOf_eq_some h
  obtain ⟨hRow', hOwner', hToken', hGeneration'⟩ := LeaseTable.rowOf_eq_some h'
  rw [hRun] at hRow
  cases lease
  simp_all

end

/-! ## Traces -/

section

variable {sha : Bytes → String} {leases : LeaseTable}
variable {leases' : LeaseTable} {entry : LeaseCall × Reply} {call : LeaseCall}

theorem map_fst_replies (calls : List LeaseCall) (leases : LeaseTable) :
    (replies sha calls leases).map Prod.fst = calls := by
  induction calls generalizing leases with
  | nil => rfl
  | cons call calls ih => exact congrArg (call :: ·) (ih _)

theorem replies_eq_append {calls before rest} (h : replies sha calls leases = before ++ rest) :
    calls = before.map Prod.fst ++ rest.map Prod.fst ∧ replies sha (before.map Prod.fst) leases = before ∧
      replies sha (rest.map Prod.fst) (leasesAfter sha (before.map Prod.fst) leases) = rest := by
  induction before generalizing calls leases with
  | nil =>
    rw [nil_append] at h
    have hCalls : calls = rest.map Prod.fst := by rw [← h, map_fst_replies]
    rw [hCalls] at h
    exact ⟨hCalls, rfl, h⟩
  | cons entry before ih =>
    cases calls with
    | nil => cases h
    | cons call calls =>
      obtain ⟨rfl, hRest⟩ := List.cons.inj h
      obtain ⟨rfl, hBefore, hLater⟩ := ih hRest
      exact ⟨rfl, congrArg (_ :: ·) hBefore, hLater⟩

theorem replies_cons {rest} (h : replies sha ((entry :: rest).map Prod.fst) leases = entry :: rest) :
    Effect sha leases entry.1 entry.2 (leasesAfter sha [entry.1] leases) ∧
      replies sha (rest.map Prod.fst) (leasesAfter sha [entry.1] leases) = rest := by
  obtain ⟨hEntry, hRest⟩ := List.cons.inj h
  refine ⟨?_, hRest⟩
  rw [show entry.2 = (entry.1.perform sha leases).1 from congrArg Prod.snd hEntry.symm]
  exact entry.1.effect sha leases

def holds : LeaseCall × Reply → Option (String × String × Nat)
  | (.acquire runId ownerId now dur _ _, .acquired _) => some (runId, ownerId, now + dur)
  | (.heartbeat lease now dur, .changed true) =>
    some (lease.runId, lease.ownerId, now + dur)
  | _ => none

def releases : LeaseCall × Reply → Option String
  | (.release lease _, .changed true) => some lease.runId
  | _ => none

def acquiredByOther (runId ownerId : String) : LeaseCall × Reply → Bool
  | (.acquire runId' ownerId' _ _ _ _, .acquired _) => runId' == runId && ownerId' != ownerId
  | _ => false

def Held (leases : LeaseTable) (runId ownerId : String) (ending : Nat) : Prop :=
  ∃ row, leases.lookup runId = some row ∧ row.ownerId = ownerId ∧ ending ≤ row.expiresAtMs

variable {runId ownerId : String} {ending : Nat}

/-- Why a held run may no longer be: the owner released it, or renewed it for
less, or the lease ended. -/
def Relinquished (runId ownerId : String) (ending : Nat) (entry : LeaseCall × Reply) : Prop :=
  releases entry = some runId ∨ (∃ sooner, holds entry = some (runId, ownerId, sooner) ∧ sooner < ending) ∨
    (acquiredByOther runId ownerId entry = true ∧ ending ≤ entry.1.time)

theorem Held.step {reply}
    (h : Held leases runId ownerId ending) (hEffect : Effect sha leases call reply leases') :
    Held leases' runId ownerId ending ∨ Relinquished runId ownerId ending (call, reply) := by
  obtain ⟨row, hRow, hOwner, hUntil⟩ := h
  cases hEffect with
  | acquired generation free =>
    rename_i runId' ownerId' now dur uuid runExists
    by_cases hRun : runId' = runId
    · subst hRun
      by_cases hSame : ownerId' = ownerId
      · subst hSame
        by_cases hEnd : ending ≤ now + dur
        · exact .inl ⟨_, lookup_insert _, rfl, hEnd⟩
        · exact .inr (.inr (.inl ⟨now + dur, rfl, Nat.lt_of_not_le hEnd⟩))
      · rcases free row hRow with hMine | hOver
        · exact absurd (hMine.symm.trans hOwner) hSame
        · refine .inr (.inr (.inr ⟨?_, Nat.le_trans hUntil hOver⟩))
          simp [acquiredByOther, hSame]
    · exact .inl ⟨row, (lookup_insert_ne (.symm hRun)).trans hRow, hOwner, hUntil⟩
  | renewed found =>
    rename_i lease now dur found'
    obtain ⟨hFound, hLeaseOwner, -, -⟩ := LeaseTable.rowOf_eq_some found
    by_cases hRun : lease.runId = runId
    · rw [hRun] at hFound
      cases hFound.symm.trans hRow
      by_cases hEnd : ending ≤ now + dur
      · refine .inl ⟨{ row with heartbeatAtMs := now, expiresAtMs := now + dur }, ?_, hOwner, hEnd⟩
        rw [hRun, lookup_insert]
      · refine .inr (.inr (.inl ⟨now + dur, ?_, Nat.lt_of_not_le hEnd⟩))
        rw [holds, hRun, ← hLeaseOwner, hOwner]
    · exact .inl ⟨row, (lookup_insert_ne (.symm hRun)).trans hRow, hOwner, hUntil⟩
  | released found =>
    rename_i lease now found'
    by_cases hRun : lease.runId = runId
    · exact .inr (.inl (congrArg some hRun))
    · exact .inl ⟨row, (lookup_erase_ne (.symm hRun)).trans hRow, hOwner, hUntil⟩
  | idle => exact .inl ⟨row, hRow, hOwner, hUntil⟩

theorem Held.run {entries} (hTrace : replies sha (entries.map Prod.fst) leases = entries)
    (h : Held leases runId ownerId ending) :
    Held (leasesAfter sha (entries.map Prod.fst) leases) runId ownerId ending ∨
      ∃ entry ∈ entries, Relinquished runId ownerId ending entry := by
  induction entries generalizing leases with
  | nil => exact .inl h
  | cons entry rest ih =>
    obtain ⟨hEffect, hRest⟩ := replies_cons hTrace
    rcases h.step hEffect with hNext | hGone
    · rcases ih hRest hNext with hLast | ⟨other, hOther, hGone⟩
      · exact .inl hLast
      · exact .inr ⟨other, mem_cons_of_mem _ hOther, hGone⟩
    · exact .inr ⟨entry, mem_cons_self, hGone⟩

theorem held_of_holds (hEffect : Effect sha leases entry.1 entry.2 leases')
    (h : holds entry = some (runId, ownerId, ending)) : Held leases' runId ownerId ending := by
  obtain ⟨call, reply⟩ := entry
  cases hEffect with
  | acquired generation free =>
    cases h
    exact ⟨_, lookup_insert _, rfl, le_rfl⟩
  | renewed found =>
    cases h
    obtain ⟨_, hOwner, -, -⟩ := LeaseTable.rowOf_eq_some found
    exact ⟨_, lookup_insert _, hOwner, le_rfl⟩
  | released found => cases h
  | idle hToken hChanged =>
    unfold holds at h
    split at h
    next hEntry =>
      exact absurd (congrArg Prod.snd hEntry) (hToken _)
    next hEntry =>
      exact absurd (congrArg Prod.snd hEntry) hChanged
    · cases h

theorem expired_of_acquiredByOther
    (h : Held leases runId ownerId ending) (hEffect : Effect sha leases entry.1 entry.2 leases')
    (hOther : acquiredByOther runId ownerId entry = true) : ending ≤ entry.1.time := by
  obtain ⟨call, reply⟩ := entry
  obtain ⟨row, hRow, hOwner, hEnding⟩ := h
  unfold acquiredByOther at hOther
  split at hOther
  next runId' ownerId' now dur uuid runExists token hEntry =>
    obtain ⟨rfl, rfl⟩ := Prod.mk.inj hEntry
    simp only [Bool.and_eq_true, beq_iff_eq, bne_iff_ne] at hOther
    cases hEffect with
    | acquired generation free =>
      rcases free row (hOther.1 ▸ hRow) with hMine | hOver
      · exact absurd (hMine.symm.trans hOwner) hOther.2
      · exact Nat.le_trans hEnding hOver
    | idle hToken hChanged => exact absurd rfl (hToken token)
  · cases hOther

/-! ## Superseded tokens -/

def digests (sha : Bytes → String) (calls : List LeaseCall) : List String :=
  calls.filterMap fun
    | .acquire _ _ _ _ uuid _ => some (sha (textBytes uuid))
    | _ => none

theorem Effect.token_mem {drawn reply} (hEffect : Effect sha leases call reply leases')
    (h : ∀ row, leases.lookup runId = some row → row.tokenSha256 ∈ drawn) :
    ∀ row, leases'.lookup runId = some row → row.tokenSha256 ∈ drawn ++ digests sha [call] := by
  intro row hRow
  cases hEffect with
  | acquired generation free =>
    obtain ⟨rfl, rfl⟩ | ⟨-, hRow⟩ := of_lookup_insert hRow
    · exact mem_append_right _ (by simp [digests])
    · exact mem_append_left _ (h row hRow)
  | renewed found =>
    rename_i lease now dur old
    obtain ⟨rfl, rfl⟩ | ⟨-, hRow⟩ := of_lookup_insert hRow
    · exact mem_append_left _ (h old (LeaseTable.rowOf_eq_some found).1)
    · exact mem_append_left _ (h row hRow)
  | released found =>
    rename_i lease now old
    by_cases hRun : runId = lease.runId
    · subst hRun
      rw [lookup_erase] at hRow
      cases hRow
    · rw [lookup_erase_ne hRun] at hRow
      exact mem_append_left _ (h row hRow)
  | idle => exact mem_append_left _ (h row hRow)

theorem digests_append (calls calls' : List LeaseCall) :
    digests sha (calls ++ calls') = digests sha calls ++ digests sha calls' :=
  filterMap_append

theorem token_mem_digests {drawn} (calls : List LeaseCall)
    (h : ∀ row, leases.lookup runId = some row → row.tokenSha256 ∈ drawn) :
    ∀ row, (leasesAfter sha calls leases).lookup runId = some row →
      row.tokenSha256 ∈ drawn ++ digests sha calls := by
  induction calls generalizing leases drawn with
  | nil =>
    intro row hRow
    exact mem_append_left _ (h row hRow)
  | cons call calls ih =>
    intro row hRow
    have hMem := ih ((call.effect sha leases).token_mem h) row hRow
    rw [← singleton_append, digests_append, ← append_assoc]
    exact hMem

theorem Effect.drawn {token} (h : Effect sha leases call (.acquired token) leases') :
    digests sha [call] = [token.tokenSha256] ∧ ∀ row, leases'.lookup token.runId = some row →
      row.tokenSha256 ∈ digests sha [call] := by
  cases h with
  | acquired generation free =>
    refine ⟨rfl, fun row hRow => ?_⟩
    rw [lookup_insert] at hRow
    cases hRow
    exact mem_singleton_self _
  | idle hToken hChanged => exact absurd rfl (hToken token)

theorem not_changed_of_notMem {lease} (hEffect : Effect sha leases entry.1 entry.2 leases')
    (hEntry : (∃ now dur, entry.1 = .heartbeat lease now dur) ∨ ∃ now, entry.1 = .release lease now)
    (h : ∀ row, leases.lookup lease.runId = some row → row.tokenSha256 ≠ lease.tokenSha256) :
    entry.2 ≠ .changed true := by
  obtain ⟨call, reply⟩ := entry
  rintro rfl
  rcases hEntry with ⟨now, dur, rfl⟩ | ⟨now, rfl⟩
  · cases hEffect with
    | renewed found =>
      obtain ⟨hRow, _, hToken, _⟩ := LeaseTable.rowOf_eq_some found
      exact h _ hRow hToken
    | idle hToken hChanged => exact hChanged rfl
  · cases hEffect with
    | released found =>
      obtain ⟨hRow, _, hToken, _⟩ := LeaseTable.rowOf_eq_some found
      exact h _ hRow hToken
    | idle hToken hChanged => exact hChanged rfl

end

/-! ## Exclusivity -/

structure Exclusive (sha : Bytes → String) (calls : List LeaseCall) : Prop where
  /-- At any time at most one token of a run can heartbeat. -/
  oneToken : ∀ lease lease' now dur now' dur', lease.runId = lease'.runId →
    (heartbeatLease lease now dur (leasesAfter sha calls ∅)).1 = .ok true →
    (heartbeatLease lease' now' dur' (leasesAfter sha calls ∅)).1 = .ok true → lease = lease'
  /-- Another owner gets the run once the lease has ended, unless the owner
  released it or renewed it for less. -/
  lease : ∀ before entry between other after runId ownerId ending,
    replies sha calls ∅ = before ++ entry :: (between ++ other :: after) →
    holds entry = some (runId, ownerId, ending) → acquiredByOther runId ownerId other = true →
    ending ≤ other.1.time ∨ (∃ e ∈ between, releases e = some runId) ∨
      ∃ e ∈ between, ∃ sooner, holds e = some (runId, ownerId, sooner) ∧ sooner < ending
  /-- A token is no good once another call acquired its run. -/
  superseded : ∀ before call token between call' token' after, replies sha calls ∅ =
      before ++ (call, .acquired token) :: (between ++ (call', .acquired token') :: after) →
    token'.runId = token.runId → ∀ entry ∈ after, ((∃ now dur, entry.1 = .heartbeat token now dur) ∨
        ∃ now, entry.1 = .release token now) → entry.2 ≠ .changed true

section

variable {sha : Bytes → String} {calls : List LeaseCall}

theorem rowOf_of_heartbeat {leases lease now dur} (h : (heartbeatLease lease now dur leases).1 = .ok true) :
    ∃ row, leases.rowOf lease = some row := by
  obtain ⟨_, _, hBody⟩ := guarded_ok h
  rcases heartbeatBody_ok hBody with ⟨hNo, _⟩ | ⟨row, hRow, _, _⟩
  · cases hNo
  · exact ⟨row, hRow⟩

theorem lease_respected (hClock : calls.Pairwise fun a b => a.time ≤ b.time)
    {before between after entry other runId ownerId ending}
    (h : replies sha calls ∅ = before ++ entry :: (between ++ other :: after))
    (hHolds : holds entry = some (runId, ownerId, ending))
    (hOther : acquiredByOther runId ownerId other = true) :
    ending ≤ other.1.time ∨ (∃ e ∈ between, releases e = some runId) ∨
      ∃ e ∈ between, ∃ sooner, holds e = some (runId, ownerId, sooner) ∧ sooner < ending := by
  obtain ⟨hCalls, _, hTrace⟩ := replies_eq_append h
  obtain ⟨hEntry, hRest⟩ := replies_cons hTrace
  obtain ⟨_, hBetween, hLast⟩ := replies_eq_append hRest
  obtain ⟨hOtherEffect, _⟩ := replies_cons hLast
  rcases (held_of_holds hEntry hHolds).run hBetween with hHeld | ⟨e, he, hGone⟩
  · exact .inl (expired_of_acquiredByOther hHeld hOtherEffect hOther)
  · rcases hGone with hReleased | ⟨sooner, hSooner, hLt⟩ | ⟨_, hEnded⟩
    · exact .inr (.inl ⟨e, he, hReleased⟩)
    · exact .inr (.inr ⟨e, he, sooner, hSooner, hLt⟩)
    · -- A third owner got the run first, and no earlier than its end.
      left
      have hOrder : e.1.time ≤ other.1.time := by
        rw [hCalls, pairwise_append, map_cons, pairwise_cons, map_append,
          pairwise_append] at hClock
        exact hClock.2.1.2.2.2 e.1 (mem_map_of_mem he) other.1 (by simp)
      exact Nat.le_trans hEnded hOrder

theorem superseded_refused (hFresh : (digests sha calls).Nodup) {before between after call call' token token'}
    (h : replies sha calls ∅ =
      before ++ (call, .acquired token) :: (between ++ (call', .acquired token') :: after))
    (hRun : token'.runId = token.runId) {entry} (hMem : entry ∈ after)
    (hEntry : (∃ now dur, entry.1 = .heartbeat token now dur) ∨
      ∃ now, entry.1 = .release token now) : entry.2 ≠ .changed true := by
  obtain ⟨hCalls, _, hTrace⟩ := replies_eq_append h
  obtain ⟨hFirst, hRest⟩ := replies_cons hTrace
  obtain ⟨_, _, hLast⟩ := replies_eq_append hRest
  obtain ⟨hSecond, hAfter⟩ := replies_cons hLast
  obtain ⟨earlier, later, rfl⟩ := append_of_mem hMem
  obtain ⟨_, _, hHere⟩ := replies_eq_append hAfter
  obtain ⟨hEffect, _⟩ := replies_cons hHere
  obtain ⟨hDrawn, _⟩ := hFirst.drawn
  obtain ⟨_, hRows⟩ := hSecond.drawn
  apply not_changed_of_notMem hEffect hEntry
  intro row hRow hSame
  have hSince := token_mem_digests (earlier.map Prod.fst) hRows row (hRun ▸ hRow)
  rw [hSame] at hSince
  -- The two places of the digest among those that were drawn.
  have hAll : digests sha calls = digests sha (before.map Prod.fst) ++ ([token.tokenSha256] ++
      (digests sha (between.map Prod.fst) ++ ((digests sha [call'] ++
        digests sha (earlier.map Prod.fst)) ++ digests sha ((entry :: later).map Prod.fst)))) := by
    rw [hCalls, ← hDrawn, ← digests_append, ← digests_append, ← digests_append, ← digests_append,
      ← digests_append]
    simp
  rw [hAll, nodup_append', nodup_append'] at hFresh
  apply hFresh.2.1.2.2 (mem_singleton_self _)
  exact mem_append_right _ (mem_append_left _ hSince)

end

theorem run_lease_exclusive {sha : Bytes → String} {calls : List LeaseCall}
    (hClock : calls.Pairwise fun a b => a.time ≤ b.time) (hFresh : (digests sha calls).Nodup) :
    Exclusive sha calls where
  oneToken lease lease' now dur now' dur' hRun h h' := by
    obtain ⟨row, hRow⟩ := rowOf_of_heartbeat h
    obtain ⟨row', hRow'⟩ := rowOf_of_heartbeat h'
    exact LeaseTable.rowOf_unique hRun hRow hRow'
  lease _ _ _ _ _ _ _ _ h hHolds hOther := lease_respected hClock h hHolds hOther
  superseded _ _ _ _ _ _ _ h hRun _ hMem hEntry := superseded_refused hFresh h hRun hMem hEntry

/-! ## Two daemons -/

namespace TwoDaemons

def firstUuid : String := "4f0c7f0e-0d6d-4e6a-9a53-2f5e0f6f1a01"
def secondUuid : String := "4f0c7f0e-0d6d-4e6a-9a53-2f5e0f6f1a02"
def firstDigest : String := "219b0aefd2fadcd8338f3f9f651129aa2bf354fa8c063cac151c0ae2261e4dbd"
def secondDigest : String := "eca426d17af3de58801796eca9d120ac0820caaea384d5e82d0ec68d772a4a21"

def sha (input : Bytes) : String :=
  if input == textBytes firstUuid then firstDigest
  else if input == textBytes secondUuid then secondDigest else ""

def first : LeaseToken := ⟨"run-one", "a", firstDigest, 1⟩

def handover : List LeaseCall :=
  [.acquire "run-one" "a" 10 100 firstUuid true, .acquire "run-one" "b" 111 100 secondUuid true,
    .heartbeat first 120 100]

def shortened : List LeaseCall :=
  [.acquire "run-one" "a" 10 100 firstUuid true, .heartbeat first 20 10,
    .acquire "run-one" "b" 40 100 secondUuid true]

end TwoDaemons

open TwoDaemons in
theorem run_lease_exclusive_handover : (replies TwoDaemons.sha handover ∅).map Prod.snd = [.acquired first,
      .acquired ⟨"run-one", "b", secondDigest, 2⟩, .changed false] ∧
      Exclusive TwoDaemons.sha handover := by
  refine ⟨?_, run_lease_exclusive ?_ ?_⟩
  · decide +kernel
  · simp [handover, LeaseCall.time]
  · decide +kernel

open TwoDaemons in
theorem run_lease_shortened :
    shortened.Pairwise (fun a b => a.time ≤ b.time) ∧ (digests TwoDaemons.sha shortened).Nodup ∧
      ∃ entry renewal other, replies TwoDaemons.sha shortened ∅ = [entry, renewal, other] ∧
        holds entry = some ("run-one", "a", 110) ∧ releases renewal = none ∧
        acquiredByOther "run-one" "a" other = true ∧ other.1.time = 40 := by
  refine ⟨?_, ?_, ?_⟩
  · simp [shortened, LeaseCall.time]
  · decide +kernel
  · refine ⟨(.acquire "run-one" "a" 10 100 firstUuid true, .acquired first),
      (.heartbeat first 20 10, .changed true), (.acquire "run-one" "b" 40 100 secondUuid true,
        .acquired ⟨"run-one", "b", secondDigest, 2⟩), ?_, rfl, rfl, rfl, rfl⟩
    decide +kernel

end LittleMonkey.Daemon.RunLease
