import LittleMonkey.Lib.Footprint
import LittleMonkey.Daemon.Deliveries

/-! # What the statements on deliveries do

One lemma per statement: the states it can leave, with what it found.
-/

namespace LittleMonkey.Daemon.Trigger

open Primitives Transaction Interleaving RunLease Option

section

variable {s s' : Stores} {key : Key}
variable {r : Except String Unit} {payloadSha256 : String} {now : Nat} {jobId : String}

theorem reserve_cases {nonce payload r} (h : (reserveDeliveryPayload key nonce payload now).run s = (r, s')) :
    (s' = s ∧ r = .ok false ∧ s.seen key nonce = true) ∨ (s' = s ∧ ∃ e, r = .error e) ∨
      (r = .ok true ∧ s.seen key nonce = false ∧
        s' = s.setPayload key ⟨nonce, payload, .reserved, now, none⟩) := by
  rcases commit_read_cases h with ⟨a, rfl, hBody⟩ | ⟨e, t, rfl, hBody, rfl⟩
  · split at hBody
    next hSeen =>
      obtain ⟨rfl, rfl⟩ := pure_eq_done.mp hBody
      exact .inl ⟨rfl, rfl, hSeen⟩
    next hSeen =>
      simp only [bind_eq_done, pureBody_eq_ok, require_eq_ok, write_eq_ok] at hBody
      obtain ⟨receivedAtMs, _, ⟨hAt, rfl⟩, _, _, ⟨-, rfl⟩, _, _, rfl, rfl, rfl⟩ := hBody
      rw [toI64_ok hAt]
      exact .inr (.inr ⟨rfl, by simpa using hSeen, rfl⟩)
  · exact .inr (.inl ⟨rfl, e, rfl⟩)

theorem activate_cases (h : (activateDeliveryPayload key).run s = (r, s')) :
    (∃ row, s.payloads.lookup key = some row ∧ row.status = .reserved ∧ r = .ok () ∧
        s' = s.setPayload key { row with status := .accepted }) ∨ (s' = s ∧ ∃ e, r = .error e) := by
  rcases commit_read_cases h with ⟨a, rfl, hBody⟩ | ⟨e, t, rfl, hBody, rfl⟩
  · cases hRow : (s.payloads.lookup key).filter (·.status == .reserved) with
    | some row =>
      simp only [hRow, write_eq_ok] at hBody
      obtain ⟨hFound, hReserved⟩ := filter_eq_some_iff.mp hRow
      exact .inl ⟨row, hFound, by simpa using hReserved, rfl, hBody.symm⟩
    | none => simp [hRow] at hBody
  · exact .inr ⟨rfl, e, rfl⟩

theorem discard_cases (h : (discardDeliveryPayload key).run s = (r, s')) :
    (∃ row, s.payloads.lookup key = some row ∧ (row.status = .reserved ∨ row.status = .accepted) ∧
        s' = s.setPayload key { row with status := .rejected }) ∨
      (s' = s ∧ ∀ row, s.payloads.lookup key = some row →
        row.status ≠ .reserved ∧ row.status ≠ .accepted) := by
  rcases commit_read_cases h with ⟨a, rfl, hBody⟩ | ⟨e, t, rfl, hBody, rfl⟩
  · cases hRow : (s.payloads.lookup key).filter
        (fun row => row.status == .reserved || row.status == .accepted) with
    | some row =>
      simp only [hRow, write_eq_ok] at hBody
      obtain ⟨hFound, hOpen⟩ := filter_eq_some_iff.mp hRow
      exact .inl ⟨row, hFound, by simpa using hOpen, hBody.symm⟩
    | none =>
      simp only [hRow, pure_eq_done] at hBody
      refine .inr ⟨hBody.2.symm, ?_⟩
      intro row hFound
      simpa using filter_eq_none_iff.mp hRow row hFound
  · cases hRow : (s'.payloads.lookup key).filter
        (fun row => row.status == .reserved || row.status == .accepted) with
    | some row => simp [hRow] at hBody
    | none => simp [hRow] at hBody

theorem submitPayload_cases {jobId r} (h : (submitPayload key jobId).run s = (r, s')) :
    (∃ row, s.payloads.lookup key = some row ∧ row.status = .accepted ∧ r = .ok true ∧
        s' = s.setPayload key { row with status := .submitted, jobId := jobId }) ∨
      (s' = s ∧ r = .ok false ∧ ∀ row, s.payloads.lookup key = some row → row.status ≠ .accepted) ∨
      (s' = s ∧ ∃ e, r = .error e) := by
  rcases commit_read_cases h with ⟨a, rfl, hBody⟩ | ⟨e, t, rfl, hBody, rfl⟩
  · cases hRow : (s.payloads.lookup key).filter (·.status == .accepted) with
    | none =>
      simp only [hRow] at hBody
      obtain ⟨rfl, rfl⟩ := hBody
      refine .inr (.inl ⟨rfl, rfl, ?_⟩)
      intro row hFound
      simpa using filter_eq_none_iff.mp hRow row hFound
    | some row =>
      obtain ⟨hFound, hAccepted⟩ := filter_eq_some_iff.mp hRow
      simp only [hRow, bind_eq_done, require_eq_ok, write_eq_ok] at hBody
      obtain ⟨_, _, ⟨rfl, rfl⟩, _, _, ⟨-, rfl⟩, _, _, hState, rfl, rfl⟩ := hBody
      exact .inl ⟨row, hFound, by simpa using hAccepted, rfl, hState.symm⟩
  · exact .inr (.inr ⟨rfl, e, rfl⟩)

theorem insertDelivery_ok {status u} (h : insertDelivery key payloadSha256 now status s = .ok u s') :
    s' = s.setDelivery key ⟨payloadSha256, now, status, none⟩ := by
  simp only [insertDelivery, bind_eq_done, pureBody_eq_ok, require_eq_ok, write_eq_ok] at h
  obtain ⟨receivedAtMs, _, ⟨hAt, rfl⟩, _, _, ⟨-, rfl⟩, _, _, ⟨rfl, rfl⟩, _, _, ⟨-, rfl⟩, rfl⟩ := h
  rw [toI64_ok hAt]

theorem acceptDelivery_cases {r} (h : (acceptDelivery key payloadSha256 now).run s = (r, s')) :
    (∃ row, s.deliveries.lookup key = some row ∧ s' = s ∧
        r = .ok (if row.payloadSha256 == payloadSha256 then .duplicate else .conflictingDuplicate)) ∨
      (s.deliveries.lookup key = none ∧ r = .ok .accepted ∧
        s' = s.setDelivery key ⟨payloadSha256, now, .accepted, none⟩) ∨
      (s.deliveries.lookup key = none ∧ s' = s ∧ ∃ e, r = .error e) := by
  rcases commit_read_cases h with ⟨a, rfl, hBody⟩ | ⟨e, t, rfl, hBody, rfl⟩
  · cases hRow : s.deliveries.lookup key with
    | some row =>
      simp only [hRow] at hBody
      obtain ⟨rfl, rfl⟩ := hBody
      exact .inl ⟨row, rfl, rfl, rfl⟩
    | none =>
      simp only [hRow, bind_eq_done] at hBody
      obtain ⟨_, _, hInsert, rfl, rfl⟩ := hBody
      exact .inr (.inl ⟨rfl, rfl, insertDelivery_ok hInsert⟩)
  · cases hRow : s'.deliveries.lookup key with
    | some row => simp [hRow] at hBody
    | none => exact .inr (.inr ⟨rfl, rfl, e, rfl⟩)

theorem rejectDelivery_cases (h : (rejectDelivery key payloadSha256 now).run s = (r, s')) :
    s' = s ∨ (s.deliveries.lookup key = none ∧
      s' = s.setDelivery key ⟨payloadSha256, now, .rejected, none⟩) := by
  rcases commit_read_cases h with ⟨a, rfl, hBody⟩ | ⟨e, t, rfl, hBody, rfl⟩
  · cases hRow : s.deliveries.lookup key with
    | some row =>
      simp only [hRow, pure_eq_done] at hBody
      exact .inl hBody.2.symm
    | none =>
      simp only [hRow] at hBody
      exact .inr ⟨rfl, insertDelivery_ok hBody⟩
  · exact .inl rfl

theorem submitDelivery_cases {runId r} (h : (submitDelivery key runId).run s = (r, s')) :
    (∃ row, s.deliveries.lookup key = some row ∧ row.status = .accepted ∧ r = .ok true ∧
        s' = s.setDelivery key { row with status := .submitted, runId := runId }) ∨
      (s' = s ∧ r = .ok false) := by
  rcases commit_read_cases h with ⟨a, rfl, hBody⟩ | ⟨e, t, rfl, hBody, rfl⟩
  · cases hRow : (s.deliveries.lookup key).filter (·.status == .accepted) with
    | none =>
      simp only [hRow] at hBody
      obtain ⟨rfl, rfl⟩ := hBody
      exact .inr ⟨rfl, rfl⟩
    | some row =>
      obtain ⟨hFound, hAccepted⟩ := filter_eq_some_iff.mp hRow
      simp only [hRow, bind_eq_done, write_eq_ok] at hBody
      obtain ⟨_, _, hState, rfl, rfl⟩ := hBody
      exact .inl ⟨row, hFound, by simpa using hAccepted, rfl, hState.symm⟩
  · cases hRow : (s'.deliveries.lookup key).filter (·.status == .accepted) with
    | none => simp [hRow] at hBody
    | some row =>
      simp only [hRow, bind_eq_failed, write_ne_failed, pure_ne_failed, and_false, exists_false,
        or_false] at hBody

theorem touchTrigger_cases {triggerId} (h : (touchTrigger triggerId now).run s = (r, s')) :
    s' = s ∨ ∃ row last, s.triggers.lookup triggerId = some row ∧
      s' = s.setTrigger triggerId { row with lastDeliveryAtMs := last } := by
  rcases commit_cases h with ⟨a, rfl, hBody⟩ | ⟨e, t, rfl, hBody, rfl⟩
  · simp only [bind_eq_done, pureBody_eq_ok] at hBody
    obtain ⟨_, _, ⟨-, rfl⟩, found, _, ⟨rfl, rfl⟩, hBody⟩ := hBody
    cases hRow : s.triggers.lookup triggerId with
    | none =>
      simp only [hRow, pure_eq_done] at hBody
      exact .inl hBody.2.symm
    | some row =>
      simp only [hRow, write_eq_ok] at hBody
      exact .inr ⟨row, _, rfl, hBody.symm⟩
  · exact .inl rfl

theorem insertPreparing_cases {maxQueue} (h : (insertPreparing key jobId maxQueue).run s = (r, s')) :
    s' = s ∨ ∃ jobs, s' = { s with jobs := jobs, enqueued := s.enqueued ++ [(key, jobId)] } := by
  rcases commit_cases h with ⟨a, rfl, hBody⟩ | ⟨e, t, rfl, hBody, rfl⟩
  · simp only [bind_eq_done, require_eq_ok, write_eq_ok] at hBody
    obtain ⟨_, _, ⟨rfl, rfl⟩, _, _, ⟨-, rfl⟩, _, _, ⟨-, rfl⟩, hState⟩ := hBody
    exact .inr ⟨_, hState.symm⟩
  · exact .inl rfl

theorem markQueued_cases {jobId runId}
    (h : (markQueued jobId runId).run s = (r, s')) : ∃ jobs, s' = { s with jobs := jobs } := by
  rcases commit_read_cases h with ⟨a, rfl, hBody⟩ | ⟨e, t, rfl, hBody, rfl⟩
  · cases hRow : (s.jobs.lookup jobId).filter (·.state == .preparing) with
    | none => simp [hRow] at hBody
    | some row =>
      simp only [hRow, write_eq_ok] at hBody
      exact ⟨_, hBody.symm⟩
  · exact ⟨s'.jobs, rfl⟩

theorem markFailed_cases (h : (markFailed jobId).run s = (r, s')) : ∃ jobs, s' = { s with jobs := jobs } := by
  rcases commit_read_cases h with ⟨a, rfl, hBody⟩ | ⟨e, t, rfl, hBody, rfl⟩
  · cases hRow : s.jobs.lookup jobId with
    | none => simp [hRow] at hBody
    | some row =>
      simp only [hRow, write_eq_ok] at hBody
      exact ⟨_, hBody.symm⟩
  · exact ⟨s'.jobs, rfl⟩

theorem deleteTerminalJob_cases
    (h : (deleteTerminalJob jobId).run s = (r, s')) : s' = s ∨ s' = s.eraseJob jobId := by
  simp only [deleteTerminalJob, Prog.run_write, Prod.mk.injEq] at h
  obtain ⟨-, hState⟩ := h
  split at hState
  · exact .inr hState.symm
  · exact .inl hState.symm

end

/-! ## Dispatch -/

/-- The statements that dispatch the delivery `key`; of the ledger they read its row only. -/
inductive Dispatching (sha : Bytes → Bytes) (key : Key) : (γ : Type) → Flow γ → Prop
  | look {γ : Type} (g : Stores → γ) (h : ∀ s t : Stores, s.triggers = t.triggers → s.payloads = t.payloads →
      s.jobs = t.jobs → s.deliveries.lookup key = t.deliveries.lookup key → g s = g t) :
      Dispatching sha key γ (.read g)
  | submitPayload (jobId : Option String) : Dispatching sha key Bool (submitPayload key jobId)
  | submitDelivery (runId : Option String) : Dispatching sha key Bool (submitDelivery key runId)
  | touchTrigger (triggerId : String) (now : Nat) : Dispatching sha key Unit (touchTrigger triggerId now)
  | insertPreparing (maxQueue : Nat) :
      Dispatching sha key Unit (insertPreparing key (deterministicJobId sha key) maxQueue)
  | markQueued (jobId runId : String) : Dispatching sha key Unit (markQueued jobId runId)
  | markFailed (jobId : String) : Dispatching sha key Unit (markFailed jobId)
  | deleteTerminalJob (jobId : String) : Dispatching sha key Unit (deleteTerminalJob jobId)

abbrev Dispatched {α : Type} (sha : Bytes → Bytes) (key : Key) (p : Flow α) : Prop :=
  p.Built (Dispatching sha key)

section

variable {sha : Bytes → Bytes} {key : Key}

theorem dispatched_markSubmittedAs (runId : Option String) (now : Nat) :
    Dispatched sha key (markSubmittedAs key runId now) := by
  apply Prog.Built.bind (.part (.submitDelivery runId))
  intro changed
  split
  · exact .part (.touchTrigger _ _)
  · apply Prog.Built.bind (.part (.look _ fun s t _ _ _ h => h))
    intro existing
    split
    · exact .part (.touchTrigger _ _)
    · exact .done _

theorem dispatched_markPayloadSubmitted (jobId : String) : Dispatched sha key (markPayloadSubmitted key jobId) :=
  .bind (.part (.submitPayload _)) fun _ => .done _

theorem dispatched_markPayloadSubmittedExternal : Dispatched sha key (markPayloadSubmittedExternal key) := by
  apply Prog.Built.bind (.part (.submitPayload none))
  intro changed
  split
  · exact .done _
  · apply Prog.Built.bind (.part (.look _ fun s t _ h _ _ => by rw [h]))
    intro existing
    split
    · exact .done _
    · exact .done _

theorem dispatched_enqueueNew (out : Surroundings) :
    Dispatched sha key (enqueueNew out key (deterministicJobId sha key)) := by
  apply Prog.Built.bind (.done _)
  intro _
  apply Prog.Built.bind (.part (.insertPreparing _))
  intro _
  split
  · exact .bind (.part (.markFailed _)) fun _ => .done _
  · apply Prog.Built.bind (.part (.markQueued _ _))
    exact fun _ => .bind (.done _) fun _ => .done _

theorem dispatched_enqueue (out : Surroundings) : Dispatched sha key (enqueue sha out key) := by
  apply Prog.Built.bind (.done _)
  intro _
  apply Prog.Built.bind (.part (.look _ fun s t _ _ h _ => by rw [h]))
  intro existing
  split
  · exact .done _
  · split
    · exact .bind (.part (.deleteTerminalJob _)) fun _ => dispatched_enqueueNew out
    · exact .done _
  · exact dispatched_enqueueNew out

theorem dispatched_dispatchExternal (what missing : String) (out : Surroundings) :
    Dispatched sha key (dispatchExternal what missing out key) := by
  apply Prog.Built.bind (.part (.look _ fun s t _ _ _ h => h))
  intro found
  split
  · exact .done _
  · split
    · exact dispatched_markPayloadSubmittedExternal
    · split
      · apply Prog.Built.bind (.done _)
        intro _
        exact .bind (dispatched_markSubmittedAs _ _) fun _ => dispatched_markPayloadSubmittedExternal
      · exact .done _

theorem dispatched_dispatchRecipeDelivery (out : Surroundings) (config : TriggerConfig) :
    Dispatched sha key (dispatchRecipeDelivery sha out config key) := by
  apply Prog.Built.bind (.done _)
  intro _
  apply Prog.Built.bind (dispatched_enqueue out)
  intro runId
  exact .bind (dispatched_markSubmittedAs _ _) fun _ => dispatched_markPayloadSubmitted _

theorem dispatched_processOnePendingDelivery (out : Surroundings) :
    Dispatched sha key (processOnePendingDelivery sha out key) := by
  apply Prog.Built.bind (.part (.look _ fun s t h _ _ _ => by rw [h]))
  intro stored
  split
  · exact .done _
  · apply Prog.Built.bind (.done _)
    intro config
    apply Prog.Built.bind (.done _)
    intro _
    split
    · exact dispatched_dispatchExternal _ _ _
    · split
      · exact dispatched_dispatchExternal _ _ _
      · exact dispatched_dispatchRecipeDelivery _ _

end

/-! ## A delivery that is new -/

section

variable {s : Stores} {key : Key} {now : Nat}

def Storable (now : Nat) : Prop := 0 < now ∧ (now : Int) ≤ i64Max

theorem Stores.seen_eq_false {nonce} (h : ∀ k row, s.payloads.lookup k = some row → k.1 = key.1 →
      k.2 ≠ key.2 ∧ (nonce.isSome = true → row.nonce ≠ nonce)) : s.seen key nonce = false := by
  rw [Stores.seen, List.any_eq_false]
  rintro ⟨k, row⟩ hEntry hSeen
  simp only [Bool.and_eq_true, Bool.or_eq_true, beq_iff_eq] at hSeen
  obtain ⟨hTrigger, hSame⟩ := hSeen
  obtain ⟨hId, hNonce⟩ := h k row (AList.mem_lookup_iff.mpr hEntry) hTrigger
  rcases hSame with hSame | ⟨hSome, hSame⟩
  · exact hId hSame
  · exact hNonce hSome hSame

theorem Storable.toI64 (h : Storable now) : toI64 now = .ok now := if_pos h.2

theorem Storable.ne_zero (h : Storable now) : (now == 0) = false :=
  beq_eq_false_iff_ne.mpr (Nat.ne_of_gt h.1)

theorem reserve_fresh {nonce payload} (hSeen : s.seen key nonce = false) (hNow : Storable now) :
    (reserveDeliveryPayload key nonce payload now).run s =
      (.ok true, s.setPayload key ⟨nonce, payload, .reserved, now, none⟩) := by
  apply commit_of_ok
  simp only [bind_eq_done, read_eq_ok]
  refine ⟨_, _, ⟨rfl, rfl⟩, ?_⟩
  simp only [hSeen, Bool.false_eq_true, if_false, bind_eq_done, pureBody_eq_ok, require_eq_ok, pure_eq_done]
  exact ⟨now, s, ⟨hNow.toI64, rfl⟩, (), s, ⟨hNow.ne_zero, rfl⟩, (), _, rfl, trivial, rfl⟩

theorem acceptDelivery_fresh {payloadSha256} (hNone : s.deliveries.lookup key = none)
    (hKnown : (s.triggers.lookup key.1).isSome = true) (hNow : Storable now)
    (hLength : payloadSha256.length = 64) : (acceptDelivery key payloadSha256 now).run s =
      (.ok .accepted, s.setDelivery key ⟨payloadSha256, now, .accepted, none⟩) := by
  apply commit_of_ok
  simp only [bind_eq_done, read_eq_ok]
  refine ⟨_, _, ⟨rfl, rfl⟩, ?_⟩
  simp only [hNone, insertDelivery, bind_eq_done, pureBody_eq_ok, require_eq_ok, read_eq_ok, pure_eq_done]
  refine ⟨(), _, ⟨now, s, ⟨hNow.toI64, rfl⟩, (), s, ⟨?_, rfl⟩, _, s, ⟨rfl, rfl⟩, (), s, ⟨?_, rfl⟩, rfl⟩,
    trivial, rfl⟩
  · simp [hLength, hNow.ne_zero]
  · simpa using hKnown

theorem activate_reserved {row} (hRow : s.payloads.lookup key = some row) (hStatus : row.status = .reserved) :
    (activateDeliveryPayload key).run s = (.ok (), s.setPayload key { row with status := .accepted }) := by
  apply commit_of_ok
  simp only [bind_eq_done, read_eq_ok]
  refine ⟨_, _, ⟨rfl, rfl⟩, ?_⟩
  rw [hRow, filter_some, if_pos (by rw [hStatus]; rfl)]
  rfl

end

end LittleMonkey.Daemon.Trigger
