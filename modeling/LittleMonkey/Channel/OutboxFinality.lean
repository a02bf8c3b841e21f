import LittleMonkey.Lib.Interleaving
import LittleMonkey.Channel.Outbox

/-! # What the outbox has decided

A row that a drain holds is in `sending` until that drain completes it, as long as
nothing parks the rows of a drain in progress.  Then no completion ever finds a row
that has been decided, and no message that may have reached its provider is claimed
again.
-/

namespace LittleMonkey.Channel

open Primitives Transaction List Option

/-! ## The states of the rows -/

def Outbox.stateOf (outbox : Outbox) (outboxId : String) : Option OutboxState :=
  (outbox.lookup outboxId).map (·.state)

/-- Some of the rows that match take the state; every other row keeps its own. -/
def Shifts (found : String → OutboxState → Prop) (state : OutboxState) (before after : Outbox) : Prop :=
  ∀ id, after.stateOf id = before.stateOf id ∨
    ∃ old, before.stateOf id = some old ∧ found id old ∧ after.stateOf id = some state

theorem Shifts.refl (found : String → OutboxState → Prop) (state : OutboxState) (outbox : Outbox) :
    Shifts found state outbox outbox := fun _ => .inl rfl

theorem Shifts.same {found : String → OutboxState → Prop} {state before after} (h : Shifts found state before after) {id}
    (hNot : ∀ old, before.stateOf id = some old → ¬ found id old) : after.stateOf id = before.stateOf id := by
  rcases h id with hSame | ⟨old, hOld, hFound, -⟩
  · exact hSame
  · exact absurd hFound (hNot old hOld)

theorem shifts_updateRows {found set}
    {P : String → OutboxState → Prop} {state} (hSet : ∀ row, (set row).state = state)
    (hFound : ∀ id row, found id row = true → P id row.state) (outbox : Outbox) :
    Shifts P state outbox (updateRows found set outbox) := by
  intro id
  unfold Outbox.stateOf
  rw [lookup_updateRows]
  cases hRow : outbox.lookup id with
  | none => exact .inl rfl
  | some row =>
    cases hMatch : found id row with
    | false => exact .inl (by simp [hMatch])
    | true => exact .inr ⟨row.state, rfl, hFound id row hMatch, by simp [hMatch, hSet]⟩

theorem updateOutbox_ok {nowMs found set outbox outbox' changed}
    (h : updateOutbox nowMs found set outbox = .ok changed outbox') :
    outbox' = updateRows found (fun row => { set row with updatedAtMs := nowMs }) outbox := by
  simp only [updateOutbox, checkTime, bind_eq_done, read_eq_ok, require_eq_ok, write_eq_ok] at h
  obtain ⟨_, _, ⟨-, rfl⟩, _, _, ⟨-, rfl⟩, _, _, rfl, -, rfl⟩ := h
  rfl

theorem shifts_updateOutbox {nowMs found set outbox outbox' changed} {P : String → OutboxState → Prop} {state}
    (h : updateOutbox nowMs found set outbox = .ok changed outbox') (hSet : ∀ row, (set row).state = state)
    (hFound : ∀ id row, found id row = true → P id row.state) : Shifts P state outbox outbox' := by
  rw [updateOutbox_ok h]
  apply shifts_updateRows _ hFound
  intro row
  exact hSet row

theorem shifts_commit {α : Type} {statement : Statement α} {P : String → OutboxState → Prop} {state outbox}
    (h : ∀ a outbox', statement outbox = .ok a outbox' → Shifts P state outbox outbox') :
    Shifts P state outbox (commit statement outbox).2 :=
  commit_state (.refl P state outbox) h

theorem shifts_finishOutbox {outboxId : String} {nowMs set state} (hSet : ∀ row, (set row).state = state) (outbox : Outbox) :
    Shifts (fun id _ => id = outboxId) state outbox (commit (finishOutbox outboxId nowMs set) outbox).2 := by
  apply shifts_commit
  intro a outbox' h
  simp only [finishOutbox, bind_eq_done, require_eq_ok] at h
  obtain ⟨changed, _, hUpdate, -, rfl⟩ := h
  exact shifts_updateOutbox hUpdate hSet fun id row hId => of_decide_eq_true hId

theorem shifts_completeSent (outboxId : String) (providerMessageId : Option String) (nowMs : Int)
    (outbox : Outbox) : Shifts (fun id _ => id = outboxId) .sent outbox
      (commit (completeSent outboxId providerMessageId nowMs) outbox).2 := by
  apply shifts_finishOutbox
  intro row
  rfl

theorem shifts_ended (outboxId : String) (nowMs : Int) (state : OutboxState) (error : String)
    (outbox : Outbox) : Shifts (fun id _ => id = outboxId) state outbox
      (commit (finishOutbox outboxId nowMs (·.ended state error)) outbox).2 := by
  apply shifts_finishOutbox
  intro row
  rfl

theorem shifts_completeRetryable (outboxId error : String) (retryAfterMs : Option Int)
    (attempt maxAttempts : Nat) (nowMs : Int) (outbox : Outbox) :
    ∃ state, Shifts (fun id _ => id = outboxId) state outbox
      (commit (completeRetryable outboxId error retryAfterMs attempt maxAttempts nowMs) outbox).2 := by
  by_cases hSpent : maxAttempts ≤ attempt
  · refine ⟨.failed, shifts_commit fun a outbox' h => ?_⟩
    simp only [completeRetryable, if_pos hSpent, bind_eq_done] at h
    obtain ⟨changed, _, hUpdate, -, rfl⟩ := h
    exact shifts_updateOutbox hUpdate (fun _ => rfl) fun id row hId => of_decide_eq_true hId
  · refine ⟨.queued, shifts_commit fun a outbox' h => ?_⟩
    simp only [completeRetryable, if_neg hSpent, bind_eq_done] at h
    obtain ⟨changed, _, hUpdate, -, rfl⟩ := h
    exact shifts_updateOutbox hUpdate (fun _ => rfl) fun id row hId => of_decide_eq_true hId

theorem shifts_releaseOutboxClaim (outboxId : String) (delayMs nowMs : Int) (outbox : Outbox) :
    Shifts (fun id _ => id = outboxId) .queued outbox
      (commit (releaseOutboxClaim outboxId delayMs nowMs) outbox).2 := by
  apply shifts_commit
  intro a outbox' h
  simp only [releaseOutboxClaim, bind_eq_done, require_eq_ok] at h
  obtain ⟨changed, _, hUpdate, -, rfl⟩ := h
  apply shifts_updateOutbox hUpdate (fun _ => rfl)
  intro id row hFound
  rw [Bool.and_eq_true] at hFound
  exact of_decide_eq_true hFound.1

theorem shifts_cancelOutboxMessage (outboxId : String) (nowMs : Int) (outbox : Outbox) :
    Shifts (fun _ old => old = .queued) .cancelled outbox
      (commit (cancelOutboxMessage outboxId nowMs) outbox).2 := by
  apply shifts_commit
  intro a outbox' h
  simp only [cancelOutboxMessage, bind_eq_done] at h
  obtain ⟨changed, _, hUpdate, -, rfl⟩ := h
  apply shifts_updateOutbox hUpdate (fun _ => rfl)
  intro id row hFound
  rw [Bool.and_eq_true] at hFound
  exact of_decide_eq_true hFound.2

theorem shifts_requeueStuckSending (nowMs : Int) (outbox : Outbox) :
    Shifts (fun _ old => old = .sending) .needsReconciliation outbox
      (commit (requeueStuckSending nowMs) outbox).2 := by
  apply shifts_commit
  intro changed outbox' h
  exact shifts_updateOutbox h (fun _ => rfl) fun id row hFound => of_decide_eq_true hFound

theorem commit_selectAttempts (outboxId : String) (outbox : Outbox) :
    (commit (selectAttempts outboxId) outbox).2 = outbox := by
  apply commit_state (P := (· = outbox)) rfl
  intro a outbox' hOk
  simp only [selectAttempts, bind_eq_done, read_eq_ok] at hOk
  obtain ⟨found, _, ⟨-, rfl⟩, hOk⟩ := hOk
  cases found with
  | none => simp at hOk
  | some row => exact (pure_eq_done.mp hOk).2.symm

theorem stateOf_insertOutboxMessage (outboxId : String) (message : NewOutboxMessage)
    (outbox : Outbox) (id : String) (hTaken : outbox.stateOf id ≠ none) :
    (commit (insertOutboxMessage outboxId message) outbox).2.stateOf id = outbox.stateOf id := by
  apply commit_state (P := fun outbox' : Outbox => outbox'.stateOf id = outbox.stateOf id) rfl
  intro a outbox' hOk
  rcases insertOutboxMessage_ok hOk with rfl | ⟨hFree, rfl⟩
  · rfl
  · have hId : id ≠ outboxId := by
      rintro rfl
      rw [Outbox.stateOf, hFree] at hTaken
      exact hTaken rfl
    rw [Outbox.stateOf, AList.lookup_insert_ne hId]
    rfl

/-! ### Claims -/

theorem stateOf_of_mem_ready {nowMs limit} {outbox : Outbox} {id}
    (h : id ∈ outbox.ready nowMs limit) : outbox.stateOf id = some .queued := by
  obtain ⟨entry, hEntry, rfl⟩ := mem_map.mp h
  have hSorted := (perm_insertionSort _ _).mem_iff.mp (mem_of_mem_take hEntry)
  obtain ⟨hRow, hDue⟩ := mem_filter.mp hSorted
  rw [Bool.and_eq_true] at hDue
  rw [Outbox.stateOf, AList.mem_lookup_iff.mpr hRow, map_some, of_decide_eq_true hDue.1]

theorem ready_nodup (nowMs : Int) (limit : Nat) (outbox : Outbox) : (outbox.ready nowMs limit).Nodup := by
  unfold Outbox.ready
  rw [map_take]
  apply List.Nodup.sublist (take_sublist _ _)
  rw [((perm_insertionSort _ _).map _).nodup_iff]
  exact List.NodupKeys.sublist filter_sublist outbox.nodupKeys

theorem map_fst_filterMap_sublist {α β : Type} (g : α → Option β) (xs : List α) :
    ((xs.filterMap fun a => (g a).map (a, ·)).map (·.1)).Sublist xs := by
  induction xs with
  | nil => exact .slnil
  | cons a xs ih =>
    rw [filterMap_cons]
    cases g a with
    | none => exact ih.cons a
    | some b => exact ih.cons_cons a

theorem claimOutboxBatch_ok {nowMs limit} {outbox outbox' : Outbox} {rows}
    (h : claimOutboxBatch nowMs limit outbox = .ok rows outbox') :
    (rows.map (·.1)).Sublist (outbox.ready nowMs limit) ∧
      Shifts (fun id _ => id ∈ outbox.ready nowMs limit) .sending outbox outbox' ∧
      ∀ id ∈ outbox.ready nowMs limit, outbox'.stateOf id = some .sending := by
  simp only [claimOutboxBatch, bind_eq_done, read_eq_ok] at h
  obtain ⟨ids, _, ⟨hIds, rfl⟩, _, _, hUpdate, hRows, rfl⟩ := h
  rw [hIds]
  refine ⟨?_, shifts_updateOutbox hUpdate (fun _ => rfl) fun id row hId => ?_, fun id hId => ?_⟩
  · rw [← hRows]
    exact map_fst_filterMap_sublist _ ids
  · exact contains_iff_mem.mp hId
  · rw [updateOutbox_ok hUpdate]
    have hQueued := stateOf_of_mem_ready (hIds ▸ hId)
    obtain ⟨row, hRow, -⟩ := map_eq_some_iff.mp hQueued
    rw [Outbox.stateOf, lookup_updateRows, hRow]
    simp [hId]

/-! ## What the drains hold -/

def Drain.ids (drain : Drain) : List String := drain.left.map (·.1)

/-- A request was made for the row in hand, and its answer is not a retryable failure. -/
def Stage.uncertain : Stage → Bool
  | .calling => true
  | .completing outcome => !outcome.retryable
  | .ready | .retrying .. => false

def idsOf (drains : List Drain) : List String := drains.flatMap Drain.ids

/-- The rows of a drain are being sent, each is one drain's, and a message that may be at its
provider is in hand there or decided. -/
structure Sound (s : Sends) : Prop where
  distinct : (idsOf s.drains).Nodup
  sending : ∀ id ∈ idsOf s.drains, s.outbox.stateOf id = some .sending
  provider : ∀ id ∈ s.atProvider, ∃ state, s.outbox.stateOf id = some state ∧ state ≠ .queued
  unsent : ∀ d ∈ s.drains, ∀ id ∈ d.ids, id ∈ s.atProvider → d.inHand = some id ∧ d.stage.uncertain

def FinalKept (before after : Outbox) : Prop :=
  ∀ id state, before.stateOf id = some state → state.final = true → after.stateOf id = some state

theorem FinalKept.refl (outbox : Outbox) : FinalKept outbox outbox := fun _ _ h _ => h

theorem FinalKept.trans {a b c} (hab : FinalKept a b) (hbc : FinalKept b c) :
    FinalKept a c := fun id state h hFinal => hbc id state (hab id state h hFinal) hFinal

theorem Shifts.finalKept {found : String → OutboxState → Prop} {state before after} (h : Shifts found state before after)
    (hFound : ∀ id old, before.stateOf id = some old → found id old → old.final = false) :
    FinalKept before after := by
  intro id old hOld hFinal
  rw [h.same, hOld]
  intro old' hOld' hMatch
  rw [hOld] at hOld'
  cases hOld'
  rw [hFound id old hOld hMatch] at hFinal
  cases hFinal

theorem idsOf_append (a b : List Drain) : idsOf (a ++ b) = idsOf a ++ idsOf b := by
  simp [idsOf]

theorem idsOf_start (nowMs : Int) (rows : List (String × OutboxRow)) :
    idsOf (Drain.start nowMs rows) = rows.map (·.1) := by
  unfold Drain.start
  cases rows <;> simp [idsOf, Drain.ids]

theorem Sound.outbox {s} (h : Sound s) {outbox}
    (hHeld : ∀ id ∈ idsOf s.drains, outbox.stateOf id = s.outbox.stateOf id)
    (hProvider : ∀ id ∈ s.atProvider, ∃ state, outbox.stateOf id = some state ∧ state ≠ .queued) :
    Sound { s with outbox := outbox } where
  distinct := h.distinct
  sending id hId := (hHeld id hId).trans (h.sending id hId)
  provider := hProvider
  unsent := h.unsent

theorem Sound.advance {s} (h : Sound s) {l r next d}
    (hDrains : s.drains = l ++ d :: r) (hIds : (idsOf next).Sublist d.ids) {outbox atProvider}
    (hKept : ∀ id, id ∉ d.ids ∨ id ∈ idsOf next → outbox.stateOf id = s.outbox.stateOf id)
    (hProvider : ∀ id ∈ atProvider, id ∈ s.atProvider ∨ id ∈ d.ids) (hEnd : ∀ id ∈ d.ids, id ∈ atProvider →
      ∃ state, outbox.stateOf id = some state ∧ state ≠ .queued)
    (hUnsent : ∀ e ∈ next, ∀ id ∈ e.ids, id ∈ atProvider → e.inHand = some id ∧ e.stage.uncertain) :
    Sound ⟨outbox, l ++ next ++ r, atProvider⟩ := by
  have hAll : idsOf s.drains = idsOf l ++ (d.ids ++ idsOf r) := by
    rw [hDrains, idsOf_append]
    rfl
  have hDistinct := h.distinct
  rw [hAll] at hDistinct
  have hSublist : (idsOf (l ++ next ++ r)).Sublist (idsOf l ++ (d.ids ++ idsOf r)) := by
    rw [append_assoc, idsOf_append, idsOf_append]
    exact (List.Sublist.refl _).append (hIds.append (.refl _))
  -- The rows of the other drains are not this one's.
  have hOther : ∀ e ∈ l ++ r, ∀ id ∈ e.ids, id ∉ d.ids := by
    intro e he id hId hMine
    obtain ⟨-, hRest, hLeft⟩ := nodup_append.mp hDistinct
    obtain ⟨-, -, hRight⟩ := nodup_append.mp hRest
    rcases mem_append.mp he with hl | hr
    · exact hLeft id (mem_flatMap.mpr ⟨e, hl, hId⟩) id (mem_append_left _ hMine) rfl
    · exact hRight id hMine id (mem_flatMap.mpr ⟨e, hr, hId⟩) rfl
  have hPlaces : ∀ e ∈ l ++ next ++ r, e ∈ next ∨ e ∈ l ++ r := by
    intro e he
    simp only [mem_append] at he ⊢
    tauto
  constructor
  · exact hDistinct.sublist hSublist
  · intro id hId
    have hWas : id ∈ idsOf s.drains := hAll ▸ hSublist.subset hId
    obtain ⟨e, he, hMem⟩ := mem_flatMap.mp hId
    have hSame : outbox.stateOf id = s.outbox.stateOf id := by
      apply hKept
      rcases hPlaces e he with hNext | hOld
      · exact .inr (mem_flatMap.mpr ⟨e, hNext, hMem⟩)
      · exact .inl (hOther e hOld id hMem)
    exact hSame.trans (h.sending id hWas)
  · intro id hId
    by_cases hMine : id ∈ d.ids
    · exact hEnd id hMine hId
    · obtain ⟨state, hState, hNot⟩ := h.provider id ((hProvider id hId).resolve_right hMine)
      exact ⟨state, (hKept id (.inl hMine)).trans hState, hNot⟩
  · intro e he id hId hAt
    rcases hPlaces e he with hNext | hOld
    · exact hUnsent e hNext id hId hAt
    · have hWas : e ∈ s.drains := by
        rw [hDrains]
        simp only [mem_append] at hOld ⊢
        tauto
      exact h.unsent e hWas id hId ((hProvider id hAt).resolve_right (hOther e hOld id hId))

/-! ## Steps -/

/-- The drain at this place has the row of `id` in hand, and those of `rest` behind it. -/
structure Holds (s : Sends) (i : Nat) (d : Drain) (id : String) (rest : List String) : Prop where
  drains : s.drains = s.drains.take i ++ d :: s.drains.drop (i + 1)
  ids : d.ids = id :: rest

theorem work_cases {s s' : Sends} {i f} (h : s.work i f = some s') :
    ∃ d id rest, Holds s i d id rest ∧ f d id = some s' := by
  obtain ⟨⟨d, id⟩, hWorker, hStep⟩ := bind_eq_some_iff.mp h
  obtain ⟨e, hAt, hHand⟩ := bind_eq_some_iff.mp hWorker
  obtain ⟨id', hHead, hPair⟩ := map_eq_some_iff.mp hHand
  cases hPair
  obtain ⟨⟨_, row⟩, hFirst, rfl⟩ := map_eq_some_iff.mp hHead
  obtain ⟨rest, hLeft⟩ := List.head?_eq_some_iff.mp hFirst
  refine ⟨_, _, rest.map (·.1), ⟨?_, by rw [Drain.ids, hLeft, map_cons]⟩, hStep⟩
  obtain ⟨hi, rfl⟩ := List.getElem?_eq_some_iff.mp hAt
  rw [getElem_cons_drop, take_append_drop]

theorem inHand_eq (d : Drain) : d.inHand = d.ids.head? := by
  rw [Drain.inHand, Drain.ids, List.head?_map]

theorem idsOf_rest (d : Drain) : idsOf d.rest = d.ids.tail := by
  rw [Drain.rest, idsOf_start, Drain.ids, map_tail]

theorem finish_eq {s : Sends} {i d} (statement : Statement Unit) :
    ∃ next, (next = d.rest ∨ next = []) ∧ s.finish i d statement =
      ⟨(commit statement s.outbox).2, s.drains.take i ++ next ++ s.drains.drop (i + 1),
        s.atProvider⟩ := by
  unfold Sends.finish Sends.exec
  cases (commit statement s.outbox).1 with
  | ok a => exact ⟨d.rest, .inl rfl, rfl⟩
  | error e => exact ⟨[], .inr rfl, rfl⟩

section

variable {s : Sends} {i : Nat} {d : Drain} {id : String} {rest : List String} (h : Sound s)
  (hHolds : Holds s i d id rest)

include hHolds

theorem Holds.mem_ids_iff (other : String) : other ∈ d.ids ↔ other = id ∨ other ∈ rest := by
  rw [hHolds.ids, mem_cons]

theorem Holds.mem : d ∈ s.drains := by
  rw [hHolds.drains]
  simp

include h

theorem Holds.nodup : id ∉ rest ∧ rest.Nodup := by
  have hDistinct := h.distinct
  rw [hHolds.drains, idsOf_append] at hDistinct
  have hIds := (nodup_append.mp (nodup_append.mp hDistinct).2.1).1
  exact nodup_cons.mp (hHolds.ids ▸ hIds)

theorem Holds.sending : s.outbox.stateOf id = some .sending :=
  h.sending id (mem_flatMap.mpr ⟨d, hHolds.mem, (hHolds.mem_ids_iff id).mpr (.inl rfl)⟩)

theorem Holds.rest_unsent {other} (hOther : other ∈ rest) : other ∉ s.atProvider := by
  intro hAt
  obtain ⟨hHand, -⟩ := h.unsent d hHolds.mem other ((hHolds.mem_ids_iff other).mpr (.inr hOther)) hAt
  rw [inHand_eq, hHolds.ids] at hHand
  cases hHand
  exact (hHolds.nodup h).1 hOther

theorem Holds.unsent (hCertain : d.stage.uncertain = false) : id ∉ s.atProvider := by
  intro hAt
  obtain ⟨-, hUncertain⟩ := h.unsent d hHolds.mem id ((hHolds.mem_ids_iff id).mpr (.inl rfl)) hAt
  rw [hCertain] at hUncertain
  cases hUncertain

theorem Sound.finish {statement state}
    (hShift : Shifts (fun other _ => other = id) state s.outbox (commit statement s.outbox).2)
    (hQueued : id ∈ s.atProvider → state ≠ .queued) :
    Sound (s.finish i d statement) ∧ FinalKept s.outbox (s.finish i d statement).outbox := by
  obtain ⟨next, hNext, hFinish⟩ := finish_eq statement
  rw [hFinish]
  have hRest : (idsOf next).Sublist rest := by
    rcases hNext with rfl | rfl
    · rw [idsOf_rest, hHolds.ids, tail_cons]
    · exact nil_sublist _
  have hSame : ∀ other, other ≠ id → (commit statement s.outbox).2.stateOf other = s.outbox.stateOf other :=
    fun other hOther => hShift.same fun _ _ => hOther
  have hSending := hHolds.sending h
  constructor
  · apply h.advance hHolds.drains
    · rw [hHolds.ids]
      exact hRest.cons id
    · rintro other (hNot | hHeld)
      · exact hSame other fun hId => hNot ((hHolds.mem_ids_iff other).mpr (.inl hId))
      · apply hSame
        rintro rfl
        exact (hHolds.nodup h).1 (hRest.subset hHeld)
    · exact fun other hOther => .inl hOther
    · intro other hMem hAt
      rcases (hHolds.mem_ids_iff other).mp hMem with rfl | hOther
      · rcases hShift other with hKept | ⟨_, -, -, hMoved⟩
        · exact ⟨.sending, hKept.trans hSending, by simp⟩
        · exact ⟨state, hMoved, hQueued hAt⟩
      · exact absurd hAt (hHolds.rest_unsent h hOther)
    · intro e he other hOther hAt
      exact absurd hAt (hHolds.rest_unsent h (hRest.subset (mem_flatMap.mpr ⟨e, he, hOther⟩)))
  · apply hShift.finalKept
    rintro other old hOld rfl
    rw [hSending] at hOld
    cases hOld
    rfl

theorem Sound.moved {stage atProvider} (hProvider : ∀ other ∈ atProvider, other ∈ s.atProvider ∨ other = id)
    (hUncertain : id ∈ atProvider → stage.uncertain = true) :
    Sound { s.moved i d stage with atProvider := atProvider } := by
  have hSending := hHolds.sending h
  have hIds : idsOf [{ d with stage := stage }] = d.ids := by simp [idsOf, Drain.ids]
  apply h.advance hHolds.drains
  · rw [hIds]
  · exact fun other _ => rfl
  · intro other hOther
    exact (hProvider other hOther).imp_right fun hId => (hHolds.mem_ids_iff other).mpr (.inl hId)
  · intro other hMem hAt
    rcases (hHolds.mem_ids_iff other).mp hMem with rfl | hOther
    · exact ⟨.sending, hSending, by simp⟩
    · rcases hProvider other hAt with hWas | rfl
      · exact absurd hWas (hHolds.rest_unsent h hOther)
      · exact ⟨.sending, hSending, by simp⟩
  · intro e he other hOther hAt
    rw [mem_singleton.mp he] at hOther ⊢
    have hHand : other = id := by
      rcases (hHolds.mem_ids_iff other).mp hOther with hId | hRest
      · exact hId
      · exact (hProvider other hAt).resolve_left (hHolds.rest_unsent h hRest)
    subst hHand
    refine ⟨?_, hUncertain hAt⟩
    change d.inHand = some other
    rw [inHand_eq, hHolds.ids, List.head?_cons]

end

theorem Sound.dropped {s} (h : Sound s) {i d}
    (hDrains : s.drains = s.drains.take i ++ d :: s.drains.drop (i + 1)) : Sound (s.replace i []) := by
  apply h.advance hDrains
  · exact nil_sublist _
  · exact fun _ _ => rfl
  · exact fun _ hOther => .inl hOther
  · exact fun other _ hAt => h.provider other hAt
  · intro e he
    cases he

def Quiet (s : Sends) : Event → Prop
  | .requeue _ => s.drains = []
  | _ => True

theorem Sound.enqueue {s} (h : Sound s) (outboxId : String) (message : NewOutboxMessage) :
    Sound (s.exec (insertOutboxMessage outboxId message)).2 ∧
      FinalKept s.outbox (s.exec (insertOutboxMessage outboxId message)).2.outbox := by
  have hTaken : ∀ id state, s.outbox.stateOf id = some state →
      (commit (insertOutboxMessage outboxId message) s.outbox).2.stateOf id = some state := by
    intro id state hState
    rw [stateOf_insertOutboxMessage outboxId message s.outbox id (by simp [hState]), hState]
  constructor
  · apply h.outbox
    · intro id hId
      rw [h.sending id hId]
      exact hTaken id _ (h.sending id hId)
    · intro id hId
      obtain ⟨state, hState, hNot⟩ := h.provider id hId
      exact ⟨state, hTaken id state hState, hNot⟩
  · exact fun id state hState _ => hTaken id state hState

theorem Sound.cancel {s} (h : Sound s) (outboxId : String) (nowMs : Int) :
    Sound (s.exec (cancelOutboxMessage outboxId nowMs)).2 ∧
      FinalKept s.outbox (s.exec (cancelOutboxMessage outboxId nowMs)).2.outbox := by
  have hShift := shifts_cancelOutboxMessage outboxId nowMs s.outbox
  constructor
  · apply h.outbox
    · intro id hId
      apply hShift.same
      rintro old hOld rfl
      rw [h.sending id hId] at hOld
      cases hOld
    · intro id hId
      obtain ⟨state, hState, hNot⟩ := h.provider id hId
      refine ⟨state, (hShift.same ?_).trans hState, hNot⟩
      rintro old hOld rfl
      rw [hState] at hOld
      exact hNot (Option.some.inj hOld)
  · apply hShift.finalKept
    rintro id old - rfl
    rfl

theorem Sound.requeue {s} (h : Sound s) (hQuiet : s.drains = []) (nowMs : Int) :
    Sound (s.exec (requeueStuckSending nowMs)).2 ∧
      FinalKept s.outbox (s.exec (requeueStuckSending nowMs)).2.outbox := by
  have hShift := shifts_requeueStuckSending nowMs s.outbox
  constructor
  · apply h.outbox
    · intro id hId
      rw [hQuiet] at hId
      cases hId
    · intro id hId
      obtain ⟨state, hState, hNot⟩ := h.provider id hId
      rcases hShift id with hSame | ⟨_, -, -, hParked⟩
      · exact ⟨state, hSame.trans hState, hNot⟩
      · exact ⟨.needsReconciliation, hParked, by simp⟩
  · apply hShift.finalKept
    rintro id old - rfl
    rfl

theorem Sound.claim {s} (h : Sound s) {nowMs} {limit : Nat} {outbox rows}
    (hClaim : claimOutboxBatch nowMs limit s.outbox = .ok rows outbox) :
    Sound { s with outbox := outbox, drains := s.drains ++ Drain.start nowMs rows } ∧
      FinalKept s.outbox outbox := by
  obtain ⟨hSublist, hShift, hSending⟩ := claimOutboxBatch_ok hClaim
  have hQueued : ∀ id ∈ rows.map (·.1), s.outbox.stateOf id = some .queued :=
    fun id hId => stateOf_of_mem_ready (hSublist.subset hId)
  have hSame : ∀ id state, s.outbox.stateOf id = some state → state ≠ .queued →
      outbox.stateOf id = some state := by
    intro id state hState hNot
    rw [hShift.same, hState]
    intro old _ hReady
    rw [stateOf_of_mem_ready hReady] at hState
    exact hNot (Option.some.inj hState).symm
  refine ⟨⟨?_, ?_, ?_, ?_⟩, ?_⟩
  · rw [idsOf_append, idsOf_start]
    refine nodup_append.mpr ⟨h.distinct, (ready_nodup _ _ _).sublist hSublist, ?_⟩
    rintro id hOld _ hNew rfl
    have hBoth := hQueued id hNew
    rw [h.sending id hOld] at hBoth
    cases hBoth
  · intro id hId
    rw [idsOf_append, idsOf_start] at hId
    rcases mem_append.mp hId with hOld | hNew
    · exact hSame id _ (h.sending id hOld) (by simp)
    · exact hSending id (hSublist.subset hNew)
  · intro id hId
    obtain ⟨state, hState, hNot⟩ := h.provider id hId
    exact ⟨state, hSame id state hState hNot, hNot⟩
  · intro d hd id hId hAt
    rcases mem_append.mp hd with hOld | hNew
    · exact h.unsent d hOld id hId hAt
    · obtain ⟨state, hState, hNot⟩ := h.provider id hAt
      have hMem : id ∈ idsOf (Drain.start nowMs rows) := mem_flatMap.mpr ⟨d, hNew, hId⟩
      rw [idsOf_start] at hMem
      rw [hQueued id hMem] at hState
      exact absurd (Option.some.inj hState).symm hNot
  · intro id state hState hFinal
    apply hSame id state hState
    rintro rfl
    cases hFinal

theorem Sound.complete {s s'} (h : Sound s) {i d id rest} (hHolds : Holds s i d id rest)
    (hAfter : s.complete i d id = some s') :
    Sound s' ∧ FinalKept s.outbox s'.outbox := by
  unfold Sends.complete at hAfter
  split at hAfter
  · cases hAfter
    exact h.finish hHolds (shifts_completeSent id _ _ _) fun _ => by simp
  · cases hAfter
    exact h.finish hHolds (shifts_ended id _ _ _ _) fun _ => by simp
  · cases hAfter
    exact h.finish hHolds (shifts_ended id _ _ _ _) fun _ => by simp
  next hStage =>
    have hCertain := hHolds.unsent h (by rw [hStage]; rfl)
    have hSelect := commit_selectAttempts id s.outbox
    unfold Sends.exec at hAfter
    rw [hSelect] at hAfter
    cases hAnswer : (commit (selectAttempts id) s.outbox).1 with
    | ok attempts =>
      rw [hAnswer] at hAfter
      cases hAfter
      refine ⟨h.moved hHolds (fun _ hOther => .inl hOther) ?_, .refl _⟩
      exact fun hAt => absurd hAt hCertain
    | error e =>
      rw [hAnswer] at hAfter
      cases hAfter
      exact ⟨h.dropped hHolds.drains, .refl _⟩
  next hStage =>
    cases hAfter
    obtain ⟨state, hShift⟩ := shifts_completeRetryable id _ _ _ _ _ s.outbox
    apply h.finish hHolds hShift
    intro hAt
    exact absurd hAt (hHolds.unsent h (by rw [hStage]; rfl))
  · cases hAfter

theorem Sound.step {s s' : Sends} (h : Sound s) {e} (hQuiet : Quiet s e)
    (hAfter : s.after e = some s') : Sound s' ∧ FinalKept s.outbox s'.outbox := by
  unfold Sends.after at hAfter
  cases e with
  | enqueue outboxId message =>
    cases hAfter
    exact h.enqueue outboxId message
  | cancel outboxId nowMs =>
    cases hAfter
    exact h.cancel outboxId nowMs
  | requeue nowMs =>
    cases hAfter
    exact h.requeue hQuiet nowMs
  | claim nowMs limit =>
    simp only [Sends.exec] at hAfter
    rcases commit_cases (Prod.eta (commit (claimOutboxBatch nowMs limit) s.outbox)).symm with
      ⟨rows, hAnswer, hClaim⟩ | ⟨error, _, hAnswer, -, hSame⟩
    · rw [hAnswer] at hAfter
      cases hAfter
      exact h.claim hClaim
    · rw [hAnswer, hSame] at hAfter
      cases hAfter
      exact ⟨h, .refl _⟩
  | release i =>
    obtain ⟨d, id, rest, hHolds, hRelease⟩ := work_cases hAfter
    obtain ⟨hStage, hRelease⟩ := ite_none_right_eq_some.mp hRelease
    cases hRelease
    apply h.finish hHolds (shifts_releaseOutboxClaim id _ _ _)
    intro hAt
    exact absurd hAt (hHolds.unsent h (by rw [hStage]; rfl))
  | unreadable i error =>
    obtain ⟨d, id, rest, hHolds, hMoved⟩ := work_cases hAfter
    obtain ⟨hStage, hMoved⟩ := ite_none_right_eq_some.mp hMoved
    cases hMoved
    exact ⟨h.moved hHolds (fun _ hOther => .inl hOther) fun _ => rfl, .refl _⟩
  | call i =>
    obtain ⟨d, id, rest, hHolds, hMoved⟩ := work_cases hAfter
    obtain ⟨hStage, hMoved⟩ := ite_none_right_eq_some.mp hMoved
    cases hMoved
    refine ⟨h.moved hHolds (fun other hOther => ?_) fun _ => rfl, .refl _⟩
    exact (mem_cons.mp hOther).symm
  | answer i outcome =>
    obtain ⟨d, id, rest, hHolds, hMoved⟩ := work_cases hAfter
    obtain ⟨hStage, hMoved⟩ := ite_none_right_eq_some.mp hMoved
    cases hMoved
    refine ⟨h.moved hHolds (fun other hOther => .inl ?_) fun hAt => ?_, .refl _⟩
    · split at hOther
      · exact mem_of_mem_filter hOther
      · exact hOther
    · cases hRetryable : outcome.retryable with
      | true => simp [hRetryable] at hAt
      | false => simp [Stage.uncertain, hRetryable]
  | complete i =>
    obtain ⟨d, id, rest, hHolds, hComplete⟩ := work_cases hAfter
    exact h.complete hHolds hComplete
  | crash i =>
    obtain ⟨hIndex, hCrash⟩ := ite_none_right_eq_some.mp hAfter
    cases hCrash
    refine ⟨h.dropped (d := s.drains[i]) ?_, .refl _⟩
    rw [getElem_cons_drop, take_append_drop]

/-! ## Runs -/

def Sends.empty : Sends := ⟨∅, [], []⟩

/-- The states of the runs whose events are allowed where they happen. -/
inductive Ran (Allowed : Sends → Event → Prop) (s : Sends) : Sends → Prop
  | start : Ran Allowed s s
  | step {t t'} {e} (before : Ran Allowed s t) (allowed : Allowed t e)
      (done : t.after e = some t') : Ran Allowed s t'

theorem Ran.sound {s t} (h : Ran Quiet s t) (hs : Sound s) : Sound t ∧ FinalKept s.outbox t.outbox := by
  induction h with
  | start => exact ⟨hs, .refl _⟩
  | step _ hQuiet hAfter ih =>
    obtain ⟨hSound, hKept⟩ := ih.1.step hQuiet hAfter
    exact ⟨hSound, ih.2.trans hKept⟩

theorem sound_empty : Sound .empty := by
  constructor
  · exact nodup_nil
  · intro id hId
    cases hId
  · intro id hId
    cases hId
  · intro d hd
    cases hd

/-- Any number of drains, each stopping anywhere, with messages queued and cancelled
meanwhile and rows parked only while no drain is in progress: what is sent, failed,
cancelled or parked stays so, and a message of which a request may have reached the
provider is in no later batch. -/
theorem decided_messages_stay {s t : Sends} (hs : Ran Quiet .empty s) (ht : Ran Quiet s t) :
    FinalKept s.outbox t.outbox ∧ ∀ id ∈ t.atProvider, ∀ nowMs limit, id ∉ t.outbox.ready nowMs limit := by
  obtain ⟨hSound, hKept⟩ := ht.sound (hs.sound sound_empty).1
  refine ⟨hKept, fun id hAt nowMs limit hReady => ?_⟩
  obtain ⟨state, hState, hNot⟩ := hSound.provider id hAt
  rw [stateOf_of_mem_ready hReady] at hState
  exact hNot (Option.some.inj hState).symm

def Sends.play (Allowed : Sends → Event → Prop) [∀ s e, Decidable (Allowed s e)] :
    Sends → List Event → Option Sends
  | s, [] => some s
  | s, e :: events => if Allowed s e then (s.after e).bind fun s => s.play Allowed events else none

theorem Ran.play {Allowed : Sends → Event → Prop} [∀ s e, Decidable (Allowed s e)]
    {events s t u} (h : Ran Allowed s t) (hPlay : t.play Allowed events = some u) : Ran Allowed s u := by
  induction events generalizing t with
  | nil =>
    cases hPlay
    exact h
  | cons e events ih =>
    obtain ⟨hAllowed, hPlay⟩ := ite_none_right_eq_some.mp hPlay
    obtain ⟨next, hNext, hRest⟩ := bind_eq_some_iff.mp hPlay
    exact ih (h.step hAllowed hNext) hRest

theorem Ran.played {Allowed : Sends → Event → Prop} [∀ s e, Decidable (Allowed s e)]
    {events s t} (h : Ran Allowed s t) (fallback : Sends) (hPlay : (t.play Allowed events).isSome = true) :
    Ran Allowed s ((t.play Allowed events).getD fallback) := by
  obtain ⟨u, hu⟩ := isSome_iff_exists.mp hPlay
  rw [hu]
  exact h.play hu

instance (s : Sends) (e : Event) : Decidable (Quiet s e) := by
  cases e <;> simp only [Quiet] <;> infer_instance

/-! ### A message in flight when the daemon restarts -/

def greeting : NewOutboxMessage :=
  ⟨"acct", "chat", none, none, "hello", "digest", "key", none, 5, none, 1⟩

/-- The message is claimed and its request made, and the process dies; the next one parks it. -/
def restarted : Sends :=
  (Sends.empty.play Quiet
    [.enqueue "m" greeting, .claim 10 16, .call 0, .crash 0, .requeue 20]).getD .empty

def restartedLater : Sends := (restarted.play Quiet [.cancel "m" 30, .claim 40 16]).getD restarted

theorem decided_messages_stay_restarted : restartedLater.outbox.stateOf "m" = some .needsReconciliation ∧
      "m" ∉ restartedLater.outbox.ready 1000000 16 := by
  have hRestarted : Ran Quiet .empty restarted := Ran.start.played .empty (by decide +kernel)
  have hLater : Ran Quiet restarted restartedLater := Ran.start.played restarted (by decide +kernel)
  obtain ⟨hKept, hNever⟩ := decided_messages_stay hRestarted hLater
  exact ⟨hKept "m" .needsReconciliation (by decide +kernel) rfl, hNever "m" (by decide +kernel) 1000000 16⟩

/-- Another process parks the message while its drain still waits for the provider. -/
def parked : Sends :=
  (Sends.empty.play (fun _ _ => True)
    [.enqueue "m" greeting, .claim 10 16, .call 0, .requeue 20]).getD .empty

def reopened : Sends :=
  (parked.play (fun _ _ => True)
    [.answer 0 (.retryableFailure "refused" none), .complete 0, .complete 0]).getD parked

/-- The parked message is queued again and is in the next batch. -/
theorem late_answer_reopens_parked_message :
    Ran (fun _ _ => True) .empty parked ∧ Ran (fun _ _ => True) parked reopened ∧
      parked.outbox.stateOf "m" = some .needsReconciliation ∧
      ¬ FinalKept parked.outbox reopened.outbox ∧ reopened.outbox.ready 1000000 16 = ["m"] := by
  have hParked : parked.outbox.stateOf "m" = some .needsReconciliation := by decide +kernel
  have hReopened : reopened.outbox.stateOf "m" = some .queued := by decide +kernel
  refine ⟨Ran.start.played .empty (by decide +kernel), Ran.start.played parked (by decide +kernel),
    hParked, fun hKept => ?_, by decide +kernel⟩
  have hStays := hKept "m" .needsReconciliation hParked rfl
  cases hStays

end LittleMonkey.Channel
