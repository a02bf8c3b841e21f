import LittleMonkey.Ledger.Verifier
import LittleMonkey.Ledger.WellFormed

/-! # The writers and the verifiers agree

Every accepted call keeps the constraints of the schema and extends a chain at
its end, so the verifiers find nothing to report on what the writers stored.
-/

namespace LittleMonkey.Ledger

open Guards OrderBy Primitives Transaction List AList Option

theorem toSqlI64_ok {value column field} (h : toSqlI64 value field = .ok column) : column = value := by
  unfold toSqlI64 at h
  split at h
  · cases h
    rfl
  · cases h

/-! ## What the schema keeps -/

structure Tables.Kept (t : Tables) : Prop where
  runs : Every (fun _ row => row.checked = true) t.runs
  idempotencyKeys : UniqueIndex (fun _ row => some row.idempotencyKey) t.runs
  events : ∀ row ∈ t.runEvents, row.checked = true ∧ (t.runs.lookup row.columns.runId).isSome = true
  eventIds : (t.runEvents.map (·.columns.eventId)).Nodup
  sequences : (t.runEvents.map fun row => (row.columns.runId, row.columns.sequence)).Nodup
  approvals : Every (fun key row => row.checked = true ∧
    t.eventKey key.1 row.decidedSequence = true ∧ t.eventKey key.1 row.awaitingSequence = true ∧
    t.eventKey key.1 (some row.requestedSequence) = true) t.approvals
  artifacts : Every (fun _ row => row.checked = true ∧
    t.eventKey row.runId (some row.eventSequence) = true) t.artifacts
  checkpoints : Every (fun _ row => row.checked = true ∧
    t.eventKey row.runId (some row.eventSequence) = true) t.checkpoints
  mutations : Every (fun key row => row.checked = true ∧ t.eventKey key.1 row.confirmedSequence = true ∧
    t.eventKey key.1 (some row.preparedSequence) = true) t.externalMutations
  mutationKeys : UniqueIndex (fun key row => row.idempotencyKey.map fun name => (key.1, name))
    t.externalMutations

theorem kept_empty : Tables.empty.Kept where
  runs := every_empty
  idempotencyKeys := uniqueIndex_empty
  events _ hRow := absurd hRow not_mem_nil
  eventIds := nodup_nil
  sequences := nodup_nil
  approvals := every_empty
  artifacts := every_empty
  checkpoints := every_empty
  mutations := every_empty
  mutationKeys := uniqueIndex_empty

section

variable {t t' : Tables} {u : Unit}

theorem Tables.eventKey_append {runs row runId sequence} (h : t.eventKey runId sequence = true) :
    { t with runEvents := t.runEvents ++ [row], runs := runs }.eventKey runId sequence = true := by
  cases sequence with
  | none => rfl
  | some sequence =>
    simp only [Tables.eventKey, all_some, Tables.eventAt, List.find?_append] at h ⊢
    obtain ⟨found, hFound⟩ := isSome_iff_exists.mp h
    rw [hFound]
    rfl

theorem requireEvent_eventKey {runId sequence} (h : requireEvent runId sequence t = .ok u t') :
    t = t' ∧ t.eventKey runId (some sequence) = true := by
  simp only [requireEvent, bind_eq_done, read_eq_ok, require_eq_ok] at h
  obtain ⟨_, _, ⟨rfl, rfl⟩, hFound, rfl⟩ := h
  exact ⟨rfl, by simpa [Tables.eventKey] using hFound⟩

/-! ## Statements -/

section

variable (hKept : t.Kept)

include hKept

theorem Tables.Kept.insertApproval {key row}
    (h : insertApproval key row t = .ok u t') (hDecision : row.decision = none)
    (hDecided : row.decidedSequence = none) (hBy : row.decidedByJson = none)
    (hAwaiting : row.awaitingSequence = none) : t'.Kept := by
  simp only [Ledger.insertApproval, bind_eq_done, require_eq_ok, write_eq_ok] at h
  obtain ⟨_, _, ⟨hLength, rfl⟩, _, _, ⟨hExpires, rfl⟩, _, _, ⟨_, rfl⟩, _, _, ⟨_, rfl⟩, _, _, hEvent, rfl⟩ := h
  obtain ⟨rfl, hKey⟩ := requireEvent_eventKey hEvent
  refine { hKept with approvals := hKept.approvals.insert ⟨?_, ?_, ?_, hKey⟩ }
  · have hPositive : 0 < row.expiresAtMs := Nat.pos_of_ne_zero (by simpa using hExpires)
    have hSixtyFour : row.operationSha256.length = 64 := by simpa using hLength
    simp [ApprovalRow.checked, hDecision, hDecided, hBy, hPositive, hSixtyFour]
  · rw [hDecided]
    rfl
  · rw [hAwaiting]
    rfl

theorem Tables.Kept.awaitApproval {key operationSha256 expiresAtMs sequence}
    (h : awaitApproval key operationSha256 expiresAtMs sequence t = .ok u t') : t'.Kept := by
  simp only [Ledger.awaitApproval, bind_eq_done, require_eq_ok] at h
  obtain ⟨stored, _, hFound, _, _, ⟨_, rfl⟩, _, _, ⟨_, rfl⟩, _, _, ⟨_, rfl⟩, hUpdate⟩ := h
  obtain ⟨hStored, rfl⟩ := findApproval_ok hFound
  simp only [updateApproval, bind_eq_done, write_eq_ok] at hUpdate
  obtain ⟨_, _, hEvent, rfl⟩ := hUpdate
  obtain ⟨rfl, hKey⟩ := requireEvent_eventKey hEvent
  obtain ⟨hChecked, hDecided, -, hRequested⟩ := hKept.approvals key stored hStored
  exact { hKept with approvals := hKept.approvals.insert ⟨hChecked, hDecided, hKey, hRequested⟩ }

theorem Tables.Kept.decideApproval {key operationSha256 decision decidedByJson sequence occurredAtMs}
    (h : decideApproval key operationSha256 decision decidedByJson sequence occurredAtMs t =
      .ok u t') : t'.Kept := by
  simp only [Ledger.decideApproval, bind_eq_done, require_eq_ok] at h
  obtain ⟨existing, _, hFound, _, _, ⟨_, rfl⟩, _, _, ⟨_, rfl⟩, hUpdate⟩ := h
  obtain ⟨hStored, rfl⟩ := findApproval_ok hFound
  cases hTiming : decisionTiming decision occurredAtMs existing.expiresAtMs with
  | some message => simp [hTiming] at hUpdate
  | none =>
    simp only [hTiming, updateApproval, bind_eq_done, write_eq_ok] at hUpdate
    obtain ⟨_, _, hEvent, rfl⟩ := hUpdate
    obtain ⟨rfl, hKey⟩ := requireEvent_eventKey hEvent
    obtain ⟨hChecked, -, hAwaiting, hRequested⟩ := hKept.approvals key existing hStored
    refine { hKept with approvals := hKept.approvals.insert ⟨?_, hKey, hAwaiting, hRequested⟩ }
    simp only [ApprovalRow.checked, Bool.and_eq_true] at hChecked ⊢
    exact ⟨⟨hChecked.1.1, rfl⟩, rfl⟩

theorem Tables.Kept.insertArtifact {artifactId row}
    (h : insertArtifact artifactId row t = .ok u t') : t'.Kept := by
  simp only [Ledger.insertArtifact, bind_eq_done, require_eq_ok, write_eq_ok] at h
  obtain ⟨_, _, ⟨hLength, rfl⟩, _, _, ⟨hCreated, rfl⟩, _, _, ⟨_, rfl⟩, _, _, ⟨_, rfl⟩, _, _, hEvent, rfl⟩ := h
  obtain ⟨rfl, hKey⟩ := requireEvent_eventKey hEvent
  refine { hKept with artifacts := hKept.artifacts.insert ⟨?_, hKey⟩ }
  have hPositive : 0 < row.createdAtMs := Nat.pos_of_ne_zero (by simpa using hCreated)
  have hSixtyFour : row.contentSha256.length = 64 := by simpa using hLength
  simp [ArtifactRow.checked, hPositive, hSixtyFour]

theorem Tables.Kept.insertCheckpoint {checkpointId row}
    (h : insertCheckpoint checkpointId row t = .ok u t') : t'.Kept := by
  simp only [Ledger.insertCheckpoint, bind_eq_done, require_eq_ok, write_eq_ok] at h
  obtain ⟨_, _, ⟨hLength, rfl⟩, _, _, ⟨hCreated, rfl⟩, _, _, ⟨_, rfl⟩, _, _, ⟨_, rfl⟩, _, _, hEvent, rfl⟩ := h
  obtain ⟨rfl, hKey⟩ := requireEvent_eventKey hEvent
  refine { hKept with checkpoints := hKept.checkpoints.insert ⟨?_, hKey⟩ }
  have hPositive : 0 < row.createdAtMs := Nat.pos_of_ne_zero (by simpa using hCreated)
  cases hDigest : row.contentSha256 <;> simp_all [CheckpointRow.checked]

theorem Tables.Kept.insertMutation {key row}
    (h : insertMutation key row t = .ok u t') (hConfirmed : row.confirmedSequence = none) : t'.Kept := by
  simp only [Ledger.insertMutation, bind_eq_done, require_eq_ok, write_eq_ok] at h
  obtain ⟨_, _, ⟨hUpdated, rfl⟩, _, _, ⟨rfl, rfl⟩, _, _, ⟨_, rfl⟩, _, _, ⟨rfl, rfl⟩, _, _,
    ⟨hKeyFree, rfl⟩, _, _, hEvent, rfl⟩ := h
  obtain ⟨rfl, hKey⟩ := requireEvent_eventKey hEvent
  have hPositive : 0 < row.updatedAtMs := Nat.pos_of_ne_zero (by simpa using hUpdated)
  refine { hKept with
    mutations := hKept.mutations.insert ⟨?_, ?_, hKey⟩
    mutationKeys := hKept.mutationKeys.insert fun other found value hFound hValue hOther => ?_ }
  · simp [MutationRow.checked, hPositive, hConfirmed]
  · rw [hConfirmed]
    rfl
  · -- The index was asked for the key before the row went in.
    obtain ⟨name, hName, rfl⟩ := map_eq_some_iff.mp hValue
    obtain ⟨same, hSame, hPair⟩ := map_eq_some_iff.mp hOther
    obtain ⟨hRun, rfl⟩ := Prod.mk.inj hPair
    simp only [Tables.mutationKeyTaken, hName, Option.isSome_some, Bool.true_and,
      List.any_eq_false] at hKeyFree
    exact absurd (by simp [hRun, hSame]) (hKeyFree ⟨other, found⟩ (AList.mem_lookup_iff.mp hFound))

theorem Tables.Kept.settleMutation {key settle} (h : settleMutation key settle t = .ok u t')
    (hUpdated : ∀ row, 0 < (settle row).updatedAtMs) (hState : ∀ row, (settle row).state ≠ .pending)
    (hIdempotency : ∀ row, (settle row).idempotencyKey = row.idempotencyKey)
    (hPrepared : ∀ row, (settle row).preparedSequence = row.preparedSequence)
    (hConfirmed : ∀ row, t.eventKey key.1 row.confirmedSequence = true →
      t.eventKey key.1 (settle row).confirmedSequence = true) : t'.Kept := by
  obtain ⟨row, hRow, -, rfl⟩ := settleMutation_ok h
  obtain ⟨-, hWas, hPreparedKey⟩ := hKept.mutations key row hRow
  refine { hKept with
    mutations := hKept.mutations.insert ⟨?_, hConfirmed row hWas, ?_⟩
    mutationKeys := hKept.mutationKeys.replace hRow (by rw [hIdempotency row]) }
  · simp [MutationRow.checked, hUpdated row, hState row]
  · rw [hPrepared row]
    exact hPreparedKey

end

variable {S : Snapshots} {env : RunEventEnvelope}

theorem Tables.Kept.applyProjection (hKept : t.Kept) (codec : Codec S) {projection}
    (hOccurred : 0 < env.occurredAtMs) (h : applyProjection codec env projection t = .ok u t') : t'.Kept := by
  simp only [Ledger.applyProjection, bind_eq_done, pureBody_eq_ok] at h
  obtain ⟨sequence, _, ⟨_, rfl⟩, occurredAtMs, _, ⟨hAt, rfl⟩, h⟩ := h
  have hPositive : 0 < occurredAtMs := toSqlI64_ok hAt ▸ hOccurred
  cases projection with
  | none =>
    obtain ⟨_, rfl⟩ := h
    exact hKept
  | approvalRequested requestId toolCallId toolName operationSha256 expiresAtMs detail riskLevel =>
    simp only [bind_eq_done, pureBody_eq_ok] at h
    obtain ⟨_, _, ⟨_, rfl⟩, h⟩ := h
    exact hKept.insertApproval h rfl rfl rfl rfl
  | approvalAwaiting requestId operationSha256 expiresAtMs => exact hKept.awaitApproval h
  | approvalDecided requestId operationSha256 decision decidedBy => exact hKept.decideApproval h
  | artifact artifactId kind name mediaType contentSha256 sizeBytes =>
    simp only [bind_eq_done, pureBody_eq_ok] at h
    obtain ⟨_, _, ⟨_, rfl⟩, h⟩ := h
    exact hKept.insertArtifact h
  | checkpoint checkpointId kind label contentSha256 => exact hKept.insertCheckpoint h
  | externalPrepared mutationId toolCallId kind idempotencyKey summary =>
    exact hKept.insertMutation h rfl
  | externalConfirmed mutationId confirmationRef summary =>
    simp only [bind_eq_done] at h
    obtain ⟨_, _, hEvent, h⟩ := h
    obtain ⟨rfl, hKey⟩ := requireEvent_eventKey hEvent
    apply hKept.settleMutation h
    · exact fun _ => hPositive
    · intro _ hOther
      cases hOther
    · exact fun _ => rfl
    · exact fun _ => rfl
    · exact fun _ _ => hKey
  | externalNeedsReconciliation mutationId reason =>
    apply hKept.settleMutation h
    · exact fun _ => hPositive
    · intro _ hOther
      cases hOther
    · exact fun _ => rfl
    · exact fun _ => rfl
    · exact fun _ hWas => hWas

/-! ## Calls -/

/-- What the database has checked of an event it accepts. -/
structure Stored (t : Tables) (run : RunRow) (row : EventRow) : Prop where
  found : t.runs.lookup row.columns.runId = some run
  sequence : row.columns.sequence = run.lastSequence + 1
  checked : row.checked = true
  eventId : ∀ other ∈ t.runEvents, other.columns.eventId ≠ row.columns.eventId
  fresh : t.eventAt row.columns.runId row.columns.sequence = none

theorem checkEventRow_stored {row run} (h : checkEventRow t row = .ok run) : Stored t run row := by
  simp only [checkEventRow, bind_eq_ok, okOr_eq_ok, refuseIf_eq_ok, pure_eq_ok, exists_const] at h
  obtain ⟨found, hFound, -, hSequence, -, -, -, hPositive, hOccurred, hTerminal, hHash,
    hPrevious, hId, hFresh, rfl⟩ := h
  constructor
  · exact hFound
  · simpa using hSequence
  · simp only [EventRow.checked, Bool.and_eq_true, decide_eq_true_eq]
    refine ⟨⟨⟨⟨?_, ?_⟩, ?_⟩, ?_⟩, ?_⟩
    · exact Nat.pos_of_ne_zero (by simpa using hPositive)
    · simpa using hOccurred
    · simpa using hTerminal
    · cases hEvent : row.eventHash <;> simp_all
    · cases hBefore : row.columns.previous <;> simp_all
  · intro other hOther hSame
    rw [List.any_eq_false] at hId
    exact hId other hOther (by simp [hSame])
  · simpa using hFresh

theorem Tables.Kept.insertRunEvent (hKept : t.Kept) {row run}
    (hStored : Stored t run row) (hConsistent : (run.project row.columns).consistent = true) :
    Tables.Kept { t with
      runEvents := t.runEvents ++ [row]
      runs := t.runs.insert row.columns.runId (run.project row.columns) } := by
  have hRun := hKept.runs row.columns.runId run hStored.found
  simp only [RunRow.checked, Bool.and_eq_true, decide_eq_true_eq] at hRun
  have hKnown : ∀ runId, (t.runs.lookup runId).isSome = true →
      ((t.runs.insert row.columns.runId (run.project row.columns)).lookup runId).isSome = true := by
    intro runId hSome
    by_cases hRunId : runId = row.columns.runId
    · rw [hRunId, lookup_insert]
      rfl
    · rwa [lookup_insert_ne hRunId]
  constructor
  · apply hKept.runs.insert
    simp only [RunRow.checked, Bool.and_eq_true, decide_eq_true_eq]
    exact ⟨⟨⟨hRun.1.1.1, lt_of_lt_of_le hRun.1.1.2 (le_max_left _ _)⟩, hRun.1.2⟩, hConsistent⟩
  · exact hKept.idempotencyKeys.replace hStored.found rfl
  · intro event hEvent
    rcases mem_append.mp hEvent with hOld | hNew
    · obtain ⟨hChecked, hSome⟩ := hKept.events event hOld
      exact ⟨hChecked, hKnown _ hSome⟩
    · rw [mem_singleton.mp hNew]
      refine ⟨hStored.checked, ?_⟩
      rw [lookup_insert]
      rfl
  · rw [map_append, nodup_append']
    refine ⟨hKept.eventIds, nodup_singleton _, ?_⟩
    intro eventId hOld hNew
    obtain ⟨other, hOther, rfl⟩ := mem_map.mp hOld
    exact hStored.eventId other hOther (by simpa using hNew)
  · rw [map_append, nodup_append']
    refine ⟨hKept.sequences, nodup_singleton _, ?_⟩
    intro key hOld hNew
    obtain ⟨other, hOther, rfl⟩ := mem_map.mp hOld
    have hFresh := hStored.fresh
    unfold Tables.eventAt at hFresh
    rw [List.find?_eq_none] at hFresh
    exact hFresh other hOther (by simpa using hNew)
  · exact hKept.approvals.imp fun _ _ hRow => ⟨hRow.1, eventKey_append hRow.2.1,
      eventKey_append hRow.2.2.1, eventKey_append hRow.2.2.2⟩
  · exact hKept.artifacts.imp fun _ _ hRow => ⟨hRow.1, eventKey_append hRow.2⟩
  · exact hKept.checkpoints.imp fun _ _ hRow => ⟨hRow.1, eventKey_append hRow.2⟩
  · exact hKept.mutations.imp fun _ _ hRow => ⟨hRow.1, eventKey_append hRow.2.1, eventKey_append hRow.2.2⟩
  · exact hKept.mutationKeys

theorem appendEventBody_cases {codec : Codec S} {processId sequence outcome}
    (h : appendEventBody codec processId env sequence t = .ok outcome t') :
    ∃ run row tables, row = eventRow codec
        ((t.eventAt env.runId (sequence - 1)).bind (·.eventHash)) processId env ∧
      Stored t run row ∧ (run.project row.columns).consistent = true ∧
      tables = { t with
        runEvents := t.runEvents ++ [row]
        runs := t.runs.insert row.columns.runId (run.project row.columns) } ∧
      applyProjection codec env (deriveEventEffects env.event).projection tables = .ok () t' := by
  simp only [appendEventBody, bind_eq_done, pureBody_eq_ok] at h
  obtain ⟨_, _, ⟨rfl, rfl⟩, admitted, _, ⟨hAdmitted, rfl⟩, _, tables, hInsert, _, _, hProject, _, rfl⟩ := h
  have hPrevious : admitted.2 = (t.eventAt env.runId (sequence - 1)).bind (·.eventHash) := by
    simp only [admitEvent, bind_eq_ok] at hAdmitted
    obtain ⟨run, -, hAdmitted⟩ := hAdmitted
    cases hTerminal : run.terminalSequence with
    | some terminalSequence => simp [hTerminal] at hAdmitted
    | none =>
      simp only [hTerminal, bind_eq_ok, refuseIf_eq_ok, exists_const, pure_eq_ok] at hAdmitted
      obtain ⟨-, -, -, _, -, rfl⟩ := hAdmitted
      rfl
  rw [hPrevious] at hInsert
  simp only [insertRunEvent, bind_eq_done, pureBody_eq_ok, write_eq_ok, require_eq_ok] at hInsert
  obtain ⟨_, _, ⟨rfl, rfl⟩, run, _, ⟨hChecked, rfl⟩, _, _, rfl, _, _, ⟨hConsistent, rfl⟩, rfl⟩ := hInsert
  exact ⟨run, _, _, rfl, checkEventRow_stored hChecked, by simpa using hConsistent, rfl, hProject⟩

theorem Stored.occurred {codec : Codec S} {previous processId run}
    (h : Stored t run (eventRow codec previous processId env)) : 0 < env.occurredAtMs := by
  have hChecked := h.checked
  simp only [EventRow.checked, Bool.and_eq_true, decide_eq_true_eq] at hChecked
  exact Int.natCast_pos.mp hChecked.1.1.1.2

theorem Tables.Kept.appendEvent (hKept : t.Kept) {codec : Codec S} {processId sequence outcome}
    (h : appendEventBody codec processId env sequence t = .ok outcome t') : t'.Kept := by
  obtain ⟨run, row, tables, rfl, hStored, hConsistent, rfl, hProject⟩ := appendEventBody_cases h
  exact (hKept.insertRunEvent hStored hConsistent).applyProjection codec hStored.occurred hProject

theorem Tables.Kept.submitRun (hKept : t.Kept) {codec spec createdAtMs maxEventCount} {outcome : SubmitRunOutcome S}
    (h : submitRunBody codec spec createdAtMs maxEventCount t = .ok outcome t') : t'.Kept := by
  rcases submitRunBody_ok h with rfl | ⟨hFree, hCreated, hMax, hUnique, rfl⟩
  · exact hKept
  · refine { hKept with
      runs := hKept.runs.insert ?_
      idempotencyKeys := hKept.idempotencyKeys.insert fun other found value hFound hValue hOther => ?_
      events := fun row hRow => ?_ }
    · simp [RunRow.checked, RunRow.consistent, hCreated, hMax, RunStatus.isTerminal]
    · have hSame : found.idempotencyKey = spec.idempotencyKey := Option.some.inj (hOther.trans hValue.symm)
      exact absurd hSame (hUnique ⟨other, found⟩ (mem_lookup_iff.mp hFound))
    · obtain ⟨hChecked, hSome⟩ := hKept.events row hRow
      have hRunId : row.columns.runId ≠ spec.runId := by
        intro hSame
        rw [hSame, hFree] at hSome
        cases hSome
      exact ⟨hChecked, by rwa [lookup_insert_ne hRunId]⟩

end

variable {S : Snapshots}

theorem kept_after {codec : Codec S} {session : Session} (hKept : session.tables.Kept)
    (call : Call S) : (session.after codec call).tables.Kept := by
  have hPerformed := session.performed codec call
  generalize session.after codec call = next at hPerformed ⊢
  cases hPerformed with
  | refused => exact hKept
  | submitted hBody => exact hKept.submitRun hBody
  | appended _ hBody => exact hKept.appendEvent hBody

theorem kept_play (codec : Codec S) (calls : List (Call S)) : (play codec calls).tables.Kept := by
  induction calls using List.reverseRecOn with
  | nil => exact kept_empty
  | append_singleton calls call ih =>
    rw [play, foldl_append]
    exact kept_after ih call

/-! ## The chain of a run -/

section

variable {ρ : Type} (sequence : ρ → Nat) (processId : ρ → Option String) (hash : ρ → String)

def walked (rows : List ρ) : ChainWalk where
  coveredFrom := rows.head?.map sequence
  coveredThrough := rows.getLast?.map sequence
  eventsSeen := rows.length
  eventsNamingAProcess := rows.countP fun row => (processId row).isSome
  expectedPrevious := rows.getLast?.map hash

theorem walked_snoc (rows : List ρ) (row : ρ) : walked sequence processId hash (rows ++ [row]) =
      ((walked sequence processId hash rows).see (processId row)).cover (sequence row)
        (hash row) := by
  have hFirst : (rows ++ [row]).head?.map sequence = (rows.head?.map sequence).or (some (sequence row)) := by
    cases rows <;> rfl
  simp only [walked, ChainWalk.see, ChainWalk.cover, hFirst, List.getLast?_concat, map_some,
    length_append, length_singleton, countP_append, countP_singleton]

end

section

variable {sha : Bytes → String}

def EventRow.hash (sha : Bytes → String) (row : EventRow) : String := eventChainHash sha row.columns

structure ChainedEvents (sha : Bytes → String) (rows : List EventRow) : Prop where
  hashed : ∀ row ∈ rows, row.Hashed sha
  grown : HashChain.Grown (EventRow.hash sha) (·.columns.previous) rows

def walkedEvents (sha : Bytes → String) (rows : List EventRow) : ChainWalk :=
  walked (·.columns.sequence) (·.columns.processId) (EventRow.hash sha) rows

theorem verifyEventRow_of_linked {rows row} (hHashed : row.Hashed sha)
    (hPrevious : row.columns.previous = rows.getLast?.map (EventRow.hash sha)) :
    verifyEventRow sha (walkedEvents sha rows) row = .ok (walkedEvents sha (rows ++ [row])) := by
  have hHash : row.eventHash = some (row.hash sha) := hHashed
  have hExpected : (walkedEvents sha rows).expectedPrevious = row.columns.previous := hPrevious.symm
  have hSnoc : walkedEvents sha (rows ++ [row]) = ((walkedEvents sha rows).see
      row.columns.processId).cover row.columns.sequence (row.hash sha) := walked_snoc ..
  unfold verifyEventRow
  rw [hHash, hExpected, hSnoc]
  simp [EventRow.hash]

theorem ChainedEvents.verified {rows} (h : ChainedEvents sha rows) :
    rows.foldlM (verifyEventRow sha) ChainWalk.start = .ok (walkedEvents sha rows) := by
  obtain ⟨hHashed, hGrown⟩ := h
  induction hGrown with
  | nil => rfl
  | snoc hGrown hPrevious ih =>
    rename_i rows row
    rw [foldlM_append, ih fun r hr => hHashed r (mem_append_left _ hr)]
    change ([row].foldlM (verifyEventRow sha) (walkedEvents sha rows)) = _
    rw [foldlM_cons, verifyEventRow_of_linked (hHashed row (by simp)) hPrevious]
    rfl

theorem Tables.eventAt_last {t : Tables} {runId n}
    (h : (t.eventsOf runId).map (·.columns.sequence) = List.range' 1 n) :
    t.eventAt runId n = (t.eventsOf runId).getLast? := by
  have hAt : t.eventAt runId n = (t.eventsOf runId).find? fun row => row.columns.sequence == n := by
    rw [Tables.eventsOf, List.find?_filter, Tables.eventAt]
    congr 1
    funext row
    rw [Bool.decide_and, Bool.decide_eq_true, Bool.decide_eq_true]
  rw [hAt]
  rcases eq_nil_or_concat (t.eventsOf runId) with hNil | ⟨earlier, last, hSnoc⟩
  · rw [hNil]
    rfl
  · rw [concat_eq_append] at hSnoc
    rw [hSnoc] at h ⊢
    cases n with
    | zero => simp at h
    | succ m =>
      rw [List.range'_concat, map_append, map_singleton] at h
      obtain ⟨hEarlier, hLast⟩ := append_inj' h rfl
      have hNumber : last.columns.sequence = m + 1 := by
        have hOne := singleton_inj.mp hLast
        omega
      have hNone : earlier.find? (fun row => row.columns.sequence == m + 1) = none := by
        rw [List.find?_eq_none]
        intro row hRow hSame
        have hMem : row.columns.sequence ∈ List.range' 1 m := hEarlier ▸ mem_map_of_mem hRow
        rw [mem_range'_1] at hMem
        have hEq : row.columns.sequence = m + 1 := by simpa using hSame
        omega
      rw [List.find?_append, hNone, none_or, List.find?_cons_of_pos (by simp [hNumber]),
        List.getLast?_concat]

theorem ChainedEvents.snoc {rows row} (h : ChainedEvents sha rows)
    (hHashed : row.Hashed sha) (hPrevious : row.columns.previous = rows.getLast?.bind (·.eventHash)) :
    ChainedEvents sha (rows ++ [row]) := by
  have hLast : rows.getLast?.bind (·.eventHash) = rows.getLast?.map (EventRow.hash sha) := by
    cases hLast : rows.getLast? with
    | none => rfl
    | some last => exact h.hashed last (mem_of_getLast? hLast)
  constructor
  · intro other hOther
    rcases mem_append.mp hOther with hOld | hNew
    · exact h.hashed other hOld
    · rw [mem_singleton.mp hNew]
      exact hHashed
  · exact .snoc h.grown (hPrevious.trans hLast)

theorem sequence_of_arguments {env sequence}
    (h : appendEventArguments env = .ok sequence) : sequence = env.sequence := by
  simp only [appendEventArguments, bind_eq_ok, pure_eq_ok] at h
  obtain ⟨_, _, _, hSequence, _, _, rfl⟩ := h
  exact toSqlI64_ok hSequence

theorem chained_after {S : Snapshots} {codec session} (hCoherent : Coherent codec session)
    (h : ∀ runId, ChainedEvents codec.sha (session.tables.eventsOf runId)) (call : Call S) :
    ∀ runId, ChainedEvents codec.sha ((session.after codec call).tables.eventsOf runId) := by
  have hPerformed := session.performed codec call
  generalize session.after codec call = next at hPerformed ⊢
  cases hPerformed with
  | refused => exact h
  | submitted hBody =>
    rcases submitRunBody_ok hBody with rfl | ⟨-, -, -, -, rfl⟩
    · exact h
    · exact h
  | @appended _ env sequence _ _ hArguments hBody =>
    obtain ⟨run, row, tables, hRow, hStored, _, rfl, hProject⟩ := appendEventBody_cases hBody
    have hEvents := (applyProjection_ok codec hProject).runEvents
    have hRunId : row.columns.runId = env.runId := by rw [hRow]; rfl
    intro runId
    rw [Tables.eventsOf, hEvents, filter_append]
    by_cases hRun : row.columns.runId = runId
    · subst hRun
      rw [filter_cons_of_pos (by simp)]
      have hNumbered := (hCoherent.runWellFormed hStored.found).numbered
      have hLast := Tables.eventAt_last hNumbered
      have hSequence : sequence - 1 = run.lastSequence := by
        have hNext : row.columns.sequence = run.lastSequence + 1 := hStored.sequence
        have hSame : row.columns.sequence = env.sequence := by rw [hRow]; rfl
        have hArgument := sequence_of_arguments hArguments
        omega
      apply (h row.columns.runId).snoc
      · rw [hRow]
        rfl
      · rw [← hLast, ← hSequence, hRow]
        rfl
    · rw [filter_cons_of_neg (by simp [hRun]), filter_nil, append_nil]
      exact h runId

theorem chained_play {S} (codec : Codec S) (calls : List (Call S)) (runId : String) :
    ChainedEvents codec.sha ((play codec calls).tables.eventsOf runId) := by
  induction calls using List.reverseRecOn generalizing runId with
  | nil => exact ⟨nofun, .nil⟩
  | append_singleton calls call ih =>
    rw [play, foldl_append]
    exact chained_after (coherent_play codec calls) ih call runId

/-! ## The subsystem stream -/

structure StreamKept (sha : Bytes → String) (rows : List SubsystemRow) : Prop where
  hashed : ∀ row ∈ rows, row.eventHash = subsystemChainHash sha row.columns
  grown : HashChain.Grown SubsystemRow.eventHash (·.columns.previous) rows
  increasing : rows.Pairwise fun a b => a.sequence < b.sequence
  checked : ∀ row ∈ rows, row.checked = true
  eventIds : (rows.map (·.columns.eventId)).Nodup

theorem StreamKept.ordered {rows} (h : StreamKept sha rows) : orderBy (·.sequence) rows = rows :=
  orderBy_eq_self _ (h.increasing.imp fun hab => Nat.le_of_lt hab)

theorem streamKept_empty : StreamKept sha [] where
  hashed _ hRow := absurd hRow not_mem_nil
  grown := .nil
  increasing := .nil
  checked _ hRow := absurd hRow not_mem_nil
  eventIds := nodup_nil

theorem StreamKept.lt_counter {rows} (h : StreamKept sha rows) {row} (hRow : row ∈ rows) :
    row.sequence < (rows.getLast?.map (·.sequence)).getD 0 + 1 := by
  rcases eq_nil_or_concat rows with rfl | ⟨earlier, last, rfl⟩
  · exact absurd hRow not_mem_nil
  · rw [concat_eq_append] at hRow h ⊢
    rw [List.getLast?_concat, map_some, getD_some]
    rcases mem_append.mp hRow with hOld | hNew
    · have hLt := (pairwise_append.mp h.increasing).2.2 row hOld last (by simp)
      omega
    · rw [mem_singleton.mp hNew]
      exact Nat.lt_succ_self _

theorem StreamKept.append {rows rows' event sequence} (h : StreamKept sha rows)
    (hAppend : appendSubsystemEventBody sha event rows = .ok sequence rows') : StreamKept sha rows' := by
  have hTail : streamTail rows = rows.getLast? := by rw [streamTail, h.ordered]
  simp only [appendSubsystemEventBody, insertSubsystemEvent, bind_eq_done, read_eq_ok,
    pureBody_eq_ok, require_eq_ok, write_eq_ok, hTail] at hAppend
  obtain ⟨_, _, ⟨rfl, rfl⟩, _, _, ⟨_, rfl⟩, _, _, ⟨rfl, rfl⟩, _, _, ⟨_, rfl⟩, _, _, ⟨_, rfl⟩, _, _,
    ⟨hChecked, rfl⟩, _, _, ⟨rfl, rfl⟩, _, _, ⟨hTaken, rfl⟩, _, _, rfl, _, rfl⟩ := hAppend
  constructor
  · intro row hRow
    rcases mem_append.mp hRow with hOld | hNew
    · exact h.hashed row hOld
    · rw [mem_singleton.mp hNew]
  · exact .snoc h.grown rfl
  · rw [pairwise_append]
    refine ⟨h.increasing, pairwise_singleton _ _, ?_⟩
    intro row hRow new hNew
    rw [mem_singleton.mp hNew]
    have hCounter := h.lt_counter hRow
    rw [← hTail] at hCounter
    exact hCounter
  · intro row hRow
    rcases mem_append.mp hRow with hOld | hNew
    · exact h.checked row hOld
    · rw [mem_singleton.mp hNew]
      simpa using hChecked
  · rw [map_append, nodup_append']
    refine ⟨h.eventIds, nodup_singleton _, ?_⟩
    intro eventId hOld hNew
    obtain ⟨other, hOther, rfl⟩ := List.mem_map.mp hOld
    rw [List.any_eq_false] at hTaken
    exact hTaken other hOther (by simpa using hNew)

def walkedStream (rows : List SubsystemRow) : ChainWalk :=
  walked SubsystemRow.sequence (·.columns.processId) SubsystemRow.eventHash rows

theorem verifySubsystemRow_of_linked {rows row} (hHashed : row.eventHash = subsystemChainHash sha row.columns)
    (hPrevious : row.columns.previous = rows.getLast?.map SubsystemRow.eventHash) :
    verifySubsystemRow sha (walkedStream rows) row = .ok (walkedStream (rows ++ [row])) := by
  have hExpected : (walkedStream rows).expectedPrevious = row.columns.previous := hPrevious.symm
  have hSnoc : walkedStream (rows ++ [row]) =
      ((walkedStream rows).see row.columns.processId).cover row.sequence row.eventHash := walked_snoc ..
  unfold verifySubsystemRow
  rw [hExpected, hSnoc, hHashed]
  simp

theorem StreamKept.verified {rows} (h : StreamKept sha rows) :
    rows.foldlM (verifySubsystemRow sha) ChainWalk.start = .ok (walkedStream rows) := by
  have hGrown := h.grown
  have hHashed := h.hashed
  clear h
  induction hGrown with
  | nil => rfl
  | snoc hGrown hPrevious ih =>
    rename_i rows row
    rw [foldlM_append, ih fun r hr => hHashed r (mem_append_left _ hr)]
    change ([row].foldlM (verifySubsystemRow sha) (walkedStream rows)) = _
    rw [foldlM_cons, verifySubsystemRow_of_linked (hHashed row (by simp)) hPrevious]
    rfl

end

/-! ## Integrity -/

theorem repeated_eq_nil {κ : Type} [DecidableEq κ] {keys : List κ} (h : keys.Nodup) : repeated keys = [] := by
  induction keys with
  | nil => rfl
  | cons key keys ih =>
    obtain ⟨hFresh, hRest⟩ := nodup_cons.mp h
    rw [repeated, if_neg hFresh, ih hRest]

theorem nonUnique_eq_nil {κ : Type} [DecidableEq κ] {keys : List κ} (index : String)
    (h : keys.Nodup) : nonUnique index keys = [] := by
  rw [nonUnique, repeated_eq_nil h, map_nil]

theorem filter_not_eq_nil {ρ : Type} {p : ρ → Bool} {rows : List ρ} (h : ∀ row ∈ rows, p row = true) :
    rows.filter (!p ·) = [] := by
  rw [filter_eq_nil_iff]
  intro row hRow
  simp [h row hRow]

theorem failedChecks_eq_nil {ρ : Type} {checked : ρ → Bool} {rows : List ρ} (table : String)
    (h : ∀ row ∈ rows, checked row = true) : failedChecks table checked rows = [] := by
  rw [failedChecks, filter_not_eq_nil h, map_nil]

theorem brokenKeys_eq_nil {ρ : Type} {holds : ρ → Bool} {rows : List ρ} (table parent : String)
    (fk : Nat) (h : ∀ row ∈ rows, holds row = true) : brokenKeys table parent fk holds rows = [] := by
  rw [brokenKeys, filter_not_eq_nil h, map_nil]

theorem constraintViolations_eq_nil {sha : Bytes → String} {db : Database}
    (hKept : db.tables.Kept) (hStream : StreamKept sha db.subsystemEvents) :
    db.constraintViolations = [] := by
  have hRunKeys : (db.tables.runs.entries.map (·.2.idempotencyKey)).Nodup := by
    have hNodup := hKept.idempotencyKeys.nodup
    rwa [filterMap_eq_map'] at hNodup
  have hSequences : (db.subsystemEvents.map (·.sequence)).Nodup :=
    pairwise_map.mpr (hStream.increasing.imp Nat.ne_of_lt)
  dsimp only [Database.constraintViolations]
  rw [failedChecks_eq_nil _ hKept.runs.entries, nonUnique_eq_nil _ hRunKeys,
    failedChecks_eq_nil _ fun row hRow => (hKept.events row hRow).1,
    nonUnique_eq_nil _ hKept.eventIds, nonUnique_eq_nil _ hKept.sequences,
    failedChecks_eq_nil _ fun entry hEntry => (hKept.approvals.entries entry hEntry).1,
    failedChecks_eq_nil _ fun entry hEntry => (hKept.artifacts.entries entry hEntry).1,
    failedChecks_eq_nil _ fun entry hEntry => (hKept.checkpoints.entries entry hEntry).1,
    failedChecks_eq_nil _ fun entry hEntry => (hKept.mutations.entries entry hEntry).1,
    nonUnique_eq_nil _ hKept.mutationKeys.nodup, failedChecks_eq_nil _ hStream.checked,
    nonUnique_eq_nil _ hSequences, nonUnique_eq_nil _ hStream.eventIds]
  rfl

theorem foreignKeyViolations_eq_nil {t : Tables} (hKept : t.Kept) : t.foreignKeyViolations = [] := by
  unfold Tables.foreignKeyViolations
  rw [brokenKeys_eq_nil _ _ _ fun row hRow => (hKept.events row hRow).2,
    brokenKeys_eq_nil _ _ _ fun entry hEntry => (hKept.approvals.entries entry hEntry).2.1,
    brokenKeys_eq_nil _ _ _ fun entry hEntry => (hKept.approvals.entries entry hEntry).2.2.1,
    brokenKeys_eq_nil _ _ _ fun entry hEntry => (hKept.approvals.entries entry hEntry).2.2.2,
    brokenKeys_eq_nil _ _ _ fun entry hEntry => (hKept.artifacts.entries entry hEntry).2,
    brokenKeys_eq_nil _ _ _ fun entry hEntry => (hKept.checkpoints.entries entry hEntry).2,
    brokenKeys_eq_nil _ _ _ fun entry hEntry => (hKept.mutations.entries entry hEntry).2.1,
    brokenKeys_eq_nil _ _ _ fun entry hEntry => (hKept.mutations.entries entry hEntry).2.2]
  rfl

section

variable {codec : Codec S} {session : Session} {runId : String} {row : RunRow}

theorem max?_range'_one (n : Nat) : (List.range' 1 (n + 1)).max? = some (n + 1) := by
  rw [List.max?_eq_some_iff]
  constructor
  · rw [mem_range'_1]
    omega
  · intro a ha
    rw [mem_range'_1] at ha
    omega

theorem min?_range'_one (n : Nat) : (List.range' 1 (n + 1)).min? = some 1 := by
  rw [List.min?_eq_some_iff]
  constructor
  · rw [mem_range'_1]
    omega
  · intro a ha
    rw [mem_range'_1] at ha
    omega

section

variable (h : RunWellFormed codec session runId row)

include h

theorem RunWellFormed.length : (session.tables.eventsOf runId).length = row.lastSequence := by
  have hLength := congrArg List.length h.numbered
  rwa [length_map, length_range'] at hLength

theorem RunWellFormed.maxSequence_getD :
    (maxSequence (session.tables.eventsOf runId)).getD 0 = row.lastSequence := by
  rw [maxSequence, h.numbered]
  cases hLast : row.lastSequence with
  | zero => rfl
  | succ n => rw [max?_range'_one, getD_some]

theorem RunWellFormed.sequenceGap (hEvents : session.tables.eventsOf runId ≠ []) :
    sequenceGap (session.tables.eventsOf runId) = false := by
  have hLength := h.length
  rw [Ledger.sequenceGap, maxSequence, minSequence, h.numbered, hLength]
  cases hLast : row.lastSequence with
  | zero =>
    rw [hLast] at hLength
    exact absurd (length_eq_zero_iff.mp hLength) hEvents
  | succ n =>
    rw [max?_range'_one, min?_range'_one]
    simp

theorem RunWellFormed.terminalViolated : terminalViolated (session.tables.eventsOf runId) = false := by
  have hMax := h.maxSequence_getD
  have hOnce := h.terminalOnce
  have hLast := h.terminalLast
  unfold Ledger.terminalViolated
  simp only [hMax, Bool.or_eq_false_iff, decide_eq_false_iff_not, Nat.not_lt]
  refine ⟨hOnce, ?_⟩
  match hTerminal : (session.tables.eventsOf runId).filter (·.columns.isTerminal) with
  | [] =>
    rw [hTerminal]
    exact hMax.ge
  | [event] =>
    have hMem : event ∈ (session.tables.eventsOf runId).filter (·.columns.isTerminal) := by
      rw [hTerminal]
      exact mem_singleton_self event
    obtain ⟨hEvent, hYes⟩ := mem_filter.mp hMem
    rw [hTerminal]
    exact (hLast event hEvent hYes).ge
  | _ :: _ :: _ =>
    rw [hTerminal] at hOnce
    simp at hOnce

end

theorem ruleViolations_eq_nil (hCoherent : Coherent codec session) (hKept : session.tables.Kept) :
    session.tables.ruleViolations = [] := by
  have hRun : ∀ entry ∈ session.tables.runs.entries,
      RunWellFormed codec session entry.1 entry.2 := fun entry hEntry =>
    hCoherent.runWellFormed (mem_lookup_iff.mpr hEntry)
  have hGroup : ∀ runId ∈ session.tables.eventRuns, ∃ row, RunWellFormed codec session runId row ∧
      session.tables.eventsOf runId ≠ [] := by
    intro runId hRunId
    obtain ⟨event, hEvent, rfl⟩ := mem_map.mp (mem_dedup.mp hRunId)
    obtain ⟨row, hRow⟩ := isSome_iff_exists.mp (hKept.events event hEvent).2
    refine ⟨row, hCoherent.runWellFormed hRow, ne_nil_of_mem (a := event) ?_⟩
    exact mem_filter.mpr ⟨hEvent, by simp⟩
  have hLast : session.tables.runs.entries.filter (fun entry => entry.2.lastSequence !=
      (maxSequence (session.tables.eventsOf entry.1)).getD 0) = [] := by
    rw [filter_eq_nil_iff]
    intro entry hEntry
    simp [(hRun entry hEntry).maxSequence_getD]
  have hGap : session.tables.eventRuns.filter (fun runId =>
      sequenceGap (session.tables.eventsOf runId)) = [] := by
    rw [filter_eq_nil_iff]
    intro runId hRunId
    obtain ⟨row, hWell, hEvents⟩ := hGroup runId hRunId
    simp [hWell.sequenceGap hEvents]
  have hTerminal : session.tables.eventRuns.filter (fun runId =>
      terminalViolated (session.tables.eventsOf runId)) = [] := by
    rw [filter_eq_nil_iff]
    intro runId hRunId
    obtain ⟨row, hWell, _⟩ := hGroup runId hRunId
    simp [hWell.terminalViolated]
  have hStatus : session.tables.runs.entries.filter (fun entry =>
      entry.2.terminalSequence.isSome != entry.2.status.isTerminal) = [] := by
    rw [filter_eq_nil_iff]
    intro entry hEntry
    have hChecked := hKept.runs.entries entry hEntry
    simp only [RunRow.checked, RunRow.consistent, Bool.and_eq_true, beq_iff_eq] at hChecked
    simp [hChecked.2.2]
  unfold Tables.ruleViolations
  rw [hLast, hGap, hTerminal, hStatus]
  rfl

end

/-! ## Histories -/

inductive Request (S : Snapshots)
  | ledger (call : Call S)
  | subsystem (event : SubsystemEvent)

def Database.after (codec : Codec S) (db : Database) : Request S → Database
  | .ledger call => { db with tables := (call.perform codec db.tables).2 }
  | .subsystem event =>
    { db with subsystemEvents := (appendSubsystemEvent codec.sha event db.subsystemEvents).2 }

def serve (codec : Codec S) (reqs : List (Request S)) : Database :=
  reqs.foldl (Database.after codec) .empty

def Request.call? : Request S → Option (Call S)
  | .ledger call => some call
  | .subsystem _ => none

theorem tables_serve (codec : Codec S) (reqs : List (Request S)) :
    (serve codec reqs).tables = (play codec (reqs.filterMap Request.call?)).tables := by
  induction reqs using List.reverseRecOn with
  | nil => rfl
  | append_singleton reqs request ih =>
    rw [serve, foldl_append, filterMap_append]
    cases request with
    | ledger call =>
      have hPlay : play codec (reqs.filterMap Request.call? ++ [call]) =
          (play codec (reqs.filterMap Request.call?)).after codec call := foldl_append
      change (call.perform codec (serve codec reqs).tables).2 =
        (play codec (reqs.filterMap Request.call? ++ [call])).tables
      rw [ih, hPlay]
      rfl
    | subsystem event =>
      change (serve codec reqs).tables = (play codec (reqs.filterMap Request.call? ++ [])).tables
      rw [ih, append_nil]

theorem streamKept_serve (codec : Codec S) (reqs : List (Request S)) :
    StreamKept codec.sha (serve codec reqs).subsystemEvents := by
  induction reqs using List.reverseRecOn with
  | nil => exact streamKept_empty
  | append_singleton reqs request ih =>
    rw [serve, foldl_append]
    cases request with
    | ledger call => exact ih
    | subsystem event =>
      change StreamKept codec.sha
        (appendSubsystemEvent codec.sha event (serve codec reqs).subsystemEvents).2
      cases hDone : (appendSubsystemEvent codec.sha event
          (serve codec reqs).subsystemEvents).1 with
      | error e =>
        rw [appendSubsystemEvent, guarded_refused hDone]
        exact ih
      | ok sequence =>
        obtain ⟨_, _, hBody⟩ := guarded_ok hDone
        exact ih.append hBody

def covered (n : Nat) : Option Nat × Option Nat := if n = 0 then (none, none) else (some 1, some n)

theorem covered_eq_ends (n : Nat) : covered n = ((List.range' 1 n).head?, (List.range' 1 n).getLast?) := by
  cases n with
  | zero => rfl
  | succ n =>
    have hLast : (List.range' 1 (n + 1)).getLast? = some (n + 1) := by
      rw [List.range'_concat, List.getLast?_concat]
      congr 1
      omega
    rw [hLast]
    rfl

theorem verifyRunChain_serve (codec : Codec S) (reqs : List (Request S)) {runId row} (hRow : (serve codec reqs).tables.runs.lookup runId = some row)
    {events} (hEvents : (serve codec reqs).tables.eventsOf runId = events) :
    (serve codec reqs).verifyRunChain codec.sha runId =
      .ok (.intact (covered events.length).1 (covered events.length).2 events.length
        (events.countP (·.columns.processId.isSome))) := by
  rw [tables_serve] at hRow
  have hWell := (coherent_play codec (reqs.filterMap Request.call?)).runWellFormed hRow
  have hChained := chained_play codec (reqs.filterMap Request.call?) runId
  rw [← tables_serve] at hRow hChained
  have hNumbered : events.map (·.columns.sequence) = List.range' 1 row.lastSequence := by
    rw [← hWell.numbered, ← tables_serve, hEvents]
  rw [hEvents] at hChained
  have hLength : events.length = row.lastSequence := by
    have hCount := congrArg List.length hNumbered
    rwa [length_map, length_range'] at hCount
  have hOrdered : orderBy (·.columns.sequence) events = events := by
    apply orderBy_eq_self
    have hIncreasing : (events.map (·.columns.sequence)).Pairwise (· < ·) :=
      hNumbered ▸ pairwise_lt_range'
    exact (pairwise_map.mp hIncreasing).imp Nat.le_of_lt
  have hWalk : events.foldlM (verifyEventRow codec.sha) ChainWalk.start =
      .ok (walkedEvents codec.sha events) := hChained.verified
  have hCovered : covered events.length = (events.head?.map (·.columns.sequence),
      events.getLast?.map (·.columns.sequence)) := by
    rw [← List.head?_map, ← List.getLast?_map, hNumbered, hLength, covered_eq_ends]
  have hSeen : ¬ (walkedEvents codec.sha events).eventsSeen < row.lastSequence := by
    rw [← hLength]
    exact lt_irrefl _
  simp only [Database.verifyRunChain, hRow, hEvents, hOrdered, hWalk, if_neg hSeen, hCovered]
  rfl

structure Database.Verified (sha : Bytes → String) (db : Database) : Prop where
  /-- A run with `n` events is intact and covered from 1 to `n`. -/
  runs : ∀ runId, (db.tables.runs.lookup runId).isSome = true → ∃ naming,
    db.verifyRunChain sha runId = .ok (.intact (covered (db.tables.eventsOf runId).length).1
      (covered (db.tables.eventsOf runId).length).2 (db.tables.eventsOf runId).length naming)
  stream : ∃ coveredFrom coveredThrough naming, db.verifySubsystemChain sha =
    .intact coveredFrom coveredThrough db.subsystemEvents.length naming
  integrity : db.integrityCheck = []

theorem writers_and_verifiers_agree (codec : Codec S) (reqs : List (Request S)) :
    (serve codec reqs).Verified codec.sha := by
  have hStream := streamKept_serve codec reqs
  have hKept := kept_play codec (reqs.filterMap Request.call?)
  have hRules := ruleViolations_eq_nil (coherent_play codec (reqs.filterMap Request.call?)) hKept
  rw [← tables_serve] at hKept hRules
  constructor
  · intro runId hRun
    obtain ⟨row, hRow⟩ := isSome_iff_exists.mp hRun
    exact ⟨_, verifyRunChain_serve codec reqs hRow rfl⟩
  · have hVerdict : (serve codec reqs).verifySubsystemChain codec.sha =
        let walk := walkedStream (serve codec reqs).subsystemEvents
        .intact walk.coveredFrom walk.coveredThrough walk.eventsSeen walk.eventsNamingAProcess := by
      rw [Database.verifySubsystemChain, hStream.ordered, hStream.verified]
    exact ⟨_, _, _, hVerdict⟩
  · rw [Database.integrityCheck, constraintViolations_eq_nil hKept hStream,
      foreignKeyViolations_eq_nil hKept, hRules]
    rfl

end LittleMonkey.Ledger
