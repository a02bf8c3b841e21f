import LittleMonkey.Ledger.Store
import LittleMonkey.Lib.Lists

/-! # Well-formed ledgers

Every sequence of calls, accepted or refused, leaves the tables a projection of
the accepted events: each run is numbered without gaps, closed by its terminal
event, and its status, approvals and external mutations are what its events say.
-/

namespace LittleMonkey.Ledger

open Guards Lists Primitives Transaction List AList

/-! ## What the events of a run say -/

inductive ApprovalStep
  | requested (op : String)
  | decided (op : String) (decision : PermissionDecision)

def RunEvent.approvalStep (rid : String) : RunEvent → Option ApprovalStep
  | .permissionRequested id _ _ op _ _ _ _ =>
    if id = rid then some (.requested op) else none
  | .permissionDecided id op decision _ =>
    if id = rid then some (.decided op decision) else none
  | _ => none

def RunEvent.mutationStep (mid : String) : RunEvent → Option ExternalMutationState
  | .externalMutationPrepared id _ _ _ _ => if id = mid then some .pending else none
  | .externalMutationConfirmed id _ _ => if id = mid then some .confirmed else none
  | .needsReconciliation id _ => if id = mid then some .needsReconciliation else none
  | _ => none

def statusAfter (journal : List RunEventEnvelope) : RunStatus :=
  journal.foldl (fun status env => (deriveEventEffects env.event).status.getD status)
    .queued

/-- An approval row is requested once and decided at most once, both for the
digest it stores. -/
def ApprovalRow.past (row : ApprovalRow) : List ApprovalStep :=
  .requested row.operationSha256 :: (row.decision.map (.decided row.operationSha256)).toList

/-- A mutation row was pending and, unless it still is, is in one settled state. -/
def MutationRow.past (row : MutationRow) : List ExternalMutationState :=
  if row.state = .pending then [.pending] else [.pending, row.state]

def Tables.approvalHistory (tables : Tables) (runId rid : String) : List ApprovalStep :=
  history ApprovalRow.past tables.approvals runId rid

def Tables.mutationHistory (tables : Tables) (runId mid : String) :
    List ExternalMutationState :=
  history MutationRow.past tables.externalMutations runId mid

/-! ## Statements -/

section

variable {t t' : Tables} {u : Unit}
variable {key : String × String} {row : ApprovalRow}

theorem requireEvent_ok {runId sequence} (h : requireEvent runId sequence t = .ok u t') : t' = t := by
  simp only [requireEvent, bind_eq_done, read_eq_ok, require_eq_ok] at h
  obtain ⟨_, _, ⟨_, rfl⟩, _, rfl⟩ := h
  rfl

theorem insertApproval_ok (h : insertApproval key row t = .ok u t') :
    t.approvals.lookup key = none ∧ t' = { t with approvals := t.approvals.insert key row } := by
  simp only [insertApproval, bind_eq_done, read_eq_ok, require_eq_ok, write_eq_ok] at h
  obtain ⟨_, _, ⟨_, rfl⟩, _, _, ⟨_, rfl⟩, _, _, ⟨hTaken, rfl⟩, _, _, ⟨hFree, rfl⟩, _, _, hEvent, rfl⟩ := h
  rw [requireEvent_ok hEvent]
  subst hTaken
  exact ⟨Option.isSome_eq_false_iff.mp hFree |> Option.isNone_iff_eq_none.mp, rfl⟩

theorem updateApproval_ok {sequence} (h : updateApproval key row sequence t = .ok u t') :
    t' = { t with approvals := t.approvals.insert key row } := by
  simp only [updateApproval, bind_eq_done, write_eq_ok] at h
  obtain ⟨_, _, hEvent, rfl⟩ := h
  rw [requireEvent_ok hEvent]

theorem findApproval_ok
    (h : findApproval key t = .ok row t') : t.approvals.lookup key = some row ∧ t' = t := by
  simp only [findApproval, bind_eq_done, pureBody_eq_ok, okOr_eq_ok] at h
  obtain ⟨_, _, ⟨rfl, rfl⟩, hRow, rfl⟩ := h
  exact ⟨hRow, rfl⟩

theorem awaitApproval_ok {op expiresAtMs sequence}
    (h : awaitApproval key op expiresAtMs sequence t = .ok u t') :
    ∃ stored, t.approvals.lookup key = some stored ∧ t' = { t with
        approvals := t.approvals.insert key { stored with awaitingSequence := some sequence } } := by
  simp only [awaitApproval, bind_eq_done, require_eq_ok] at h
  obtain ⟨stored, _, hFound, _, _, ⟨_, rfl⟩, _, _, ⟨_, rfl⟩, _, _, ⟨_, rfl⟩, hUpdate⟩ := h
  obtain ⟨hStored, rfl⟩ := findApproval_ok hFound
  exact ⟨stored, hStored, updateApproval_ok hUpdate⟩

theorem decideApproval_ok {op decision decidedByJson sequence occurredAtMs}
    (h : decideApproval key op decision decidedByJson sequence occurredAtMs t = .ok u t') :
    ∃ existing row, t.approvals.lookup key = some existing ∧ existing.decision = none ∧
      existing.operationSha256 = op ∧
      row.decision = some decision ∧ row.operationSha256 = op ∧
      t' = { t with approvals := t.approvals.insert key row } := by
  simp only [decideApproval, bind_eq_done, require_eq_ok] at h
  obtain ⟨existing, _, hFound, _, _, ⟨hDigest, rfl⟩, _, _, ⟨hDecision, rfl⟩, hUpdate⟩ := h
  obtain ⟨hStored, rfl⟩ := findApproval_ok hFound
  have hSame : existing.operationSha256 = op := by simpa using hDigest
  cases hTiming : decisionTiming decision occurredAtMs existing.expiresAtMs with
  | some message => simp [hTiming] at hUpdate
  | none =>
    simp only [hTiming] at hUpdate
    refine ⟨existing, _, hStored, by simpa using hDecision, hSame, ?_, ?_, updateApproval_ok hUpdate⟩
    · rfl
    · exact hSame

theorem insertArtifact_ok {artifactId row} (h : insertArtifact artifactId row t = .ok u t') :
    t' = { t with artifacts := t.artifacts.insert artifactId row } := by
  simp only [insertArtifact, bind_eq_done, require_eq_ok, write_eq_ok] at h
  obtain ⟨_, _, ⟨_, rfl⟩, _, _, ⟨_, rfl⟩, _, _, ⟨_, rfl⟩, _, _, ⟨_, rfl⟩, _, _, hEvent, rfl⟩ := h
  rw [requireEvent_ok hEvent]

theorem insertCheckpoint_ok {checkpointId row} (h : insertCheckpoint checkpointId row t = .ok u t') :
    t' = { t with checkpoints := t.checkpoints.insert checkpointId row } := by
  simp only [insertCheckpoint, bind_eq_done, require_eq_ok, write_eq_ok] at h
  obtain ⟨_, _, ⟨_, rfl⟩, _, _, ⟨_, rfl⟩, _, _, ⟨_, rfl⟩, _, _, ⟨_, rfl⟩, _, _, hEvent, rfl⟩ := h
  rw [requireEvent_ok hEvent]

theorem insertMutation_ok {row} (h : insertMutation key row t = .ok u t') :
    t.externalMutations.lookup key = none ∧
      t' = { t with externalMutations := t.externalMutations.insert key row } := by
  simp only [insertMutation, bind_eq_done, require_eq_ok, write_eq_ok] at h
  obtain ⟨_, _, ⟨_, rfl⟩, _, _, ⟨rfl, rfl⟩, _, _, ⟨hFree, rfl⟩, _, _, ⟨_, rfl⟩, _, _, ⟨_, rfl⟩,
    _, _, hEvent, rfl⟩ := h
  rw [requireEvent_ok hEvent]
  exact ⟨by simpa using hFree, rfl⟩

theorem settleMutation_ok {settle} (h : settleMutation key settle t = .ok u t') :
    ∃ row, t.externalMutations.lookup key = some row ∧ row.state = .pending ∧
      t' = { t with externalMutations := t.externalMutations.insert key (settle row) } := by
  simp only [settleMutation, bind_eq_done] at h
  obtain ⟨_, _, ⟨rfl, rfl⟩, h⟩ := h
  cases hRow : (t.externalMutations.lookup key).filter (·.state == .pending) with
  | none => simp [hRow] at h
  | some row =>
    simp only [hRow, write_eq_ok] at h
    obtain ⟨hStored, hPending⟩ := Option.filter_eq_some_iff.mp hRow
    exact ⟨row, hStored, by simpa using hPending, h.symm⟩

end

variable {S : Snapshots}

/-! ## One accepted event -/

def Projection.approvalStep (rid : String) : Projection → Option ApprovalStep
  | .approvalRequested id _ _ op _ _ _ =>
    if id = rid then some (.requested op) else .none
  | .approvalDecided id op decision _ =>
    if id = rid then some (.decided op decision) else .none
  | _ => .none

def Projection.mutationStep (mid : String) : Projection → Option ExternalMutationState
  | .externalPrepared id _ _ _ _ => if id = mid then some .pending else .none
  | .externalConfirmed id _ _ => if id = mid then some .confirmed else .none
  | .externalNeedsReconciliation id _ => if id = mid then some .needsReconciliation else .none
  | _ => .none

/-- The rows an accepted projection writes extend the pasts of the rows they
replace by the steps of the event, and nothing else of the history changes. -/
structure Projected (env : RunEventEnvelope) (projection : Projection) (t t' : Tables) :
    Prop where
  runs : t'.runs = t.runs
  runEvents : t'.runEvents = t.runEvents
  approvals : ∀ runId rid, t'.approvalHistory runId rid = t.approvalHistory runId rid ++
      if runId = env.runId then (projection.approvalStep rid).toList else []
  mutations : ∀ runId mid, t'.mutationHistory runId mid = t.mutationHistory runId mid ++
      if runId = env.runId then (projection.mutationStep mid).toList else []

section

variable {t t' : Tables} {env : RunEventEnvelope}
variable {projection : Projection}

theorem Projected.of_frame (hRuns : t'.runs = t.runs)
    (hEvents : t'.runEvents = t.runEvents) (hApprovals : t'.approvals = t.approvals)
    (hMutations : t'.externalMutations = t.externalMutations)
    (hApprovalStep : ∀ q, projection.approvalStep q = none)
    (hMutationStep : ∀ m, projection.mutationStep m = none) : Projected env projection t t' where
  runs := hRuns
  runEvents := hEvents
  approvals r q := by simp [Tables.approvalHistory, hApprovals, hApprovalStep]
  mutations r m := by simp [Tables.mutationHistory, hMutations, hMutationStep]

theorem Projected.of_approval (step : Option ApprovalStep) {rid row}
    (hPast : row.past = t.approvalHistory env.runId rid ++ step.toList)
    (hStep : ∀ q, projection.approvalStep q = if rid = q then step else none)
    (hMutationStep : ∀ m, projection.mutationStep m = none) : Projected env projection t
      { t with approvals := t.approvals.insert (env.runId, rid) row } where
  runs := rfl
  runEvents := rfl
  approvals r q := by
    refine (history_insert hPast r q).trans ?_
    rw [hStep, apply_ite Option.toList]
    rfl
  mutations r m := by simp [Tables.mutationHistory, hMutationStep]

theorem Projected.of_mutation (step : ExternalMutationState) {mid row}
    (hPast : row.past = t.mutationHistory env.runId mid ++ [step])
    (hStep : ∀ m, projection.mutationStep m = if mid = m then some step else none)
    (hApprovalStep : ∀ q, projection.approvalStep q = none) : Projected env projection t
      { t with externalMutations := t.externalMutations.insert (env.runId, mid) row } where
  runs := rfl
  runEvents := rfl
  approvals r q := by simp [Tables.approvalHistory, hApprovalStep]
  mutations r m := by
    refine (history_insert hPast r m).trans ?_
    rw [hStep, apply_ite Option.toList]
    rfl

theorem approvalHistory_of_some {r q row}
    (h : t.approvals.lookup (r, q) = some row) : t.approvalHistory r q = row.past := by
  simp [Tables.approvalHistory, history, h]

theorem mutationHistory_of_some {r m row}
    (h : t.externalMutations.lookup (r, m) = some row) : t.mutationHistory r m = row.past := by
  simp [Tables.mutationHistory, history, h]

theorem settled_past {m} {row row' : MutationRow}
    (hRow : t.externalMutations.lookup (env.runId, m) = some row)
    (hPending : row.state = .pending) (hSettled : row'.state ≠ .pending) :
    row'.past = t.mutationHistory env.runId m ++ [row'.state] := by
  rw [mutationHistory_of_some hRow, MutationRow.past, MutationRow.past, if_pos hPending, if_neg hSettled]
  rfl

theorem applyProjection_ok (codec : Codec S) {u} (h : applyProjection codec env projection t = .ok u t') :
    Projected env projection t t' := by
  simp only [applyProjection, bind_eq_done, pureBody_eq_ok] at h
  obtain ⟨_, _, ⟨_, rfl⟩, _, _, ⟨_, rfl⟩, h⟩ := h
  cases projection with
  | none =>
    obtain ⟨_, rfl⟩ := h
    exact .of_frame rfl rfl rfl rfl (fun _ => rfl) (fun _ => rfl)
  | approvalRequested rid toolCallId toolName op expiresAtMs detail riskLevel =>
    simp only [bind_eq_done, pureBody_eq_ok] at h
    obtain ⟨_, _, ⟨_, rfl⟩, h⟩ := h
    obtain ⟨hFree, rfl⟩ := insertApproval_ok h
    refine .of_approval (some (.requested op)) ?_ (fun _ => rfl)
      (fun _ => rfl)
    simp [Tables.approvalHistory, history, hFree, ApprovalRow.past]
  | approvalAwaiting rid op expiresAtMs =>
    obtain ⟨stored, hStored, rfl⟩ := awaitApproval_ok h
    refine .of_approval none ?_ (fun _ => (ite_self none).symm) (fun _ => rfl)
    simp [approvalHistory_of_some hStored, ApprovalRow.past]
  | approvalDecided rid op decision decidedBy =>
    obtain ⟨existing, row, hStored, hOpen, hDigest, hDecision, hSame, rfl⟩ := decideApproval_ok h
    refine .of_approval (some (.decided op decision)) ?_
      (fun _ => rfl) (fun _ => rfl)
    simp [approvalHistory_of_some hStored, ApprovalRow.past, hOpen, hDigest, hDecision, hSame]
  | artifact artifactId kind name mediaType contentSha256 sizeBytes =>
    simp only [bind_eq_done, pureBody_eq_ok] at h
    obtain ⟨_, _, ⟨_, rfl⟩, h⟩ := h
    rw [insertArtifact_ok h]
    exact .of_frame rfl rfl rfl rfl (fun _ => rfl) (fun _ => rfl)
  | checkpoint checkpointId kind label contentSha256 =>
    rw [insertCheckpoint_ok h]
    exact .of_frame rfl rfl rfl rfl (fun _ => rfl) (fun _ => rfl)
  | externalPrepared mid toolCallId kind idempotencyKey summary =>
    obtain ⟨hFree, rfl⟩ := insertMutation_ok h
    refine .of_mutation .pending ?_ (fun _ => rfl) (fun _ => rfl)
    simp [Tables.mutationHistory, history, hFree, MutationRow.past]
  | externalConfirmed mid confirmationRef summary =>
    simp only [bind_eq_done] at h
    obtain ⟨_, _, hEvent, h⟩ := h
    rw [requireEvent_ok hEvent] at h
    obtain ⟨row, hRow, hPending, rfl⟩ := settleMutation_ok h
    exact .of_mutation _ (settled_past hRow hPending (by simp)) (fun _ => rfl)
      (fun _ => rfl)
  | externalNeedsReconciliation mid reason =>
    obtain ⟨row, hRow, hPending, rfl⟩ := settleMutation_ok h
    exact .of_mutation _ (settled_past hRow hPending (by simp)) (fun _ => rfl)
      (fun _ => rfl)

end

structure Appended (codec : Codec S) (env : RunEventEnvelope) (run : RunRow) (row : EventRow)
    (t t' : Tables) : Prop where
  found : t.runs.lookup env.runId = some run
  isOpen : run.terminalSequence = none
  sequence : env.sequence = run.lastSequence + 1
  transition : validateStatusTransition run.status (deriveEventEffects env.event).status = .ok ()
  recorded : ∃ previous processId, row = eventRow codec previous processId env
  runs : t'.runs = t.runs.insert env.runId (run.project row.columns)
  runEvents : t'.runEvents = t.runEvents ++ [row]
  approvals : ∀ runId rid, t'.approvalHistory runId rid = t.approvalHistory runId rid ++
      if runId = env.runId then (env.event.approvalStep rid).toList else []
  mutations : ∀ runId mid, t'.mutationHistory runId mid = t.mutationHistory runId mid ++
      if runId = env.runId then (env.event.mutationStep mid).toList else []

theorem checkEventRow_ok {t row run}
    (h : checkEventRow t row = .ok run) : t.runs.lookup row.columns.runId = some run := by
  simp only [checkEventRow, bind_eq_ok, okOr_eq_ok, refuseIf_eq_ok, pure_eq_ok, exists_const] at h
  obtain ⟨found, hFound, -, -, -, -, -, -, -, -, -, -, -, -, rfl⟩ := h
  exact hFound

theorem insertRunEvent_ok {t t' row run u} (hRun : t.runs.lookup row.columns.runId = some run)
    (h : insertRunEvent row t = .ok u t') : t' = { t with
      runEvents := t.runEvents ++ [row]
      runs := t.runs.insert row.columns.runId (run.project row.columns) } := by
  simp only [insertRunEvent, bind_eq_done, pureBody_eq_ok, write_eq_ok, require_eq_ok] at h
  obtain ⟨_, _, ⟨rfl, rfl⟩, checked, _, ⟨hChecked, rfl⟩, _, _, rfl, _, _, ⟨_, rfl⟩, rfl⟩ := h
  have hSame : checked = run := Option.some.inj ((checkEventRow_ok hChecked).symm.trans hRun)
  rw [hSame]

theorem admitEvent_ok {t env sequence admitted} (h : admitEvent env sequence t = .ok admitted) :
    ∃ run, t.runs.lookup env.runId = some run ∧ run.terminalSequence = none ∧
      env.sequence = run.lastSequence + 1 ∧
      validateStatusTransition run.status (deriveEventEffects env.event).status = .ok () := by
  simp only [admitEvent, bind_eq_ok, okOr_eq_ok] at h
  obtain ⟨run, hRun, h⟩ := h
  cases hTerminal : run.terminalSequence with
  | some terminalSequence => simp [hTerminal] at h
  | none =>
    simp only [hTerminal, bind_eq_ok, refuseIf_eq_ok, exists_const] at h
    obtain ⟨hSequence, -, -, _, hTransition, -⟩ := h
    exact ⟨run, hRun, hTerminal, by simpa using hSequence, hTransition⟩

theorem appendEventBody_ok {codec : Codec S} {processId env sequence outcome t t'}
    (h : appendEventBody codec processId env sequence t = .ok outcome t') :
    ∃ run row, Appended codec env run row t t' := by
  simp only [appendEventBody, bind_eq_done, pureBody_eq_ok] at h
  obtain ⟨_, _, ⟨rfl, rfl⟩, admitted, _, ⟨hAdmitted, rfl⟩, _, _, hInsert, _, _, hProject, _, rfl⟩ := h
  obtain ⟨run, hRun, hOpen, hSequence, hTransition⟩ := admitEvent_ok hAdmitted
  have hInserted := insertRunEvent_ok hRun hInsert
  have hProjected := applyProjection_ok codec hProject
  subst hInserted
  refine ⟨run, _, hRun, hOpen, hSequence, hTransition, ⟨_, _, rfl⟩, hProjected.runs,
    hProjected.runEvents, ?_, ?_⟩
  · intro runId rid
    rw [hProjected.approvals]
    cases env.event <;> rfl
  · intro runId mid
    rw [hProjected.mutations]
    cases env.event <;> rfl

/-! ## One accepted submission -/

theorem loadExisting_ok {codec runId missing} {run : StoredRun S}
    {t t'} (h : loadExisting codec runId missing t = .ok run t') : t' = t := by
  simp only [loadExisting, bind_eq_done, pureBody_eq_ok] at h
  obtain ⟨_, _, ⟨_, rfl⟩, _, _, ⟨_, rfl⟩, _, rfl⟩ := h
  rfl

theorem submitRunBody_ok {codec spec createdAtMs maxEventCount} {outcome : SubmitRunOutcome S} {t t'}
    (h : submitRunBody codec spec createdAtMs maxEventCount t = .ok outcome t') :
    t' = t ∨ t.runs.lookup spec.runId = none ∧ 0 < createdAtMs ∧ 0 < maxEventCount ∧
      (∀ entry ∈ t.runs.entries, entry.2.idempotencyKey ≠ spec.idempotencyKey) ∧
      t' = { t with runs := t.runs.insert spec.runId ⟨spec.idempotencyKey, codec.specJson spec,
        createdAtMs, createdAtMs, .queued, 0, none, maxEventCount⟩ } := by
  simp only [submitRunBody, bind_eq_done, read_eq_ok] at h
  obtain ⟨existing, _, ⟨_, rfl⟩, h⟩ := h
  cases existing with
  | some entry =>
    simp only [bind_eq_done, require_eq_ok] at h
    obtain ⟨_, _, ⟨_, rfl⟩, _, _, hLoad, _, rfl⟩ := h
    exact .inl (loadExisting_ok hLoad)
  | none =>
    simp only [bind_eq_done, require_eq_ok, insertRun, write_eq_ok] at h
    obtain ⟨_, _, ⟨rfl, rfl⟩, _, _, ⟨hFree, rfl⟩, _, _, ⟨_, _, ⟨rfl, rfl⟩, _, _, ⟨hCreated, rfl⟩, _, _,
      ⟨hMax, rfl⟩, _, _, ⟨_, rfl⟩, _, _, ⟨hUnique, rfl⟩, rfl⟩, _, _, hLoad, _, rfl⟩ := h
    refine .inr ⟨by simpa using hFree, Nat.pos_of_ne_zero (by simpa using hCreated),
      Nat.pos_of_ne_zero (by simpa using hMax), ?_, loadExisting_ok hLoad⟩
    simpa only [any_eq_false, beq_iff_eq, id_eq] using hUnique

/-! ## Sessions -/

inductive Call (S : Snapshots)
  | submitRun (spec : RunSpec S)
  | appendEvent (processId : Option String) (env : RunEventEnvelope)

inductive Reply (S : Snapshots)
  | submitted (outcome : SubmitRunOutcome S)
  | appended (outcome : AppendEventOutcome)

def Call.perform (codec : Codec S) (tables : Tables) :
    Call S → LedgerResult (Reply S) × Tables
  | .submitRun spec =>
    let done := Ledger.submitRun codec spec tables
    (done.1.map .submitted, done.2)
  | .appendEvent processId env =>
    let done := Ledger.appendEvent codec processId env tables
    (done.1.map .appended, done.2)

structure Session where
  tables : Tables
  journal : List RunEventEnvelope

def Session.empty : Session := ⟨.empty, []⟩

def Session.journalOf (session : Session) (runId : String) : List RunEventEnvelope :=
  session.journal.filter (·.runId == runId)

def Call.accepted (codec : Codec S) (tables : Tables) (call : Call S) : List RunEventEnvelope :=
  match call, (call.perform codec tables).1 with
  | .appendEvent _ env, .ok _ => [env]
  | _, _ => []

def Session.after (codec : Codec S) (session : Session) (call : Call S) : Session :=
  ⟨(call.perform codec session.tables).2, session.journal ++ call.accepted codec session.tables⟩

def play (codec : Codec S) (calls : List (Call S)) : Session :=
  calls.foldl (Session.after codec) .empty

inductive Advance (codec : Codec S) (session : Session) : Session → Prop
  | same : Advance codec session session
  | submitted (runId : String) (row : RunRow) (fresh : session.tables.runs.lookup runId = none)
      (status : row.status = .queued) (lastSequence : row.lastSequence = 0) : Advance codec session
        ⟨{ session.tables with runs := session.tables.runs.insert runId row }, session.journal⟩
  | appended (env : RunEventEnvelope) (run : RunRow) (row : EventRow) (tables : Tables)
      (h : Appended codec env run row session.tables tables) :
      Advance codec session ⟨tables, session.journal ++ [env]⟩

theorem Call.perform_refused {codec tables} {call : Call S} {e}
    (h : (call.perform codec tables).1 = .error e) : (call.perform codec tables).2 = tables := by
  cases call with
  | submitRun spec => exact guarded_refused (map_eq_error h)
  | appendEvent processId env => exact guarded_refused (map_eq_error h)

/-- A call is refused, or its body ran to its end. -/
inductive Performed (codec : Codec S) (session : Session) : Session → Prop
  | refused : Performed codec session session
  | submitted {spec} {createdAtMs maxEventCount} {outcome} {tables}
      (h : submitRunBody codec spec createdAtMs maxEventCount session.tables = .ok outcome tables) :
      Performed codec session ⟨tables, session.journal⟩
  | appended {processId} {env} {sequence} {outcome}
      {tables} (arguments : appendEventArguments env = .ok sequence)
      (h : appendEventBody codec processId env sequence session.tables = .ok outcome tables) :
      Performed codec session ⟨tables, session.journal ++ [env]⟩

theorem Session.performed (codec : Codec S) (session : Session) (call : Call S) :
    Performed codec session (session.after codec call) := by
  cases hReply : (call.perform codec session.tables).1 with
  | error e =>
    have hSame : session.after codec call = session := by
      cases call <;>
        simp [Session.after, Call.perform_refused hReply, Call.accepted, hReply]
    rw [hSame]
    exact .refused
  | ok reply =>
    cases call with
    | submitRun spec =>
      cases hDone : (submitRun codec spec session.tables).1 with
      | error e => simp [Call.perform, hDone, Except.map] at hReply
      | ok outcome =>
        obtain ⟨columns, _, hBody⟩ := guarded_ok hDone
        have hAfter : session.after codec (.submitRun spec) =
            ⟨(submitRun codec spec session.tables).2, session.journal⟩ := by
          simp [Session.after, Call.accepted, Call.perform]
        rw [hAfter]
        exact .submitted hBody
    | appendEvent processId env =>
      cases hDone : (appendEvent codec processId env session.tables).1 with
      | error e => simp [Call.perform, hDone, Except.map] at hReply
      | ok outcome =>
        obtain ⟨sequence, hArguments, hBody⟩ := guarded_ok hDone
        have hAfter : session.after codec (.appendEvent processId env) =
            ⟨(appendEvent codec processId env session.tables).2, session.journal ++ [env]⟩ := by
          simp [Session.after, Call.accepted, Call.perform, hDone, Except.map]
        rw [hAfter]
        exact .appended hArguments hBody

theorem Session.advance (codec : Codec S) (session : Session) (call : Call S) :
    Advance codec session (session.after codec call) := by
  have hPerformed := session.performed codec call
  generalize session.after codec call = next at hPerformed ⊢
  cases hPerformed with
  | refused => exact .same
  | submitted hBody =>
    rcases submitRunBody_ok hBody with rfl | ⟨hFresh, -, -, -, rfl⟩
    · exact .same
    · exact .submitted _ _ hFresh rfl rfl
  | appended _ hBody =>
    obtain ⟨run, row, hAppended⟩ := appendEventBody_ok hBody
    exact .appended _ run row _ hAppended

/-! ## The ledger follows its journal -/

structure RunRow.Follows (row : RunRow) (journal : List RunEventEnvelope) : Prop where
  numbered : journal.map (·.sequence) = List.range' 1 row.lastSequence
  status : row.status = statusAfter journal
  terminalLast : ∀ env ∈ journal, env.event.isTerminal = true → env.sequence = row.lastSequence
  isOpen : row.terminalSequence = none → ∀ env ∈ journal, env.event.isTerminal = false

theorem RunRow.Follows.append {codec : Codec S} {previous processId env} {run : RunRow} {journal}
    (h : run.Follows journal) (hOpen : run.terminalSequence = none)
    (hSequence : env.sequence = run.lastSequence + 1) :
    (run.project (eventColumns codec previous processId env)).Follows (journal ++ [env]) := by
  have hEarlier := h.isOpen hOpen
  refine ⟨?_, ?_, ?_, ?_⟩
  · change (journal ++ [env]).map (·.sequence) = List.range' 1 env.sequence
    rw [hSequence, List.range'_concat, map_append, h.numbered, map_singleton, hSequence,
      Nat.one_mul, Nat.add_comm 1]
  · rw [statusAfter, foldl_append]
    change (deriveEventEffects env.event).status.getD run.status = _
    rw [h.status]
    rfl
  · intro e he hTerminal
    rcases mem_append.mp he with he | he
    · rw [hEarlier e he] at hTerminal
      cases hTerminal
    · rw [mem_singleton.mp he]
      rfl
  · intro hStill e he
    rcases mem_append.mp he with he | he
    · exact hEarlier e he
    · rw [mem_singleton.mp he]
      change (if env.event.isTerminal then some env.sequence else run.terminalSequence) = none at hStill
      cases hTerminal : env.event.isTerminal with
      | false => rfl
      | true => simp [hTerminal] at hStill

def Records (codec : Codec S) (row : EventRow) (env : RunEventEnvelope) : Prop :=
  ∃ previous processId, row = eventRow codec previous processId env

structure Coherent (codec : Codec S) (session : Session) : Prop where
  unknown : ∀ runId, session.tables.runs.lookup runId = none → session.journalOf runId = []
  follows : ∀ runId row, session.tables.runs.lookup runId = some row → row.Follows (session.journalOf runId)
  recorded : ∀ runId, List.Forall₂ (Records codec) (session.tables.eventsOf runId) (session.journalOf runId)
  approvals : ∀ runId rid, session.tables.approvalHistory runId rid =
    (session.journalOf runId).filterMap (·.event.approvalStep rid)
  mutations : ∀ runId mid, session.tables.mutationHistory runId mid =
    (session.journalOf runId).filterMap (·.event.mutationStep mid)

theorem coherent_empty (codec : Codec S) : Coherent codec .empty where
  unknown _ _ := rfl
  follows runId row h := by
    cases h
  recorded _ := .nil
  approvals runId rid := by
    simp [Tables.approvalHistory, history, Session.empty, Tables.empty, Session.journalOf]
  mutations runId mid := by
    simp [Tables.mutationHistory, history, Session.empty, Tables.empty, Session.journalOf]

theorem Session.journalOf_append (journal : List RunEventEnvelope) (tables tables' : Tables)
    (env : RunEventEnvelope) (runId : String) : Session.journalOf ⟨tables', journal ++ [env]⟩ runId =
      Session.journalOf ⟨tables, journal⟩ runId ++
        if runId = env.runId then [env] else [] := by
  by_cases h : runId = env.runId
  · simp [Session.journalOf, h]
  · simp [Session.journalOf, h, Ne.symm h]

theorem Coherent.submitted {codec : Codec S} {session} (h : Coherent codec session)
    {runId row} (hFresh : session.tables.runs.lookup runId = none)
    (hStatus : row.status = .queued) (hLast : row.lastSequence = 0) : Coherent codec
      ⟨{ session.tables with runs := session.tables.runs.insert runId row }, session.journal⟩ where
  unknown r hr := by
    by_cases hrr : r = runId
    · subst hrr
      exact h.unknown r hFresh
    · exact h.unknown r (by simpa [lookup_insert_ne hrr] using hr)
  follows r row' hr := by
    by_cases hrr : r = runId
    · subst hrr
      obtain rfl : row = row' := by simpa [lookup_insert] using hr
      have hNone := h.unknown r hFresh
      change row.Follows (session.journalOf r)
      rw [hNone]
      exact ⟨by rw [hLast]; rfl, hStatus, by simp, by simp⟩
    · exact h.follows r row' (by simpa [lookup_insert_ne hrr] using hr)
  recorded := h.recorded
  approvals := h.approvals
  mutations := h.mutations

theorem Coherent.appended {codec : Codec S} {session} (h : Coherent codec session)
    {env} {run : RunRow} {row tables} (hAppended : Appended codec env run row session.tables tables) :
    Coherent codec ⟨tables, session.journal ++ [env]⟩ := by
  have hJournal := Session.journalOf_append session.journal session.tables tables env
  obtain ⟨previous, processId, hRow⟩ := hAppended.recorded
  refine ⟨?_, ?_, ?_, ?_, ?_⟩
  · intro r hr
    rw [hAppended.runs] at hr
    have hrr : r ≠ env.runId := by
      rintro rfl
      simp [lookup_insert] at hr
    rw [hJournal, if_neg hrr, append_nil]
    exact h.unknown r (by simpa [lookup_insert_ne hrr] using hr)
  · intro r row' hr
    rw [hAppended.runs] at hr
    rw [hJournal]
    by_cases hrr : r = env.runId
    · subst hrr
      rw [lookup_insert] at hr
      obtain rfl := Option.some.inj hr
      rw [if_pos rfl, hRow]
      exact (h.follows _ run hAppended.found).append hAppended.isOpen hAppended.sequence
    · rw [if_neg hrr, append_nil]
      exact h.follows r row' (by simpa [lookup_insert_ne hrr] using hr)
  · intro r
    rw [hJournal, Tables.eventsOf, hAppended.runEvents, filter_append]
    refine rel_append (h.recorded r) ?_
    have hRunId : row.columns.runId = env.runId := by rw [hRow]; rfl
    by_cases hrr : r = env.runId
    · rw [if_pos hrr, filter_cons_of_pos (by simp [hRunId, hrr])]
      exact .cons ⟨previous, processId, hRow⟩ .nil
    · rw [if_neg hrr, filter_cons_of_neg (by simp [hRunId, Ne.symm hrr])]
      exact .nil
  · intro r q
    rw [hAppended.approvals, hJournal, h.approvals, filterMap_append_ite]
  · intro r m
    rw [hAppended.mutations, hJournal, h.mutations, filterMap_append_ite]

theorem Coherent.advance {codec : Codec S} {session session'}
    (h : Coherent codec session) (hStep : Advance codec session session') : Coherent codec session' := by
  cases hStep with
  | same => exact h
  | submitted runId row fresh status lastSequence => exact h.submitted fresh status lastSequence
  | appended env run row tables hAppended => exact h.appended hAppended

theorem coherent_play (codec : Codec S) (calls : List (Call S)) : Coherent codec (play codec calls) := by
  induction calls using List.reverseRecOn with
  | nil => exact coherent_empty codec
  | append_singleton calls call ih =>
    rw [play, foldl_append]
    exact ih.advance (Session.advance codec (play codec calls) call)

/-! ## Well-formed runs -/

structure RunWellFormed (codec : Codec S) (session : Session) (runId : String) (row : RunRow) :
    Prop where
  /-- The stored events are the accepted ones, in order. -/
  recorded : List.Forall₂ (Records codec) (session.tables.eventsOf runId) (session.journalOf runId)
  numbered : (session.tables.eventsOf runId).map (·.columns.sequence) = List.range' 1 row.lastSequence
  terminalOnce : ((session.tables.eventsOf runId).filter (·.columns.isTerminal)).length ≤ 1
  terminalLast : ∀ event ∈ session.tables.eventsOf runId, event.columns.isTerminal = true →
    event.columns.sequence = row.lastSequence
  status : row.status = statusAfter (session.journalOf runId)
  /-- What the events say about an approval is nothing, its request, or its
  request and one decision for the same digest, as its row has it. -/
  approvals : ∀ rid, (session.journalOf runId).filterMap (·.event.approvalStep rid) =
    ((session.tables.approvals.lookup (runId, rid)).map ApprovalRow.past).getD []
  /-- Likewise a mutation: nothing, pending, or pending and then one settled state. -/
  mutations : ∀ mid, (session.journalOf runId).filterMap (·.event.mutationStep mid) =
    ((session.tables.externalMutations.lookup (runId, mid)).map MutationRow.past).getD []

theorem Coherent.runWellFormed {codec : Codec S} {session} (h : Coherent codec session)
    {runId row} (hRow : session.tables.runs.lookup runId = some row) :
    RunWellFormed codec session runId row := by
  have hFollows := h.follows runId row hRow
  have hRecorded := h.recorded runId
  have hNumbered : (session.tables.eventsOf runId).map (·.columns.sequence) =
      List.range' 1 row.lastSequence := by
    rw [← hFollows.numbered]
    refine map_eq_of_forall₂ ?_ hRecorded
    rintro _ env ⟨previous, processId, rfl⟩
    rfl
  have hLast : ∀ event ∈ session.tables.eventsOf runId, event.columns.isTerminal = true →
      event.columns.sequence = row.lastSequence := by
    intro event hEvent hTerminal
    obtain ⟨env, hEnvelope, previous, processId, rfl⟩ := exists_of_mem_forall₂ hRecorded hEvent
    exact hFollows.terminalLast env hEnvelope hTerminal
  refine ⟨hRecorded, hNumbered, ?_, hLast, hFollows.status, ?_, ?_⟩
  · refine length_le_one_of_const (f := fun event => event.columns.sequence) ?_ ?_ (c := row.lastSequence)
    · exact (filter_sublist.map _).nodup (hNumbered ▸ nodup_range')
    · intro event hEvent
      obtain ⟨hMem, hTerminal⟩ := mem_filter.mp hEvent
      exact hLast event hMem hTerminal
  · intro rid
    rw [← h.approvals, Tables.approvalHistory, history]
    cases session.tables.approvals.lookup (runId, rid) <;> rfl
  · intro mid
    rw [← h.mutations, Tables.mutationHistory, history]
    cases session.tables.externalMutations.lookup (runId, mid) <;> rfl

theorem cancelling_or_terminal {next} (h : validateStatusTransition .cancelling next = .ok ()) :
    next.getD .cancelling = .cancelling ∨ (next.getD .cancelling).isTerminal = true := by
  cases next with
  | none => exact .inl rfl
  | some status => cases status <;> first | (right; rfl) | (left; rfl) | cases h

theorem Advance.cancelling {codec : Codec S} {session session'}
    (hStep : Advance codec session session') {runId row}
    (hRow : session.tables.runs.lookup runId = some row) (hStatus : row.status = .cancelling) :
    ∃ row', session'.tables.runs.lookup runId = some row' ∧
      (row'.status = .cancelling ∨ row'.status.isTerminal = true) := by
  cases hStep with
  | same => exact ⟨row, hRow, .inl hStatus⟩
  | submitted freshId freshRow fresh status lastSequence =>
    have hne : runId ≠ freshId := by
      rintro rfl
      rw [fresh] at hRow
      cases hRow
    exact ⟨row, (lookup_insert_ne hne).trans hRow, .inl hStatus⟩
  | appended env run event tables hAppended =>
    by_cases hSame : runId = env.runId
    · subst hSame
      obtain rfl : run = row := Option.some.inj (hAppended.found.symm.trans hRow)
      refine ⟨_, by rw [hAppended.runs, lookup_insert], ?_⟩
      obtain ⟨previous, processId, rfl⟩ := hAppended.recorded
      have hNext := hAppended.transition
      rw [hStatus] at hNext
      change (deriveEventEffects env.event).status.getD run.status = _ ∨
        ((deriveEventEffects env.event).status.getD run.status).isTerminal = true
      rw [hStatus]
      exact cancelling_or_terminal hNext
    · refine ⟨row, ?_, .inl hStatus⟩
      rw [hAppended.runs, lookup_insert_ne hSame, hRow]

/-- What holds of a session: its runs are well formed, a further call leaves a
cancelling run cancelling or terminal, and a refused call changes no table. -/
structure Session.WellFormed (codec : Codec S) (session : Session) : Prop where
  runs : ∀ runId row, session.tables.runs.lookup runId = some row → RunWellFormed codec session runId row
  cancelling : ∀ (call : Call S) runId row, session.tables.runs.lookup runId = some row →
    row.status = .cancelling → ∃ row', (call.perform codec session.tables).2.runs.lookup runId = some row' ∧
      (row'.status = .cancelling ∨ row'.status.isTerminal = true)
  refused : ∀ (call : Call S) e, (call.perform codec session.tables).1 = .error e →
    (call.perform codec session.tables).2 = session.tables

theorem run_ledger_wellFormed (codec : Codec S) (calls : List (Call S)) :
    (play codec calls).WellFormed codec where
  runs _ _ hRow := (coherent_play codec calls).runWellFormed hRow
  cancelling call _ _ hRow hStatus := (Session.advance codec (play codec calls) call).cancelling hRow hStatus
  refused _ _ hRefused := Call.perform_refused hRefused

/-! ## What later calls leave -/

/-- `t'` keeps the events of `t`, its ended runs, and what was said of approvals and mutations. -/
structure Tables.Extended (t t' : Tables) : Prop where
  events : t.runEvents <+: t'.runEvents
  ended : ∀ runId row, t.runs.lookup runId = some row → row.terminalSequence.isSome = true →
    t'.runs.lookup runId = some row ∧ t'.eventsOf runId = t.eventsOf runId
  approvals : ∀ runId rid, t.approvalHistory runId rid <+: t'.approvalHistory runId rid
  mutations : ∀ runId mid, t.mutationHistory runId mid <+: t'.mutationHistory runId mid

theorem Tables.Extended.refl (t : Tables) : t.Extended t :=
  ⟨prefix_rfl, fun _ _ hRow _ => ⟨hRow, rfl⟩, fun _ _ => prefix_rfl, fun _ _ => prefix_rfl⟩

theorem Advance.extended {codec : Codec S} {session session'}
    (hStep : Advance codec session session') : session.tables.Extended session'.tables := by
  cases hStep with
  | same => exact .refl _
  | submitted freshId _ fresh =>
    refine { Tables.Extended.refl session.tables with ended := fun runId row hRow _ => ⟨?_, rfl⟩ }
    have hne : runId ≠ freshId := by
      rintro rfl
      rw [fresh] at hRow
      cases hRow
    exact (lookup_insert_ne hne).trans hRow
  | appended env run event tables h =>
    refine ⟨⟨_, h.runEvents.symm⟩, fun runId row hRow hEnded => ?_,
      fun r q => ⟨_, (h.approvals r q).symm⟩, fun r m => ⟨_, (h.mutations r m).symm⟩⟩
    have hne : runId ≠ env.runId := by
      rintro rfl
      cases h.found.symm.trans hRow
      rw [h.isOpen] at hEnded
      cases hEnded
    obtain ⟨previous, processId, rfl⟩ := h.recorded
    refine ⟨by rw [h.runs, lookup_insert_ne hne, hRow], ?_⟩
    rw [Tables.eventsOf, h.runEvents, filter_append]
    simp [Tables.eventsOf, eventRow, eventColumns, hne.symm]

/-- No later call rewrites an event, a decision, or anything of a run that has ended. -/
theorem ledger_append_only (codec : Codec S) (calls later : List (Call S)) :
    (play codec calls).tables.Extended (play codec (calls ++ later)).tables := by
  rw [play, play, foldl_append]
  refine foldlRecOn (motive := fun s => Tables.Extended _ (Session.tables s)) later _ (.refl _) fun session h call _ => ?_
  have h' := (session.advance codec call).extended
  refine ⟨h.events.trans h'.events, fun runId row hRow hEnded => ?_,
    fun r q => (h.approvals r q).trans (h'.approvals r q), fun r m => (h.mutations r m).trans (h'.mutations r m)⟩
  obtain ⟨hRow', hEvents⟩ := h.ended runId row hRow hEnded
  exact (h'.ended runId row hRow' hEnded).imp_right (·.trans hEvents)

end LittleMonkey.Ledger
