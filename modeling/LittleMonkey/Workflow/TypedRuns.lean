import LittleMonkey.Workflow.Execution

/-! # Runs are typed and approved

Whatever the node executor answers, a call of `execute` is made for a node whose dependencies
have their outputs, with the inputs of its signature, with the secrets that are scoped to it,
and, for a mutation, with the approval its approval node gave.
-/

namespace LittleMonkey.Workflow

open Guards Primitives Durable List AList Option

/-! ## What is prepared -/

theorem resolveInputs_ok {irNode workflowInputs values list resolved inputs}
    (h : resolveInputs irNode workflowInputs values resolved list = .ok inputs)
    (hNodup : (list.map Sigma.fst).Nodup) :
    (∀ port, (∀ entry ∈ list, port ≠ entry.1) → inputs.lookup port = resolved.lookup port) ∧
      ∀ entry ∈ list, ∃ value type, inputs.lookup entry.1 = some value ∧
        resolveBindingValue workflowInputs values entry.2 = .ok value ∧ value.valueType = .ok type ∧
        irNode.inputTypes.lookup entry.1 = some type := by
  induction list generalizing resolved with
  | nil =>
    cases h
    exact ⟨fun _ _ => rfl, nofun⟩
  | cons entry rest ih =>
    obtain ⟨port, binding⟩ := entry
    simp only [resolveInputs, bind_eq_ok, refuseIf_eq_ok, decide_eq_false_iff_not, not_not] at h
    obtain ⟨value, hValue, type, hType, _, hExpected, hRest⟩ := h
    rw [map_cons, nodup_cons] at hNodup
    obtain ⟨hOther, hMem⟩ := ih hRest hNodup.2
    have hFirst : inputs.lookup port = some value := by
      rw [hOther port, lookup_insert]
      intro entry hEntry hSame
      exact hNodup.1 (mem_map.mpr ⟨entry, hEntry, hSame.symm⟩)
    constructor
    · intro other hApart
      rw [forall_mem_cons] at hApart
      rw [hOther other hApart.2, lookup_insert_ne hApart.1]
    · rw [forall_mem_cons]
      exact ⟨⟨value, type, hFirst, hValue, hType, hExpected⟩, hMem⟩

theorem resolveNodeInputs_ok {irNode workflowInputs inputs values} (h : resolveNodeInputs irNode workflowInputs values = .ok inputs) :
    (∀ port, irNode.node.inputs.lookup port = none → inputs.lookup port = none) ∧
      ∀ port binding, irNode.node.inputs.lookup port = some binding →
        ∃ value type, inputs.lookup port = some value ∧
          resolveBindingValue workflowInputs values binding = .ok value ∧ value.valueType = .ok type ∧
          irNode.inputTypes.lookup port = some type := by
  obtain ⟨hOther, hMem⟩ := resolveInputs_ok h nodup_keys_ascending
  constructor
  · intro port hNone
    rw [hOther port, lookup_empty]
    rintro ⟨_, binding⟩ hEntry rfl
    rw [mem_ascending.mp hEntry] at hNone
    cases hNone
  · intro port binding hBinding
    exact hMem ⟨port, binding⟩ (mem_ascending.mpr hBinding)

theorem gatherSecrets_ok {bindings gathered secrets ids}
    (h : gatherSecrets bindings gathered ids = .ok secrets) {secretId binding}
    (hLookup : secrets.lookup secretId = some binding) :
    secretId ∈ ids ∧ bindings.lookup secretId = some binding ∨ gathered.lookup secretId = some binding := by
  induction ids generalizing gathered with
  | nil =>
    cases h
    exact .inr hLookup
  | cons first rest ih =>
    simp only [gatherSecrets, bind_eq_ok, okOr_eq_ok] at h
    obtain ⟨found, hFound, hRest⟩ := h
    rcases ih hRest with ⟨hMem, hBinding⟩ | hGathered
    · exact .inl ⟨mem_cons_of_mem first hMem, hBinding⟩
    · by_cases hSame : secretId = first
      · subst hSame
        rw [lookup_insert] at hGathered
        exact .inl ⟨mem_cons_self, hFound.trans hGathered⟩
      · rw [lookup_insert_ne hSame] at hGathered
        exact .inr hGathered

theorem eq_of_isBoolean {value : WorkflowValue} {expected} (h : value.isBoolean expected = true) :
    value = .boolean expected := by
  cases value with
  | boolean found => exact congrArg WorkflowValue.boolean (beq_iff_eq.mp h)
  | _ => cases h

variable {wf : WorkflowDefinition} (ir : WorkflowIr) (req : WorkflowRunRequest)

/-- What holds of a node that is ready to run: its inputs come from these values. -/
structure Ready (values : Values) (p : PreparedNode) : Prop where
  node : p.irNode ∈ ir.nodes
  inputs : ∀ port, (p.inputs.lookup port).map (·.valueType) = (p.irNode.inputTypes.lookup port).map .ok
  dependencies : ∀ d ∈ p.irNode.dependencies, ∃ port value, values.lookup (d, port) = some value
  secrets : ∀ secretId binding, p.secrets.lookup secretId = some binding →
    secretId ∈ p.node.secretIds ∧ req.secretBindings.lookup secretId = some binding
  approval : p.node.kind.effect.mutates = true → ∃ a, p.node.permissionPolicy.approvalNodeId = some a ∧
    p.inputs.lookup "approval" = some (.boolean true) ∧ values.lookup (a, "out") = some (.boolean true)

variable {ir req} {values : Values}

section

variable {n : WorkflowIrNode} {p : PreparedNode}

theorem guard_available (h : guardMatches values n.node = .ok true) {g}
    (hGuard : n.node.guard = some g) : ∃ value, values.lookup (g.conditionNodeId, "out") = some value := by
  simp only [guardMatches, hGuard, bind_eq_ok, okOr_eq_ok] at h
  obtain ⟨value, hValue, -⟩ := h
  exact ⟨value, hValue⟩

theorem Accepted.approvalNode (h : Accepted wf ir n) (hMutates : n.node.kind.effect.mutates = true) :
    ∃ a, n.node.permissionPolicy.approvalNodeId = some a := by
  have hStatic := h.static
  simp only [validateNodeStatic, bind_eq_ok] at hStatic
  obtain ⟨_, -, _, -, _, hApproval, -⟩ := hStatic
  simp only [validateApproval, hMutates, if_true, bind_eq_ok, refuseIf_eq_ok, Bool.or_eq_false_iff] at hApproval
  obtain ⟨_, ⟨⟨-, hSome⟩, -⟩, -⟩ := hApproval
  exact isSome_iff_exists.mp (by simpa using hSome)

theorem Accepted.scoped (h : Accepted wf ir n) {secretId} (hMem : secretId ∈ n.node.secretIds) :
    ∃ secret, wf.secrets.lookup secretId = some secret ∧ n.node.nodeId ∈ secret.allowedNodeIds := by
  have hStatic := h.static
  simp only [validateNodeStatic, bind_eq_ok] at hStatic
  obtain ⟨_, -, _, -, _, -, _, -, _, -, _, hSecrets, -⟩ := hStatic
  have hSecret := forM_eq_ok.mp hSecrets secretId hMem
  simp only [validateSecret, bind_eq_ok, okOr_eq_ok] at hSecret
  obtain ⟨secret, hFound, hAllowed⟩ := hSecret
  exact ⟨secret, hFound, by simpa using hAllowed⟩

theorem ready_of_prepared (hIr : Compiled wf ir) (hn : n ∈ ir.nodes)
    (hGuard : guardMatches values n.node = .ok true) (h : prepareInputs req values n = .ok p) :
    p.irNode = n ∧ Ready ir req values p := by
  simp only [prepareInputs, bind_eq_ok, pure_eq_ok] at h
  obtain ⟨inputs, hInputs, _, hApproval, secrets, hSecrets, rfl⟩ := h
  obtain ⟨hNone, hSome⟩ := resolveNodeInputs_ok hInputs
  have hAccepted := hIr.accepted n hn
  refine ⟨rfl, hn, ?_, ?_, ?_, ?_⟩
  · intro port
    have hPorts := hAccepted.ports port
    cases hBinding : n.node.inputs.lookup port with
    | none =>
      rw [hBinding] at hPorts
      have hAbsent : n.inputTypes.lookup port = none := by simpa using hPorts.symm
      rw [hNone port hBinding, hAbsent]
      rfl
    | some binding =>
      obtain ⟨value, type, hValue, -, hType, hExpected⟩ := hSome port binding hBinding
      rw [hValue, hExpected, map_some, map_some, hType]
  · intro d hd
    rcases (hAccepted.depends d).mp hd with ⟨port, out, hBinding⟩ | ⟨g, hg, rfl⟩
    · obtain ⟨value, _, -, hValue, -⟩ := hSome port _ hBinding
      exact ⟨out, value, okOr_eq_ok.mp hValue⟩
    · obtain ⟨value, hValue⟩ := guard_available hGuard hg
      exact ⟨"out", value, hValue⟩
  · intro secretId binding hLookup
    rcases gatherSecrets_ok hSecrets hLookup with hFound | hEmpty
    · exact hFound
    · cases hEmpty
  · intro hMutates
    obtain ⟨a, ha⟩ := hAccepted.approvalNode hMutates
    obtain ⟨hBinding, -⟩ := hAccepted.approved a ha
    obtain ⟨value, _, hValue, hResolved, -⟩ := hSome "approval" _ hBinding
    have hTrue : value = .boolean true := by
      apply eq_of_isBoolean
      change n.node.kind.effect.mutates = true at hMutates
      simpa [hMutates, hValue] using hApproval
    subst hTrue
    exact ⟨a, ha, hValue, okOr_eq_ok.mp hResolved⟩

end

/-! ## Values and records -/

def Backed (values : Values) (nodes : Table String NodeRunRecord) : Prop :=
  ∀ d port value, values.lookup (d, port) = some value → ∃ record, nodes.lookup d = some record ∧
    record.status.hasOutputs = true ∧ record.outputs.lookup port = some value

def Untouched (values : Values) (nodeId : String) : Prop := ∀ port, values.lookup (nodeId, port) = none

section

variable {nodes : Table String NodeRunRecord} {nodeId : String}
  {outputs : Table String WorkflowValue} {record : NodeRunRecord}

theorem lookup_insertOutputs_ne {d port} (h : d ≠ nodeId) :
    (insertOutputs values nodeId outputs).lookup (d, port) = values.lookup (d, port) := by
  apply lookup_insertAll_of_notMem
  intro entry _ hSame
  exact h (Prod.mk.inj hSame).1

theorem lookup_insertOutputs {port} : (insertOutputs values nodeId outputs).lookup (nodeId, port) =
      (outputs.lookup port).or (values.lookup (nodeId, port)) := by
  cases hPort : outputs.lookup port with
  | some value =>
    apply lookup_insertAll_of_mem (Prod.mk_right_injective nodeId) nodup_keys_ascending
    exact mem_ascending.mpr hPort
  | none =>
    apply lookup_insertAll_of_notMem
    rintro ⟨_, value⟩ hEntry hSame
    obtain rfl := (Prod.mk.inj hSame).2
    rw [mem_ascending.mp hEntry] at hPort
    cases hPort

theorem lookup_insertOutputs_self {port} (h : Untouched values nodeId) :
    (insertOutputs values nodeId outputs).lookup (nodeId, port) = outputs.lookup port := by
  rw [lookup_insertOutputs, h port, or_none]

theorem Untouched.insertOutputs {other} (h : Untouched values other) (hApart : other ≠ nodeId) :
    Untouched (insertOutputs values nodeId outputs) other := by
  intro port
  rw [lookup_insertOutputs_ne hApart]
  exact h port

theorem Backed.insert (h : Backed values nodes) (hFree : Untouched values nodeId) :
    Backed values (nodes.insert nodeId record) := by
  intro d port value hValue
  have hApart : d ≠ nodeId := by
    rintro rfl
    rw [hFree port] at hValue
    cases hValue
  rw [lookup_insert_ne hApart]
  exact h d port value hValue

theorem Backed.insertOutputs (h : Backed values nodes) (hFree : Untouched values nodeId)
    (hStatus : outputs = ∅ ∨ record.status.hasOutputs = true) (hOutputs : record.outputs = outputs) :
    Backed (insertOutputs values nodeId outputs) (nodes.insert nodeId record) := by
  intro d port value hValue
  by_cases hSame : d = nodeId
  · subst hSame
    rw [lookup_insertOutputs_self hFree] at hValue
    refine ⟨record, lookup_insert _, ?_, hOutputs ▸ hValue⟩
    rcases hStatus with rfl | hStatus
    · cases hValue
    · exact hStatus
  · rw [lookup_insertOutputs_ne hSame] at hValue
    rw [lookup_insert_ne hSame]
    exact h d port value hValue

end

/-! ## What a call is made with -/

variable (wf ir req) in
/-- The call is for a node of the workflow, and was made as its signature, its secrets and its
approval ask. -/
structure Admissible (call : Call) : Prop where
  dependencies : ∃ n ∈ ir.nodes, call.exchange.request.node = n.node ∧ ∀ d ∈ n.dependencies,
    ∃ record, call.before.lookup d = some record ∧ record.status.hasOutputs = true
  inputs : ∃ signature, call.exchange.request.node.kind.signature = .ok signature ∧
    ∀ port, (call.exchange.request.inputs.lookup port).map (·.valueType) =
      (signature.inputs.lookup port).map .ok
  secrets : ∀ secretId binding, call.exchange.request.secrets.lookup secretId = some binding →
    req.secretBindings.lookup secretId = some binding ∧
      ∃ secret, wf.secrets.lookup secretId = some secret ∧
        call.exchange.request.node.nodeId ∈ secret.allowedNodeIds
  approval : call.exchange.request.node.kind.effect.mutates = true →
    call.exchange.request.inputs.lookup "approval" = some (.boolean true) ∧
      ∃ m ∈ ir.nodes, call.exchange.request.node.permissionPolicy.approvalNodeId = some m.node.nodeId ∧
        m.node.kind.isHumanApproval = true ∧
        ∃ record, call.before.lookup m.node.nodeId = some record ∧ record.status.hasOutputs = true ∧
          record.outputs.lookup "out" = some (.boolean true)

section

variable {m : Machine} {runId workflowId : String} {p : PreparedNode}
variable {usage : ResourceUsage}

theorem Ready.admissible (hIr : Compiled wf ir) {values nodes} (h : Ready ir req values p) (hBacked : Backed values nodes)
    {exchange} (hNode : exchange.request.node = p.node)
    (hInputs : exchange.request.inputs = p.inputs) (hSecrets : exchange.request.secrets = p.secrets) :
    Admissible wf ir req ⟨exchange, nodes⟩ := by
  have hAccepted := hIr.accepted _ h.node
  constructor
  · refine ⟨p.irNode, h.node, hNode, fun d hd => ?_⟩
    obtain ⟨port, value, hValue⟩ := h.dependencies d hd
    obtain ⟨record, hRecord, hStatus, -⟩ := hBacked d port value hValue
    exact ⟨record, hRecord, hStatus⟩
  · refine ⟨_, by rw [hNode]; exact hAccepted.signature, fun port => ?_⟩
    rw [hInputs]
    exact h.inputs port
  · intro secretId binding hLookup
    rw [hSecrets] at hLookup
    obtain ⟨hMem, hBinding⟩ := h.secrets secretId binding hLookup
    obtain ⟨secret, hSecret, hAllowed⟩ := hAccepted.scoped hMem
    exact ⟨hBinding, secret, hSecret, by rw [hNode]; exact hAllowed⟩
  · intro hMutates
    rw [hNode] at hMutates
    obtain ⟨a, ha, hTrue, hValue⟩ := h.approval hMutates
    obtain ⟨-, m, hm, rfl, hHuman⟩ := hAccepted.approved a ha
    obtain ⟨record, hRecord, hStatus, hOut⟩ := hBacked _ _ _ hValue
    refine ⟨by rw [hInputs]; exact hTrue, m, hm, by rw [hNode]; exact ha, hHuman, record, hRecord, hStatus, hOut⟩

theorem attempts_exchange {left attempt backoff exchange}
    (h : exchange ∈ (attempts m runId workflowId p left attempt usage backoff).1) :
    ∃ k, exchange.request = attemptRequest m runId workflowId p k := by
  induction left generalizing attempt usage backoff with
  | zero => cases h
  | succ left ih =>
    unfold attempts at h
    dsimp only at h
    split at h
    · cases h
    · split at h
      · obtain rfl := mem_singleton.mp h
        exact ⟨attempt, rfl⟩
      · obtain rfl := mem_singleton.mp h
        exact ⟨attempt, rfl⟩
      · rcases mem_cons.mp h with rfl | hRest
        · exact ⟨attempt, rfl⟩
        · exact ih hRest

/-- What a completion is for; only a success has outputs. -/
structure Completes (machine : Machine) (p : PreparedNode) (c : NodeCompletion) : Prop where
  nodeId : c.nodeId = p.node.nodeId
  outputs : c.outputs = ∅ ∨ c.status = .succeeded ∧
    validateNodeOutputs machine.codec p.irNode c.outputs = .ok ()

theorem settle_done {attempt backoff result c} (h : settle m p attempt usage backoff result = .ok (.done c)) :
    Completes m p c := by
  cases result with
  | succeeded outputs attemptUsage =>
    simp only [settle, bind_eq_ok, pure_eq_ok, Next.done.injEq] at h
    obtain ⟨_, hOutputs, _, -, rfl⟩ := h
    exact ⟨rfl, .inr ⟨rfl, hOutputs⟩⟩
  | ambiguousExternalEffect receipt pendingOutputs attemptUsage =>
    simp only [settle, bind_eq_ok, pure_eq_ok, Next.done.injEq] at h
    obtain ⟨_, -, _, -, _, -, rfl⟩ := h
    exact ⟨rfl, .inl rfl⟩
  | failed failure message retryable attemptUsage =>
    simp only [settle, bind_eq_ok] at h
    obtain ⟨_, -, h⟩ := h
    split at h
    · simp only [bind_eq_ok, pure_eq_ok, reduceCtorEq, and_false, exists_false] at h
    · rw [pure_eq_ok, Next.done.injEq] at h
      subst h
      exact ⟨rfl, .inl rfl⟩

theorem attempts_ok {left attempt backoff c}
    (h : (attempts m runId workflowId p left attempt usage backoff).2 = .ok c) : Completes m p c := by
  induction left generalizing attempt usage backoff with
  | zero => cases h
  | succ left ih =>
    unfold attempts at h
    dsimp only at h
    split at h
    · cases h
    · split at h
      · cases h
      · next hSettled =>
        cases h
        simp only [Exchange.settled, bind_eq_ok] at hSettled
        obtain ⟨_, -, hDone⟩ := hSettled
        exact settle_done hDone
      · exact ih h

end

/-! ## Batches -/

theorem collect_ok {results done} (h : collect results = .ok done) : results = done.map .ok := by
  induction results generalizing done with
  | nil =>
    cases h
    rfl
  | cons result rest ih =>
    simp only [collect, bind_eq_ok, pure_eq_ok] at h
    obtain ⟨c, hResult, found, hRest, rfl⟩ := h
    rw [hResult, ih hRest, map_cons]

theorem Triple.tryWith_bind {α β : Type} {P : RunState → Prop} {k} {R : β → RunState → Prop}
    {E : Stop Exit → RunState → Prop} {x : Fallible α} (hError : ∀ e s, P s → E (.failed (.failed e)) s)
    (hOk : ∀ a, x = .ok a → Triple P (k a) R E) : Triple P (tryWith x >>= k) R E := by
  cases x with
  | ok a => exact hOk a rfl
  | error e => exact hError e

theorem Triple.finishWith {α : Type} {m status} {P : RunState → Prop}
    {Q : α → RunState → Prop} {E : Stop Exit → RunState → Prop} (h : ∀ s, P s → E (.failed .finished)
      { s with history := finishHistory s.history status (m.now .finishing) }) :
    Triple P (finishWith m status) Q E :=
  (Triple.write h).bind fun _ => Triple.fail fun _ hs => hs

variable (wf ir req) in
structure Sound (s : RunState) : Prop where
  backed : Backed s.values s.history.nodes
  calls : ∀ call ∈ s.calls, Admissible wf ir req call

section

variable {m : Machine} {s : RunState}
variable {done : List NodeCompletion} {batch : List PreparedNode}

/-- What a batch leaves when all of its nodes came back. -/
structure Completed (before : RunState) (completed : List NodeCompletion) (s : RunState) : Prop where
  runId : s.history.runId = before.history.runId
  reuses : s.reused = before.reused
  budget : s.budget = before.budget
  calls : s.calls = before.calls
  values : ∀ c ∈ completed, ∀ port, s.values.lookup (c.nodeId, port) = c.outputs.lookup port
  records : ∀ c ∈ completed, s.history.nodes.lookup c.nodeId = some c.record
  otherValues : ∀ d port, d ∉ completed.map (·.nodeId) → s.values.lookup (d, port) = before.values.lookup (d, port)
  otherRecords : ∀ d, d ∉ completed.map (·.nodeId) → s.history.nodes.lookup d = before.history.nodes.lookup d

theorem completed_foldl {completed s}
    (hNodup : (completed.map (·.nodeId)).Nodup) (hFree : ∀ c ∈ completed, Untouched s.values c.nodeId) :
    Completed s completed (completed.foldl RunState.complete s) := by
  induction completed generalizing s with
  | nil =>
    exact ⟨rfl, rfl, rfl, rfl, nofun, nofun,
      fun _ _ _ => rfl, fun _ _ => rfl⟩
  | cons c rest ih =>
    rw [map_cons, nodup_cons] at hNodup
    rw [forall_mem_cons] at hFree
    have hApart : ∀ c' ∈ rest, c'.nodeId ≠ c.nodeId := by
      intro c' hc' hSame
      exact hNodup.1 (hSame ▸ mem_map_of_mem hc')
    have h := ih (s := s.complete c) hNodup.2 fun c' hc' => (hFree.2 c' hc').insertOutputs (hApart c' hc')
    rw [foldl_cons]
    constructor
    · exact h.runId
    · exact h.reuses
    · exact h.budget
    · exact h.calls
    · rw [forall_mem_cons]
      refine ⟨fun port => ?_, h.values⟩
      rw [h.otherValues _ port hNodup.1]
      exact lookup_insertOutputs_self hFree.1
    · rw [forall_mem_cons]
      refine ⟨?_, h.records⟩
      rw [h.otherRecords _ hNodup.1]
      exact lookup_insert _
    · intro d port hd
      rw [map_cons, mem_cons, not_or] at hd
      rw [h.otherValues d port hd.2]
      exact lookup_insertOutputs_ne hd.1
    · intro d hd
      rw [map_cons, mem_cons, not_or] at hd
      rw [h.otherRecords d hd.2]
      exact lookup_insert_ne hd.1

theorem Sound.complete {c} (h : Sound wf ir req s)
    (hFree : Untouched s.values c.nodeId) (hOutputs : c.outputs = ∅ ∨ c.status = .succeeded) :
    Sound wf ir req (s.complete c) := by
  refine ⟨h.backed.insertOutputs hFree ?_ rfl, h.calls⟩
  rcases hOutputs with hEmpty | hStatus
  · exact .inl hEmpty
  · right
    change c.status.hasOutputs = true
    rw [hStatus]
    rfl

theorem Sound.completeAll (h : Sound wf ir req s)
    (hNodup : (done.map (·.nodeId)).Nodup) (hFree : ∀ c ∈ done, Untouched s.values c.nodeId)
    (hOutputs : ∀ c ∈ done, c.outputs = ∅ ∨ c.status = .succeeded) :
    Sound wf ir req (done.foldl RunState.complete s) := by
  induction done generalizing s with
  | nil => exact h
  | cons c rest ih =>
    rw [map_cons, nodup_cons] at hNodup
    rw [forall_mem_cons] at hFree hOutputs
    refine ih (h.complete hFree.1 hOutputs.1) hNodup.2 (fun c' hc' => ?_) hOutputs.2
    exact (hFree.2 c' hc').insertOutputs fun hSame => hNodup.1 (hSame ▸ mem_map_of_mem hc')

theorem batchResult_ok (h : batchResult m ir req batch = .ok done) :
    (done.map (·.nodeId)).Perm (batch.map (·.node.nodeId)) ∧
      ∀ c ∈ done, ∃ p ∈ batch, (runNode m ir req p).2 = .ok c := by
  simp only [batchResult, bind_eq_ok, pure_eq_ok] at h
  obtain ⟨found, hFound, rfl⟩ := h
  have hAll : List.Forall₂ (fun p c => (runNode m ir req p).2 = .ok c) (byArrival m batch)
      found := by
    have hEq := forall₂_eq_eq_eq ▸ collect_ok hFound
    exact forall₂_map_left_iff.mp (forall₂_map_right_iff.mp hEq)
  have hIds : (byArrival m batch).map (·.node.nodeId) = found.map (·.nodeId) := by
    apply Lists.map_eq_of_forall₂ _ hAll
    intro p c hc
    exact (attempts_ok hc).nodeId.symm
  constructor
  · have hSorted := (perm_insertionSort (fun a b : NodeCompletion => textBytes a.nodeId ≤ textBytes b.nodeId)
      found).map (·.nodeId)
    rw [← hIds] at hSorted
    exact hSorted.trans ((perm_insertionSort _ batch).map _)
  · intro c hc
    obtain ⟨p, hp, hRun⟩ := Lists.exists_of_mem_forall₂ hAll.flip (mem_insertionSort _ |>.mp hc)
    exact ⟨p, (mem_insertionSort _).mp hp, hRun⟩

theorem Ready.mono {values values' p} (h : Ready ir req values p)
    (hGrow : ∀ key value, values.lookup key = some value → values'.lookup key = some value) :
    Ready ir req values' p := by
  refine ⟨h.node, h.inputs, fun d hd => ?_, h.secrets, fun hMutates => ?_⟩
  · obtain ⟨port, value, hValue⟩ := h.dependencies d hd
    exact ⟨port, value, hGrow _ _ hValue⟩
  · obtain ⟨a, ha, hTrue, hValue⟩ := h.approval hMutates
    exact ⟨a, ha, hTrue, hGrow _ _ hValue⟩

variable (wf ir req) in
/-- Batches that are still to be run, and nodes of later levels. -/
structure Pending (reused : List String)
    (later : String → Prop) (batches : List (List PreparedNode)) (s : RunState) : Prop where
  sound : Sound wf ir req s
  reused : s.reused = reused
  nodup : (batches.flatten.map (·.node.nodeId)).Nodup
  ready : ∀ p ∈ batches.flatten, Ready ir req s.values p ∧ Untouched s.values p.node.nodeId ∧
    ¬ later p.node.nodeId
  later : ∀ nodeId, later nodeId → Untouched s.values nodeId

theorem Sound.called (hIr : Compiled wf ir)
    (h : Sound wf ir req s) (hReady : ∀ p ∈ batch, Ready ir req s.values p) :
    Sound wf ir req { s with calls := s.calls ++ batchCalls m ir req s batch } := by
  refine ⟨h.backed, fun call hCall => ?_⟩
  rcases mem_append.mp hCall with hOld | hNew
  · exact h.calls call hOld
  · simp only [batchCalls, List.mem_flatMap, List.mem_map] at hNew
    obtain ⟨p, hp, exchange, hExchange, rfl⟩ := hNew
    obtain ⟨k, hRequest⟩ := attempts_exchange hExchange
    exact (hReady p hp).admissible hIr h.backed (by rw [hRequest]; rfl) (by rw [hRequest]; rfl)
      (by rw [hRequest]; rfl)

theorem Sound.finish {status now} (h : Sound wf ir req s) :
    Sound wf ir req { s with history := finishHistory s.history status now } :=
  ⟨h.backed, h.calls⟩

theorem Pending.complete {reused} {later : String → Prop} {rest}
    (h : Pending wf ir req reused later (batch :: rest) s) (hResult : batchResult m ir req batch = .ok done) :
    Pending wf ir req reused later rest (done.foldl RunState.complete s) := by
  obtain ⟨hIds, hRuns⟩ := batchResult_ok hResult
  have hNodup := h.nodup
  rw [flatten_cons, map_append, nodup_append] at hNodup
  obtain ⟨hBatch, hRest, hApart⟩ := hNodup
  have hMem : ∀ nodeId ∈ done.map (·.nodeId), ∃ p ∈ batch, p.node.nodeId = nodeId :=
    fun nodeId hId => mem_map.mp (hIds.mem_iff.mp hId)
  have hFree : ∀ c ∈ done, Untouched s.values c.nodeId := by
    intro c hc
    obtain ⟨p, hp, hId⟩ := hMem _ (mem_map_of_mem hc)
    exact hId ▸ (h.ready p (mem_append_left _ hp)).2.1
  have hDone := completed_foldl (hIds.nodup_iff.mpr hBatch) hFree
  have hSound := h.sound.completeAll (hIds.nodup_iff.mpr hBatch) hFree fun c hc => by
    obtain ⟨p, -, hRun⟩ := hRuns c hc
    exact (attempts_ok hRun).outputs.imp_right And.left
  -- A value that was there belongs to another node, and stays.
  have hGrow : ∀ key value, s.values.lookup key = some value →
      (done.foldl RunState.complete s).values.lookup key = some value := by
    rintro ⟨d, port⟩ value hValue
    rw [hDone.otherValues d port, hValue]
    intro hd
    obtain ⟨p, hp, rfl⟩ := hMem d hd
    rw [(h.ready p (mem_append_left _ hp)).2.1 port] at hValue
    cases hValue
  refine ⟨hSound, hDone.reuses.trans h.reused, hRest, fun p hp => ?_, fun nodeId hLater port => ?_⟩
  · obtain ⟨hReady, hFree, hNow⟩ := h.ready p (mem_append_right _ hp)
    refine ⟨hReady.mono hGrow, fun port => ?_, hNow⟩
    rw [hDone.otherValues _ port, hFree port]
    intro hId
    obtain ⟨p', hp', hSame⟩ := hMem _ hId
    exact hApart _ (mem_map_of_mem hp') _ (mem_map_of_mem hp) hSame
  · rw [hDone.otherValues nodeId port, h.later nodeId hLater port]
    intro hId
    obtain ⟨p, hp, rfl⟩ := hMem nodeId hId
    exact (h.ready p (mem_append_left _ hp)).2.2 hLater

theorem runBatch_pending (hIr : Compiled wf ir) {reused} {later : String → Prop}
    (batch : List PreparedNode) (rest : List (List PreparedNode)) :
    Triple (Pending wf ir req reused later (batch :: rest)) (runBatch m ir req batch)
      (fun _ => Pending wf ir req reused later rest) (fun _ => Sound wf ir req) := by
  unfold runBatch
  apply Triple.bind (Q := fun _ => Pending wf ir req reused later (batch :: rest))
  · apply Triple.write
    intro s h
    refine ⟨h.sound.called hIr fun p hp => ?_, h.reused, h.nodup, h.ready, h.later⟩
    exact (h.ready p (mem_append_left _ hp)).1
  intro _
  apply Triple.tryWith_bind (fun _ s h => h.sound)
  intro done hOk
  apply (Triple.write (Q := fun _ => Pending wf ir req reused later rest) fun s h => h.complete hOk).bind
  intro _
  cases done.foldl terminalFailure none with
  | none => exact .skip
  | some status => exact Triple.finishWith fun _ h => h.sound.finish

end

/-! ## Levels -/

section

variable {m : Machine} {s s' : RunState} {prepared prepared' : List PreparedNode}
  {n : WorkflowIrNode}
variable {reused : List String} {rest : List Nat} {level : Nat}

theorem prepareNode_cases (h : prepareNode m req (s, prepared) n = .ok (s', prepared')) :
    (n.node.nodeId ∈ s.reused ∧ s' = s ∧ prepared' = prepared) ∨
    (n.node.nodeId ∉ s.reused ∧ guardMatches s.values n.node = .ok true ∧
      ∃ p budget, prepareInputs req s.values n = .ok p ∧ s.budget.reserve n.node = .ok budget ∧
        s' = { s with budget := budget } ∧ prepared' = prepared ++ [p]) ∨
    (n.node.nodeId ∉ s.reused ∧ guardMatches s.values n.node = .ok false ∧
      s' = s.skip n.node.nodeId (m.now (.skipping n.node.nodeId)) ∧ prepared' = prepared) := by
  simp only [prepareNode] at h
  split at h
  · next hReused =>
    cases h
    exact .inl ⟨by simpa using hReused, rfl, rfl⟩
  · next hReused =>
    rw [bind_eq_ok] at h
    obtain ⟨runs, hGuard, h⟩ := h
    have hNot : n.node.nodeId ∉ s.reused := by simpa using hReused
    cases runs with
    | true =>
      simp only [if_true, bind_eq_ok] at h
      obtain ⟨p, hp, budget, hBudget, hPair⟩ := h
      cases hPair
      exact .inr (.inl ⟨hNot, hGuard, p, budget, hp, hBudget, rfl, rfl⟩)
    | false =>
      cases h
      exact .inr (.inr ⟨hNot, hGuard, rfl, rfl⟩)

variable (wf ir req) in
structure Preparing (start : RunState)
    (nodes : List WorkflowIrNode) (found : RunState × List PreparedNode)
    (rest : List WorkflowIrNode) : Prop where
  sound : Sound wf ir req found.1
  values : found.1.values = start.values
  reused : found.1.reused = start.reused
  order : (found.2.map (·.irNode) ++ rest).Sublist nodes
  ready : ∀ p ∈ found.2, Ready ir req start.values p ∧ p.node.nodeId ∉ start.reused

theorem Sound.skip {nodeId now} (h : Sound wf ir req s)
    (hFree : Untouched s.values nodeId) : Sound wf ir req (s.skip nodeId now) :=
  ⟨h.backed.insert hFree, h.calls⟩

theorem prepareNode_preparing (hIr : Compiled wf ir) {start nodes rest} (hNodes : ∀ m ∈ nodes, m ∈ ir.nodes)
    (hFree : ∀ m ∈ nodes, m.node.nodeId ∉ start.reused → Untouched start.values m.node.nodeId) {found found'}
    (hStart : Preparing wf ir req start nodes found (n :: rest))
    (h : prepareNode m req found n = .ok found') : Preparing wf ir req start nodes found' rest := by
  obtain ⟨s, prepared⟩ := found
  obtain ⟨s', prepared'⟩ := found'
  obtain ⟨hSound, hValues, hReused, hOrder, hReady⟩ := hStart
  have hn : n ∈ nodes := hOrder.subset (mem_append_right _ mem_cons_self)
  have hShorter : (prepared.map (·.irNode) ++ rest).Sublist nodes :=
    ((sublist_cons_self n rest).append_left _).trans hOrder
  rcases prepareNode_cases h with ⟨-, rfl, rfl⟩ | ⟨hNot, hGuard, p, budget, hp, -, rfl, rfl⟩ |
    ⟨hNot, -, rfl, rfl⟩
  · exact ⟨hSound, hValues, hReused, hShorter, hReady⟩
  · obtain ⟨hNode, hNew⟩ := ready_of_prepared hIr (hNodes n hn) hGuard hp
    refine ⟨⟨hSound.backed, hSound.calls⟩, hValues, hReused, ?_, ?_⟩
    · simpa [hNode] using hOrder
    · intro p' hp'
      rcases mem_append.mp hp' with hOld | hLast
      · exact hReady p' hOld
      · obtain rfl := mem_singleton.mp hLast
        rw [hValues] at hNew
        rw [hReused] at hNot
        refine ⟨hNew, ?_⟩
        change p'.irNode.node.nodeId ∉ start.reused
        rwa [hNode]
  · rw [hReused] at hNot
    refine ⟨hSound.skip ?_, hValues, hReused, hShorter, hReady⟩
    rw [hValues]
    exact hFree n hn hNot

theorem prepareLevel_ok (hIr : Compiled wf ir) (hSound : Sound wf ir req s)
    (hFree : ∀ m ∈ ir.atLevel level, m.node.nodeId ∉ s.reused → Untouched s.values m.node.nodeId)
    (h : prepareLevel m ir req s level = .ok (s', prepared)) :
    Preparing wf ir req s (ir.atLevel level) (s', prepared) [] := by
  refine foldlM_ok (I := Preparing wf ir req s (ir.atLevel level)) ?_ h
    ⟨hSound, rfl, rfl, List.Sublist.refl _, fun _ hp => absurd hp not_mem_nil⟩
  intro found m rest found' hStart hStep
  exact prepareNode_preparing hIr (fun m hm => mem_of_mem_filter hm) hFree hStart hStep

def Later (ir : WorkflowIr) (reused : List String) (levels : List Nat) (nodeId : String) : Prop :=
  ∃ m ∈ ir.nodes, m.level ∈ levels ∧ m.node.nodeId = nodeId ∧ nodeId ∉ reused

variable (wf ir req) in
/-- The levels that are still to be run, from a state in which their nodes have no outputs. -/
structure Upcoming (reused : List String) (levels : List Nat) (s : RunState) : Prop where
  sound : Sound wf ir req s
  reuses : s.reused = reused
  nodup : levels.Nodup
  free : ∀ nodeId, Later ir reused levels nodeId → Untouched s.values nodeId

theorem Upcoming.batched (hIr : Compiled wf ir) (h : Upcoming wf ir req reused (level :: rest) s)
    (hPrepared : prepareLevel m ir req s level = .ok (s', prepared)) {batches}
    (hBatches : batches.flatten.Sublist prepared) :
    Pending wf ir req reused (Later ir reused rest) batches s' ∧ rest.Nodup := by
  obtain ⟨hSound, hValues, hReused, hOrder, hReady⟩ := prepareLevel_ok hIr h.sound
    (by
      intro m hm hNot
      have hLevel := mem_filter.mp hm
      rw [h.reuses] at hNot
      exact h.free _ ⟨m, hLevel.1, by simp [of_decide_eq_true hLevel.2], rfl, hNot⟩) hPrepared
  obtain ⟨hLevel, hNodup⟩ := nodup_cons.mp h.nodup
  rw [append_nil] at hOrder
  have hIds : (prepared.map (·.node.nodeId)).Sublist (ir.nodes.map (·.node.nodeId)) := by
    have hMap := (hOrder.trans List.filter_sublist).map (·.node.nodeId)
    rwa [List.map_map] at hMap
  have hMem : ∀ p ∈ prepared, p.irNode.level = level := by
    intro p hp
    have hAt := hOrder.subset (mem_map_of_mem hp)
    exact of_decide_eq_true (mem_filter.mp hAt).2
  refine ⟨⟨hSound, hReused.trans h.reuses, ?_, fun p hp => ?_, fun nodeId hLater => ?_⟩, hNodup⟩
  · exact ((hBatches.map _).trans hIds).nodup hIr.nodup
  · have hp := hBatches.subset hp
    obtain ⟨hNode, hNot⟩ := hReady p hp
    rw [h.reuses] at hNot
    rw [hValues]
    refine ⟨hNode, h.free _ ⟨p.irNode, hNode.node, by simp [hMem p hp], rfl, hNot⟩, ?_⟩
    rintro ⟨m, hm, hmLevel, hmId, -⟩
    obtain rfl := hIr.unique hm hNode.node hmId
    exact hLevel (hMem p hp ▸ hmLevel)
  · rw [hValues]
    obtain ⟨m, hm, hmLevel, hRest⟩ := hLater
    exact h.free nodeId ⟨m, hm, mem_cons_of_mem level hmLevel, hRest⟩

/-! Until a level is prepared the run only looks at signals and at the clock. -/

section

variable {I : RunState → Prop} {E : Stop Exit → RunState → Prop}
  (hE : ∀ s, I s → E (.failed .finished)
    { s with history := finishHistory s.history .cancelled (m.now .finishing) })

include hE

theorem finishIf_keeps (condition : Bool) : Triple I (finishIf m condition) (fun _ => I) E := by
  unfold finishIf
  cases condition with
  | false => exact .skip
  | true => exact Triple.finishWith hE

theorem park_keeps (level poll : Nat) (intents : List (Option SignalIntent)) :
    Triple I (park m level poll intents) (fun _ => I) E := by
  induction intents generalizing poll with
  | nil => exact finishIf_keeps hE _
  | cons intent rest ih =>
    unfold park
    apply (finishIf_keeps hE _).bind
    intro _
    split
    · exact ih (poll + 1)
    · exact .skip

theorem levelBoundary_keeps (level : Nat) : Triple I (levelBoundary m level) (fun _ => I) E := by
  unfold levelBoundary
  apply (finishIf_keeps hE _).bind
  intro _
  cases m.signals with
  | none => exact .skip
  | some signals => exact (park_keeps hE level 0 _).bind fun _ => finishIf_keeps hE _

end

theorem checkWallTime_keeps {I : RunState → Prop} (hI : ∀ s, I s → Sound wf ir req s) (level : Nat) :
    Triple I (checkWallTime m ir level) (fun _ => I) (fun _ => Sound wf ir req) := by
  unfold checkWallTime
  split
  · apply Triple.bind (Q := fun _ => Sound wf ir req)
    · exact .write fun s h => (hI s h).finish
    · exact fun _ => .fail fun _ h => h
  · exact .skip

variable (wf ir req) in
def Batched (reused : List String) (rest : List Nat)
    (batches : List (List PreparedNode)) (s : RunState) : Prop :=
  Pending wf ir req reused (Later ir reused rest) batches s ∧ rest.Nodup

theorem prepare_batched (hIr : Compiled wf ir) :
    Triple (Upcoming wf ir req reused (level :: rest)) (prepare m ir req level)
      (fun prepared => Batched wf ir req reused rest
        (Lists.chunks ir.maximumConcurrency prepared.length prepared))
      (fun _ => Sound wf ir req) := by
  unfold prepare
  apply Triple.of_forall
  intro s h
  apply Triple.read_bind
  apply Triple.tryWith_bind
  · rintro _ _ rfl
    exact h.sound
  rintro ⟨s', prepared⟩ hOk
  exact .write_bind (.pureAt (h.batched hIr hOk (Lists.flatten_chunks_sublist _ _ _)))

theorem runBatch_batched (hIr : Compiled wf ir)
    (batch : List PreparedNode) (batches : List (List PreparedNode)) :
    Triple (Batched wf ir req reused rest (batch :: batches)) (runBatch m ir req batch)
      (fun _ => Batched wf ir req reused rest batches) (fun _ => Sound wf ir req) := by
  rintro s ⟨h, hNodup⟩
  exact (runBatch_pending hIr batch batches).weaken (fun _ h => h) (fun _ _ h => ⟨h, hNodup⟩)
    (fun _ _ h => h) s h

theorem runLevel_upcoming (hIr : Compiled wf ir) (level : Nat) (rest : List Nat) :
    Triple (Upcoming wf ir req reused (level :: rest)) (runLevel m ir req level)
      (fun _ => Upcoming wf ir req reused rest) (fun _ => Sound wf ir req) := by
  unfold runLevel
  apply (levelBoundary_keeps (fun _ h => h.sound.finish) level).bind
  intro _
  apply (checkWallTime_keeps (fun _ h => h.sound) level).bind
  intro _
  apply (prepare_batched hIr).bind
  intro prepared
  apply (Triple.forM_rest (I := Batched wf ir req reused rest)
    (runBatch_batched hIr) _).weaken (fun _ h => h)
  · rintro _ s ⟨h, hNodup⟩
    exact ⟨h.sound, h.reused, hNodup, h.later⟩
  · exact fun _ _ h => h

end

/-! ## Runs -/

section

variable {m : Machine} {s s' : RunState}

theorem writeOutput_sound (entry : Sigma fun _ : String => WorkflowOutput) :
    Triple (Sound wf ir req) (writeOutput req entry) (fun _ => Sound wf ir req)
      (fun _ => Sound wf ir req) := by
  unfold writeOutput
  apply Triple.look
  intro s
  exact Triple.tryWith_bind (fun _ _ h => h) fun _ _ => .write fun _ h => ⟨h.backed, h.calls⟩

variable (m) in
theorem runLevels_sound (hIr : Compiled wf ir) {reused} :
    Triple (Upcoming wf ir req reused (List.range (ir.maxLevel + 1)))
      (runLevels m ir req) (fun _ => Sound wf ir req)
      (fun _ => Sound wf ir req) := by
  unfold runLevels
  apply (Triple.forM_rest (I := Upcoming wf ir req reused) (runLevel_upcoming hIr) _).bind
  intro _
  apply Triple.bind (Q := fun _ => Sound wf ir req)
  · apply Triple.pre (.forM fun entry _ => writeOutput_sound entry)
    exact fun _ h => h.sound
  · exact fun _ => .write fun _ h => h.finish

/-- What the loop over the reused nodes has taken from the source. -/
structure Reusing (source : WorkflowRunHistory) (s : RunState) : Prop where
  values : ∀ d port value, s.values.lookup (d, port) = some value → d ∈ s.reused ∧
    ∃ record, source.nodes.lookup d = some record ∧ record.outputs.lookup port = some value
  records : ∀ d ∈ s.reused, ∃ record, source.nodes.lookup d = some record ∧
    s.history.nodes.lookup d = some { record with status := .reused source.runId }
  outputs : ∀ d ∈ s.reused, ∀ record, source.nodes.lookup d = some record → ∀ port value,
    record.outputs.lookup port = some value → s.values.lookup (d, port) = some value
  calls : s.calls = []

theorem Reusing.step {source nodeId} (h : Reusing source s)
    (hStep : reuseNode m source s nodeId = .ok s') : Reusing source s' := by
  simp only [reuseNode, WorkflowRunHistory.inspectNode, bind_eq_ok, okOr_eq_ok, pure_eq_ok] at hStep
  obtain ⟨record, hRecord, _, -, rfl⟩ := hStep
  constructor
  · intro d port value hValue
    by_cases hSame : d = nodeId
    · subst hSame
      refine ⟨by simp, record, hRecord, ?_⟩
      rw [lookup_insertOutputs, or_eq_some_iff] at hValue
      rcases hValue with hNew | ⟨-, hOld⟩
      · exact hNew
      · obtain ⟨-, found, hFound, hOut⟩ := h.values d port value hOld
        rw [hRecord] at hFound
        cases hFound
        exact hOut
    · rw [lookup_insertOutputs_ne hSame] at hValue
      obtain ⟨hMem, hRest⟩ := h.values d port value hValue
      exact ⟨mem_append_left _ hMem, hRest⟩
  · intro d hd
    change ∃ found, _ ∧ (s.history.nodes.insert nodeId _).lookup d = _
    by_cases hSame : d = nodeId
    · subst hSame
      exact ⟨record, hRecord, lookup_insert _⟩
    · rw [lookup_insert_ne hSame]
      rcases mem_append.mp hd with hOld | hNew
      · exact h.records d hOld
      · exact absurd (mem_singleton.mp hNew) hSame
  · intro d hd found hFound port value hOut
    by_cases hSame : d = nodeId
    · subst hSame
      cases hFound.symm.trans hRecord
      rw [lookup_insertOutputs, hOut]
      rfl
    · rw [lookup_insertOutputs_ne hSame]
      rcases mem_append.mp hd with hOld | hNew
      · exact h.outputs d hOld found hFound port value hOut
      · exact absurd (mem_singleton.mp hNew) hSame
  · exact h.calls

theorem Reusing.upcoming {source} (h : Reusing source s) {levels}
    (hNodup : levels.Nodup) : Upcoming wf ir req s.reused levels s := by
  refine ⟨⟨fun d port value hValue => ?_, by simp [h.calls]⟩, rfl, hNodup, fun nodeId hLater port => ?_⟩
  · obtain ⟨hMem, record, hRecord, hOut⟩ := h.values d port value hValue
    obtain ⟨found, hFound, hNode⟩ := h.records d hMem
    rw [hRecord] at hFound
    cases hFound
    exact ⟨_, hNode, rfl, hOut⟩
  · obtain ⟨-, -, -, -, hNot⟩ := hLater
    cases hValue : s.values.lookup (nodeId, port) with
    | none => rfl
    | some value => exact absurd (h.values nodeId port value hValue).1 hNot

theorem reusing_initial (source : WorkflowRunHistory) : Reusing source (initialState m ir req) := by
  refine ⟨fun d port value hValue => ?_, nofun,
    nofun, rfl⟩
  cases hValue

theorem begin_upcoming {origin} (h : begin m ir req origin = .ok s) :
    Upcoming wf ir req s.reused (List.range (ir.maxLevel + 1)) s := by
  simp only [begin, bind_eq_ok] at h
  obtain ⟨_, -, _, -, _, -, hReuse⟩ := h
  cases origin with
  | fresh =>
    cases hReuse
    exact (reusing_initial (initialHistory m ir req)).upcoming nodup_range
  | replay source plan =>
    have hReusing : Reusing source s := foldlM_ok (I := fun s _ => Reusing source s)
      (fun _ _ _ _ h hStep => h.step hStep) hReuse (reusing_initial source)
    exact hReusing.upcoming nodup_range

theorem finishRun_calls (r : EStateM.Result (Stop Exit) RunState Unit) :
    (∃ s, r = .ok () s ∧ (finishRun r).calls = s.calls) ∨
      ∃ stop s, r = .error stop s ∧ (finishRun r).calls = s.calls := by
  cases r with
  | ok u s => exact .inl ⟨s, rfl, rfl⟩
  | error stop s =>
    refine .inr ⟨stop, s, rfl, ?_⟩
    rcases stop with _ | _ | _ <;> rfl

/-- Every call of a run or a replay is made as the node it is for asks. -/
theorem execution_typed_and_approved {codec : Codec} {daemonCapabilities : List DaemonCapability}
    {capabilities : WorkflowCapabilityCatalog}
    (hCompile : compileWorkflow codec wf daemonCapabilities capabilities = .ok ir)
    (origin : Origin) {call : Call} (hCall : call ∈ (execute m ir req origin).calls) :
    Admissible wf ir req call := by
  unfold execute at hCall
  cases hBegin : begin m ir req origin with
  | error e =>
    rw [hBegin] at hCall
    cases hCall
  | ok s =>
    rw [hBegin] at hCall
    have hRun := runLevels_sound m (compileWorkflow_ok hCompile) s (begin_upcoming hBegin)
    rcases finishRun_calls (runLevels m ir req s) with ⟨s', hEnd, hCalls⟩ | ⟨stop, s', hEnd, hCalls⟩
    · rw [hEnd] at hRun
      exact hRun.calls call (hCalls ▸ hCall)
    · rw [hEnd] at hRun
      exact hRun.calls call (hCalls ▸ hCall)

end

namespace Release

def obliging (request : NodeExecutionRequest) : Except String NodeAdapterResult :=
  if request.node.kind.isHumanApproval then .ok (.succeeded (AList.insert "out" (.boolean true) ∅) .zero)
  else .ok (.succeeded (AList.insert "out" (.json "null") ∅) .zero)

def machine : Machine where
  execute := obliging
  now _ := 1000
  cancelled _ := false
  sleep _ _ := .ok ()
  signals := none
  arrival _ := 0
  sha _ := ""
  codec := codec

def request : WorkflowRunRequest := ⟨"release-1", ∅, ∅, .manual⟩

theorem publish_admissible : ∃ ir call, compileWorkflow codec definition [] capabilities = .ok ir ∧
    call ∈ (execute machine ir request .fresh).calls ∧ call.exchange.request.node.nodeId = "publish" ∧
    Admissible definition ir request call := by
  obtain ⟨ir, hCompile, hAny⟩ := exists_of_any (x := compileWorkflow codec definition [] capabilities)
    (p := fun ir => (execute machine ir request .fresh).calls.any
      fun call => call.exchange.request.node.nodeId = "publish") (by decide +kernel)
  obtain ⟨call, hCall, hNode⟩ := any_eq_true.mp hAny
  exact ⟨ir, call, hCompile, hCall, of_decide_eq_true hNode,
    execution_typed_and_approved hCompile .fresh hCall⟩

end Release

end LittleMonkey.Workflow
