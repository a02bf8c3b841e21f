import LittleMonkey.Channel.SenderDecisions

/-! # Conversations of machines

A stretch of a conversation in which only machines speak has a budget, counted from the
recorded events, newest first by their own time stamps; a message that finds it spent is
dropped.  An unmentioned command in a group is answered without looking at it.
-/

namespace LittleMonkey.Channel

open Primitives Guards Transaction Interleaving List

/-! ## The streak -/

section

variable (acct conv : String)
variable {row : EventRow × Nat} {db : ChannelDb}

/-- The rows that came after everything a person said: the streak of machines. -/
def ChannelDb.late (db : ChannelDb) : List (EventRow × Nat) :=
  (db.inboundRows acct conv).filter fun row =>
    (db.inboundRows acct conv).all fun person =>
      person.1.isMachine || !decide (isLater person row)

variable {acct conv}

theorem mem_late : row ∈ db.late acct conv ↔ row ∈ db.inboundRows acct conv ∧
      ∀ person ∈ db.inboundRows acct conv, person.1.isMachine = false →
        ¬ isLater person row := by
  unfold ChannelDb.late
  rw [mem_filter]
  apply and_congr_right
  intro _
  simp only [all_eq_true]
  apply forall₂_congr
  intro person _
  cases person.1.isMachine <;> simp

theorem isLater_refl (row : EventRow × Nat) : isLater row row := .inr ⟨rfl, Nat.le_refl _⟩

theorem isMachine_of_late (h : row ∈ db.late acct conv) : row.1.isMachine = true := by
  obtain ⟨hRow, hLater⟩ := mem_late.mp h
  cases hMachine : row.1.isMachine with
  | true => rfl
  | false => exact absurd (isLater_refl row) (hLater row hRow hMachine)

instance : Std.Total isLater := ⟨fun a b => by unfold isLater; omega⟩

instance : IsTrans (EventRow × Nat) isLater := ⟨fun a b c hab hbc => by unfold isLater at *; omega⟩

theorem late_subset_takeWhile (h : row ∈ db.late acct conv) :
    row ∈ ((db.inboundRows acct conv).insertionSort isLater).takeWhile (·.1.isMachine) := by
  obtain ⟨hRow, hLater⟩ := mem_late.mp h
  have hSorted := pairwise_insertionSort isLater (db.inboundRows acct conv)
  have hMem : row ∈ (db.inboundRows acct conv).insertionSort isLater :=
    (perm_insertionSort isLater _).mem_iff.mpr hRow
  rw [← takeWhile_append_dropWhile
    (l := (db.inboundRows acct conv).insertionSort isLater)] at hSorted hMem
  rcases mem_append.mp hMem with hTaken | hDropped
  · exact hTaken
  · cases hRest : ((db.inboundRows acct conv).insertionSort isLater).dropWhile
      (·.1.isMachine) with
    | nil =>
      rw [hRest] at hDropped
      cases hDropped
    | cons person rest =>
      have hPerson : person.1.isMachine = false := by
        have hHead := head_dropWhile_not (p := fun row : EventRow × Nat => row.1.isMachine)
          (l := (db.inboundRows acct conv).insertionSort isLater) (by simp [hRest])
        simpa [hRest] using hHead
      have hStored : person ∈ db.inboundRows acct conv := by
        apply (perm_insertionSort isLater _).mem_iff.mp
        apply dropWhile_subset fun row : EventRow × Nat => row.1.isMachine
        rw [hRest]
        exact mem_cons_self
      rw [hRest] at hDropped hSorted
      have hAfter := (pairwise_append.mp hSorted).2.1
      rcases mem_cons.mp hDropped with rfl | hTail
      · rw [isMachine_of_late h] at hPerson
        cases hPerson
      · exact absurd ((pairwise_cons.mp hAfter).1 row hTail) (hLater person hStored hPerson)

theorem nodup_inboundRows (db : ChannelDb) : (db.inboundRows acct conv).Nodup := by
  apply List.Nodup.filter
  apply List.Nodup.of_map (fun row : EventRow × Nat => row.2)
  rw [zipIdx_map_snd]
  exact nodup_range'

theorem length_late_lt {window} (h : db.consecutiveMachineMessages acct conv window < window) :
    (db.late acct conv).length < window := by
  have hNodup : (db.late acct conv).Nodup := List.Nodup.filter _ (nodup_inboundRows db)
  have hSubset : db.late acct conv ⊆
      ((db.inboundRows acct conv).insertionSort isLater).takeWhile (·.1.isMachine) :=
    fun _ hRow => late_subset_takeWhile hRow
  have hLength := (subperm_of_subset hNodup hSubset).length_le
  unfold ChannelDb.consecutiveMachineMessages at h
  rw [Lists.takeWhile_take, length_take] at h
  omega

end

/-! ## Rows that stay where they are -/

def ChannelDb.eventAt (db : ChannelDb) (acct providerEventId : String) :
    Option (EventRow × Nat) :=
  db.events.zipIdx.find? (·.1.isEventOf acct providerEventId)

/-- The rows are kept, and those that are new to the conversation are of machines. -/
structure Extends (acct conv : String) (s t : ChannelDb) : Prop where
  rows : ∃ (f : EventRow → EventRow) (added : List EventRow),
    t.events = (s.events ++ added).map f ∧ (∀ row, RowKept row (f row)) ∧
      ∀ row ∈ added, row.isInboundOf acct conv = true → row.isMachine = true

section

variable {acct conv : String} {s t : ChannelDb}
variable {f : EventRow → EventRow}

theorem isInboundOf_kept {a b} (h : RowKept a b) : b.isInboundOf acct conv = a.isInboundOf acct conv := by
  simp only [EventRow.isInboundOf, h.accountId, h.conversationId, h.direction]

theorem isLater_kept (hf : ∀ row, RowKept row (f row))
    (a b : EventRow × Nat) : isLater (f a.1, a.2) (f b.1, b.2) ↔ isLater a b := by
  simp only [isLater, (hf a.1).receivedAtMs, (hf b.1).receivedAtMs]

theorem Extends.congr (hEvents : t.events = s.events) : Extends acct conv s t :=
  ⟨id, [], by simp [hEvents], .refl, by simp⟩

theorem mem_zipIdx_map_append {rows added : List EventRow} {row} :
    row ∈ ((rows ++ added).map f).zipIdx ↔ (∃ old ∈ rows.zipIdx, row = (f old.1, old.2)) ∨
      ∃ new ∈ added.zipIdx rows.length, row = (f new.1, new.2) := by
  rw [zipIdx_map, zipIdx_append, mem_map]
  simp only [mem_append, Nat.zero_add]
  constructor
  · rintro ⟨old, hOld | hNew, rfl⟩
    · exact .inl ⟨old, hOld, rfl⟩
    · exact .inr ⟨old, hNew, rfl⟩
  · rintro (⟨old, hOld, rfl⟩ | ⟨new, hNew, rfl⟩)
    · exact ⟨old, .inl hOld, rfl⟩
    · exact ⟨new, .inr hNew, rfl⟩

theorem person_of_extends {added : List EventRow}
    (hEvents : t.events = (s.events ++ added).map f) (hf : ∀ row, RowKept row (f row))
    (hAdded : ∀ row ∈ added, row.isInboundOf acct conv = true → row.isMachine = true)
    {person} (hPerson : person ∈ t.inboundRows acct conv) (hMachine : person.1.isMachine = false) :
    ∃ old ∈ s.inboundRows acct conv, old.1.isMachine = false ∧ person = (f old.1, old.2) := by
  obtain ⟨hMem, hInbound⟩ := mem_filter.mp hPerson
  rw [hEvents] at hMem
  rcases mem_zipIdx_map_append.mp hMem with ⟨old, hOld, rfl⟩ | ⟨new, hNew, rfl⟩
  · rw [isInboundOf_kept (hf old.1)] at hInbound
    rw [(hf old.1).isMachine] at hMachine
    exact ⟨old, mem_filter.mpr ⟨hOld, hInbound⟩, hMachine, rfl⟩
  · rw [isInboundOf_kept (hf new.1)] at hInbound
    rw [(hf new.1).isMachine, hAdded new.1 (fst_mem_of_mem_zipIdx hNew) hInbound] at hMachine
    cases hMachine

end

variable {acct conv : String} {s t : ChannelDb}

section

theorem late_kept {f : EventRow → EventRow} {added}
    (hEvents : t.events = (s.events ++ added).map f) (hf : ∀ row, RowKept row (f row))
    (hAdded : ∀ row ∈ added, row.isInboundOf acct conv = true → row.isMachine = true)
    {row} (hRow : row ∈ s.late acct conv) : (f row.1, row.2) ∈ t.late acct conv := by
  obtain ⟨hMem, hLater⟩ := mem_late.mp hRow
  obtain ⟨hStored, hInbound⟩ := mem_filter.mp hMem
  refine mem_late.mpr ⟨mem_filter.mpr ⟨?_, ?_⟩, fun person hPerson hMachine => ?_⟩
  · rw [hEvents]
    exact mem_zipIdx_map_append.mpr (.inl ⟨row, hStored, rfl⟩)
  · exact (isInboundOf_kept (hf row.1)).trans hInbound
  · obtain ⟨old, hOld, hOldMachine, rfl⟩ := person_of_extends hEvents hf hAdded hPerson hMachine
    rw [isLater_kept hf old row]
    exact hLater old hOld hOldMachine

theorem eventAt_map_append {f added}
    (hEvents : t.events = (s.events ++ added).map f) (hf : ∀ row, RowKept row (f row)) (key : String) :
    t.eventAt acct key = ((s.eventAt acct key).or
      ((added.zipIdx s.events.length).find? (·.1.isEventOf acct key))).map
        fun row => (f row.1, row.2) := by
  have hSame : ((fun x : EventRow × Nat => x.1.isEventOf acct key) ∘ Prod.map f id) =
      fun x => x.1.isEventOf acct key := funext fun row => isEventOf_kept (hf row.1) acct key
  unfold ChannelDb.eventAt
  rw [hEvents, zipIdx_map, zipIdx_append, List.find?_map, List.find?_append, hSame, Nat.zero_add]
  rfl

def ChannelDb.answersIn (db : ChannelDb) (acct conv : String) : List String :=
  (db.answered.filter fun answer => answer.1 = acct && answer.2.1 = conv).map (·.2.2)

/-- The answers since the answers `before`: each of a message of its own, in the streak. -/
def Counted (acct conv : String) (before : List String) (db : ChannelDb) : Prop :=
  ∃ answers, db.answersIn acct conv = before ++ answers ∧ answers.Nodup ∧
    answers.length ≤ maxAutomatedReplyDepth ∧ ∀ id ∈ answers, ∃ row ∈ db.late acct conv,
      db.eventAt acct id = some row ∧ row.1.settled = true

theorem Counted.extends {before} (h : Counted acct conv before s) (hExtends : Extends acct conv s t)
    (hAnswers : t.answersIn acct conv = s.answersIn acct conv) : Counted acct conv before t := by
  obtain ⟨answers, hSplit, hNodup, hLength, hRows⟩ := h
  obtain ⟨f, added, hEvents, hf, hAdded⟩ := hExtends.rows
  refine ⟨answers, hAnswers.trans hSplit, hNodup, hLength, fun id hId => ?_⟩
  obtain ⟨row, hRow, hFound, hSettled⟩ := hRows id hId
  refine ⟨(f row.1, row.2), late_kept hEvents hf hAdded hRow, ?_, (hf row.1).settled hSettled⟩
  rw [eventAt_map_append hEvents hf, hFound]
  rfl

theorem providerEventId_of_eventAt {id row}
    (h : s.eventAt acct id = some row) : row.1.providerEventId = id := by
  have hFound := List.find?_some h
  simp only [EventRow.isEventOf, Bool.and_eq_true, decide_eq_true_eq] at hFound
  exact hFound.2

theorem length_le_late {answers : List String} (hNodup : answers.Nodup)
    (hRows : ∀ id ∈ answers, ∃ row ∈ s.late acct conv, s.eventAt acct id = some row) :
    answers.length ≤ (s.late acct conv).length := by
  have hSubset : answers ⊆ (s.late acct conv).map (·.1.providerEventId) := by
    intro id hId
    obtain ⟨row, hRow, hFound⟩ := hRows id hId
    rw [mem_map]
    exact ⟨row, hRow, providerEventId_of_eventAt hFound⟩
  have hLength := (subperm_of_subset hNodup hSubset).length_le
  rwa [length_map] at hLength

/-- No person's message carries a later place than this one has or will get. -/
def Recent (db : ChannelDb) (env : ChannelEnvelope) : Prop :=
  match db.eventAt env.accountId env.providerEventId with
  | some row => row ∈ db.late env.accountId env.conversationId
  | none => ∀ person ∈ db.inboundRows env.accountId env.conversationId,
      person.1.isMachine = false → person.1.receivedAtMs ≤ max env.receivedAtMs 1

structure Answerable (db : ChannelDb) (env : ChannelEnvelope) : Prop where
  unsettled : ∀ row, db.eventOf env = some row → row.settled = false
  budget : db.consecutiveMachineMessages env.accountId env.conversationId
    maxAutomatedReplyDepth < maxAutomatedReplyDepth
  recent : Recent db env

theorem eventOf_eq_eventAt (db : ChannelDb) (env : ChannelEnvelope) : db.eventOf env =
      (db.eventAt env.accountId env.providerEventId).map (·.1) := by
  have hRows : db.events = db.events.zipIdx.map (·.1) := (zipIdx_map_fst ..).symm
  unfold ChannelDb.eventOf ChannelDb.eventAt
  conv_lhs => rw [hRows]
  rw [List.find?_map]
  rfl

/-! ### A commit -/

variable {env : ChannelEnvelope} {ids : FreshIds} {decision : EnvelopeDecision}

theorem Committed.extends (hBot : env.isBot = true) (h : Committed ids env.event decision s t) :
    ∃ (f : EventRow → EventRow) (added : List EventRow),
      t.events = (s.events ++ added).map f ∧ (∀ row, RowKept row (f row)) ∧
      (∀ row ∈ added, row.isMachine = true) ∧
      ((∃ row, s.eventOf env = some row ∧ added = [] ∧ (f row).settled = true) ∨
        s.eventOf env = none ∧ ∃ row : EventRow, row = env.event.row ids.event ∧
          added = [row] ∧ (f row).settled = true) := by
  obtain ⟨f, added, hEvents, hf, hOwn⟩ := h.rows
  refine ⟨f, added, hEvents, hf, ?_, hOwn⟩
  rcases hOwn with ⟨_, -, rfl, -⟩ | ⟨-, _, rfl, rfl, -⟩
  · simp
  · intro row hRow
    rw [mem_singleton.mp hRow]
    exact hBot

theorem Committed.own_late (hBot : env.isBot = true)
    (h : Committed ids env.event decision s t) (hRecent : Recent s env) :
    ∃ row ∈ t.late env.accountId env.conversationId,
      t.eventAt env.accountId env.providerEventId = some row ∧ row.1.settled = true := by
  obtain ⟨f, added, hEvents, hf, hAdded, hOwn⟩ := h.extends hBot
  have hMachines : ∀ row ∈ added, row.isInboundOf env.accountId env.conversationId = true →
      row.isMachine = true := fun row hRow _ => hAdded row hRow
  unfold Recent at hRecent
  rcases hOwn with ⟨row, hFound, rfl, hSettled⟩ | ⟨hNone, row, hRow, rfl, hSettled⟩
  · rw [eventOf_eq_eventAt, Option.map_eq_some_iff] at hFound
    obtain ⟨place, hPlace, rfl⟩ := hFound
    rw [hPlace] at hRecent
    refine ⟨(f place.1, place.2), late_kept hEvents hf hMachines hRecent, ?_, hSettled⟩
    rw [eventAt_map_append hEvents hf, hPlace]
    rfl
  · rw [eventOf_eq_eventAt, Option.map_eq_none_iff] at hNone
    rw [hNone] at hRecent
    have hPlace : t.eventAt env.accountId env.providerEventId = some (f row, s.events.length) := by
      rw [eventAt_map_append hEvents hf, hNone, hRow]
      simp [EventRow.isEventOf, NewChannelEvent.row, ChannelEnvelope.event]
    refine ⟨(f row, s.events.length), mem_late.mpr ⟨mem_filter.mpr ⟨?_, ?_⟩, ?_⟩, hPlace, hSettled⟩
    · exact mem_of_find?_eq_some hPlace
    · rw [isInboundOf_kept (hf row), hRow]
      simp [EventRow.isInboundOf, NewChannelEvent.row, ChannelEnvelope.event]
    · intro person hPerson hMachine
      obtain ⟨old, hOld, hOldMachine, rfl⟩ := person_of_extends hEvents hf hMachines hPerson hMachine
      -- the new row is behind every other one, so equal time stamps do not put it back
      have hBehind := snd_lt_of_mem_zipIdx (mem_filter.mp hOld).1
      have hStamp := hRecent old hOld hOldMachine
      have hNew : row.receivedAtMs = max env.receivedAtMs 1 := by rw [hRow]; rfl
      rw [isLater_kept hf old (row, s.events.length)]
      unfold isLater
      dsimp only
      rw [hNew]
      omega

theorem Counted.committed {before : List String} (hBot : env.isBot = true)
    (h : Counted env.accountId env.conversationId before s)
    (hCommitted : Committed ids env.event decision s t)
    (hAnswers : decision.answers = true → Answerable s env) :
    Counted env.accountId env.conversationId before t := by
  obtain ⟨f, added, hEvents, hf, hAdded, hOwn⟩ := hCommitted.extends hBot
  have hExtends : Extends env.accountId env.conversationId s t :=
    ⟨f, added, hEvents, hf, fun row hRow _ => hAdded row hRow⟩
  cases hAnswered : decision.answers with
  | false =>
    have hSame := hCommitted.answered
    rw [hAnswered] at hSame
    apply h.extends hExtends
    simp only [ChannelDb.answersIn, hSame, Bool.false_eq_true, if_false]
  | true =>
    obtain ⟨hUnsettled, hBudget, hRecent⟩ := hAnswers hAnswered
    obtain ⟨answers, hSplit, hNodup, hLength, hRows⟩ := h
    have hLater := hCommitted.answered
    rw [hAnswered, if_pos rfl] at hLater
    have hNew : env.providerEventId ∉ answers := by
      intro hMem
      obtain ⟨row, -, hFound, hSettled⟩ := hRows _ hMem
      have hOwnRow := eventOf_eq_eventAt s env
      rw [hFound] at hOwnRow
      rw [hUnsettled row.1 hOwnRow] at hSettled
      cases hSettled
    have hShort : answers.length < maxAutomatedReplyDepth := by
      apply Nat.lt_of_le_of_lt (length_le_late hNodup _) (length_late_lt hBudget)
      intro id hId
      obtain ⟨row, hRow, hFound, -⟩ := hRows id hId
      exact ⟨row, hRow, hFound⟩
    refine ⟨answers ++ [env.providerEventId], ?_, ?_, ?_, ?_⟩
    · simp only [ChannelDb.answersIn] at hSplit ⊢
      rw [hLater, filter_append, map_append, hSplit]
      simp [ChannelEnvelope.event]
    · exact nodup_append.mpr ⟨hNodup, nodup_singleton _, fun a ha b hb hab => by
        rw [mem_singleton.mp hb] at hab
        exact hNew (hab ▸ ha)⟩
    · rw [length_append]
      exact hShort
    · intro id hId
      rcases mem_append.mp hId with hOld | hOwnId
      · obtain ⟨row, hRow, hFound, hSettled⟩ := hRows id hOld
        refine ⟨(f row.1, row.2), late_kept hEvents hf (fun row hRow _ => hAdded row hRow) hRow, ?_,
          (hf row.1).settled hSettled⟩
        rw [eventAt_map_append hEvents hf, hFound]
        rfl
      · rw [mem_singleton.mp hOwnId]
        exact hCommitted.own_late hBot hRecent

end

/-! ## One delivery -/

section

variable {d : Delivery} {account : ChannelAccount}

theorem Answerable.congr {env} (h : Answerable s env) (hEvents : t.events = s.events) : Answerable t env := by
  obtain ⟨hUnsettled, hBudget, hRecent⟩ := h
  constructor
  · simpa only [ChannelDb.eventOf, hEvents] using hUnsettled
  · simpa only [ChannelDb.consecutiveMachineMessages, ChannelDb.inboundRows, hEvents] using hBudget
  · simpa only [Recent, ChannelDb.eventAt, ChannelDb.late, ChannelDb.inboundRows, hEvents] using hRecent

abbrev Answering (d : Delivery) (s t : ChannelDb) : Prop :=
  Writes d (fun decision => decision.answers = true → Answerable s d.envelope) s t

theorem Answering.refl (d : Delivery) (s : ChannelDb) : Answering d s s :=
  .aside (.refl s)

abbrev KeepsEvents {α : Type} (p : Flow α) : Prop :=
  p.Touches (fun s t => t.events = s.events) fun _ => True

theorem Aside.keepsEvents {α : Type} {p : Flow α} (h : Aside p) : KeepsEvents p :=
  (h.weaken fun _ _ hSame => hSame.events).mono fun _ _ => trivial

theorem keepsEvents_queueNotice (route : ChannelRoute) : KeepsEvents (queueNotice d account route) :=
  ((keepsTurns_queueNotice d account route).weaken fun _ _ hSame => hSame.1).mono
    fun _ _ => trivial

theorem runs_confined {α : Type} {p : Flow α} {D : EnvelopeDecision → Prop} (hp : Confined d D p)
    (hD : ∀ decision, D decision → decision.answers = false) (s : ChannelDb) : p.Runs (Answering d) s := by
  apply Prog.Touches.runs
  apply hp.weaken
  intro s t hWrite
  cases hWrite with
  | aside same => exact .aside same
  | queued account kind text key enqueue reply inserted =>
    exact .queued account kind text key enqueue reply inserted
  | linked eventId ingressId updated => exact .linked eventId ingressId updated
  | committed decision allowed acceptance accepted =>
    exact .committed decision (fun h => by rw [hD _ allowed] at h; cases h) acceptance accepted

theorem runs_silent {α : Type} {p : Flow α}
    (hp : Confined d (fun decision => decision.answers = false) p) (s : ChannelDb) :
    p.Runs (Answering d) s := runs_confined hp (fun _ h => h) s

theorem Prog.Runs.keepsEvents {α β : Type} {p} {f : α → Flow β}
    (hp : Confined d (fun _ => False) p) (hKeeps : KeepsEvents p) (hAnswerable : Answerable s d.envelope)
    (hf : ∀ a s', p.run s = (.ok a, s') → Answerable s' d.envelope → (f a).Runs (Answering d) s') :
    (p >>= f).Runs (Answering d) s := by
  apply Prog.Runs.bind (runs_confined hp (fun _ h => h.elim) s)
  intro a s' hRun
  apply hf a s' hRun
  apply hAnswerable.congr
  have hEvents := (Prog.Touches.run (P := fun s t : ChannelDb => t.events = s.events)
    (fun _ => rfl) (fun _ _ _ hFirst hNext => Eq.trans hNext hFirst) hKeeps s).1
  rwa [hRun] at hEvents

theorem runs_acceptDecision {β : Type} (decision : EnvelopeDecision)
    (hAnswerable : Answerable s d.envelope) {f : DurableAcceptance → Flow β}
    (hf : ∀ a, Aside (f a)) : (acceptDecision d decision >>= f).Runs (Answering d) s := by
  apply Prog.Runs.bind
  · refine ⟨?_, trivial⟩
    apply commit_state (P := Answering d s)
    · exact .refl d s
    · exact fun a _ hAccepted => .committed decision (fun _ => hAnswerable) a hAccepted
  · intro a s' _
    exact runs_silent (hf a).confined s'

theorem runs_answerCommand {command : Command} (hKind : account.kind = d.envelope.kind)
    (hCommand : commandFor d.envelope = some command) (hAnswerable : Answerable s d.envelope) :
    (answerCommand d account command).Runs (Answering d) s := by
  have hReply := aside_commandReply d account command
  apply Prog.Runs.keepsEvents hReply.confined hReply.keepsEvents hAnswerable
  intro text s₁ hRun hAnswerable₁
  have hConstant := ((touches_commandReply d account command).run SameRecords.refl
    (fun _ _ _ => .trans) s).2
  rw [hRun] at hConstant
  obtain ⟨_, ⟨⟩, hConstant⟩ := hConstant
  apply Prog.Runs.keepsEvents (confined_enqueue hKind (.inr ⟨rfl, command, hCommand, hConstant⟩))
    ((keeps_enqueue _).weaken fun _ _ hSame => hSame.1) hAnswerable₁
  intro _ s₂ _ hAnswerable₂
  apply Prog.Runs.bind
  · apply runs_acceptDecision _ hAnswerable₂
    intro acceptance
    cases acceptance with
    | settled eventId => exact .pure _
    | runnable eventId ingressId existing => exact .pure _
  · exact fun _ _ _ => trivial

theorem runs_acceptTurn (depth : Nat) (hKind : account.kind = d.envelope.kind)
    (hAnswerable : Answerable s d.envelope) : (acceptTurn d account depth).Runs (Answering d) s := by
  apply Prog.Runs.look (Q := fun _ => True) (.refl d)
  · exact fun _ => ⟨rfl, trivial⟩
  intro routes
  split
  · exact runs_silent (confined_refuse _ rfl) s
  · have hModel := aside_senderModel d
    apply Prog.Runs.keepsEvents hModel.confined hModel.keepsEvents hAnswerable
    intro picked s₁ _ hAnswerable₁
    dsimp only
    split
    · exact runs_silent (confined_refuse _ rfl) s₁
    · split
      · exact runs_silent (confined_refuse _ rfl) s₁
      · apply Prog.Runs.keepsEvents (confined_queueNotice _ hKind) (keepsEvents_queueNotice _) hAnswerable₁
        intro _ s₂ _ hAnswerable₂
        apply runs_acceptDecision _ hAnswerable₂
        intro acceptance
        cases acceptance with
        | runnable eventId ingressId existing => exact aside_runnable _ _ _ _ _
        | settled eventId => exact .pure _

/-! ### The gates -/

def ChannelDb.effectiveEcho (db : ChannelDb) (acct : String) (account : ChannelAccount)
    (nowMs : Int) : EchoCorrelation :=
  if echoCorrelationFor account = .providerMessageId &&
      (db.echoCorrelationDegraded acct nowMs || db.hasUnresolvedOutbound acct nowMs) then
    .unsupported
  else echoCorrelationFor account

theorem run_effectiveEchoCorrelation (db : ChannelDb) (acct : String) (nowMs : Int) :
    (effectiveEchoCorrelation acct account nowMs).run db =
      (.ok (db.effectiveEcho acct account nowMs), db) := by
  unfold effectiveEchoCorrelation ChannelDb.effectiveEcho
  by_cases hDeclared : echoCorrelationFor account = .providerMessageId
  · cases hDegraded : db.echoCorrelationDegraded acct nowMs <;>
      cases hUnresolved : db.hasUnresolvedOutbound acct nowMs <;>
      simp [hDeclared, hDegraded, hUnresolved, Prog.run_bind]
  · simp [hDeclared]

def ChannelDb.streakOf (db : ChannelDb) (env : ChannelEnvelope) : Nat :=
  db.consecutiveMachineMessages env.accountId env.conversationId maxAutomatedReplyDepth

def UnmentionedCommand (db : ChannelDb) (d : Delivery) (account : ChannelAccount) : Prop :=
  d.envelope.conversationKind.isMultiParty = true ∧ d.envelope.mentionsSelf = false ∧
    (commandFor d.envelope).isSome = true ∧ (account.accessPolicy.clampedFor
      (db.effectiveEcho d.envelope.accountId account d.nowMs)).groupActivation = .mentionOnly

/-- The two ways past the budget are not taken. -/
structure Bounded (db : ChannelDb) (d : Delivery) : Prop where
  command : ∀ account, db.accounts.lookup d.envelope.accountId = some account →
    UnmentionedCommand db d account → db.streakOf d.envelope < maxAutomatedReplyDepth
  recent : Recent db d.envelope

theorem runs_command (hKind : account.kind = d.envelope.kind)
    (hAnswerable : (commandFor d.envelope).isSome = true → Answerable s d.envelope) {otherwise}
    (hOther : otherwise.Runs (Answering d) s) : (match commandFor d.envelope with
      | some command => answerCommand d account command
      | none => otherwise).Runs (Answering d) s := by
  cases hCommand : commandFor d.envelope with
  | some command => exact runs_answerCommand hKind hCommand (hAnswerable (by rw [hCommand]; rfl))
  | none => exact hOther

theorem runs_carryOut (depth : Nat) {decision : AccessDecision}
    (hKind : account.kind = d.envelope.kind) (hDecided : decision ≠ .ignore .command)
    (hAccept : decision = .accept → Answerable s d.envelope)
    (hCommand : decision = .ignore .notMentioned → (commandFor d.envelope).isSome = true →
      Answerable s d.envelope) :
    (carryOut d account depth decision).Runs (Answering d) s := by
  have hSilent : ∀ reason, reason ≠ IgnoreReason.command → (ignoreMessage d reason).Runs (Answering d) s := by
    intro reason hReason
    apply runs_silent (confined_ignoreMessage reason _) s
    cases reason <;> first | rfl | exact absurd rfl hReason
  cases decision with
  | accept =>
    exact runs_command hKind (fun _ => hAccept rfl) (runs_acceptTurn depth hKind (hAccept rfl))
  | challenge challenge => exact runs_silent (confined_acceptChallenge rfl) s
  | ignore reason =>
    cases reason with
    | notMentioned => exact runs_command hKind (hCommand rfl) (hSilent _ (by decide))
    | command => exact absurd rfl hDecided
    | _ => exact hSilent _ (by decide)

theorem looks_inheritedReplyDepth (machine : Machine) (env : ChannelEnvelope) :
    (inheritedReplyDepth machine env).Touches (fun s t => t = s) fun _ => True := by
  unfold inheritedReplyDepth
  split
  · trivial
  · apply Prog.Touches.bind (Q := fun _ => True)
    · exact fun _ => ⟨rfl, trivial⟩
    · intro found _
      split
      · trivial
      · cases machine.decode _ <;> trivial
    · exact fun _ _ => trivial

theorem runs_decideAnew (hBot : d.envelope.isBot = true)
    (hAccount : s.accounts.lookup d.envelope.accountId = some account)
    (hKind : account.kind = d.envelope.kind)
    (hUnsettled : ∀ row, s.eventOf d.envelope = some row → row.settled = false)
    (hBounded : Bounded s d) : (decideAnew d account).Runs (Answering d) s := by
  have hAnswerable : s.streakOf d.envelope < maxAutomatedReplyDepth →
      Answerable s d.envelope := fun hBudget => ⟨hUnsettled, hBudget, hBounded.recent⟩
  unfold decideAnew
  split
  · apply Prog.Runs.bind
    · exact runs_silent (aside_effectiveEchoCorrelation _ _ _).confined s
    intro correlation s' hRun
    rw [run_effectiveEchoCorrelation, Prod.mk.injEq, Except.ok.injEq] at hRun
    obtain ⟨rfl, rfl⟩ := hRun
    apply Prog.Runs.look (Q := fun _ => True) (.refl d)
    · unfold ownOutboundEcho
      split
      · exact fun _ => ⟨rfl, trivial⟩
      · exact trivial
    intro echo
    apply Prog.Runs.read (.refl d s)
    apply Prog.Runs.look (.refl d) (looks_inheritedReplyDepth _ _)
    intro depth
    simp only [machineStreak, hBot]
    apply Prog.Runs.read (.refl d s)
    apply Prog.Runs.read (.refl d s)
    apply runs_carryOut depth hKind decideAccess_ne_command
    · intro hAccepted
      exact hAnswerable (decideAccess_accept hAccepted hBot)
    · intro hIgnored hCommand
      obtain ⟨hGroup, hActivation, hMention⟩ := decideAccess_notMentioned hIgnored
      exact hAnswerable (hBounded.command account hAccount ⟨hGroup, hMention, hCommand, hActivation⟩)
  · exact runs_silent (confined_ignoreMessage _ (by decide)) s

theorem runs_acceptChannelEnvelope (hBot : d.envelope.isBot = true) (hBounded : Bounded s d) :
    (acceptChannelEnvelope d).Runs (Answering d) s := by
  apply Prog.Runs.read (.refl d s)
  split
  · exact trivial
  next account hAccount =>
    by_cases hKind : account.kind = d.envelope.kind
    · simp only [hKind, ne_eq]
      apply Prog.Runs.read (.refl d s)
      split
      next hNone =>
        apply runs_decideAnew hBot hAccount hKind _ hBounded
        intro row hRow
        rw [hNone] at hRow
        cases hRow
      next row hRow =>
        apply Prog.Runs.bind
        · exact runs_silent (confined_classifyExistingEvent _ row) s
        · intro answer s' hRun
          split
          · exact trivial
          · obtain ⟨_, _, hClassified, hAgain, -⟩ := returns_classifyExistingEvent hRow
            rw [hRun] at hClassified
            cases hClassified
            obtain ⟨rfl, hUnsettled⟩ := hAgain rfl
            apply runs_decideAnew hBot hAccount hKind _ hBounded
            intro other hOther
            rw [hRow, Option.some.injEq] at hOther
            exact hOther ▸ hUnsettled
    · simp only [hKind, ne_eq]
      exact trivial

end

/-! ## Runs -/

section

theorem Counted.written {d before} (hBot : d.envelope.isBot = true) (hWrite : Answering d s t)
    (h : Counted d.envelope.accountId d.envelope.conversationId before s) :
    Counted d.envelope.accountId d.envelope.conversationId before t := by
  cases hWrite with
  | aside same =>
    apply h.extends (.congr same.events)
    simp only [ChannelDb.answersIn, same.answered]
  | queued account kind text key enqueue reply inserted =>
    obtain ⟨_, -, rfl⟩ := focus_eq_ok.mp inserted
    exact h.extends (.congr rfl) rfl
  | linked eventId ingressId updated =>
    subst updated
    have hExtends : Extends d.envelope.accountId d.envelope.conversationId s
        (updateEvents eventId (fun row => { row with ingressId := some ingressId }) s) :=
      ⟨_, [], by rw [append_nil]; rfl, fun row => rowKept_linked row eventId ingressId, by simp⟩
    exact h.extends hExtends rfl
  | committed decision allowed acceptance accepted =>
    exact h.committed hBot (committed_of_acceptBody accepted) allowed

theorem Counted.delivered {d before} (hBot : d.envelope.isBot = true) (hBounded : Bounded s d)
    (h : Counted d.envelope.accountId d.envelope.conversationId before s) :
    Counted d.envelope.accountId d.envelope.conversationId before ((acceptChannelEnvelope d).run s).2 := by
  have hChain := (runs_acceptChannelEnvelope hBot hBounded).chain
  generalize ((acceptChannelEnvelope d).run s).2 = t at hChain
  induction hChain with
  | refl => exact h
  | tail _ hWrite ih => exact ih.written hBot hWrite

/-- A machine speaks in the conversation, or something else happens: rows are kept, what is
new to the conversation is of machines, and nothing in it is answered. -/
inductive BotStep (acct conv : String) (Condition : ChannelDb → Delivery → Prop) :
    ChannelDb → ChannelDb → Prop
  | delivered (db : ChannelDb) (d : Delivery) (account : d.envelope.accountId = acct)
      (conversation : d.envelope.conversationId = conv)
      (bot : d.envelope.isBot = true) (condition : Condition db d) :
      BotStep acct conv Condition db ((acceptChannelEnvelope d).run db).2
  | meanwhile (db next : ChannelDb) (kept : Extends acct conv db next)
      (silent : next.answersIn acct conv = db.answersIn acct conv) : BotStep acct conv Condition db next

/-- However many messages machines send with no person in between, no more of them are
answered than the depth allows. -/
theorem bot_conversations_stop {start db : ChannelDb}
    (h : Relation.ReflTransGen (BotStep acct conv Bounded) start db) : ∃ answers, db.answersIn acct conv =
        start.answersIn acct conv ++ answers ∧
      answers.length ≤ maxAutomatedReplyDepth := by
  have hCounted : Counted acct conv (start.answersIn acct conv) db := by
    induction h with
    | refl => exact ⟨[], by simp, nodup_nil, Nat.zero_le _, by simp⟩
    | tail _ hStep ih =>
      cases hStep with
      | delivered d account conversation bot condition =>
        subst account conversation
        exact ih.delivered bot condition
      | meanwhile _ kept silent => exact ih.extends kept silent
  obtain ⟨answers, hAnswers, -, hLength, -⟩ := hCounted
  exact ⟨answers, hAnswers, hLength⟩

/-! ### A bot that asks for the status -/

def statusDigest (id : String) : Bytes :=
  match id with
  | "1" => [83, 41, 103, 244, 207, 110, 199, 111, 171, 3, 2, 148, 43, 120, 128, 205, 227, 22, 235, 206, 209, 33, 122, 141, 119, 19, 206, 68, 148, 220, 222, 18]
  | "2" => [58, 164, 74, 243, 217, 211, 134, 246, 53, 183, 54, 99, 182, 73, 47, 20, 159, 58, 105, 137, 233, 34, 135, 60, 114, 4, 198, 233, 62, 221, 217, 157]
  | "3" => [61, 192, 205, 31, 125, 5, 140, 79, 183, 104, 39, 121, 4, 189, 224, 95, 216, 106, 158, 100, 75, 201, 86, 76, 102, 107, 199, 249, 91, 28, 128, 151]
  | "4" => [22, 237, 139, 18, 126, 113, 158, 81, 122, 73, 166, 206, 144, 170, 8, 186, 27, 248, 221, 14, 186, 181, 91, 131, 155, 68, 155, 65, 85, 188, 130, 16]
  | _ => []

def statusBot (kind : ConversationKind) (id : String) : Delivery where
  machine := plainMachine fun _ => statusDigest id
  envelope := ⟨"acct", .telegram, id, none, "chat", kind, none, "bot", none, false, true, "/status", [],
    none, false, 1, none⟩
  nowMs := 5
  candidateCode := "PAIR1234"
  ids := ⟨"event-" ++ id, "outbox-" ++ id, "ingress-" ++ id, "resumed-" ++ id⟩

def afterStatus (kind : ConversationKind) (ids : List String) : ChannelDb :=
  ids.foldl (fun db id => ((acceptChannelEnvelope (statusBot kind id)).run db).2) (.ofAccount openAccount)

theorem recent_of_machines {db env} (hNew : db.eventAt env.accountId env.providerEventId = none)
    (hMachines : ∀ row ∈ db.inboundRows env.accountId env.conversationId,
      row.1.isMachine = true) : Recent db env := by
  unfold Recent
  rw [hNew]
  intro person hPerson hMachine
  rw [hMachines person hPerson] at hMachine
  cases hMachine

/-- In a direct chat the fourth message is dropped. -/
theorem direct_bot_answered_thrice :
    (afterStatus .direct ["1", "2", "3", "4"]).answersIn "acct" "chat" = ["1", "2", "3"] ∧
    ∃ answers, (afterStatus .direct ["1", "2", "3", "4"]).answersIn "acct" "chat" =
        (ChannelDb.ofAccount openAccount).answersIn "acct" "chat" ++ answers ∧
      answers.length ≤ maxAutomatedReplyDepth := by
  refine ⟨by decide +kernel, bot_conversations_stop ?_⟩
  have hStep : ∀ (db : ChannelDb) (id : String), db.eventAt "acct" id = none →
      (∀ row ∈ db.inboundRows "acct" "chat", row.1.isMachine = true) →
      BotStep "acct" "chat" Bounded db ((acceptChannelEnvelope (statusBot .direct id)).run db).2 := by
    intro db id hNew hMachines
    apply BotStep.delivered db (statusBot .direct id) rfl rfl rfl
    constructor
    · rintro account - ⟨hGroup, -⟩
      cases hGroup
    · exact recent_of_machines hNew hMachines
  have hFirst := hStep (afterStatus .direct []) "1" (by decide +kernel) (by decide +kernel)
  have hSecond := hStep (afterStatus .direct ["1"]) "2" (by decide +kernel) (by decide +kernel)
  have hThird := hStep (afterStatus .direct ["1", "2"]) "3" (by decide +kernel) (by decide +kernel)
  have hFourth := hStep (afterStatus .direct ["1", "2", "3"]) "4" (by decide +kernel) (by decide +kernel)
  exact (((Relation.ReflTransGen.single hFirst).tail hSecond).tail hThird).tail hFourth

/-- In a group that wants mentions every command is answered, whoever the sender is. -/
theorem unmentioned_bot_never_stops :
    Relation.ReflTransGen (BotStep "acct" "chat" fun _ _ => True) (.ofAccount openAccount)
      (afterStatus .group ["1", "2", "3", "4"]) ∧
    (ChannelDb.ofAccount openAccount).answersIn "acct" "chat" = [] ∧
    (afterStatus .group ["1", "2", "3", "4"]).answersIn "acct" "chat" = ["1", "2", "3", "4"] ∧
    maxAutomatedReplyDepth = 3 := by
  refine ⟨?_, rfl, by decide +kernel, rfl⟩
  have hStep : ∀ (db : ChannelDb) (id : String), BotStep "acct" "chat" (fun _ _ => True) db
      ((acceptChannelEnvelope (statusBot .group id)).run db).2 :=
    fun db id => .delivered db (statusBot .group id) rfl rfl rfl trivial
  have hSteps : ∀ (ids : List String) (db : ChannelDb),
      Relation.ReflTransGen (BotStep "acct" "chat" fun _ _ => True) db
        (ids.foldl (fun db id => ((acceptChannelEnvelope (statusBot .group id)).run db).2) db) := by
    intro ids
    induction ids with
    | nil => exact fun db => .refl
    | cons id ids ih => exact fun db => .head (hStep db id) (ih _)
  exact hSteps _ _

end

end LittleMonkey.Channel
