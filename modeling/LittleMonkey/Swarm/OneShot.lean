import LittleMonkey.Swarm.Failover

/-! # A predecessor is recovered once

The key of the sources table lets one plan through, and the key of the graph table lets that
plan register its graph once.  Both are invariants of the tables between any two statements,
so it does not matter which ticks run beside one another or where one of them stops.
-/

namespace LittleMonkey.Swarm.Failover

open Guards Primitives Transaction Interleaving List AList Option
open Cluster hiding validId
open Resident (ResidentSwarmSpec ResidentSwarmNode Service)

/-! ## Invariants -/

/-- A plan stays what the operator armed, and a source stays with its owner. -/
structure Grows (db db' : FailoverDb) : Prop where
  plans : ∀ id row, db.plans.lookup id = some row → ∃ row', db'.plans.lookup id = some row' ∧
    row'.source = row.source ∧ row'.newGraph = row.newGraph
  sources : ∀ key id, db.sources.lookup key = some id → db'.sources.lookup key = some id

theorem Grows.refl (db : FailoverDb) : Grows db db :=
  ⟨fun _ row hRow => ⟨row, hRow, rfl, rfl⟩, fun _ _ => id⟩

theorem Grows.trans {a b c} (hab : Grows a b) (hbc : Grows b c) : Grows a c := by
  constructor
  · intro id row hRow
    obtain ⟨row', hRow', hSource, hGraph⟩ := hab.plans id row hRow
    obtain ⟨row'', hRow'', hSource', hGraph'⟩ := hbc.plans id row' hRow'
    exact ⟨row'', hRow'', hSource'.trans hSource, hGraph'.trans hGraph⟩
  · intro key id hOwner
    exact hbc.sources key id (hab.sources key id hOwner)

theorem grows_interference : Interference Grows Grows := ⟨.refl, .trans, id, .trans⟩

/-- The claims so far are the owned sources, and each import is by the owner of its source. -/
structure Sound (db : FailoverDb) : Prop where
  owned : ∀ key id, (key, id) ∈ db.claims ↔ db.sources.lookup key = some id
  once : (db.claims.map Prod.fst).Nodup
  settled : Every (fun id row => row.state ≠ .armed →
    ∃ key, row.source = some key ∧ db.sources.lookup key = some id) db.plans
  imported : ∀ key graph, (key, graph) ∈ db.imports → (db.service.graphs.lookup graph).isSome = true ∧
    ∃ id row, db.sources.lookup key = some id ∧ db.plans.lookup id = some row ∧ row.newGraph = graph
  importedOnce : (db.imports.map Prod.fst).Nodup
  graphOnce : (db.imports.map Prod.snd).Nodup

structure Initial (db : FailoverDb) : Prop where
  armed : Every (fun _ row => row.state = .armed) db.plans
  sources : db.sources = ∅
  claims : db.claims = []
  imports : db.imports = []

theorem Initial.sound {db} (h : Initial db) : Sound db := by
  constructor
  · intro key id
    simp [h.claims, h.sources]
  · simp [h.claims]
  · exact h.armed.imp fun _ _ hArmed hNot => absurd hArmed hNot
  · intro key graph hMem
    simp [h.imports] at hMem
  · simp [h.imports]
  · simp [h.imports]

/-- Claims and imports are as before, and every graph is still there. -/
structure Undisturbed (db db' : FailoverDb) : Prop where
  sources : db'.sources = db.sources
  claims : db'.claims = db.claims
  imports : db'.imports = db.imports
  graphs : ∀ id, (db.service.graphs.lookup id).isSome = true → (db'.service.graphs.lookup id).isSome = true

theorem Sound.undisturbed {db db'} (h : Sound db) (hGrows : Grows db db') (hSame : Undisturbed db db')
    (hSettled : Every (fun id row => row.state ≠ .armed →
      ∃ key, row.source = some key ∧ db.sources.lookup key = some id) db'.plans) : Sound db' := by
  constructor
  · intro key id
    rw [hSame.claims, hSame.sources]
    exact h.owned key id
  · rw [hSame.claims]
    exact h.once
  · rw [hSame.sources]
    exact hSettled
  · intro key graph hMem
    rw [hSame.imports] at hMem
    obtain ⟨hGraph, id, row, hOwner, hRow, hNew⟩ := h.imported key graph hMem
    obtain ⟨row', hRow', -, hNew'⟩ := hGrows.plans id row hRow
    exact ⟨hSame.graphs graph hGraph, id, row', by rw [hSame.sources, hOwner], hRow', hNew'.trans hNew⟩
  · rw [hSame.imports]
    exact h.importedOnce
  · rw [hSame.imports]
    exact h.graphOnce

/-! ## Statements that write -/

section

variable {db : FailoverDb}
variable {plan : ArmedPlan} {db' : FailoverDb} {row : PlanRow} {now : Int}

theorem foldl_insertOrIgnore {sources} {claims : List (SourceKey × String)}
    (h : ∀ claim ∈ claims, (sources.lookup claim.1).isSome = true) :
    claims.foldl insertOrIgnore sources = sources := by
  induction claims with
  | nil => rfl
  | cons claim rest ih =>
    rw [foldl_cons, insertOrIgnore, if_pos (h claim mem_cons_self)]
    exact ih fun c hc => h c (mem_cons_of_mem claim hc)

theorem Sound.migrated (h : Sound db) : db.claimedPlans.foldl insertOrIgnore db.sources = db.sources := by
  apply foldl_insertOrIgnore
  rintro ⟨key, id⟩ hMem
  obtain ⟨⟨id', row⟩, hEntry, hClaim⟩ := mem_filterMap.mp hMem
  obtain ⟨key', hSource, hPair⟩ := map_eq_some_iff.mp hClaim
  cases hPair
  rw [mem_insertionSort, mem_filter] at hEntry
  obtain ⟨hEntry, hState⟩ := hEntry
  have hSettled : row.state ≠ .armed := by
    intro hArmed
    simp [hArmed] at hState
  obtain ⟨key', hSource', hOwner⟩ := h.settled.entries _ hEntry hSettled
  rw [hSource, Option.some.injEq] at hSource'
  rw [hSource', hOwner]
  rfl

theorem grows_insertPlan (id : String) (row : PlanRow) : Grows db (db.insertPlan id row).2 := by
  unfold FailoverDb.insertPlan
  split
  · exact .refl db
  next hFree =>
    refine ⟨fun other found hFound => ⟨found, ?_, rfl, rfl⟩, fun _ _ hOwner => hOwner⟩
    rw [lookup_insert_ne, hFound]
    rintro rfl
    simp [hFound] at hFree

theorem Sound.insertPlan (h : Sound db) (id : String) (hArmed : row.state = .armed) :
    Sound (db.insertPlan id row).2 := by
  apply h.undisturbed (grows_insertPlan id row)
  · unfold FailoverDb.insertPlan
    split <;> exact ⟨rfl, rfl, rfl, fun _ hGraph => hGraph⟩
  · unfold FailoverDb.insertPlan
    split
    · exact h.settled
    · exact h.settled.insert fun hNot => absurd hArmed hNot

def Known (plan : ArmedPlan) (db : FailoverDb) : Prop :=
  ∃ row, db.plans.lookup plan.id = some row ∧ row.source = some plan.source ∧ row.newGraph = plan.newGraph

theorem Known.grows (h : Known plan db) (hGrows : Grows db db') : Known plan db' := by
  obtain ⟨row, hRow, hSource, hNew⟩ := h
  obtain ⟨row', hRow', hSource', hNew'⟩ := hGrows.plans plan.id row hRow
  exact ⟨row', hRow', hSource'.trans hSource, hNew'.trans hNew⟩

structure Owns (plan : ArmedPlan) (db : FailoverDb) : Prop where
  known : Known plan db
  owner : db.sources.lookup plan.source = some plan.id

theorem Owns.grows (h : Owns plan db) (hGrows : Grows db db') : Owns plan db' :=
  ⟨h.known.grows hGrows, hGrows.sources _ _ h.owner⟩

structure Claimed (plan : ArmedPlan) (now : Int) (row : PlanRow) (db db' : FailoverDb) : Prop where
  free : db.sources.lookup plan.source = none
  found : db.plans.lookup plan.id = some row
  result : db' = { db with
    sources := db.sources.insert plan.source plan.id
    plans := db.plans.insert plan.id { row with state := .claimed, claimedAtMs := some now }
    claims := db.claims ++ [(plan.source, plan.id)] }

theorem claim_cases (plan : ArmedPlan) (now : Int) (db : FailoverDb) :
    (∃ e, commit (claimBody plan now) db = (.error e, db)) ∨
    ∃ row db', commit (claimBody plan now) db = (.ok (), db') ∧ Claimed plan now row db db' := by
  rcases commit_cases (Prod.eta (commit (claimBody plan now) db)).symm with
    ⟨_, hResult, hBody⟩ | ⟨e, _, hResult, -, hState⟩
  · right
    simp only [claimBody, bind_eq_done, read_eq_ok, require_eq_ok, write_eq_ok] at hBody
    obtain ⟨_, _, ⟨rfl, rfl⟩, _, _, ⟨hFree, rfl⟩, _, _, rfl, _, _, ⟨rfl, rfl⟩, hBody⟩ := hBody
    cases hRow : (db.plans.lookup plan.id).filter (·.state = .armed) with
    | none => simp [hRow] at hBody
    | some row =>
      simp only [hRow, write_eq_ok] at hBody
      refine ⟨row, _, Prod.ext hResult rfl, ?_, (filter_eq_some_iff.mp hRow).1, hBody.symm⟩
      simpa using hFree
  · exact .inl ⟨e, Prod.ext hResult hState⟩

section

variable (h : Claimed plan now row db db')

include h

theorem Claimed.grows : Grows db db' := by
  rw [h.result]
  constructor
  · intro id found hFound
    by_cases hId : id = plan.id
    · subst hId
      rw [h.found] at hFound
      cases hFound
      exact ⟨_, lookup_insert _, rfl, rfl⟩
    · exact ⟨found, by rw [lookup_insert_ne hId, hFound], rfl, rfl⟩
  · intro key id hOwner
    rw [lookup_insert_ne, hOwner]
    rintro rfl
    rw [h.free] at hOwner
    cases hOwner

theorem Claimed.owns (hKnown : Known plan db) : Owns plan db' := by
  refine ⟨hKnown.grows h.grows, ?_⟩
  rw [h.result]
  exact lookup_insert _

theorem Claimed.sound (hKnown : Known plan db) (hSound : Sound db) : Sound db' := by
  have hGrows := h.grows
  obtain ⟨known, hRow, hSource, -⟩ := hKnown
  rw [h.found, Option.some.injEq] at hRow
  subst hRow
  have hNew : plan.source ∉ db.claims.map Prod.fst := by
    intro hMem
    obtain ⟨⟨key, id⟩, hClaim, rfl⟩ := mem_map.mp hMem
    have hOwner := (hSound.owned _ _).mp hClaim
    rw [h.free] at hOwner
    cases hOwner
  have hResult := h.result
  subst hResult
  constructor
  · intro key id
    rw [mem_append, hSound.owned key id]
    by_cases hKey : key = plan.source
    · subst hKey
      rw [h.free]
      simp [eq_comm]
    · simp [hKey]
  · rw [map_append]
    exact List.Nodup.append hSound.once (nodup_singleton _) (by simpa using hNew)
  · apply Every.insert
    · intro id found hFound hState
      obtain ⟨key, hKey, hOwner⟩ := hSound.settled id found hFound hState
      exact ⟨key, hKey, hGrows.sources key id hOwner⟩
    · intro _
      exact ⟨plan.source, hSource, lookup_insert _⟩
  · intro key graph hMem
    obtain ⟨hGraph, id, found, hOwner, hFound, hNewGraph⟩ := hSound.imported key graph hMem
    obtain ⟨found', hFound', -, hSame⟩ := hGrows.plans id found hFound
    exact ⟨hGraph, id, found', hGrows.sources key id hOwner, hFound', hSame.trans hNewGraph⟩
  · exact hSound.importedOnce
  · exact hSound.graphOnce

end

theorem grows_mark (id : String) (f : PlanRow → PlanRow)
    (hf : ∀ row, (f row).source = row.source ∧ (f row).newGraph = row.newGraph) : Grows db { db with
      plans := updateRows (fun key row => key = id && row.state = .claimed) f db.plans } := by
  refine ⟨fun other row hRow => ?_, fun _ _ hOwner => hOwner⟩
  rw [lookup_updateRows, hRow]
  refine ⟨_, rfl, ?_⟩
  dsimp only
  split
  · exact hf row
  · exact ⟨rfl, rfl⟩

theorem Sound.mark (h : Sound db) (id : String) (f : PlanRow → PlanRow)
    (hf : ∀ row, (f row).source = row.source ∧ (f row).newGraph = row.newGraph) : Sound { db with
      plans := updateRows (fun key row => key = id && row.state = .claimed) f db.plans } := by
  apply h.undisturbed (grows_mark id f hf) ⟨rfl, rfl, rfl, fun _ hGraph => hGraph⟩
  intro other row hRow hState
  rw [lookup_updateRows] at hRow
  obtain ⟨old, hOld, rfl⟩ := map_eq_some_iff.mp hRow
  split at hState
  next hMatch =>
    rw [if_pos hMatch]
    simp only [Bool.and_eq_true, decide_eq_true_eq] at hMatch
    obtain ⟨key, hKey, hOwner⟩ := h.settled other old hOld (by rw [hMatch.2]; decide)
    exact ⟨key, (hf old).1.trans hKey, hOwner⟩
  next hOther =>
    rw [if_neg hOther]
    exact h.settled other old hOld hState

theorem Sound.registered (h : Sound db) (hOwns : Owns plan db)
    {graph} (hNone : db.service.graphs.lookup plan.newGraph = none) : Sound { db with
      service := db.service.setGraph plan.newGraph graph
      imports := db.imports ++ [(plan.source, plan.newGraph)] } := by
  obtain ⟨row, hRow, hSource, hNew⟩ := hOwns.known
  have hFreshGraph : plan.newGraph ∉ db.imports.map Prod.snd := by
    intro hMem
    obtain ⟨⟨key, found⟩, hImport, rfl⟩ := mem_map.mp hMem
    have hThere := (h.imported _ _ hImport).1
    rw [hNone] at hThere
    cases hThere
  have hFreshSource : plan.source ∉ db.imports.map Prod.fst := by
    intro hMem
    obtain ⟨⟨key, found⟩, hImport, rfl⟩ := mem_map.mp hMem
    obtain ⟨-, id, row', hOwner, hRow', hNew'⟩ := h.imported _ _ hImport
    rw [hOwns.owner, Option.some.injEq] at hOwner
    subst hOwner
    rw [hRow, Option.some.injEq] at hRow'
    subst hRow'
    exact hFreshGraph (mem_map.mpr ⟨_, hImport, hNew'.symm.trans hNew⟩)
  constructor
  · exact h.owned
  · exact h.once
  · exact h.settled
  · intro key found hMem
    rcases mem_append.mp hMem with hOld | hAdded
    · obtain ⟨hThere, hPlan⟩ := h.imported key found hOld
      refine ⟨?_, hPlan⟩
      dsimp only [Service.setGraph]
      rw [lookup_insert_ne]
      · exact hThere
      · rintro rfl
        rw [hNone] at hThere
        cases hThere
    · cases mem_singleton.mp hAdded
      refine ⟨?_, plan.id, row, hOwns.owner, hRow, hNew⟩
      dsimp only [Service.setGraph]
      rw [lookup_insert]
      rfl
  · rw [map_append]
    exact List.Nodup.append h.importedOnce (nodup_singleton _) (by simpa using hFreshSource)
  · rw [map_append]
    exact List.Nodup.append h.graphOnce (nodup_singleton _) (by simpa using hFreshGraph)

end

/-! ## Programs -/

section

variable {bundles : Bundles} {plan : ArmedPlan}
variable {db : FailoverDb} {α : Type}

abbrev Reads {α : Type} (p : Flow α) : Prop := p.Within fun db db' => db' = db

theorem reads_look (f : FailoverDb → Except String α) : Reads (look f) :=
  Prog.Within.statement fun _ => rfl

theorem reads_read (g : FailoverDb → α) : Reads (Prog.read g : Flow α) := fun _ => ⟨rfl, trivial⟩

theorem reads_majorityConfirmsNoDispatch (mine : Replication.ReplicaSnapshot) (now : Int) :
    Reads (majorityConfirmsNoDispatch bundles plan mine now) := by
  unfold majorityConfirmsNoDispatch
  refine .bind (reads_look _) fun registered => ?_
  split
  · exact .done _
  · refine .bind (reads_look _) fun leads => ?_
    split
    · exact .done _
    · refine .bind (reads_look _) fun term => ?_
      split
      · exact .done _
      · refine .bind (reads_read _) fun rows => ?_
        exact .ofExcept fun seen _ => .done _

theorem reads_anyConfirmed (now : Int) (snapshots : List Replication.ReplicaSnapshot) :
    Reads (anyConfirmed bundles plan now snapshots) := by
  induction snapshots with
  | nil => exact .done _
  | cons snapshot rest ih =>
    refine .bind (reads_majorityConfirmsNoDispatch snapshot now) fun confirmed => ?_
    split
    · exact .done _
    · exact ih

theorem reads_eligible (now : Int) : Reads (eligible bundles plan now) := by
  unfold eligible
  refine .bind (reads_read _) fun killed => ?_
  split
  · exact .done _
  · refine .bind (reads_look _) fun leads => ?_
    split
    · exact .done _
    · refine .bind (reads_look _) fun registered => ?_
      refine .bind (reads_look _) fun term => ?_
      refine .bind (reads_look _) fun rows => ?_
      exact reads_anyConfirmed now _

theorem reads_verifyExistingImport (out : Outside) (recipes : Except String Unit) (bytes : Bytes) :
    Reads (verifyExistingImport bundles plan out recipes bytes) := by
  unfold verifyExistingImport
  refine .ofExcept fun opened _ => ?_
  refine .ofExcept fun _ _ => ?_
  refine .ofExcept fun _ _ => ?_
  refine .ofExcept fun _ _ => ?_
  refine .bind (reads_read _) fun existing => ?_
  split
  · exact .done _
  · refine .ofExcept fun _ _ => ?_
    refine .bind (reads_read _) fun nodes => ?_
    refine .ofExcept fun _ _ => ?_
    exact .ofExcept fun _ _ => .done _

theorem reads_ownership (spec : ResidentSwarmSpec) (now : Int) : Reads (ownership spec now) := by
  unfold ownership
  split
  · exact .done _
  · refine .bind (reads_look _) fun registered => ?_
    refine .bind (reads_look _) fun leads => ?_
    refine .ofExcept fun _ _ => ?_
    exact .bind (reads_look _) fun term => .done _

theorem reads_stillOwned (owned : Option (String × String × Nat)) (now : Int) :
    Reads (stillOwned owned now) := by
  unfold stillOwned
  split
  · exact .done _
  · refine .bind (reads_read _) fun fresh => ?_
    refine .ofExcept fun _ _ => ?_
    refine .bind (reads_look _) fun leads => ?_
    exact .done _

/-- The registration of the plan's graph, where there is none of that id. -/
def Registers (plan : ArmedPlan) (db db' : FailoverDb) : Prop :=
  db' = db ∨ (db.service.graphs.lookup plan.newGraph = none ∧ ∃ graph, db' = { db with
    service := db.service.setGraph plan.newGraph graph
    imports := db.imports ++ [(plan.source, plan.newGraph)] })

theorem registers_registerGraph (spec : ResidentSwarmSpec) (hId : spec.id = plan.newGraph) (now : Nat)
    (db : FailoverDb) : Registers plan db (db.registerGraph plan spec now).2 := by
  unfold FailoverDb.registerGraph
  rw [hId]
  split
  · exact .inl rfl
  next hNone =>
    exact .inr ⟨by simpa using hNone, _, rfl⟩

theorem registers_submit (out : Outside) (spec : ResidentSwarmSpec) (hId : spec.id = plan.newGraph) :
    (submit plan out spec).Within (Registers plan) := by
  have hRefl : ∀ db, Registers plan db db := fun _ => .inl rfl
  unfold submit
  refine .ofExcept fun _ _ => ?_
  refine .bind ((reads_ownership spec _).of_reads hRefl) fun owned => ?_
  refine .bind ((reads_read _).of_reads hRefl) fun existing => ?_
  refine .ofExcept fun _ _ => ?_
  refine .ofExcept fun _ _ => ?_
  refine .bind ((reads_stillOwned owned _).of_reads hRefl) fun _ => ?_
  exact .statement fun db => registers_registerGraph (spec.frozen out.snapshots) hId _ db

theorem registers_operation (now : Int) (out : Outside) :
    (operation bundles plan now out).Within (Registers plan) := by
  have hRefl : ∀ db, Registers plan db db := fun _ => .inl rfl
  unfold operation
  refine .ofExcept fun actual _ => ?_
  refine .ofExcept fun _ _ => ?_
  refine .ofExcept fun _ _ => ?_
  refine .ofExcept fun inspected _ => ?_
  refine .ofExcept fun _ _ => ?_
  refine .bind ((reads_look _).of_reads hRefl) fun leads => ?_
  refine .ofExcept fun _ _ => ?_
  refine .bind ((reads_verifyExistingImport out _ actual).of_reads hRefl) fun existing => ?_
  split
  · exact .done _
  · refine .bind ((reads_eligible now).of_reads hRefl) fun confirmed => ?_
    refine .ofExcept fun _ _ => ?_
    refine .bind (.attempt ?_) fun imported => ?_
    · unfold importReadOnly
      refine .ofExcept fun opened _ => ?_
      refine .ofExcept fun _ _ => ?_
      refine .ofExcept fun _ _ => ?_
      refine .ofExcept fun _ _ => ?_
      refine .ofExcept fun _ _ => ?_
      exact registers_submit out _ rfl
    · unfold reconcile
      split
      · exact .done _
      · refine .bind ((reads_verifyExistingImport out _ actual).of_reads hRefl) fun again => ?_
        split
        · exact .done _
        · exact .done _

theorem keeps_operation (now : Int) (out : Outside) (hOwns : ∀ t, Grows db t → Sound t → Owns plan t) :
    Keeps Sound Grows Grows (operation bundles plan now out) db := by
  have hSafe : Safe (fun t => Sound t ∧ Owns plan t) Grows Grows (fun _ _ => True)
      (operation bundles plan now out) db := by
    apply Prog.Touches.safe (registers_operation now out)
    rintro s t ⟨hSound, hOwner⟩ (rfl | ⟨hNone, graph, rfl⟩)
    · exact ⟨⟨hSound, hOwner⟩, .refl t⟩
    · have hGrows : Grows s { s with
          service := s.service.setGraph plan.newGraph graph
          imports := s.imports ++ [(plan.source, plan.newGraph)] } :=
        ⟨fun _ row hRow => ⟨row, hRow, rfl, rfl⟩, fun _ _ hFound => hFound⟩
      exact ⟨⟨hSound.registered hOwner hNone, hOwner.grows hGrows⟩, hGrows⟩
  exact (hSafe.carrying (fun _ _ hGrows hOwner => hOwner.grows hGrows) hOwns).mono fun _ _ _ _ => trivial

theorem keeps_reads {p : Flow α} (h : Reads p) : Keeps Sound Grows Grows p db := by
  apply Prog.Touches.safe h
  rintro s t hSound rfl
  exact ⟨hSound, .refl t⟩

theorem keeps_schema : Keeps Sound Grows Grows schema db := by
  apply Keeps.statement
  rintro t r t' - hSound hRun
  cases hRun
  dsimp only
  rw [hSound.migrated]
  exact ⟨hSound, .refl t⟩

theorem keeps_mark (id : String) (state : PlanState) (now : Int) (message : String) :
    Keeps Sound Grows Grows (mark id state now message) db := by
  apply Keeps.statement
  rintro t r t' - hSound hRun
  cases hRun
  exact ⟨hSound.mark id _ fun _ => ⟨rfl, rfl⟩, grows_mark id _ fun _ => ⟨rfl, rfl⟩⟩

theorem safe_claim (now : Int) (hKnown : Known plan db) :
    Safe Sound Grows Grows (fun r t => r = .ok true → Owns plan t) (claim plan now) db := by
  apply Safe.statement
  intro t r t' hGrows hSound hRun
  rcases claim_cases plan now t with ⟨e, hCommit⟩ | ⟨row, t'', hCommit, hClaimed⟩
  · rw [hCommit] at hRun
    cases hRun
    exact ⟨hSound, .refl t, nofun⟩
  · rw [hCommit] at hRun
    cases hRun
    have hKnown := hKnown.grows hGrows
    refine ⟨hClaimed.sound hKnown hSound, hClaimed.grows, fun u hLater _ _ => ?_⟩
    exact (hClaimed.owns hKnown).grows hLater

theorem safe_authorize (now : Int) (hKnown : Known plan db) :
    Safe Sound Grows Grows (fun r t => r = .ok true → Owns plan t) (authorize bundles plan now) db := by
  have hFalse : ∀ t, Safe Sound Grows Grows (fun r t => r = .ok true → Owns plan t)
      (pure false : Flow Bool) t := by
    intro t u _ _ hTrue
    cases hTrue
  unfold authorize
  split
  · apply Safe.bind grows_interference (Q := fun _ _ => True)
    · exact keeps_reads (reads_eligible now)
    · intro confirmed t hGrows _
      split
      · exact safe_claim now (hKnown.grows hGrows)
      · exact hFalse t
    · intro e t _ _ hTrue
      cases hTrue
  · apply Safe.read grows_interference
    intro t hGrows _
    by_cases hOwner : t.sources.lookup plan.source = some plan.id
    · rw [show refuseIf (decide (t.sources.lookup plan.source ≠ some plan.id)) _ = .ok () by
        simp [hOwner]]
      intro u hLater _ _
      exact .grows ⟨hKnown.grows hGrows, hOwner⟩ hLater
    · rw [show refuseIf (decide (t.sources.lookup plan.source ≠ some plan.id)) _ = .error _ by
        simp [hOwner]; rfl]
      intro u _ _ hTrue
      cases hTrue
  · exact hFalse db

theorem keeps_consume (now : Int) (out : Outside) (hKnown : Known plan db) :
    Keeps Sound Grows Grows (consume bundles plan now out) db := by
  unfold consume
  apply Keeps.bind grows_interference keeps_schema
  intro _ t hGrows
  apply Safe.bind grows_interference (safe_authorize now (hKnown.grows hGrows))
  · intro authorized u _ hPost
    split
    next hTrue =>
      subst hTrue
      apply Keeps.bind grows_interference
      · exact .attempt (keeps_operation now out fun v hLater hSound => hPost v hLater hSound rfl)
          fun _ _ _ _ => trivial
      · intro result v _
        unfold finish
        split
        · exact keeps_mark _ _ _ _
        · split
          · exact keeps_mark _ _ _ _
          · exact .bind grows_interference (keeps_mark _ _ _ _) fun _ _ _ => .done _
    · exact Keeps.done _
  · intro _ _ _ _
    trivial

theorem known_of_pending (h : plan ∈ db.pending) : Known plan db := by
  obtain ⟨⟨id, row⟩, hEntry, hPending⟩ := mem_filterMap.mp (mem_of_mem_take h)
  rw [mem_insertionSort] at hEntry
  simp only [PlanRow.pending, ite_none_right_eq_some, map_eq_some_iff] at hPending
  obtain ⟨-, fp, hFp, rfl⟩ := hPending
  exact ⟨row, mem_lookup_iff.mpr hEntry, by rw [PlanRow.source, hFp]; rfl, rfl⟩

theorem keeps_runOnce (now : Int) (outside : ArmedPlan → Outside) :
    Keeps Sound Grows Grows (runOnce bundles now outside) db := by
  unfold runOnce pending
  rw [Prog.bind_assoc]
  apply Keeps.bind grows_interference keeps_schema
  intro _ t _
  apply Keeps.read grows_interference
  intro u _ _
  apply Safe.forEach grows_interference
  · intro plan hMem v hGrows
    apply Keeps.bind grows_interference
    · exact .attempt (keeps_consume now (outside plan) ((known_of_pending hMem).grows hGrows))
        fun _ _ _ _ => trivial
    · intro _ _ _
      exact .done _
  · intro _ _ _
    trivial

theorem keeps_arm (request : ArmRequest) : Keeps Sound Grows Grows (arm bundles request) db := by
  unfold arm
  refine .ofExcept fun _ _ => ?_
  refine .ofExcept fun bundle _ => ?_
  refine .ofExcept fun input _ => ?_
  refine .ofExcept fun workspace _ => ?_
  refine .ofExcept fun _ _ => ?_
  refine .ofExcept fun staged _ => ?_
  refine .ofExcept fun inspected _ => ?_
  refine .ofExcept fun _ _ => ?_
  refine .seq (keeps_reads (reads_look _)) fun registered t => ?_
  refine .ofExcept fun source _ => ?_
  refine .seq keeps_schema fun _ t => ?_
  refine .seq (keeps_reads (reads_read _)) fun count t => ?_
  refine .ofExcept fun _ _ => ?_
  apply Keeps.statement
  intro s r s' _ hSound hRun
  rw [show s' = (s.insertPlan _ _).2 from (congrArg Prod.snd hRun).symm]
  exact ⟨hSound.insertPlan _ rfl, grows_insertPlan _ _⟩

end

/-! ## Runs -/

section

variable (bundles : Bundles)

/-- What everything else in the installation leaves alone; it removes no graph. -/
structure Elsewhere (db db' : FailoverDb) : Prop extends Undisturbed db db' where
  plans : db'.plans = db.plans

/-- Ticks, an operator who arms plans, and the rest of the installation, in any order; a
worker may stop anywhere. -/
inductive Allowed (pool : Pool String FailoverDb Unit) : Move String FailoverDb Unit → Prop
  | tick (now : Int) (outside : ArmedPlan → Outside) :
      Allowed pool (.spawn (runOnce bundles now outside))
  | arm (request : ArmRequest) : Allowed pool (.spawn (Failover.arm bundles request))
  | status : Allowed pool (.spawn schema)
  | elsewhere (f : FailoverDb → FailoverDb) (apart : ∀ db, Elsewhere db (f db)) :
      Allowed pool (.spawn (Prog.write f))
  | act (worker : Nat) : Allowed pool (.act worker)
  | stop (worker : Nat) : Allowed pool (.stop worker)

variable {bundles} {start : FailoverDb} {pool : Pool String FailoverDb Unit}

theorem keeps_elsewhere {f} (h : ∀ db, Elsewhere db (f db)) {db} :
    Keeps Sound Grows Grows (Prog.write f : Flow Unit) db := by
  apply Keeps.statement
  rintro t r t' - hSound hRun
  cases hRun
  have hGrows : Grows t (f t) := by
    constructor
    · intro id row hRow
      exact ⟨row, by rw [(h t).plans, hRow], rfl, rfl⟩
    · intro key id hOwner
      rw [(h t).sources, hOwner]
  refine ⟨hSound.undisturbed hGrows (h t).toUndisturbed ?_, hGrows⟩
  rw [(h t).plans]
  exact hSound.settled

theorem Sound.arises (hStart : Initial start) (h : Arises (Allowed bundles) start pool) :
    Sound pool.state := by
  refine (Arises.safe (Q := fun _ _ => True) grows_interference hStart.sound ?_ h).1
  rintro db p - hSpawn
  cases hSpawn with
  | tick now outside => exact keeps_runOnce now outside
  | arm request => exact keeps_arm request
  | status => exact keeps_schema
  | elsewhere f apart => exact keeps_elsewhere apart

/-- However many plans are armed and wherever ticks stop: a source is claimed by one plan, once,
and its replacement is registered once, by that plan. -/
theorem failover_is_one_shot (hStart : Initial start) (h : Arises (Allowed bundles) start pool)
    (source : SourceKey) : (pool.state.claims.filter fun claim => claim.1 = source).length ≤ 1 ∧
    (pool.state.imports.filter fun entry => entry.1 = source).length ≤ 1 ∧
    (∀ graph, (pool.state.imports.filter fun entry => entry.2 = graph).length ≤ 1) ∧
    (∀ graph, (source, graph) ∈ pool.state.imports → ∃ plan row, (source, plan) ∈ pool.state.claims ∧
      pool.state.plans.lookup plan = some row ∧ row.newGraph = graph) ∧
    (∀ plan row plan' row', pool.state.plans.lookup plan = some row → row.source = some source →
      row.state ≠ .armed → pool.state.plans.lookup plan' = some row' → row'.source = some source →
      row'.state ≠ .armed → plan = plan') := by
  have hSound := Sound.arises hStart h
  refine ⟨Lists.length_filter_le_one hSound.once source, Lists.length_filter_le_one hSound.importedOnce source,
    Lists.length_filter_le_one hSound.graphOnce, ?_, ?_⟩
  · intro graph hImport
    obtain ⟨-, plan, row, hOwner, hRow, hNew⟩ := hSound.imported source graph hImport
    exact ⟨plan, row, (hSound.owned source plan).mpr hOwner, hRow, hNew⟩
  · intro plan row plan' row' hRow hSource hState hRow' hSource' hState'
    obtain ⟨key, hKey, hOwner⟩ := hSound.settled plan row hRow hState
    obtain ⟨key', hKey', hOwner'⟩ := hSound.settled plan' row' hRow' hState'
    rw [hSource, Option.some.injEq] at hKey
    rw [hSource', Option.some.injEq] at hKey'
    subst hKey hKey'
    rw [hOwner, Option.some.injEq] at hOwner'
    exact hOwner'

end

/-! ### Two plans for one source

The operator armed two recoveries of b's graph at a; a leads in term 2, and c confirms that
b never dispatched a node. -/

namespace Recovered

open Cluster.Sample (fpA fpB fpC enrolledStore)
open Replication

def rosterSha256 : String := "3a9126ada7449a9ae43078e666cc5105bcd9700245277275a7a95ab954d338df"

def checkpointText : String :=
    "[1,\"team\",\"graph-1\",\"bbbbbbbbbbbbbbbbbbbbbbbbbbbbbbbbbbbbbbbbbbbbbbbbbbbbbbbbbb" ++
    "bbbbbb\",\"3a9126ada7449a9ae43078e666cc5105bcd9700245277275a7a95ab954d338df\",4,1,10" ++
    "00,\"running\",[\x7b\"id\":\"plan\",\"state\":\"pending\",\"job_id\":null\x7d]]"

def bundleText : String :=
    "\x7b\"version\":1,\"source_graph_id\":\"graph-1\",\"spec\":\x7b\"version\":1,\"id\":" ++
    "\"graph-1\",\"nodes\":[\x7b\"id\":\"plan\",\"recipe\":\"embedded-primary:plan\",\"de" ++
    "pends_on\":[],\"include_dependency_reports\":false,\"max_runtime_seconds\":120\x7d]," ++
    "\"cluster_id\":\"team\",\"max_parallel\":1\x7d,\"recipes\":[\x7b\"node_id\":\"plan\"" ++
    ",\"primary\":\"\x7b\\\"version\\\":1,\\\"name\\\":\\\"read-only\\\",\\\"target\\\":\x7b" ++
    "\\\"ollama\\\":\\\"qwen2.5:7b\\\"\x7d,\\\"workspace\\\":\\\"/srv/work\\\",\\\"permis" ++
    "sion_mode\\\":\\\"plan\\\",\\\"prompt\\\":\\\"Inspect this workspace\\\",\\\"params\\" ++
    "\":\x7b\x7d\x7d\",\"primary_sha256\":\"76df8173dfc6ee8a3019bbf8e9fb1a47503f342c7e0f5" ++
    "8606154cc98338f3a6f\",\"fallback\":null,\"fallback_sha256\":null\x7d],\"observed_nod" ++
    "es\":[\x7b\"node_id\":\"plan\",\"state\":\"pending\",\"job_id\":null\x7d],\"contents" ++
    "_sha256\":\"6de67e6dc71776e7334050d9770a9034a59eb532fd265bd563f57b5741c837a2\"\x7d"

def sha (input : Bytes) : String :=
  if input = textBytes checkpointText then
    "aa8ca25be0cf889dc978e673e593888305b56cd33ec5e867890dceb9e9efc64c"
  else if input = textBytes bundleText then
    "779e8d9ae077537296855335de71eb85fbe80767b88bc4e41b25a210ebf2e736"
  else Cluster.Sample.sha input

def spec : ResidentSwarmSpec :=
  ⟨1, "graph-1", [⟨"plan", "embedded-primary:plan", none, [], false, 120⟩], some "team", 1⟩

def bundles : Bundles where
  sha := sha
  codec := ⟨fun _ => textBytes checkpointText, fun _ => 400⟩
  opened bytes :=
    if bytes = textBytes bundleText then .ok ("graph-1", spec)
    else .error "Transfer version, source id or contents checksum invalid"
  relocated _ := .ok ()

def checkpoint : ReplicaSnapshot :=
  ⟨1, "team", "graph-1", fpB, rosterSha256, 4, 1, 1000, "running", [⟨"plan", "pending", none⟩], [], [],
    "aa8ca25be0cf889dc978e673e593888305b56cd33ec5e867890dceb9e9efc64c"⟩

def plan (newGraph : String) (createdAtMs : Int) : PlanRow :=
  ⟨"team", "graph-1", some fpB, newGraph, "/srv/bundle.json",
    "779e8d9ae077537296855335de71eb85fbe80767b88bc4e41b25a210ebf2e736",
    "/srv/recovered", .armed, createdAtMs, none, none⟩

def leader : Cluster.Store :=
  { enrolledStore fpA with leases := AList.insert "team" ⟨2, fpA, 16000, []⟩ ∅ }

def armed : FailoverDb where
  replica := ⟨leader, AList.insert checkpoint.key ⟨1, 4, 1, checkpoint.checksum, checkpoint, 1100⟩ ∅⟩
  witnesses := AList.insert ("team", "graph-1", fpB, 2, fpC) ⟨some checkpoint, 1400⟩ ∅
  service := ⟨∅, ∅⟩
  plans := AList.insert "recover-b" (plan "recovered-b" 700)
    (AList.insert "recover-a" (plan "recovered-a" 600) ∅)
  sources := ∅
  claims := []
  imports := []

def outside : Outside where
  bundle := .ok (textBytes bundleText)
  staged := .ok ()
  workspace := .ok ()
  recipes := .ok ()
  recipesAgain := .ok ()
  snapshots := "/srv/snapshots"
  importStaged := .ok ()
  freeze _ := .ok ()
  clock := 1500
  registeredAt := 1500
  freshClock := 1500

def recovered : FailoverDb := ((runOnce bundles 1500 fun _ => outside).run armed).2

theorem initial : Initial armed := by
  refine ⟨?_, rfl, rfl, rfl⟩
  apply Every.insert
  · exact .insert every_empty rfl
  · rfl

theorem arises : Arises (Allowed bundles) armed
    ⟨recovered, [.done ((runOnce bundles 1500 fun _ => outside).run armed).1]⟩ :=
  Arises.start.alone (fun _ i => .act i) (.tick 1500 fun _ => outside)

end Recovered

theorem second_plan_not_claimed :
    Recovered.recovered.imports = [(("team", "graph-1", Cluster.Sample.fpB), "recovered-a")] ∧
      (Recovered.recovered.claims.filter fun claim =>
        claim.1 = ("team", "graph-1", Cluster.Sample.fpB)).length ≤ 1 :=
  ⟨by decide +kernel, (failover_is_one_shot Recovered.initial Recovered.arises _).1⟩

end LittleMonkey.Swarm.Failover
