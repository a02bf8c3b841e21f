import LittleMonkey.Swarm.GraphRuns

/-! # Invariants of whole runs

A turn at one graph leaves the other graphs and their jobs alone, so a tick is
one turn after another, each at a graph that is still as the tick found it.
An invariant is then proved for one turn, one registration, one cancellation
and one move of a job.
-/

namespace LittleMonkey.Swarm.Resident

open Durable OrderBy Primitives Relation List

section

variable {sha : Bytes → String} {keys : Set JobKey} {t : Turn} {id : String}
  {s s' s₀ : Service} {g g' : Graph}

/-! ## Other graphs -/

structure Framed (sha : Bytes → String) (keys : Set JobKey) (id : String) (s s' : Service) :
    Prop where
  graphs : ∀ other, other ≠ id → s'.graphs.lookup other = s.graphs.lookup other
  jobs : ∀ key ∈ keys, key.graph ≠ id →
    s'.jobs.lookup (stableJobId sha key) = s.jobs.lookup (stableJobId sha key)

namespace Framed

theorem refl (s : Service) : Framed sha keys id s s := ⟨fun _ _ => rfl, fun _ _ _ => rfl⟩

theorem trans {s''} (h : Framed sha keys id s s') (h' : Framed sha keys id s' s'') :
    Framed sha keys id s s'' where
  graphs other hOther := (h'.graphs other hOther).trans (h.graphs other hOther)
  jobs key hKey hOther := (h'.jobs key hKey hOther).trans (h.jobs key hKey hOther)

theorem setGraph (s : Service) (g : Graph) : Framed sha keys id s (s.setGraph id g) where
  graphs _ hOther := s.lookup_setGraph_of_ne g hOther
  jobs _ _ _ := rfl

theorem setJob (s : Service) (hInj : Set.InjOn (stableJobId sha) keys) {key}
    (hKey : key ∈ keys) (hGraph : key.graph = id) (job : SwarmJob) :
    Framed sha keys id s (s.setJob (stableJobId sha key) job) where
  graphs _ _ := rfl
  jobs other hOther hNe := by
    refine s.lookup_setJob_of_ne job fun hEq => hNe ?_
    rw [hInj hOther hKey hEq]
    exact hGraph

end Framed

theorem Settle.framed (hMove : Settle sha id s s') : Framed sha keys id s s' := by
  cases hMove <;> exact .setGraph s _

theorem Cancel.framed (hMove : Cancel id s s') (hInj : Set.InjOn (stableJobId sha) keys)
    (h : Sound sha keys s) : Framed sha keys id s s' := by
  cases hMove with
  | cancelJob hCurrent hLive =>
    rename_i g node row jobId job
    have hNode := (h.graphs id g hCurrent.graphAt).nodes node row hCurrent.rowAt
    rw [hCurrent.id_eq hNode]
    exact .setJob s hInj (h.mem_keys hCurrent.graphAt hCurrent.rowAt
      (hNode.allowed_stage row.state)) rfl _
  | cancelNode => exact .setGraph s _
  | close => exact .setGraph s _
  | failing => exact .setGraph s _

theorem Dispatch.framed {base start}
    (hMove : Dispatch sha t id base start s s') (hInj : Set.InjOn (stableJobId sha) keys)
    (h : Sound sha keys s) : Framed sha keys id s s' := by
  have hKey {g : Graph} {node : String} {row : NodeRow}
      (hGraph : s.graphs.lookup id = some g) (hRow : g.row node = some row) :
      (⟨id, node, g.stage node row.state⟩ : JobKey) ∈ keys :=
    h.mem_keys hGraph hRow (((h.graphs id g hGraph).nodes node row hRow).allowed_stage row.state)
  cases hMove with
  | insert hInsertion =>
    exact (Framed.setJob s hInj (hKey hInsertion.graphAt hInsertion.rowAt) rfl _).trans
      (.setGraph _ _)
  | prepare hGraph hRow => exact .setJob s hInj (hKey hGraph hRow) rfl _
  | intend => exact .setGraph s _
  | attach => exact .setGraph s _
  | fail => exact .setGraph s _
  | failing => exact .setGraph s _

/-! ## One turn -/

theorem kept_of_moves {R : Service → Service → Prop}
    (hMove : ∀ s s', R s s' → Sound sha keys s → Sound sha keys s' ∧ Framed sha keys id s s')
    (h : ReflTransGen R s₀ s) (hSound : Sound sha keys s₀) : Sound sha keys s ∧ Framed sha keys id s₀ s := by
  induction h with
  | refl => exact ⟨hSound, .refl s₀⟩
  | tail _ hStep ih =>
    obtain ⟨hNext, hFramed⟩ := hMove _ _ hStep ih.1
    exact ⟨hNext, ih.2.trans hFramed⟩

theorem settled_kept (h : ReflTransGen (Settle sha id) s₀ s) (hSound : Sound sha keys s₀) :
    Sound sha keys s ∧ Framed sha keys id s₀ s :=
  kept_of_moves (fun _ _ hMove hs => ⟨hMove.sound hs, hMove.framed⟩) h hSound

theorem Turned.kept (h : Turned sha t id s₀ s) (hInj : Set.InjOn (stableJobId sha) keys)
    (hSound : Sound sha keys s₀) : Sound sha keys s ∧ Framed sha keys id s₀ s := by
  cases h with
  | settled h => exact settled_kept h hSound
  | stopped h hGraph hStopping hStop =>
    obtain ⟨hSound₁, hFramed⟩ := settled_kept h hSound
    obtain ⟨hNext, hFramed'⟩ := kept_of_moves
      (fun _ _ hMove hs => ⟨hMove.sound hs, hMove.framed hInj hs⟩) hStop hSound₁
    exact ⟨hNext, hFramed.trans hFramed'⟩
  | succeeded h hGraph hRows =>
    obtain ⟨hSound₁, hFramed⟩ := settled_kept h hSound
    exact ⟨hSound₁.setState hGraph _, hFramed.trans (.setGraph _ _)⟩
  | dispatched h hGraph hRows hDispatch =>
    obtain ⟨hSound₁, hFramed⟩ := settled_kept h hSound
    obtain ⟨hNext, hFramed'⟩ := kept_of_moves
      (fun _ _ hMove hs => ⟨hMove.sound hInj hs, hMove.framed hInj hs⟩) hDispatch hSound₁
    exact ⟨hNext, hFramed.trans hFramed'⟩

/-! ## A tick -/

def Service.waiting (s : Service) : List (String × Graph) :=
  orderBy (·.2.createdAtMs)
    ((s.graphs.entries.map fun entry => (entry.1, entry.2)).filter (!·.2.state.isTerminal))

theorem mem_waiting {entry} : entry ∈ s.waiting ↔
    s.graphs.lookup entry.1 = some entry.2 ∧ entry.2.state.isTerminal = false := by
  obtain ⟨id, g⟩ := entry
  rw [Service.waiting, mem_orderBy, ← Option.mem_def, AList.mem_lookup_iff]
  simp

theorem nodup_waiting (s : Service) : (s.waiting.map Prod.fst).Nodup := by
  have hAll : ((s.graphs.entries.map fun entry => (entry.1, entry.2)).map Prod.fst).Nodup := by
    rw [List.map_map]
    exact s.graphs.nodupKeys
  exact ((orderBy_perm _ _).map Prod.fst).nodup_iff.mpr ((List.filter_sublist.map Prod.fst).nodup hAll)

theorem mem_openGraphs {entry} (h : entry ∈ openGraphs s) :
    s.graphs.lookup entry.1 = some entry.2 ∧ entry.2.state.isTerminal = false :=
  mem_waiting.mp (mem_of_mem_take h)

theorem nodup_openGraphs (s : Service) : ((openGraphs s).map Prod.fst).Nodup :=
  ((take_sublist 100 s.waiting).map Prod.fst).nodup (nodup_waiting s)

def Untouched (sha : Bytes → String) (keys : Set JobKey) (s₀ s : Service) (id : String)
    (g : Graph) : Prop :=
  s.graphs.lookup id = some g ∧ ∀ key ∈ keys, key.graph = id →
    s.jobs.lookup (stableJobId sha key) = s₀.jobs.lookup (stableJobId sha key)

theorem tick_invariant {I : Service → Prop} (hInj : Set.InjOn (stableJobId sha) keys)
    (hTurn : ∀ id g s s', (id, g) ∈ openGraphs s₀ → Sound sha keys s → I s →
      Untouched sha keys s₀ s id g → Turned sha t id s s' → I s')
    (hSound : Sound sha keys s₀) (hI : I s₀) :
    Sound sha keys (final (tick sha t) s₀) ∧ I (final (tick sha t) s₀) := by
  refine Triple.final (P := (· = s₀)) (R := fun s => Sound sha keys s ∧ I s) ?_ rfl
  unfold tick
  refine .read_bind ?_
  -- Ahead of the loop, every graph is as the tick found it.
  refine .weaken (.forM_rest (I := fun rest s => (Sound sha keys s ∧ I s) ∧
      (rest.map Prod.fst).Nodup ∧ ∀ entry ∈ rest, entry ∈ openGraphs s₀ ∧
        Untouched sha keys s₀ s entry.1 entry.2)
      (E := fun _ s => Sound sha keys s ∧ I s) ?_ (openGraphs s₀)) ?_ (fun _ _ h => h.1)
      fun _ _ h => h
  · intro entry rest
    refine .of_forall ?_
    rintro s ⟨⟨hs, hIs⟩, hNodup, hAhead⟩
    obtain ⟨hMem, hSame⟩ := hAhead entry mem_cons_self
    have hOpen := (mem_openGraphs hMem).2
    have hNext : ∀ s', Turned sha t entry.1 s s' → (Sound sha keys s' ∧ I s') ∧
        Framed sha keys entry.1 s s' := fun s' hTurned =>
      ⟨⟨(hTurned.kept hInj hs).1, hTurn entry.1 entry.2 s s' hMem hs hIs hSame hTurned⟩,
        (hTurned.kept hInj hs).2⟩
    refine (tickGraph_spec hSame.1 (hs.graphs _ _ hSame.1).plain hOpen).weaken (fun _ h => h) ?_
      fun _ s' hCut => (hNext s' hCut.1).1
    rintro _ s' ⟨hTurned, -⟩
    obtain ⟨hKept, hFramed⟩ := hNext s' hTurned
    rw [map_cons, nodup_cons] at hNodup
    refine ⟨hKept, hNodup.2, fun other hOther => ?_⟩
    have hNe : other.1 ≠ entry.1 := fun hEq => hNodup.1 (hEq ▸ mem_map_of_mem hOther)
    obtain ⟨hOtherMem, hOtherGraph, hOtherJobs⟩ := hAhead other (mem_cons_of_mem _ hOther)
    refine ⟨hOtherMem, (hFramed.graphs other.1 hNe).trans hOtherGraph, fun key hKey hGraph => ?_⟩
    exact (hFramed.jobs key hKey (hGraph ▸ hNe)).trans (hOtherJobs key hKey hGraph)
  · rintro _ rfl
    exact ⟨⟨hSound, hI⟩, nodup_openGraphs _, fun entry hEntry =>
      ⟨hEntry, (mem_openGraphs hEntry).1, fun _ _ _ => rfl⟩⟩

end

/-! ## Registrations, cancellations and jobs -/

section

variable {sha : Bytes → String} {keys : Set JobKey} {s : Service}

theorem submit_cases (r : Registration) (spec : ResidentSwarmSpec) (s : Service) :
    final (submit r spec) s = s ∨ (spec.Sound ∧ s.graphs.lookup spec.id = none ∧
      final (submit r spec) s = s.setGraph spec.id (newGraph (spec.frozen r.snapshots) r.now)) := by
  refine Triple.final (P := (· = s)) (R := fun s' => s' = s ∨ (spec.Sound ∧ s.graphs.lookup spec.id = none ∧
      s' = s.setGraph spec.id (newGraph (spec.frozen r.snapshots) r.now))) ?_ rfl
  have hFail (error : String) : Triple (· = s) (fail error : ServiceM Unit)
      (fun _ s' => s' = s ∨ (spec.Sound ∧ s.graphs.lookup spec.id = none ∧
        s' = s.setGraph spec.id (newGraph (spec.frozen r.snapshots) r.now)))
      (fun _ s' => s' = s ∨ (spec.Sound ∧ s.graphs.lookup spec.id = none ∧
        s' = s.setGraph spec.id (newGraph (spec.frozen r.snapshots) r.now))) :=
    Triple.fail fun _ hs => .inl hs
  unfold submit
  cases hValid : validate spec with
  | error error => exact hFail error
  | ok order =>
    dsimp only
    split
    · exact hFail _
    refine .read_bind ?_
    split
    · exact hFail _
    rename_i hNew
    split
    · exact hFail _
    split
    · exact hFail _
    refine .write ?_
    rintro _ rfl
    exact .inr ⟨sound_of_validate hValid, by simpa using hNew, rfl⟩

theorem requestCancel_cases (id : String) (s : Service) :
    final (requestCancel id) s = s ∨ ∃ g, s.graphs.lookup id = some g ∧ g.state = .running ∧
      final (requestCancel id) s = s.setGraph id (g.setState .cancelling) := by
  refine Triple.final (P := (· = s)) (R := fun s' => s' = s ∨ ∃ g,
    s.graphs.lookup id = some g ∧ g.state = .running ∧ s' = s.setGraph id (g.setState .cancelling)) ?_ rfl
  unfold requestCancel
  split
  · exact .fail fun _ hs => .inl hs
  refine .read_bind ?_
  cases hGraph : s.graphs.lookup id with
  | none => exact .fail fun _ hs => .inl hs
  | some g =>
    dsimp only
    split
    next hState =>
      refine .write ?_
      rintro _ rfl
      exact .inr ⟨g, rfl, by simpa using hState, rfl⟩
    · exact .fail fun _ hs => .inl hs

theorem moveJob_cases (jobId : String) (next : SwarmJob) (s : Service) :
    final (moveJob jobId next) s = s ∨ ∃ job, s.jobs.lookup jobId = some job ∧
      job.state.isTerminal = false ∧ final (moveJob jobId next) s = s.setJob jobId next := by
  refine Triple.final (P := (· = s)) (R := fun s' => s' = s ∨ ∃ job,
    s.jobs.lookup jobId = some job ∧ job.state.isTerminal = false ∧ s' = s.setJob jobId next) ?_ rfl
  unfold moveJob getJob
  refine .read_bind ?_
  cases hJob : s.jobs.lookup jobId with
  | none => exact .pure fun _ hs => .inl hs
  | some job =>
    dsimp only
    split
    · exact .pure fun _ hs => .inl hs
    next hLive =>
      refine .write ?_
      rintro _ rfl
      exact .inr ⟨job, rfl, by simpa using hLive, rfl⟩

theorem ResidentSwarmSpec.nodeIds_frozen (spec : ResidentSwarmSpec) (snapshots : String) :
    (spec.frozen snapshots).nodeIds = spec.nodeIds := by
  simp [ResidentSwarmSpec.nodeIds, ResidentSwarmSpec.frozen, ResidentSwarmNode.frozen]

theorem lookup_newRows (nodes : List ResidentSwarmNode) (rows : Table String NodeRow) (name : String) :
    (nodes.foldl (fun rows node => rows.insert node.id ⟨.pending, none⟩) rows).lookup name =
      if name ∈ nodes.map (·.id) then some ⟨.pending, none⟩ else rows.lookup name := by
  induction nodes generalizing rows with
  | nil => rfl
  | cons node rest ih =>
    rw [foldl_cons, ih, map_cons]
    by_cases hRest : name ∈ rest.map (·.id)
    · rw [if_pos hRest, if_pos (mem_cons_of_mem _ hRest)]
    · rw [if_neg hRest]
      by_cases hNode : name = node.id
      · subst hNode
        rw [if_pos mem_cons_self, AList.lookup_insert]
      · rw [if_neg (by simp [hNode, hRest]), AList.lookup_insert_ne hNode]

theorem row_newGraph (spec : ResidentSwarmSpec) (now : Nat) (name : String) :
    (newGraph spec now).row name = if name ∈ spec.nodeIds then some ⟨.pending, none⟩ else none :=
  lookup_newRows spec.nodes ∅ name

theorem newGraph_sound {spec : ResidentSwarmSpec} (h : spec.Sound) (snapshots : String)
    (now : Nat) : GraphSound sha s spec.id (newGraph (spec.frozen snapshots) now) where
  spec :=
    { graphId := h.graphId
      nodeIds := (spec.nodeIds_frozen snapshots) ▸ h.nodeIds
      nodup := (spec.nodeIds_frozen snapshots) ▸ h.nodup }
  idEq := rfl
  rows name := by
    rw [row_newGraph]
    split <;> simp_all [newGraph]
  plain _ name row hRow _ := by
    rw [row_newGraph] at hRow
    split at hRow <;> cases hRow
    rfl
  nodup := nodup_nil
  known _ _ hStage := absurd hStage not_mem_nil
  jobs _ _ hStage := absurd hStage not_mem_nil
  dependencies _ _ _ hStage := absurd hStage not_mem_nil
  nodes name row hRow := by
    rw [row_newGraph] at hRow
    split at hRow <;> cases hRow
    exact
      { attempts := Nat.zero_le _
        retried := fun hYes => absurd hYes (Nat.lt_irrefl 0)
        fallback := nofun
        stages := nofun
        recorded := nofun
        succeeded := nofun
        current := nofun
        ended := nofun
        unique := nofun }

/-- The graph an action registers has its jobs among `keys`. -/
def Action.Within (keys : Set JobKey) : Action → Prop
  | submit _ spec => spec.Sound → ∀ node ∈ spec.nodeIds, ∀ stage : Stage, stage.allowed = true →
    (⟨spec.id, node, stage⟩ : JobKey) ∈ keys
  | _ => True

theorem Action.Within.wellFormed {action : Action} (h : action.Within keys) :
    action.Within { key ∈ keys | key.wellFormed = true } := by
  cases action with
  | submit r spec =>
    intro hSpec node hNode stage hStage
    refine ⟨h hSpec node hNode stage hStage, ?_⟩
    simp [JobKey.wellFormed, hSpec.graphId, hSpec.nodeIds node hNode]
  | cancel => trivial
  | tick => trivial
  | job => trivial

theorem Sound.submit (h : Sound sha keys s) {r : Registration} {spec}
    (hSpec : spec.Sound) (hNew : s.graphs.lookup spec.id = none)
    (hWithin : (Action.submit r spec).Within keys) :
    Sound sha keys (s.setGraph spec.id (newGraph (spec.frozen r.snapshots) r.now)) := by
  refine h.graft rfl (.of_jobs_eq rfl) (newGraph_sound hSpec _ _) ?_ (fun _ _ _ hJob => hJob) ?_
  · intro key hOther hStage hNode
    have hMem := hWithin hSpec key.node ((spec.nodeIds_frozen r.snapshots) ▸ hNode) key.stage hStage
    rwa [← hOther] at hMem
  · intro key hKey hOther hJob
    obtain ⟨next, hNext, -⟩ := h.dispatched key hKey hJob
    rw [hOther, hNew] at hNext
    cases hNext

theorem sound_empty : Sound sha keys Service.empty where
  graphs _ _ hGraph := by cases hGraph
  within := by
    rintro key ⟨_, _, hGraph, _⟩
    cases hGraph
  dispatched _ _ hJob := by cases hJob

/-- The invariants of a run: kept by a registration, a cancellation, a job and a
turn at one graph. -/
structure Inductive (sha : Bytes → String) (keys : Set JobKey) (C : Action → Service → Prop)
    (I : Service → Prop) : Prop where
  empty : I Service.empty
  submit : ∀ (r : Registration) (spec : ResidentSwarmSpec) s, Sound sha keys s → I s →
    spec.Sound → s.graphs.lookup spec.id = none →
    I (s.setGraph spec.id (newGraph (spec.frozen r.snapshots) r.now))
  cancel : ∀ id g s, Sound sha keys s → I s → s.graphs.lookup id = some g →
    g.state = .running → I (s.setGraph id (g.setState .cancelling))
  job : ∀ jobId job next s, Sound sha keys s → I s → s.jobs.lookup jobId = some job →
    job.state.isTerminal = false → I (s.setJob jobId next)
  turn : ∀ t s₀, C (.tick t) s₀ → Sound sha keys s₀ → I s₀ → ∀ id g s s',
    (id, g) ∈ openGraphs s₀ → Sound sha keys s → I s → Untouched sha keys s₀ s id g →
    Turned sha t id s s' → I s'

theorem GraphRun.invariant {C : Action → Service → Prop} {I : Service → Prop}
    (hInj : Set.InjOn (stableJobId sha) keys) (hWithin : ∀ action s, C action s → action.Within keys)
    (hI : Inductive sha keys C I) (h : GraphRun sha C s) : Sound sha keys s ∧ I s := by
  induction h with
  | empty => exact ⟨sound_empty, hI.empty⟩
  | step action _ hC ih =>
    rename_i s _
    obtain ⟨hs, hIs⟩ := ih
    cases action with
    | submit r spec =>
      rcases submit_cases r spec s with hSame | ⟨hSpec, hNew, hNext⟩
      · exact hSame.symm ▸ ⟨hs, hIs⟩
      · exact hNext.symm ▸ ⟨hs.submit hSpec hNew (hWithin _ _ hC), hI.submit r spec s hs hIs hSpec hNew⟩
    | cancel id =>
      rcases requestCancel_cases id s with hSame | ⟨g, hGraph, hState, hNext⟩
      · exact hSame.symm ▸ ⟨hs, hIs⟩
      · exact hNext.symm ▸ ⟨hs.setState hGraph _, hI.cancel id g s hs hIs hGraph hState⟩
    | job jobId next =>
      rcases moveJob_cases jobId next s with hSame | ⟨job, hJob, hLive, hNext⟩
      · exact hSame.symm ▸ ⟨hs, hIs⟩
      · exact hNext.symm ▸ ⟨hs.setJob hJob hLive next, hI.job jobId job next s hs hIs hJob hLive⟩
    | tick t =>
      exact tick_invariant hInj (hI.turn t s hC hs hIs) hs hIs

theorem GraphRun.mono {C D : Action → Service → Prop} (hC : ∀ action s, C action s → D action s)
    (h : GraphRun sha C s) : GraphRun sha D s := by
  induction h with
  | empty => exact .empty
  | step action _ hStep ih => exact .step action ih (hC _ _ hStep)

/-- Only well-formed ids are ever registered, and on those the texts differ. -/
theorem NoCollision.injOn (h : NoCollision sha keys) :
    Set.InjOn (stableJobId sha) { key ∈ keys | key.wellFormed = true } :=
  stableJobId_injOn (fun key hKey key' hKey' => h key hKey.1 key' hKey'.1) fun _ hKey => hKey.2

theorem GraphRun.sound (hNoCollision : NoCollision sha keys)
    (h : GraphRun sha (fun action _ => action.Within keys) s) :
    Sound sha { key ∈ keys | key.wellFormed = true } s :=
  (h.invariant (I := fun _ => True) hNoCollision.injOn (fun _ _ hWithin => hWithin.wellFormed)
    ⟨trivial, fun _ _ _ _ _ _ _ => trivial, fun _ _ _ _ _ _ _ => trivial,
      fun _ _ _ _ _ _ _ _ => trivial, fun _ _ _ _ _ _ _ _ _ _ _ _ _ _ => trivial⟩).1

end

end LittleMonkey.Swarm.Resident
