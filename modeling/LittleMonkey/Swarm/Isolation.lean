import LittleMonkey.Swarm.Verdicts

/-! # Graphs and the loop of a tick

A tick takes the graphs one after another and stops at the first turn that fails.
A turn changes nothing a later turn fails by, so which graphs the loop comes to can
be told before it starts.
-/

namespace LittleMonkey.Swarm.Resident

open Primitives Relation List

variable {sha : Bytes → String} {t : Turn} {id : String} {s s' : Service}

/-- What a turn at graph `id` leaves alone in tables that may have lost job rows. -/
structure Apart (sha : Bytes → String) (id : String) (s s' : Service) : Prop where
  graphs : ∀ other, other ≠ id → s'.graphs.lookup other = s.graphs.lookup other
  jobs : ∀ jobId, (∀ node stage, jobId ≠ stableJobId sha ⟨id, node, stage⟩) →
    (s'.jobs.lookup jobId).isNone = (s.jobs.lookup jobId).isNone

namespace Apart

theorem refl (s : Service) : Apart sha id s s := ⟨fun _ _ => rfl, fun _ _ => rfl⟩

theorem trans {s''} (h : Apart sha id s s') (h' : Apart sha id s' s'') : Apart sha id s s'' where
  graphs other hOther := (h'.graphs other hOther).trans (h.graphs other hOther)
  jobs jobId hJob := (h'.jobs jobId hJob).trans (h.jobs jobId hJob)

theorem setGraph (s : Service) (g : Graph) : Apart sha id s (s.setGraph id g) :=
  ⟨fun _ hOther => s.lookup_setGraph_of_ne g hOther, fun _ _ => rfl⟩

theorem setJob (s : Service) (node : String) (stage : Stage) (job : SwarmJob) :
    Apart sha id s (s.setJob (stableJobId sha ⟨id, node, stage⟩) job) where
  graphs _ _ := rfl
  jobs _ hJob := by rw [s.lookup_setJob_of_ne job (hJob node stage)]

theorem of_moves {R : Service → Service → Prop} (hR : ∀ s s', R s s' → Apart sha id s s')
    (h : ReflTransGen R s s') : Apart sha id s s' := by
  induction h with
  | refl => exact refl s
  | tail _ hMove ih => exact ih.trans (hR _ _ hMove)

end Apart

theorem Cancel.apart (hMove : Cancel id s s') : Apart sha id s s' := by
  cases hMove with
  | cancelJob hCurrent hLive =>
    rename_i jobId job
    refine ⟨fun _ _ => rfl, fun other _ => ?_⟩
    by_cases hOther : other = jobId
    · rw [hOther, s.lookup_setJob, hCurrent.jobAt]
      rfl
    · rw [s.lookup_setJob_of_ne _ hOther]
  | cancelNode => exact .setGraph s _
  | close => exact .setGraph s _
  | failing => exact .setGraph s _

theorem Dispatch.apart {base start} (hMove : Dispatch sha t id base start s s') : Apart sha id s s' := by
  cases hMove with
  | insert => exact (Apart.setJob s _ _ _).trans (Apart.setGraph _ _)
  | prepare => exact .setJob s _ _ _
  | intend => exact .setGraph s _
  | attach => exact .setGraph s _
  | fail => exact .setGraph s _
  | failing => exact .setGraph s _

theorem Turned.apart (h : Turned sha t id s s') : Apart sha id s s' := by
  have hSettled : ∀ {s₁}, ReflTransGen (Settle sha id) s s₁ → Apart sha id s s₁ :=
    Apart.of_moves fun s _ hMove => by cases hMove <;> exact .setGraph s _
  cases h with
  | settled h => exact hSettled h
  | stopped h hGraph hStopping hStop =>
    exact (hSettled h).trans (.of_moves (fun _ _ hMove => hMove.apart) hStop)
  | succeeded h => exact (hSettled h).trans (.setGraph _ _)
  | dispatched h hGraph hRows hDispatch =>
    exact (hSettled h).trans (.of_moves (fun _ _ hMove => hMove.apart) hDispatch)

def turns (sha : Bytes → String) (t : Turn) (graphs : List (String × Graph)) : ServiceM Unit :=
  graphs.forM fun entry => tickGraph sha t entry.1 entry.2.spec entry.2.state

end LittleMonkey.Swarm.Resident
