import Aico.Workflow.SystemInvariant

/-!
# The states of runs

Every run of the system and its at most one task are in one of the pairs that
`Coherent` lists, the task is leased exactly while it is running, and a run that
has been canceled stays as it is.
-/

namespace Aico

namespace Sys

def runsOf (s : Sys) (runId : Uuid) : List RunRow :=
  s.world.db.runs.filter fun r => r.id = runId

def tasksOf (s : Sys) (runId : Uuid) : List TaskRow :=
  s.world.db.tasks.filter fun t => t.runId = runId

def artifactsOf (s : Sys) (runId : Uuid) : List ArtifactRow :=
  s.world.db.artifacts.filter fun a => a.runId = runId

def artifactVersionsOf (s : Sys) (runId : Uuid) : List ArtifactVersionRow :=
  s.world.db.artifactVersions.filter fun v => v.runId = runId

/-- Runs and tasks are in coherent states. -/
structure Coherent (s : Sys) : Prop where
  states : ∀ r ∈ s.world.db.runs, ∃ o : Option TaskRow, s.tasksOf r.id = o.toList ∧
    Aico.Coherent r.state (o.map TaskRow.state)
  lease : ∀ t ∈ s.world.db.tasks, t.leaseToken.isSome ↔ t.state = .running

/-- The later state `s'` has the rows of the run as `s` has them. -/
structure SameRun (s s' : Sys) (runId : Uuid) : Prop where
  run : s'.runsOf runId = s.runsOf runId
  task : s'.tasksOf runId = s.tasksOf runId
  artifacts : s'.artifactsOf runId = s.artifactsOf runId
  versions : s'.artifactVersionsOf runId = s.artifactVersionsOf runId

def FrozenCanceled (s s' : Sys) : Prop :=
  ∀ r ∈ s.world.db.runs, r.state = .canceled → SameRun s s' r.id

variable {rt : Runtime} {services : Services} {s : Sys} {act : Action}

/-! ## What a record shows -/

section Shows

variable {l : Life} (hl : Represents s l)

include hl

theorem runsOf_eq : s.runsOf l.run.id = [l.run] := congrArg RunRows.runs hl.shows

theorem tasksOf_eq : s.tasksOf l.run.id = l.task.toList := congrArg RunRows.tasks hl.shows

theorem artifactsOf_eq : s.artifactsOf l.run.id = l.artifacts :=
  congrArg RunRows.artifacts hl.shows

theorem artifactVersionsOf_eq : s.artifactVersionsOf l.run.id = l.versions :=
  congrArg RunRows.versions hl.shows

end Shows

theorem Inv.coherent (h : s.Inv rt) : s.Coherent where
  states r hr := by
    obtain ⟨l, hl, rfl, hinv⟩ := h.life_of_run hr
    exact ⟨l.task, tasksOf_eq hl, hinv.coherence.states⟩
  lease t ht := by
    obtain ⟨l, hl, hlt, hinv⟩ := h.life_of_task ht
    exact (hinv.coherence.lease t hlt).1

/-! ## Canceled runs -/

theorem FrozenCanceled.refl (s : Sys) : s.FrozenCanceled s :=
  fun _ _ _ => ⟨rfl, rfl, rfl, rfl⟩

theorem FrozenCanceled.trans {s' s'' : Sys} (h : s.FrozenCanceled s')
    (h' : s'.FrozenCanceled s'') : s.FrozenCanceled s'' := by
  intro r hr hcanceled
  have hsame := h r hr hcanceled
  have hmem : r ∈ s'.runsOf r.id := by
    rw [hsame.run]
    exact List.mem_filter.mpr ⟨hr, decide_eq_true rfl⟩
  have hsame' := h' r (List.mem_of_mem_filter hmem) hcanceled
  exact ⟨hsame'.run.trans hsame.run, hsame'.task.trans hsame.task,
    hsame'.artifacts.trans hsame.artifacts, hsame'.versions.trans hsame.versions⟩

/-- No step touches a canceled run. -/
theorem Inv.frozenCanceled_step (h : s.Inv services.runtime) (act : Action) :
    s.FrozenCanceled (s.step services act) := by
  intro r hr hcanceled
  obtain ⟨l, hl, rfl, hinv⟩ := h.life_of_run hr
  obtain ⟨l', hl', hstep⟩ := (h.steps act).run l hl hinv
  obtain ⟨hrun, htask, hartifacts, hversions⟩ :=
    Life.frozen_of_canceled hinv.coherence hcanceled hstep
  have hid := hstep.id_eq
  refine ⟨?_, ?_, ?_, ?_⟩
  · rw [runsOf_eq hl, ← hid, runsOf_eq hl', hrun]
  · rw [tasksOf_eq hl, ← hid, tasksOf_eq hl', htask]
  · rw [artifactsOf_eq hl, ← hid, artifactsOf_eq hl', hartifacts]
  · rw [artifactVersionsOf_eq hl, ← hid, artifactVersionsOf_eq hl', hversions]

theorem Inv.frozenCanceled_after (h : s.Inv services.runtime) (acts : List Action) :
    s.FrozenCanceled (s.after services acts) :=
  Transition.run_relates FrozenCanceled.refl (fun _ _ _ => FrozenCanceled.trans)
    (fun _ act hs => hs.step (hs.steps act)) (fun _ act hs => hs.frozenCanceled_step act)
    h acts

/-- Every reachable state is coherent, and whatever happens afterwards its canceled
runs stay as they are. -/
theorem coherent_after (services : Services) (init : InitialWorld) (acts : List Action) :
    (init.sys.after services acts).Coherent ∧
      ∀ acts', (init.sys.after services acts).FrozenCanceled
        ((init.sys.after services acts).after services acts') :=
  ⟨(inv_after services init acts).coherent,
    fun acts' => (inv_after services init acts).frozenCanceled_after acts'⟩

end Sys

end Aico
