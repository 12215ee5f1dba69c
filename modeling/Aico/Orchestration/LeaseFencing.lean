import Aico.Orchestration.SingleInvocation

/-!
# Lease fencing and the accepted success

A worker that has lost the lease of its task, or whose run has ended, may still
take steps; they touch attempts and effects only (`fenced_step`). So the result
of a task is accepted once, in the transaction that publishes it.
-/

namespace Aico

def Action.worker : Action → Option ℕ
  | claimTask w _ _ _ | loadContext w | isLeaseCurrent w | abandonAttempt w
  | beginModelInvocation w | blockUnknownModelOutcome w | invoke w | providerReturns w _
  | completeTask w | failTask w | finish w | throws w | crash w => some w
  | _ => none

/-- The tables that only the holder of a lease may write. -/
structure SameWorkflow (db db' : Db) : Prop where
  tasks : db'.tasks = db.tasks
  runs : db'.runs = db.runs
  artifacts : db'.artifacts = db.artifacts
  artifactVersions : db'.artifactVersions = db.artifactVersions
  events : db'.events = db.events
  outboxMessages : db'.outboxMessages = db.outboxMessages
  runEventCounters : db'.runEventCounters = db.runEventCounters

namespace SameWorkflow

theorem refl (db : Db) : SameWorkflow db db := ⟨rfl, rfl, rfl, rfl, rfl, rfl, rfl⟩

theorem of_eq {db db' : Db} (h : db' = db) : SameWorkflow db db' := h ▸ refl db

end SameWorkflow

namespace Sys

/-- The claim has lost the lease of its task, or its run has ended. -/
def Fenced (s : Sys) (claim : ClaimedTask) : Prop :=
  (∀ t ∈ s.world.db.tasks, t.id = claim.id → t.leaseToken ≠ some claim.leaseToken) ∨
    ∃ r ∈ s.world.db.runs, r.id = claim.runId ∧ r.state.isTerminal = true

def attemptsOf (s : Sys) (taskId : Uuid) : List TaskAttemptRow :=
  s.world.db.taskAttempts.filter fun a => a.taskId = taskId

def briefsOf (s : Sys) (runId : Uuid) : List ArtifactRow :=
  s.world.db.artifacts.filter fun a => a.runId = runId ∧ a.type = "product_brief"

def versionsOf (s : Sys) (artifactId : Uuid) : List ArtifactVersionRow :=
  s.world.db.artifactVersions.filter fun v => v.artifactId = artifactId

/-- The events that announce a product brief of the run. -/
def publicationsOf (s : Sys) (runId : Uuid) : List EventRow :=
  s.world.db.events.filter fun e => e.runId = some runId ∧ IsPublication e

/-- The result of the task has been published as version `v` of the artifact `a`. -/
structure HasPublished (s : Sys) (t : TaskRow) (a : ArtifactRow) (v : ArtifactVersionRow) :
    Prop where
  artifact : s.briefsOf t.runId = [a]
  version : s.versionsOf a.id = [v]
  current : a.currentVersionId = some v.id
  event : ∃ e, s.publicationsOf t.runId = [e] ∧ e.Names v.id
  attempt : ∃ attempt, (s.attemptsOf t.id).filter IsAccepted = [attempt] ∧
    attempt.outputRefs = [v.id]

/-- The task has left nothing that looks published. -/
structure HasNotPublished (s : Sys) (t : TaskRow) : Prop where
  artifact : s.briefsOf t.runId = []
  event : s.publicationsOf t.runId = []
  attempt : (s.attemptsOf t.id).filter IsAccepted = []

/-- Workers without the lease leave the workflow alone, and a task succeeds once,
together with the one version it publishes. -/
structure LeaseFenced (services : Services) (s : Sys) : Prop where
  fenced : ∀ w claim act, (s.workers w).claim = some claim → s.Fenced claim →
    act.worker = some w → SameWorkflow s.world.db (s.step services act).world.db
  accepted_le_one : ∀ taskId, ((s.attemptsOf taskId).filter IsAccepted).length ≤ 1
  published : ∀ t ∈ s.world.db.tasks, t.state = .succeeded → ∃ a v, s.HasPublished t a v
  unpublished : ∀ t ∈ s.world.db.tasks, t.state ≠ .succeeded → s.HasNotPublished t

variable {services : Services} {rt : Runtime} {s : Sys} {w : ℕ} {claim : ClaimedTask}
  {act : Action}

theorem workers_step (s : Sys) (hact : act.worker ≠ some w) :
    (s.step services act).workers w = s.workers w := by
  cases act with
  | tick | other | createGoalAndRun | openWait | answer | cancelFixture => rfl
  | throws w' | crash w' =>
      have hne : w ≠ w' := fun hw => hact (congrArg some hw.symm)
      exact Function.update_of_ne hne _ _
  | claimTask w' | loadContext w' | isLeaseCurrent w' | abandonAttempt w'
  | beginModelInvocation w' | blockUnknownModelOutcome w' | invoke w' | providerReturns w'
  | completeTask w' | failTask w' | finish w' =>
      have hne : w ≠ w' := fun hw => hact (congrArg some hw.symm)
      rw [step]
      split
      next => exact Function.update_of_ne hne _ _
      next => rfl

theorem workers_after (s : Sys) {acts : List Action}
    (hacts : ∀ act ∈ acts, act.worker ≠ some w) :
    (s.after services acts).workers w = s.workers w := by
  induction acts generalizing s with
  | nil => rfl
  | cons act acts ih =>
      obtain ⟨hact, hacts⟩ := List.forall_mem_cons.mp hacts
      exact (ih (s.step services act) hacts).trans (s.workers_step hact)

/-! ## The fence -/

/-- The re-read of the task tells a fenced worker that its claim is stale. -/
theorem Fenced.stale (h : s.Inv rt) (hclaim : (s.workers w).claim = some claim)
    (hfenced : s.Fenced claim) :
    Worker.stale claim (Worker.currentRow claim s.world.db) = true := by
  obtain ⟨l, hl⟩ := h.claimed hclaim
  obtain ⟨t, ht, hid, -⟩ := hl.claims.task
  rw [hl.stale_iff h.unique, Life.Stale, ht]
  refine decide_eq_true ?_
  rcases hfenced with htoken | ⟨r, hr, hrid, hterminal⟩
  · exact .inr (.inl (htoken t (hl.represents.shows.mem_tasks ht).1 hid))
  · rw [Table.eq_of_key_eq h.unique.runs hr hl.represents.shows.mem_runs
      (hrid.trans hl.runId.symm)] at hterminal
    exact .inr (.inr hterminal)

theorem fenced_step (h : s.Inv services.runtime)
    (hclaim : (s.workers w).claim = some claim) (hfenced : s.Fenced claim)
    (hact : act.worker = some w) :
    SameWorkflow s.world.db (s.step services act).world.db := by
  have hstale := hfenced.stale h hclaim
  cases act with
  | tick | other | createGoalAndRun | openWait | answer | cancelFixture => cases hact
  | claimTask =>
      obtain rfl := Option.some.inj hact
      rw [step]
      split
      next hpc =>
        rw [hpc] at hclaim
        cases hclaim
      next => exact .refl _
  | loadContext =>
      obtain rfl := Option.some.inj hact
      rw [step]
      split
      next c hpc =>
        exact .of_eq (congrArg World.db (Worker.loadContext_reads c.companyId c.runId _).symm)
      next => exact .refl _
  | isLeaseCurrent =>
      obtain rfl := Option.some.inj hact
      rw [step]
      split
      next c context hpc =>
        exact .of_eq (congrArg World.db (Worker.isLeaseCurrent_reads c _).symm)
      next => exact .refl _
  | abandonAttempt =>
      obtain rfl := Option.some.inj hact
      rw [step]
      split
      next => exact ⟨rfl, rfl, rfl, rfl, rfl, rfl, rfl⟩
      next => exact .refl _
  | beginModelInvocation =>
      obtain rfl := Option.some.inj hact
      rw [step]
      split
      next c context hpc =>
        rw [Worker.beginModelInvocation_run]
        split <;> exact ⟨rfl, rfl, rfl, rfl, rfl, rfl, rfl⟩
      next => exact .refl _
  | blockUnknownModelOutcome =>
      obtain rfl := Option.some.inj hact
      rw [step]
      split
      next c hpc =>
        rw [hpc] at hclaim
        obtain rfl := Option.some.inj hclaim
        rw [Worker.blockUnknownModelOutcome_stale hstale]
        exact ⟨rfl, rfl, rfl, rfl, rfl, rfl, rfl⟩
      next => exact .refl _
  | completeTask =>
      obtain rfl := Option.some.inj hact
      rw [step]
      split
      next c result hpc =>
        rw [hpc] at hclaim
        obtain rfl := Option.some.inj hclaim
        rw [Worker.completeTask_stale hstale]
        exact ⟨rfl, rfl, rfl, rfl, rfl, rfl, rfl⟩
      next => exact .refl _
  | failTask =>
      obtain rfl := Option.some.inj hact
      rw [step]
      split
      next c begun hpc =>
        rw [hpc] at hclaim
        obtain rfl := Option.some.inj hclaim
        rw [Worker.failTask_stale hstale]
        exact ⟨rfl, rfl, rfl, rfl, rfl, rfl, rfl⟩
      next => exact .refl _
  | invoke | providerReturns | finish =>
      rw [step]
      split <;> exact .refl _
  | throws | crash => exact .refl _

/-! ## The accepted success -/

theorem Inv.life_of_version (h : s.Inv rt) {v : ArtifactVersionRow}
    (hv : v ∈ s.world.db.artifactVersions) :
    ∃ l a, Represents s l ∧ l.run.id = v.runId ∧ a ∈ l.artifacts ∧ v.artifactId = a.id := by
  have hnot : ¬ Absent s v.runId := by
    intro habsent
    have hmem : v ∈ (s.world.db.ofRun v.runId).versions :=
      List.mem_filter.mpr ⟨hv, decide_eq_true rfl⟩
    rw [habsent.rows] at hmem
    cases hmem
  obtain ⟨l, hl, hid, hinv⟩ := h.life hnot
  have hmem : v ∈ (s.world.db.ofRun l.run.id).versions :=
    List.mem_filter.mpr ⟨hv, decide_eq_true hid.symm⟩
  rw [hl.shows] at hmem
  change v ∈ l.versions at hmem
  by_cases hs : l.Succeeded
  · obtain ⟨a, v', hp⟩ := hinv.publication.published hs
    rw [hp.versions] at hmem
    refine ⟨l, a, hl, hid, ?_, ?_⟩
    · rw [hp.artifacts]
      exact List.mem_singleton_self a
    · rw [List.mem_singleton.mp hmem]
      exact hp.version
  · rw [(hinv.publication.unpublished hs).versions] at hmem
    cases hmem

theorem Inv.versionsOf_eq (h : s.Inv rt) {l : Life} (hl : Represents s l) {a : ArtifactRow}
    {v : ArtifactVersionRow} (ha : a ∈ l.artifacts) (hv : l.versions = [v])
    (hav : v.artifactId = a.id) : s.versionsOf a.id = [v] := by
  have hrun : s.versionsOf a.id =
      s.world.db.artifactVersions.filter fun v => v.runId = l.run.id := by
    refine List.filter_congr fun v' hv' => decide_eq_decide.mpr ⟨fun hid => ?_, fun hid => ?_⟩
    · obtain ⟨l', a', hl', hid', ha', hva'⟩ := h.life_of_version hv'
      obtain ⟨hmem, hrun⟩ := hl.shows.mem_artifacts ha
      obtain ⟨hmem', hrun'⟩ := hl'.shows.mem_artifacts ha'
      rw [← hid', ← hrun', ← hrun,
        Table.eq_of_key_eq h.unique.artifacts hmem' hmem (hva'.symm.trans hid)]
    · have hmem : v' ∈ (s.world.db.ofRun l.run.id).versions :=
        List.mem_filter.mpr ⟨hv', decide_eq_true hid⟩
      rw [hl.shows] at hmem
      change v' ∈ l.versions at hmem
      rw [hv] at hmem
      rw [List.mem_singleton.mp hmem, hav]
  rw [hrun, ← hv]
  exact congrArg RunRows.versions hl.shows

theorem briefsOf_eq {l : Life} (hl : Represents s l) :
    s.briefsOf l.run.id = l.artifacts.filter fun a => a.type = "product_brief" := by
  have hartifacts : (s.world.db.artifacts.filter fun a => a.runId = l.run.id) =
      l.artifacts := congrArg RunRows.artifacts hl.shows
  rw [briefsOf, ← hartifacts, List.filter_filter]
  exact List.filter_congr fun a _ => by simp [Bool.and_comm]

theorem publicationsOf_eq {l : Life} (hl : Represents s l) :
    s.publicationsOf l.run.id = l.events.filter IsPublication := by
  have hevents : (s.world.db.events.filter fun e => e.runId = some l.run.id) =
      l.events := congrArg RunRows.events hl.shows
  rw [publicationsOf, ← hevents, List.filter_filter]
  exact List.filter_congr fun e _ => by simp [and_comm]

theorem Inv.hasPublished (h : s.Inv rt) {l : Life} (hl : Represents s l) {t : TaskRow}
    (ht : l.task = some t) {a : ArtifactRow} {v : ArtifactVersionRow}
    (hp : l.Publishes a v) : s.HasPublished t a v where
  artifact := by
    rw [(hl.shows.mem_tasks ht).2, briefsOf_eq hl, hp.artifacts]
    refine List.filter_eq_self.mpr fun a' ha' => ?_
    rw [List.mem_singleton.mp ha']
    exact decide_eq_true hp.type
  version := by
    refine h.versionsOf_eq hl ?_ hp.versions hp.version
    rw [hp.artifacts]
    exact List.mem_singleton_self a
  current := hp.current
  event := by
    rw [(hl.shows.mem_tasks ht).2, publicationsOf_eq hl]
    exact hp.event
  attempt := by
    rw [attemptsOf, h.attempts_of_task hl ht]
    exact hp.attempt

/-- The law of an invariant state. -/
theorem Inv.leaseFenced (h : s.Inv services.runtime) : s.LeaseFenced services where
  fenced w claim act hclaim hfenced hact := fenced_step h hclaim hfenced hact
  accepted_le_one taskId := by
    cases hattempts : s.attemptsOf taskId with
    | nil => exact Nat.zero_le 1
    | cons a attempts =>
        have ha : a ∈ s.attemptsOf taskId := by simp [hattempts]
        obtain ⟨hmem, htask⟩ := List.mem_filter.mp ha
        obtain ⟨l, t, hl, -, ht, hid, hinv⟩ := h.task_of_attempt hmem
        obtain rfl : t.id = taskId := hid.symm.trans (of_decide_eq_true htask)
        rw [← hattempts, attemptsOf, h.attempts_of_task hl ht]
        by_cases hs : l.Succeeded
        · obtain ⟨_, _, hp⟩ := hinv.publication.published hs
          obtain ⟨attempt, hattempt, -⟩ := hp.attempt
          rw [hattempt]
          exact le_rfl
        · rw [(hinv.publication.unpublished hs).attempts]
          exact Nat.zero_le 1
  published t ht hstate := by
    obtain ⟨l, hl, hlt, hinv⟩ := h.life_of_task ht
    obtain ⟨a, v, hp⟩ := hinv.publication.published ⟨t, hlt, hstate⟩
    exact ⟨a, v, h.hasPublished hl hlt hp⟩
  unpublished t ht hstate := by
    obtain ⟨l, hl, hlt, hinv⟩ := h.life_of_task ht
    have hrun := (hl.shows.mem_tasks hlt).2
    have hnot : ¬ l.Succeeded := by
      rintro ⟨u, hu, hs⟩
      obtain rfl := Option.some.inj (hlt.symm.trans hu)
      exact hstate hs
    have hu := hinv.publication.unpublished hnot
    refine ⟨?_, ?_, ?_⟩
    · rw [hrun, briefsOf_eq hl, hu.artifacts]
      rfl
    · rw [hrun, publicationsOf_eq hl]
      exact hu.events
    · rw [attemptsOf, h.attempts_of_task hl hlt]
      exact hu.attempts

/-- Every reachable state obeys the fence and has published each accepted result
once. -/
theorem leaseFenced_after (services : Services) (init : InitialWorld) (acts : List Action) :
    (init.sys.after services acts).LeaseFenced services :=
  (inv_after services init acts).leaseFenced

end Sys

end Aico
