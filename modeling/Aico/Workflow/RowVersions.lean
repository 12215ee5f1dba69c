import Aico.Foundation.Version
import Aico.Workflow.RunStates

/-!
# Row versions

A founder's request names the version of the row it has seen, so a row that
changes has to count its version up. Every transition of a run does, but one:
`failTask` of the worker that holds the lease blocks the task under its old
version. Along a history without that step, two observations of a row with the
same version show the same columns.
-/

namespace Aico

/-- The columns of a task that its version stands for. -/
def TaskRow.guarded (t : TaskRow) : TaskState × Option Uuid × Json × Option String :=
  (t.state, t.leaseToken, t.inputManifest, t.blockerCode)

/-- The columns of a run that its version stands for. -/
def RunRow.guarded (r : RunRow) : RunState × Uuid := (r.state, r.contextSnapshotId)

/-- The task counts its changes from one observation to the next. -/
abbrev TaskRow.Counts : TaskRow → TaskRow → Prop :=
  Version.Counts TaskRow.rowVersion TaskRow.guarded

abbrev RunRow.Counts : RunRow → RunRow → Prop :=
  Version.Counts RunRow.rowVersion RunRow.guarded

/-- Two observations of the task with the same version show the same. -/
abbrev TaskRow.Agrees : TaskRow → TaskRow → Prop :=
  Version.Agrees TaskRow.rowVersion TaskRow.guarded

abbrev RunRow.Agrees : RunRow → RunRow → Prop :=
  Version.Agrees RunRow.rowVersion RunRow.guarded

namespace Life

structure CountsRows (l l' : Life) : Prop where
  run : l.run.Counts l'.run
  task : ∀ t, l.task = some t → ∃ t', l'.task = some t' ∧ t'.id = t.id ∧ t.Counts t'

structure AgreesRows (l l' : Life) : Prop where
  run : l.run.Agrees l'.run
  task : ∀ t, l.task = some t → ∃ t', l'.task = some t' ∧ t'.id = t.id ∧ t.Agrees t'

variable {rt : Runtime} {l l' l'' : Life} {act : Action}

namespace CountsRows

theorem of_eq (hrun : l'.run = l.run) (htask : l'.task = l.task) : l.CountsRows l' where
  run := hrun ▸ Version.Counts.refl _
  task t ht := ⟨t, htask.trans ht, rfl, .refl t⟩

theorem of_succ {t t' : TaskRow} (hrun : l'.run.rowVersion = l.run.rowVersion + 1)
    (ht : l.task = some t) (ht' : l'.task = some t') (hid : t'.id = t.id)
    (htask : t'.rowVersion = t.rowVersion + 1) : l.CountsRows l' where
  run := .of_succ hrun
  task u hu := by
    obtain rfl := Option.some.inj (ht.symm.trans hu)
    exact ⟨t', ht', hid, .of_succ htask⟩

/-- Every transition counts its changes, but the failure of the holder of the
lease. -/
theorem of_step (hsafe : ∀ w claim begun t, act = .failTask w →
      l.workers w = .failing claim begun → ¬ l.Held claim t)
    (hstep : LifeStep rt act l l') : l.CountsRows l' := by
  cases hstep with
  | rest | move | begin | refuse | invoke | abandon | staleComplete | staleFail =>
      exact of_eq rfl rfl
  | claim w config runId locked _ t leaseToken attemptId policyDecisionId now event n
      hpc htask =>
      refine { run := ?_, task := fun u hu => ?_ }
      · by_cases hdraft : l.run.state = .draft
        · refine .of_succ ?_
          simp [Life.moved, Life.claim, hdraft, Worker.qualifying]
        · have hkeep : ((l.claim config t (Worker.claimOf rt t l.run leaseToken attemptId)
              policyDecisionId now event).moved w
                (.claimed (Worker.claimOf rt t l.run leaseToken attemptId)) n).run =
              l.run := if_neg hdraft
          rw [hkeep]
          exact .refl _
      · obtain rfl := Option.some.inj (htask.symm.trans hu)
        exact ⟨_, rfl, rfl, .of_succ rfl⟩
  | block w _ claim t now event n hn hpc hheld => exact of_succ rfl hheld.1 rfl rfl rfl
  | complete w _ claim result t artifactId artifactVersionId now event n hn hpc hheld =>
      exact of_succ rfl hheld.1 rfl rfl rfl
  | fail w _ claim t now event n hn hpc hheld =>
      obtain ⟨begun, hpc⟩ := hpc
      exact absurd hheld (hsafe w claim begun t rfl hpc)
  | openWait input _ t waitId requestId now event n hwaitId htask =>
      exact of_succ rfl htask rfl rfl rfl
  | answer input _ t wait source answerVersionId resumedContextSnapshotId now event n hn
      htask =>
      exact of_succ rfl htask rfl rfl rfl
  | cancel companyId runId actorId correlationId _ now event n hn hactive =>
      refine { run := .of_succ rfl, task := fun t ht => ?_ }
      by_cases hcancelable : DurableWait.cancelable t.state
      · refine ⟨DurableWait.canceledTask now t, ?_, rfl, .of_succ rfl⟩
        exact (congrArg (Option.map _) ht).trans (congrArg some (if_pos hcancelable))
      · refine ⟨t, ?_, rfl, .refl t⟩
        exact (congrArg (Option.map _) ht).trans (congrArg some (if_neg hcancelable))

theorem agrees (h : l.CountsRows l') : l.AgreesRows l' where
  run := h.run.agrees
  task t ht := by
    obtain ⟨t', ht', hid, hcounts⟩ := h.task t ht
    exact ⟨t', ht', hid, hcounts.agrees⟩

end CountsRows

namespace AgreesRows

theorem refl (l : Life) : l.AgreesRows l where
  run := .refl l.run
  task t ht := ⟨t, ht, rfl, .refl t⟩

theorem trans (h : l.AgreesRows l') (h' : l'.AgreesRows l'') : l.AgreesRows l'' where
  run := h.run.trans h'.run
  task t ht := by
    obtain ⟨t', ht', hid, hagrees⟩ := h.task t ht
    obtain ⟨t'', ht'', hid', hagrees'⟩ := h'.task t' ht'
    exact ⟨t'', ht'', hid'.trans hid, hagrees.trans hagrees'⟩

end AgreesRows

end Life

namespace Sys

/-- Every row that changes counts its version up by one. -/
structure CountsRows (s s' : Sys) : Prop where
  run : ∀ r ∈ s.world.db.runs, ∀ r' ∈ s'.world.db.runs, r'.id = r.id → r.Counts r'
  task : ∀ t ∈ s.world.db.tasks, ∀ t' ∈ s'.world.db.tasks, t'.id = t.id → t.Counts t'

/-- Two observations of a row with the same version show the same. -/
structure AgreesRows (s s' : Sys) : Prop where
  run : ∀ r ∈ s.world.db.runs, ∀ r' ∈ s'.world.db.runs, r'.id = r.id → r.Agrees r'
  task : ∀ t ∈ s.world.db.tasks, ∀ t' ∈ s'.world.db.tasks, t'.id = t.id → t.Agrees t'

/-- A worker that holds the lease of its task fails. -/
def FailsHolding (s : Sys) (act : Action) : Prop :=
  ∃ w claim begun, act = .failTask w ∧ s.workers w = .failing claim begun ∧
    Worker.stale claim (Worker.currentRow claim s.world.db) = false

variable {services : Services} {rt : Runtime} {s s' : Sys} {act : Action}

/-- What relates the records of the runs relates the rows of the system. -/
theorem Inv.rows_of_lives (h : s.Inv rt) (h' : s'.Inv rt) {R : RunRow → RunRow → Prop}
    {T : TaskRow → TaskRow → Prop}
    (hlives : ∀ l, Represents s l → ∃ l', Represents s' l' ∧ l'.run.id = l.run.id ∧
      R l.run l'.run ∧
      ∀ t, l.task = some t → ∃ t', l'.task = some t' ∧ t'.id = t.id ∧ T t t') :
    (∀ r ∈ s.world.db.runs, ∀ r' ∈ s'.world.db.runs, r'.id = r.id → R r r') ∧
      ∀ t ∈ s.world.db.tasks, ∀ t' ∈ s'.world.db.tasks, t'.id = t.id → T t t' := by
  constructor
  · intro r hr r' hr' hid
    obtain ⟨l, hl, rfl, -⟩ := h.life_of_run hr
    obtain ⟨l', hl', hlid, hrun, -⟩ := hlives l hl
    rw [← Table.eq_of_key_eq h'.unique.runs hl'.shows.mem_runs hr' (hlid.trans hid.symm)]
    exact hrun
  · intro t ht t' ht' hid
    obtain ⟨l, hl, hlt, -⟩ := h.life_of_task ht
    obtain ⟨l', hl', -, -, htask⟩ := hlives l hl
    obtain ⟨u, hu, huid, hcounts⟩ := htask t hlt
    rw [← Table.eq_of_key_eq h'.unique.tasks (hl'.shows.mem_tasks hu).1 ht'
      (huid.trans hid.symm)]
    exact hcounts

theorem Inv.countsRows_life (h : s.Inv services.runtime) (hsafe : ¬ s.FailsHolding act)
    {l : Life} (hl : Represents s l) :
    ∃ l', Represents (s.step services act) l' ∧ l'.run.id = l.run.id ∧ l.CountsRows l' := by
  have hinv : l.Invariant services.runtime := by
    obtain ⟨l₀, hl₀, hid, hinv⟩ := h.life hl.not_absent
    rwa [← hl.unique hl₀ hid]
  obtain ⟨l', hl', hstep⟩ := (h.steps act).run l hl hinv
  refine ⟨l', hl', hstep.id_eq, .of_step (fun w claim begun t hact hpc hheld => ?_) hstep⟩
  have hclaimed := hl.claimed h (congrArg Pc.claim hpc)
  refine hsafe ⟨w, claim, begun, hact, hclaimed.worker.symm.trans hpc, ?_⟩
  by_contra hstale
  rw [Bool.not_eq_false, hclaimed.stale_iff h.unique, Life.Stale, hheld.1, Option.map_some,
    hheld.2] at hstale
  cases hstale

theorem Inv.countsRows (h : s.Inv services.runtime) (hsafe : ¬ s.FailsHolding act) :
    s.CountsRows (s.step services act) := by
  obtain ⟨hrun, htask⟩ := h.rows_of_lives (h.step (h.steps act)) (R := RunRow.Counts)
    (T := TaskRow.Counts) fun l hl => by
      obtain ⟨l', hl', hid, hcounts⟩ := h.countsRows_life hsafe hl
      exact ⟨l', hl', hid, hcounts.run, hcounts.task⟩
  exact ⟨hrun, htask⟩

/-- A history of such steps, as the runs see it. -/
theorem Inv.agreesRows_life {acts : List Action} (h : s.Inv services.runtime)
    (hsafe : Transition.EachStep (Sys.step services) (fun s act => ¬ s.FailsHolding act) s acts)
    {l : Life} (hl : Represents s l) :
    ∃ l', Represents (s.after services acts) l' ∧ l'.run.id = l.run.id ∧ l.AgreesRows l' := by
  induction acts generalizing s l with
  | nil => exact ⟨l, hl, rfl, .refl l⟩
  | cons act acts ih =>
      obtain ⟨l', hl', hid, hcounts⟩ := h.countsRows_life hsafe.1 hl
      obtain ⟨l'', hl'', hid', hagrees⟩ := ih (h.step (h.steps act)) hsafe.2 hl'
      exact ⟨l'', hl'', hid'.trans hid, hcounts.agrees.trans hagrees⟩

theorem Inv.agreesRows {acts : List Action} (h : s.Inv services.runtime)
    (hsafe : Transition.EachStep (Sys.step services) (fun s act => ¬ s.FailsHolding act) s acts) :
    s.AgreesRows (s.after services acts) := by
  obtain ⟨hrun, htask⟩ := h.rows_of_lives (h.after acts) (R := RunRow.Agrees)
    (T := TaskRow.Agrees) fun l hl => by
      obtain ⟨l', hl', hid, hagrees⟩ := h.agreesRows_life hsafe hl
      exact ⟨l', hl', hid, hagrees.run, hagrees.task⟩
  exact ⟨hrun, htask⟩

/-- Every transaction of the history counts the rows it changes, and two observations
of a row with the same version show the same. -/
structure Versioned (services : Services) (s : Sys) (acts : List Action) : Prop where
  step : ∀ acts₁ act acts₂, acts = acts₁ ++ act :: acts₂ →
    (s.after services acts₁).CountsRows ((s.after services acts₁).step services act)
  observations : ∀ acts₁ acts₂ acts₃, acts = acts₁ ++ (acts₂ ++ acts₃) →
    (s.after services acts₁).AgreesRows ((s.after services acts₁).after services acts₂)

/-- A history in which no worker fails while it holds the lease of its task is
versioned. -/
theorem versioned_after (services : Services) (init : InitialWorld) (acts : List Action)
    (hsafe : Transition.EachStep (Sys.step services) (fun s act => ¬ s.FailsHolding act)
      init.sys acts) : init.sys.Versioned services acts where
  step acts₁ act acts₂ hacts := by
    rw [hacts, Transition.eachStep_append] at hsafe
    exact (inv_after services init acts₁).countsRows hsafe.2.1
  observations acts₁ acts₂ acts₃ hacts := by
    rw [hacts, Transition.eachStep_append, Transition.eachStep_append] at hsafe
    exact (inv_after services init acts₁).agreesRows hsafe.2.1

def claimed : List Action := [demoStart, .claimTask 0 demoWorker none []]

/-- The worker fails at once: the task is blocked under the version it was running
with. -/
theorem versioned_fails :
    ¬ demoInit.sys.Versioned demoServices (claimed ++ [.throws 0, .failTask 0]) := by
  intro h
  have hrunning : ((demoInit.sys.after demoServices claimed).world.db.tasks.any fun t =>
      t.id = 8 ∧ t.rowVersion = 2 ∧ t.state = .running) = true := by decide +kernel
  have hblocked : ((demoInit.sys.after demoServices
      (claimed ++ [.throws 0, .failTask 0])).world.db.tasks.any fun t =>
      t.id = 8 ∧ t.rowVersion = 2 ∧ t.state = .blocked) = true := by decide +kernel
  obtain ⟨t, ht, hfound⟩ := List.any_eq_true.mp hrunning
  obtain ⟨t', ht', hfound'⟩ := List.any_eq_true.mp hblocked
  obtain ⟨hid, hversion, hstate⟩ := of_decide_eq_true hfound
  obtain ⟨hid', hversion', hstate'⟩ := of_decide_eq_true hfound'
  have hagrees := h.observations claimed [.throws 0, .failTask 0] [] (by simp)
  rw [← after_append] at hagrees
  have hsame := (hagrees.task t ht t' ht' (hid'.trans hid.symm)).view_eq
    (hversion'.trans hversion.symm)
  have hstates : t'.state = t.state := congrArg Prod.fst hsame
  rw [hstate, hstate'] at hstates
  cases hstates

theorem versioned_demo :
    ((demoInit.sys.after demoServices (demoStart :: demoRun 0)).world.db.tasks.any
      fun t => t.state = .succeeded) = true ∧
    demoInit.sys.Versioned demoServices (demoStart :: demoRun 0) := by
  refine ⟨by decide +kernel, versioned_after demoServices demoInit _ ?_⟩
  refine Transition.eachStep_of_forall ?_ _
  simp [demoStart, demoRun, FailsHolding]

end Sys

end Aico
