import Aico.Workflow.Invocation
import Aico.Workflow.Publication
import Aico.Workflow.Slice
import Aico.Workflow.Waiting

/-!
# The system as a family of runs

`Represents s l` says that the record `l` is what the system `s` holds about a
run: its rows, the workers with a claim on it, the calls made for it. A step of
the system is a step of every run (`Steps`): of one run at most something
happens, the others rest. From there every invariant of a `Life` is an invariant
of the system (`Sys.Inv`).
-/

namespace Aico

/-- The place of a worker, as the run `r` sees it. -/
def Pc.onRun (r : Uuid) (pc : Pc) : Pc :=
  if pc.claim.any fun c => c.runId = r then pc else .idle

namespace Pc

variable {r : Uuid} {pc : Pc}

theorem onRun_of_claim {claim : ClaimedTask} (h : pc.claim = some claim)
    (hr : claim.runId = r) : pc.onRun r = pc := by
  simp [onRun, h, hr]

theorem onRun_of_forall (h : ∀ c, pc.claim = some c → c.runId = r) : pc.onRun r = pc := by
  cases hc : pc.claim with
  | some claim => exact onRun_of_claim hc (h claim hc)
  | none =>
      cases pc <;> first | rfl | cases hc

theorem onRun_of_ne (h : ∀ c, pc.claim = some c → c.runId ≠ r) : pc.onRun r = .idle := by
  cases hc : pc.claim with
  | some claim => simp [onRun, hc, h claim hc]
  | none => simp [onRun, hc]

theorem onRun_update (workers : ℕ → Pc) (w : ℕ) (pc : Pc) (r : Uuid) (w' : ℕ) :
    (Function.update workers w pc w').onRun r =
      Function.update (fun w => (workers w).onRun r) w (pc.onRun r) w' := by
  by_cases hw : w' = w
  · rw [hw, Function.update_self, Function.update_self]
  · rw [Function.update_of_ne hw, Function.update_of_ne hw]

/-- A move within the run. -/
theorem onRun_update_of_forall {workers places : ℕ → Pc} {w : ℕ}
    (h : ∀ w, places w = (workers w).onRun r) (hpc : ∀ c, pc.claim = some c → c.runId = r)
    (w' : ℕ) :
    Function.update places w pc w' = (Function.update workers w pc w').onRun r := by
  rw [onRun_update, onRun_of_forall hpc]
  congr 1
  funext w
  exact h w

/-- A move outside the run. -/
theorem onRun_update_of_ne {workers : ℕ → Pc} {w : ℕ}
    (hold : ∀ c, (workers w).claim = some c → c.runId ≠ r)
    (hpc : ∀ c, pc.claim = some c → c.runId ≠ r) (w' : ℕ) :
    (Function.update workers w pc w').onRun r = (workers w').onRun r := by
  rw [onRun_update, onRun_of_ne hpc, ← onRun_of_ne hold, Function.update_eq_self]

end Pc

/-- The record is what the system holds about the run. -/
structure Represents (s : Sys) (l : Life) : Prop where
  shows : Shows s.world.db l
  workers : ∀ w, l.workers w = (s.workers w).onRun l.run.id
  calls : l.calls = s.calls.filter fun c => c.runId = l.run.id
  nextId : l.nextId = s.world.nextId

/-- The system holds nothing about the run `r`. -/
structure Absent (s : Sys) (r : Uuid) : Prop where
  rows : s.world.db.ofRun r = .empty
  workers : ∀ w, (s.workers w).onRun r = .idle
  calls : (s.calls.filter fun c => c.runId = r) = []

structure Life.New (l : Life) : Prop where
  attempts : l.attempts = []
  effect : l.effect = none
  artifacts : l.artifacts = []
  versions : l.versions = []
  waits : l.waits = []
  answers : l.answers = []
  workers : ∀ w, l.workers w = .idle
  calls : l.calls = []
  states : Coherent l.run.state (l.task.map TaskRow.state)
  state : l.run.state ≠ .canceled
  cancellation : l.run.cancellationRequestedAt = none
  task : ∀ t, l.task = some t → t.runId = l.run.id ∧ t.companyId = l.run.companyId ∧
    t.state = .queued ∧ t.leaseToken = none ∧ t.leaseExpiresAt = none
  unclaimed : ∀ t, l.task = some t → t.attemptCount = 0 ∧ t.leaseOwner = none
  events : ∀ e ∈ l.events, Unresolving e ∧ IsPublication e = false

structure Life.Invariant (rt : Runtime) (l : Life) : Prop where
  owned : l.Owned rt
  coherence : l.Coherence
  waiting : l.Waiting
  invocation : l.Invocation
  publication : l.Publication

namespace Life

variable {rt : Runtime} {l l' : Life}

/-- Every transition keeps the invariant. -/
theorem Invariant.step {act : Action} (h : l.Invariant rt) (hstep : LifeStep rt act l l') :
    l'.Invariant rt where
  owned := h.owned.step hstep
  coherence := h.coherence.step hstep
  waiting := h.waiting.step h.coherence hstep
  invocation := h.invocation.step h.owned hstep
  publication := h.publication.step h.owned h.coherence hstep

theorem New.not_succeeded (h : l.New) : ¬ l.Succeeded := by
  rintro ⟨t, ht, hs⟩
  rw [(h.task t ht).2.2.1] at hs
  cases hs

/-- A run that has just been started has the invariant. -/
theorem New.invariant (h : l.New) : l.Invariant rt where
  owned :=
    { task := by
        intro o ho
        obtain ⟨t, ht, rfl⟩ := Option.map_eq_some_iff.mp ho
        exact ⟨(h.task t ht).1, (h.task t ht).2.1⟩
      attempt := by simp [owners, h.attempts]
      attempt_nodup := by simp [owners, h.attempts]
      effect := by simp [owners, h.effect]
      claim := by simp [h.workers, Pc.claim]
      token := by simp [h.workers, Pc.claim] }
  coherence :=
    { states := h.states
      lease := by
        intro t ht
        obtain ⟨-, -, hstate, htoken, hexpires⟩ := h.task t ht
        simp [hstate, htoken, hexpires]
      cancellation := by simp [h.cancellation, h.state]
      resume := by simp [h.waits] }
  waiting :=
    { nodup := by simp [h.waits]
      owned := by simp [h.waits]
      task := by simp [h.waits]
      opened := by simp [h.waits]
      single := by simp [h.waits]
      answered := by simp [h.answers]
      resolved := by
        intro e he c hc
        rw [(h.events e he).1.isResolution] at hc
        cases hc
      answers := by simp [h.waits]
      events := by simp [h.waits] }
  invocation :=
    { count_le := by simp [invocationCount, h.effect]
      begun := by simp [h.workers, Pc.invoked]
      single := by simp [h.workers, Pc.invoked]
      calls_le := by simp [h.calls]
      pending := by simp [h.workers, Pc.pending]
      calls := by simp [h.calls] }
  publication :=
    { published := fun hs => absurd hs h.not_succeeded
      unpublished := fun _ =>
        { artifacts := h.artifacts
          versions := h.versions
          events := List.filter_eq_nil_iff.mpr fun e he => by simp [(h.events e he).2]
          attempts := by simp [h.attempts] } }

end Life

structure Sys.Inv (rt : Runtime) (s : Sys) : Prop where
  unique : s.world.db.keys.Unique
  drawn : s.world.db.keys.Drawn s.world.nextId
  runs : ∀ r, Absent s r ∨ ∃ l, Represents s l ∧ l.run.id = r ∧ l.Invariant rt

/-- A step of the system is a step of every run. -/
structure Steps (rt : Runtime) (act : Action) (s s' : Sys) : Prop where
  unique : s'.world.db.keys.Unique
  drawn : s'.world.db.keys.Drawn s'.world.nextId
  absent : ∀ r, Absent s r → Absent s' r ∨ ∃ l', Represents s' l' ∧ l'.run.id = r ∧ l'.New
  run : ∀ l, Represents s l → l.Invariant rt → ∃ l', Represents s' l' ∧ LifeStep rt act l l'

theorem LifeStep.id_eq {rt : Runtime} {act : Action} {l l' : Life}
    (h : LifeStep rt act l l') : l'.run.id = l.run.id := by
  cases h with
  | claim =>
      simp only [Life.moved, Life.claim]
      split <;> rfl
  | _ => rfl

theorem Sys.Inv.step {rt : Runtime} {act : Action} {s s' : Sys} (h : s.Inv rt)
    (hsteps : Steps rt act s s') : s'.Inv rt where
  unique := hsteps.unique
  drawn := hsteps.drawn
  runs r := by
    rcases h.runs r with habsent | ⟨l, hl, rfl, hinv⟩
    · rcases hsteps.absent r habsent with habsent' | ⟨l', hl', hid, hnew⟩
      · exact .inl habsent'
      · exact .inr ⟨l', hl', hid, hnew.invariant⟩
    · obtain ⟨l', hl', hstep⟩ := hsteps.run l hl hinv
      exact .inr ⟨l', hl', hstep.id_eq, hinv.step hstep⟩

namespace Represents

variable {s : Sys} {l : Life}

theorem worker_eq (h : Represents s l) {w : ℕ} {claim : ClaimedTask}
    (hclaim : (s.workers w).claim = some claim) (hr : claim.runId = l.run.id) :
    l.workers w = s.workers w :=
  (h.workers w).trans (Pc.onRun_of_claim hclaim hr)

/-- A run has one record. -/
theorem unique {l' : Life} (h : Represents s l) (h' : Represents s l')
    (hid : l'.run.id = l.run.id) : l' = l := by
  have hrows : l'.rows = l.rows := h'.shows.symm.trans (hid ▸ h.shows)
  have htask : l'.task = l.task := by
    simpa [Life.rows] using congrArg (fun rows => rows.tasks.head?) hrows
  have heffect : l'.effect = l.effect := by
    simpa [Life.rows] using congrArg (fun rows => rows.effects.head?) hrows
  refine Life.ext (List.singleton_inj.mp (congrArg RunRows.runs hrows)) htask
    (congrArg RunRows.attempts hrows) heffect (congrArg RunRows.artifacts hrows)
    (congrArg RunRows.versions hrows) (congrArg RunRows.waits hrows)
    (congrArg RunRows.answers hrows) (congrArg RunRows.events hrows) ?_ ?_
    (h'.nextId.trans h.nextId.symm)
  · funext w
    rw [h'.workers, h.workers, hid]
  · rw [h'.calls, h.calls, hid]

theorem not_absent (h : Represents s l) : ¬ Absent s l.run.id := by
  intro habsent
  have hruns := congrArg RunRows.runs (h.shows.symm.trans habsent.rows)
  cases hruns

end Represents

theorem Absent.not_claimed {s : Sys} {r : Uuid} (h : Absent s r) {w : ℕ}
    {claim : ClaimedTask} (hclaim : (s.workers w).claim = some claim) : claim.runId ≠ r := by
  rintro rfl
  have hidle := h.workers w
  rw [Pc.onRun_of_claim hclaim rfl] at hidle
  rw [hidle] at hclaim
  cases hclaim

/-! ## The run of a row -/

namespace Sys.Inv

variable {rt : Runtime} {s : Sys}

theorem life (h : s.Inv rt) {r : Uuid} (hr : ¬ Absent s r) :
    ∃ l, Represents s l ∧ l.run.id = r ∧ l.Invariant rt :=
  (h.runs r).resolve_left hr

theorem life_of_run (h : s.Inv rt) {r : RunRow} (hr : r ∈ s.world.db.runs) :
    ∃ l, Represents s l ∧ l.run = r ∧ l.Invariant rt := by
  have hnot : ¬ Absent s r.id := by
    intro habsent
    have hmem : r ∈ (s.world.db.ofRun r.id).runs :=
      List.mem_filter.mpr ⟨hr, decide_eq_true rfl⟩
    rw [habsent.rows] at hmem
    cases hmem
  obtain ⟨l, hl, hid, hinv⟩ := h.life hnot
  exact ⟨l, hl, Table.eq_of_key_eq h.unique.runs hl.shows.mem_runs hr hid, hinv⟩

theorem life_of_task (h : s.Inv rt) {t : TaskRow} (ht : t ∈ s.world.db.tasks) :
    ∃ l, Represents s l ∧ l.task = some t ∧ l.Invariant rt := by
  have hnot : ¬ Absent s t.runId := by
    intro habsent
    have hmem : t ∈ (s.world.db.ofRun t.runId).tasks :=
      List.mem_filter.mpr ⟨ht, decide_eq_true rfl⟩
    rw [habsent.rows] at hmem
    cases hmem
  obtain ⟨l, hl, hid, hinv⟩ := h.life hnot
  have hmem : t ∈ (s.world.db.ofRun l.run.id).tasks :=
    List.mem_filter.mpr ⟨ht, decide_eq_true hid.symm⟩
  rw [hl.shows] at hmem
  exact ⟨l, hl, Option.mem_toList.mp hmem, hinv⟩

theorem life_of_wait (h : s.Inv rt) {w : HumanWaitRow} (hw : w ∈ s.world.db.humanWaits) :
    ∃ l, Represents s l ∧ w ∈ l.waits ∧ l.Invariant rt := by
  have hnot : ¬ Absent s w.runId := by
    intro habsent
    have hmem : w ∈ (s.world.db.ofRun w.runId).waits :=
      List.mem_filter.mpr ⟨hw, decide_eq_true rfl⟩
    rw [habsent.rows] at hmem
    cases hmem
  obtain ⟨l, hl, hid, hinv⟩ := h.life hnot
  have hmem : w ∈ (s.world.db.ofRun l.run.id).waits :=
    List.mem_filter.mpr ⟨hw, decide_eq_true hid.symm⟩
  rw [hl.shows] at hmem
  exact ⟨l, hl, hmem, hinv⟩

variable {l : Life} {t : TaskRow}

theorem task_eq (h : s.Inv rt) (hl : Represents s l) (ht : l.task = some t) {l' : Life}
    (hl' : Represents s l') {t' : TaskRow} (ht' : l'.task = some t') (hid : t'.id = t.id) :
    l'.run.id = l.run.id := by
  obtain ⟨hmem, hrun⟩ := hl.shows.mem_tasks ht
  obtain ⟨hmem', hrun'⟩ := hl'.shows.mem_tasks ht'
  rw [← hrun, ← hrun', Table.eq_of_key_eq h.unique.tasks hmem' hmem hid]

theorem task_of_attempt (h : s.Inv rt) {a : TaskAttemptRow}
    (ha : a ∈ s.world.db.taskAttempts) : ∃ l t, Represents s l ∧ l.run.id = a.runId ∧
      l.task = some t ∧ a.taskId = t.id ∧ l.Invariant rt := by
  have hnot : ¬ Absent s a.runId := by
    intro habsent
    have hmem : a ∈ (s.world.db.ofRun a.runId).attempts :=
      List.mem_filter.mpr ⟨ha, decide_eq_true rfl⟩
    rw [habsent.rows] at hmem
    cases hmem
  obtain ⟨l, hl, hid, hinv⟩ := h.life hnot
  have hmem : a ∈ (s.world.db.ofRun l.run.id).attempts :=
    List.mem_filter.mpr ⟨ha, decide_eq_true hid.symm⟩
  rw [hl.shows] at hmem
  obtain ⟨-, -, -, o, ho, hao⟩ := hinv.owned.attempt a.owner (List.mem_map_of_mem hmem)
  obtain ⟨t, ht, rfl⟩ := Option.map_eq_some_iff.mp ho
  exact ⟨l, t, hl, hid, ht, hao, hinv⟩

theorem task_of_effect (h : s.Inv rt) {e : ModelInvocationEffectRow}
    (he : e ∈ s.world.db.modelInvocationEffects) : ∃ l t, Represents s l ∧
      l.run.id = e.runId ∧ l.task = some t ∧ e.taskId = t.id ∧ l.Invariant rt := by
  have hnot : ¬ Absent s e.runId := by
    intro habsent
    have hmem : e ∈ (s.world.db.ofRun e.runId).effects :=
      List.mem_filter.mpr ⟨he, decide_eq_true rfl⟩
    rw [habsent.rows] at hmem
    cases hmem
  obtain ⟨l, hl, hid, hinv⟩ := h.life hnot
  have hmem : e ∈ (s.world.db.ofRun l.run.id).effects :=
    List.mem_filter.mpr ⟨he, decide_eq_true hid.symm⟩
  rw [hl.shows] at hmem
  have heffect := congrArg (Option.map ModelInvocationEffectRow.owner)
    (Option.mem_toList.mp hmem)
  obtain ⟨-, -, o, ho, heo, -⟩ := hinv.owned.effect e.owner heffect
  obtain ⟨t, ht, rfl⟩ := Option.map_eq_some_iff.mp ho
  exact ⟨l, t, hl, hid, ht, heo, hinv⟩

theorem task_of_call (h : s.Inv rt) {c : ClaimedTask} (hc : c ∈ s.calls) :
    ∃ l t, Represents s l ∧ l.run.id = c.runId ∧ l.task = some t ∧ c.id = t.id ∧
      l.Invariant rt := by
  have hnot : ¬ Absent s c.runId := by
    intro habsent
    have hmem : c ∈ s.calls.filter fun c' => c'.runId = c.runId :=
      List.mem_filter.mpr ⟨hc, decide_eq_true rfl⟩
    rw [habsent.calls] at hmem
    cases hmem
  obtain ⟨l, hl, hid, hinv⟩ := h.life hnot
  have hmem : c ∈ l.calls := by
    rw [hl.calls]
    exact List.mem_filter.mpr ⟨hc, decide_eq_true hid.symm⟩
  obtain ⟨o, ho, hco, -⟩ := hinv.invocation.calls c hmem
  obtain ⟨t, ht, rfl⟩ := Option.map_eq_some_iff.mp ho
  exact ⟨l, t, hl, hid, ht, hco, hinv⟩

/-- A row names the task of the run it names. -/
theorem task_iff (h : s.Inv rt) (hl : Represents s l) (ht : l.task = some t)
    {taskId runId : Uuid} (hrow : ∃ l' t', Represents s l' ∧ l'.run.id = runId ∧
      l'.task = some t' ∧ taskId = t'.id ∧ l'.Invariant rt) :
    taskId = t.id ↔ runId = l.run.id := by
  obtain ⟨l', t', hl', hid, ht', htask', -⟩ := hrow
  constructor
  · intro htask
    rw [← hid, h.task_eq hl ht hl' ht' (htask'.symm.trans htask)]
  · intro hrun
    obtain rfl := hl.unique hl' (hid.trans hrun)
    obtain rfl := Option.some.inj (ht.symm.trans ht')
    exact htask'

theorem effects_of_task (h : s.Inv rt) (hl : Represents s l) (ht : l.task = some t) :
    s.world.db.modelInvocationEffects.filter (fun e => e.taskId = t.id) =
      l.effect.toList := by
  refine Eq.trans ?_ (congrArg RunRows.effects hl.shows)
  exact List.filter_congr fun e he =>
    decide_eq_decide.mpr (h.task_iff hl ht (h.task_of_effect he))

theorem attempts_of_task (h : s.Inv rt) (hl : Represents s l) (ht : l.task = some t) :
    s.world.db.taskAttempts.filter (fun a => a.taskId = t.id) = l.attempts := by
  refine Eq.trans ?_ (congrArg RunRows.attempts hl.shows)
  exact List.filter_congr fun a ha =>
    decide_eq_decide.mpr (h.task_iff hl ht (h.task_of_attempt ha))

theorem calls_of_task (h : s.Inv rt) (hl : Represents s l) (ht : l.task = some t) :
    s.calls.filter (fun c => c.id = t.id) = l.calls := by
  rw [hl.calls]
  exact List.filter_congr fun c hc =>
    decide_eq_decide.mpr (h.task_iff hl ht (h.task_of_call hc))

end Sys.Inv

namespace Steps

variable {rt : Runtime} {act : Action} {s s' : Sys}

/-- What happens to the run `r₀` happens to no other run. -/
theorem of_run (r₀ : Uuid) (hunique : s'.world.db.keys.Unique)
    (hdrawn : s'.world.db.keys.Drawn s'.world.nextId)
    (hn : s.world.nextId ≤ s'.world.nextId)
    (hrows : ∀ r, r ≠ r₀ → s'.world.db.ofRun r = s.world.db.ofRun r)
    (hworkers : ∀ r, r ≠ r₀ → ∀ w, (s'.workers w).onRun r = (s.workers w).onRun r)
    (hcalls : ∀ r, r ≠ r₀ →
      (s'.calls.filter fun c => c.runId = r) = s.calls.filter fun c => c.runId = r)
    (habsent : Absent s r₀ →
      Absent s' r₀ ∨ ∃ l', Represents s' l' ∧ l'.run.id = r₀ ∧ l'.New)
    (hrun : ∀ l, Represents s l → l.run.id = r₀ → l.Invariant rt →
      ∃ l', Represents s' l' ∧ LifeStep rt act l l') : Steps rt act s s' where
  unique := hunique
  drawn := hdrawn
  absent r h := by
    by_cases hr : r = r₀
    · subst hr
      exact habsent h
    · exact .inl
        { rows := (hrows r hr).trans h.rows
          workers := fun w => (hworkers r hr w).trans (h.workers w)
          calls := (hcalls r hr).trans h.calls }
  run l h hinv := by
    by_cases hr : l.run.id = r₀
    · exact hrun l h hr hinv
    · refine ⟨l.drawn s'.world.nextId, ?_, .rest act l _ (h.nextId.trans_le hn)⟩
      exact
        { shows := (hrows _ hr).trans h.shows
          workers := fun w => (h.workers w).trans (hworkers _ hr w).symm
          calls := h.calls.trans (hcalls _ hr).symm
          nextId := rfl }

/-- Nothing happens to any run. -/
theorem of_rest (h : s.Inv rt) (hkeys : s'.world.db.keys = s.world.db.keys)
    (hn : s.world.nextId ≤ s'.world.nextId)
    (hrows : ∀ r, s'.world.db.ofRun r = s.world.db.ofRun r)
    (hworkers : s'.workers = s.workers) (hcalls : s'.calls = s.calls) :
    Steps rt act s s' where
  unique := hkeys ▸ h.unique
  drawn := hkeys ▸ h.drawn.mono hn
  absent r ha := .inl
    { rows := (hrows r).trans ha.rows
      workers := by
        rw [hworkers]
        exact ha.workers
      calls := by
        rw [hcalls]
        exact ha.calls }
  run l hl _ := by
    refine ⟨l.drawn s'.world.nextId, ?_, .rest act l _ (hl.nextId.trans_le hn)⟩
    exact
      { shows := (hrows _).trans hl.shows
        workers := by
          rw [hworkers]
          exact hl.workers
        calls := by
          rw [hcalls]
          exact hl.calls
        nextId := rfl }

/-- A founder's transaction on a run. -/
theorem of_edit {world : World} {l l₁ : Life} (hl : Represents s l)
    (hunique : world.db.keys.Unique) (hdrawn : world.db.keys.Drawn world.nextId)
    (hn : s.world.nextId ≤ world.nextId) (hedit : Edits s.world.db world.db l l₁)
    (hstep : LifeStep rt act l (l₁.drawn world.nextId)) :
    Steps rt act s { s with world := world } := by
  refine of_run l.run.id hunique hdrawn hn hedit.frame (fun _ _ _ => rfl) (fun _ _ => rfl)
    (fun habsent => absurd habsent hl.not_absent) ?_
  intro l₂ hl₂ hr₂ _
  obtain rfl := hl.unique hl₂ hr₂
  have hid : (l₁.drawn world.nextId).run.id = l₂.run.id := hedit.id
  refine ⟨_, ?_, hstep⟩
  exact
    { shows := hedit.shows
      workers := by
        intro w
        rw [hid]
        exact (congrFun hedit.workers w).trans (hl.workers w)
      calls := by
        rw [hid]
        exact hedit.calls.trans hl.calls
      nextId := rfl }

/-- A transaction that leaves the database as it was. -/
theorem of_db_eq (h : s.Inv rt) {world : World} (hdb : world.db = s.world.db)
    (hn : s.world.nextId ≤ world.nextId) : Steps rt act s { s with world := world } := by
  refine of_rest h (congrArg Db.keys hdb) hn ?_ rfl rfl
  intro r
  simp only [hdb]

theorem of_worker {r₀ : Uuid} {w : ℕ} {pc : Pc} {world : World} {l : Life}
    (hl : Represents s l) (hr : l.run.id = r₀)
    (hold : ∀ c, (s.workers w).claim = some c → c.runId = r₀)
    (hnew : ∀ c, pc.claim = some c → c.runId = r₀) (hunique : world.db.keys.Unique)
    (hdrawn : world.db.keys.Drawn world.nextId) (hn : s.world.nextId ≤ world.nextId)
    {l₁ : Life} (hedit : Edits s.world.db world.db l l₁)
    (hstep : LifeStep rt act l (l₁.moved w pc world.nextId)) :
    Steps rt act s
      { s with
        world := world
        workers := Function.update s.workers w pc } := by
  subst hr
  refine of_run l.run.id hunique hdrawn hn hedit.frame ?_ (fun _ _ => rfl)
    (fun habsent => absurd habsent hl.not_absent) ?_
  · intro r hr w'
    exact Pc.onRun_update_of_ne (fun c hc => (hold c hc).trans_ne hr.symm)
      (fun c hc => (hnew c hc).trans_ne hr.symm) w'
  · intro l₂ hl₂ hr₂ _
    obtain rfl := hl.unique hl₂ hr₂
    refine ⟨_, ?_, hstep⟩
    exact
      { shows := hedit.shows
        workers := by
          intro w'
          have hid : (l₁.moved w pc world.nextId).run.id = l₂.run.id := hedit.id
          rw [hid]
          simp only [Life.moved, hedit.workers]
          exact Pc.onRun_update_of_forall hl.workers hnew w'
        calls := by
          have hid : (l₁.moved w pc world.nextId).run.id = l₂.run.id := hedit.id
          rw [hid]
          exact hedit.calls.trans hl.calls
        nextId := rfl }

end Steps

end Aico
