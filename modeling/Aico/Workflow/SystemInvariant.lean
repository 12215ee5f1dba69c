import Aico.Governance.CommandHistory
import Aico.Initiatives.InitiativesSteps
import Aico.Workflow.WaitRefinement
import Aico.Workflow.WorkerRefinement

/-!
# The invariant of the system

A goal that is started adds a run to the system, everything else that is not a
step of a worker or of a founder on a wait leaves all runs alone. So every state
that a history of actions reaches has the invariant, and every run in it is the
end of a life.
-/

namespace Aico

variable {rt : Runtime} {services : Services} {act : Action} {s : Sys}

/-! ## Starting a run -/

namespace Initiatives

variable {companyId : Uuid} {actor : RequestActor} {initiativeId correlationId : UuidText}
  {qualification : GoalQualification} {profileVersionId : Uuid}
  {sequence sequence' : Option ℕ} {w : World} {db : Db}

def firstTasks (services : Services) (companyId : Uuid) (ids : RunIds)
    (profileVersionId : Uuid) (now : Timestamp) : List TaskRow :=
  ids.taskId.toList.map (taskRow services companyId ids profileVersionId now)

def firstEvents (companyId : Uuid) (actor : RequestActor)
    (initiativeId correlationId : UuidText) (qualification : GoalQualification)
    (ids : RunIds) (n : ℕ) (sequence sequence' : Option ℕ) (now : Timestamp) :
    List EventRow :=
  [DomainEvent.eventRow
      (runCreatedEvent companyId initiativeId actor correlationId ids
        (decide (qualification.result = .needsClarification))) n sequence now,
    DomainEvent.eventRow
      (goalQualificationRecordedEvent companyId correlationId ids qualification) (n + 2)
      sequence' now]

theorem runId_firstTasks {ids : RunIds} {now : Timestamp} :
    ∀ t ∈ firstTasks services companyId ids profileVersionId now, t.runId = ids.runId := by
  intro t ht
  obtain ⟨taskId, -, rfl⟩ := List.mem_map.mp ht
  rfl

theorem runId_firstEvents {ids : RunIds} {n : ℕ} {now : Timestamp} :
    ∀ e ∈ firstEvents companyId actor initiativeId correlationId qualification ids n sequence
      sequence' now, e.runId = some ids.runId := by
  intro e he
  rcases List.mem_pair.mp he with rfl | rfl <;> rfl

theorem ofRun_started :
    (started services companyId actor initiativeId correlationId qualification
      profileVersionId sequence sequence' w db).db.ofRun (w.nextId + 2) =
      let needsClarification := decide (qualification.result = .needsClarification)
      let ids := runIds needsClarification w.nextId
      let rows := db.ofRun (w.nextId + 2)
      { rows with
        runs := rows.runs ++
          [runRow services companyId initiativeId.value ids needsClarification w.now]
        tasks := rows.tasks ++ firstTasks services companyId ids profileVersionId w.now
        events := rows.events ++
          firstEvents companyId actor initiativeId correlationId qualification ids
            (w.nextId + idCount needsClarification) sequence sequence' w.now } := by
  refine RunRows.ext (Table.filter_append_of_eq rfl)
    (Table.filter_append_of_forall_eq runId_firstTasks) rfl rfl rfl rfl rfl rfl ?_
  refine Eq.trans ?_ (Table.filter_append_of_forall_eq runId_firstEvents)
  exact congrArg _ (List.append_assoc _ _ _)

/-- The rows of the other runs. -/
theorem ofRun_started_of_ne {r : Uuid} (hr : r ≠ w.nextId + 2) :
    (started services companyId actor initiativeId correlationId qualification
      profileVersionId sequence sequence' w db).db.ofRun r = db.ofRun r := by
  have hid : ∀ {o : Uuid}, o = w.nextId + 2 → o ≠ r := fun ho => ho.trans_ne hr.symm
  refine RunRows.ext (Table.filter_append_of_ne hr.symm)
    (Table.filter_append_of_forall_ne fun t ht => hid (runId_firstTasks t ht))
    rfl rfl rfl rfl rfl rfl ?_
  refine (congrArg _ (List.append_assoc _ _ _)).trans
    (Table.filter_append_of_forall_ne fun e he => ?_)
  rw [runId_firstEvents e he]
  exact fun h => hr (Option.some.inj h).symm

theorem keys_started :
    (started services companyId actor initiativeId correlationId qualification
      profileVersionId sequence sequence' w db).db.keys =
      { db.keys with
        runs := db.keys.runs ++ [w.nextId + 2]
        tasks := db.keys.tasks ++
          (runIds (decide (qualification.result = .needsClarification)) w.nextId).taskId.toList } := by
  refine Keys.ext List.map_append ?_ rfl rfl rfl rfl
  refine List.map_append.trans (congrArg _ ?_)
  rw [List.map_map]
  exact List.map_id _

theorem taskId_runIds {needsClarification : Bool} {n : ℕ} :
    ∀ id ∈ (runIds needsClarification n).taskId.toList, id = n + 3 := by
  cases needsClarification <;> simp [runIds]

end Initiatives

theorem Initiatives.nodup_taskId (needsClarification : Bool) (n : ℕ) :
    (runIds needsClarification n).taskId.toList.Nodup := by
  cases needsClarification <;> simp [runIds]

def Life.started (services : Services) (companyId initiativeId profileVersionId : Uuid)
    (ids : Initiatives.RunIds) (needsClarification : Bool) (events : List EventRow)
    (now : Timestamp) (nextId : ℕ) : Life where
  run := Initiatives.runRow services companyId initiativeId ids needsClarification now
  task := ids.taskId.map (Initiatives.taskRow services companyId ids profileVersionId now)
  attempts := []
  effect := none
  artifacts := []
  versions := []
  waits := []
  answers := []
  events := events
  workers := fun _ => .idle
  calls := []
  nextId := nextId

namespace Life

variable {companyId initiativeId profileVersionId : Uuid} {needsClarification : Bool}
  {events : List EventRow} {now : Timestamp} {n n' : ℕ}

theorem new_started (hevents : ∀ e ∈ events, Unresolving e ∧ IsPublication e = false) :
    (started services companyId initiativeId profileVersionId
      (Initiatives.runIds needsClarification n) needsClarification events now n').New where
  attempts := rfl
  effect := rfl
  artifacts := rfl
  versions := rfl
  waits := rfl
  answers := rfl
  workers _ := rfl
  calls := rfl
  states := by
    cases needsClarification
    · exact .queued
    · exact .needsClarification
  state := by cases needsClarification <;> exact nofun
  cancellation := rfl
  task := by
    intro t ht
    obtain ⟨taskId, -, rfl⟩ := Option.map_eq_some_iff.mp ht
    exact ⟨rfl, rfl, rfl, rfl, rfl⟩
  unclaimed := by
    intro t ht
    obtain ⟨taskId, -, rfl⟩ := Option.map_eq_some_iff.mp ht
    exact ⟨rfl, rfl⟩
  events := hevents

end Life

theorem Initiatives.firstEvents_new {companyId : Uuid} {actor : RequestActor}
    {initiativeId correlationId : UuidText} {qualification : GoalQualification}
    {ids : RunIds} {n : ℕ} {sequence sequence' : Option ℕ} {now : Timestamp} :
    ∀ e ∈ firstEvents companyId actor initiativeId correlationId qualification ids n sequence
      sequence' now, Unresolving e ∧ IsPublication e = false := by
  intro e he
  rcases List.mem_pair.mp he with rfl | rfl
  · refine ⟨?_, rfl⟩
    change "run_created" ≠ "founder_input_resolved"
    decide
  · refine ⟨?_, rfl⟩
    change "goal_qualification_recorded" ≠ "founder_input_resolved"
    decide

namespace Sys.Inv

/-- A run that is started is a new run and nothing else. -/
theorem started (h : s.Inv rt) {companyId : Uuid} {actor : RequestActor}
    {initiativeId correlationId : UuidText} {qualification : GoalQualification}
    {profileVersionId : Uuid} {sequence sequence' : Option ℕ} {w world : World} {db : Db}
    (hw : s.world.nextId ≤ w.nextId) (hkeys : db.keys = s.world.db.keys)
    (hrows : ∀ r, db.ofRun r = s.world.db.ofRun r)
    (hworldKeys : world.db.keys = (Initiatives.started services companyId actor initiativeId
      correlationId qualification profileVersionId sequence sequence' w db).db.keys)
    (hworldRows : ∀ r, world.db.ofRun r = (Initiatives.started services companyId actor
      initiativeId correlationId qualification profileVersionId sequence sequence' w
      db).db.ofRun r)
    (hn : w.nextId + 4 ≤ world.nextId) : Steps rt act s { s with world := world } := by
  set needsClarification := decide (qualification.result = .needsClarification) with hneeds
  have hle : s.world.nextId ≤ world.nextId := by omega
  have hrun : ∀ id ∈ s.world.db.keys.runs, id ≠ w.nextId + 2 :=
    h.drawn.run_ne (hw.trans (Nat.le_add_right _ _))
  have htask : ∀ id ∈ s.world.db.keys.tasks, id ≠ w.nextId + 3 :=
    h.drawn.task_ne (hw.trans (Nat.le_add_right _ _))
  have hfresh : ∀ l, Represents s l → l.run.id ≠ w.nextId + 2 :=
    fun l hl => hrun _ (List.mem_map_of_mem hl.shows.mem_runs)
  refine .of_run (w.nextId + 2) ?_ ?_ hle ?_ (fun _ _ _ => rfl) (fun _ _ => rfl) ?_
    (fun l hl hid _ => absurd hid (hfresh l hl))
  · rw [hworldKeys, Initiatives.keys_started, hkeys]
    refine ⟨?_, ?_, h.unique.attempts, h.unique.effects, h.unique.artifacts, h.unique.waits⟩
    · refine List.nodup_append'.mpr ⟨h.unique.runs, List.nodup_singleton _, ?_⟩
      exact fun id hid hid' => hrun id hid (List.mem_singleton.mp hid')
    · refine List.nodup_append'.mpr ⟨h.unique.tasks, Initiatives.nodup_taskId _ _, ?_⟩
      exact fun id hid hid' => htask id hid (Initiatives.taskId_runIds id hid')
  · rw [hworldKeys, Initiatives.keys_started, hkeys]
    have hdrawn := h.drawn.mono hle
    refine ⟨?_, ?_, hdrawn.attempts, hdrawn.artifacts, hdrawn.waits⟩
    · intro id hid
      rcases List.mem_append.mp hid with hid | hid
      · exact hdrawn.runs id hid
      · rw [List.mem_singleton.mp hid]
        change w.nextId + 2 < world.nextId
        omega
    · intro id hid
      rcases List.mem_append.mp hid with hid | hid
      · exact hdrawn.tasks id hid
      · rw [Initiatives.taskId_runIds id hid]
        change w.nextId + 3 < world.nextId
        omega
  · intro r hr
    rw [hworldRows, Initiatives.ofRun_started_of_ne hr, hrows]
  · intro habsent
    refine .inr ⟨Life.started services companyId initiativeId.value profileVersionId
      (Initiatives.runIds needsClarification w.nextId) needsClarification
      (Initiatives.firstEvents companyId actor initiativeId correlationId qualification
        (Initiatives.runIds needsClarification w.nextId)
        (w.nextId + Initiatives.idCount needsClarification) sequence sequence' w.now)
      w.now world.nextId, ?_, rfl, Life.new_started Initiatives.firstEvents_new⟩
    exact
      { shows := by
          change world.db.ofRun (w.nextId + 2) = _
          rw [hworldRows, Initiatives.ofRun_started, hrows, habsent.rows]
          exact RunRows.ext rfl Option.toList_map.symm rfl rfl rfl rfl rfl rfl rfl
        workers := fun w' => (habsent.workers w').symm
        calls := habsent.calls.symm
        nextId := rfl }

theorem createGoalAndRun {actor : RequestActor} {initiativeId : UuidText}
    {expectedVersion : ℕ} {idempotencyKey : Uuid} {correlationId : UuidText}
    {dto : CreateGoalDto} (h : s.Inv services.runtime) :
    Steps services.runtime
      (.createGoalAndRun actor initiativeId expectedVersion idempotencyKey correlationId dto) s
      (s.step services (.createGoalAndRun actor initiativeId expectedVersion idempotencyKey
        correlationId dto)) := by
  have hgrows : World.Grows s.world (Initiatives.createGoalAndRun services actor initiativeId
      expectedVersion idempotencyKey correlationId dto s.world).2 :=
    Initiatives.createGoalAndRun_dbFree s.world
  rw [Sys.step]
  rcases hrun : Initiatives.createGoalAndRun services actor initiativeId expectedVersion
    idempotencyKey correlationId dto s.world with ⟨_ | result, world⟩
  · rw [hrun] at hgrows
    exact .of_db_eq h (Initiatives.createGoalAndRun_error_db hrun) hgrows
  · rcases Initiatives.createGoalAndRun_eq_ok hrun with
      rfl | ⟨companyId, qualification, rows, response, w₁, -, hstart, rfl⟩
    · exact .of_db_eq h rfl (Nat.le_succ _)
    · obtain ⟨profileVersionId, sequence, sequence', -, rfl⟩ := Initiatives.startRun_eq_ok hstart
      refine h.started (Nat.le_succ _) rfl (fun _ => rfl) rfl (fun _ => rfl) ?_
      have hcount := Initiatives.four_le_idCount
        (decide (qualification.result = .needsClarification))
      change s.world.nextId + 1 + 4 ≤ s.world.nextId + 1 + Initiatives.idCount _ + 2 + 2
      omega

/-! ## The rest of the program -/

/-- An operation that leaves the rows of runs alone. -/
theorem other (h : s.Inv rt) {world : World} (hkeeps : KeepsWorkflow s.world world) :
    Steps rt act s { s with world := world } := by
  refine .of_rest h ?_ hkeeps.nextId ?_ rfl rfl
  · rw [Db.keys, hkeeps.runs, hkeeps.tasks, hkeeps.taskAttempts,
      hkeeps.modelInvocationEffects, hkeeps.artifacts, hkeeps.humanWaits, ← Db.keys]
  · intro r
    have hevents : ∀ events : List EventRow, events.filter (fun e => e.runId = some r) =
        (events.filter fun e => e.runId.isSome).filter fun e => e.runId = some r := by
      intro events
      rw [List.filter_filter]
      refine List.filter_congr fun e _ => ?_
      by_cases he : e.runId = some r <;> simp [he]
    rw [Db.ofRun, hkeeps.runs, hkeeps.tasks, hkeeps.taskAttempts,
      hkeeps.modelInvocationEffects, hkeeps.artifacts, hkeeps.artifactVersions,
      hkeeps.humanWaits, hkeeps.clarificationAnswerVersions, hevents, hkeeps.runEvents,
      ← hevents, ← Db.ofRun]

/-- A step of the system is a step of every run. -/
theorem steps (h : s.Inv services.runtime) (act : Action) :
    Steps services.runtime act s (s.step services act) := by
  cases act with
  | tick elapsed => exact .of_db_eq h rfl le_rfl
  | other op => exact h.other (op.keeps s.world)
  | createGoalAndRun => exact h.createGoalAndRun
  | openWait => exact h.openWait
  | answer => exact h.answer
  | cancelFixture => exact h.cancelFixture
  | claimTask => exact h.claimTask
  | loadContext => exact h.loadContext
  | isLeaseCurrent => exact h.isLeaseCurrent
  | abandonAttempt => exact h.abandonAttempt
  | beginModelInvocation => exact h.beginModelInvocation
  | blockUnknownModelOutcome => exact h.blockUnknownModelOutcome
  | invoke => exact h.invoke
  | providerReturns => exact h.providerReturns
  | completeTask => exact h.completeTask
  | failTask => exact h.failTask
  | finish => exact h.finish
  | throws => exact h.throws
  | crash => exact h.crash

end Sys.Inv

/-! ## Histories -/

namespace InitialWorld

theorem keys (init : InitialWorld) : init.sys.world.db.keys = ⟨[], [], [], [], [], []⟩ := by
  simp [sys, Db.keys, init.runs, init.tasks, init.taskAttempts, init.modelInvocationEffects,
    init.artifacts, init.humanWaits]

theorem ofRun (init : InitialWorld) (r : Uuid) : init.sys.world.db.ofRun r = .empty := by
  have hevents : init.world.db.events.filter (fun e => e.runId = some r) = [] :=
    List.filter_eq_nil_iff.mpr fun e he => by simp [init.runEvents e he]
  simp [sys, Db.ofRun, RunRows.empty, init.runs, init.tasks, init.taskAttempts,
    init.modelInvocationEffects, init.artifacts, init.artifactVersions, init.humanWaits,
    init.clarificationAnswerVersions, hevents]

/-- Before the first run there is nothing to say about any. -/
theorem inv (init : InitialWorld) : init.sys.Inv rt where
  unique := by
    rw [init.keys]
    exact ⟨List.nodup_nil, List.nodup_nil, List.nodup_nil, List.nodup_nil, List.nodup_nil,
      List.nodup_nil⟩
  drawn := by
    rw [init.keys]
    exact ⟨nofun, nofun, nofun, nofun, nofun⟩
  runs r := .inl
    { rows := init.ofRun r
      workers := fun _ => rfl
      calls := rfl }

end InitialWorld

namespace Sys

theorem after_append (s : Sys) (acts acts' : List Action) :
    s.after services (acts ++ acts') = (s.after services acts).after services acts' :=
  Transition.run_append _ s acts acts'

/-- Every history keeps the invariant. -/
theorem Inv.after (h : s.Inv services.runtime) (acts : List Action) :
    (s.after services acts).Inv services.runtime :=
  Transition.run_invariant (fun _ act hs => hs.step (hs.steps act)) h acts

/-- The state a history reaches. -/
theorem inv_after (services : Services) (init : InitialWorld) (acts : List Action) :
    (init.sys.after services acts).Inv services.runtime :=
  init.inv.after acts

end Sys

/-! ## Laws of one run -/

/-- Every run of the system has the property. -/
def Sys.Each (P : Life → Prop) (s : Sys) : Prop := ∀ l, Represents s l → P l

/-- A property that new runs have and transitions keep holds of every run after
a step. -/
theorem Sys.Inv.each_step {P : Life → Prop} (h : s.Inv services.runtime)
    (hnew : ∀ l, l.New → P l)
    (hstep : ∀ l l', Represents s l → l.Invariant services.runtime → P l →
      LifeStep services.runtime act l l' → P l')
    (hs : s.Each P) : (s.step services act).Each P := by
  intro l' hl'
  have hsteps := h.steps act
  rcases h.runs l'.run.id with habsent | ⟨l, hl, hid, hinv⟩
  · rcases hsteps.absent l'.run.id habsent with habsent' | ⟨l'', hl'', hid, hl''new⟩
    · exact absurd habsent' hl'.not_absent
    · rw [hl''.unique hl' hid.symm]
      exact hnew l'' hl''new
  · obtain ⟨l'', hl'', hlife⟩ := hsteps.run l hl hinv
    rw [hl''.unique hl' (hid.symm.trans hlife.id_eq.symm)]
    exact hstep l l'' hl hinv (hs l hl) hlife

/-- The same over a history whose steps meet a condition. -/
theorem Sys.each_after {P : Life → Prop} {C : Sys → Action → Prop}
    (hnew : ∀ l, l.New → P l)
    (hstep : ∀ s act l l', s.Inv services.runtime → C s act → Represents s l →
      l.Invariant services.runtime → P l → LifeStep services.runtime act l l' → P l')
    (init : InitialWorld) {acts : List Action}
    (hC : Transition.EachStep (Sys.step services) C init.sys acts) :
    (init.sys.after services acts).Each P := by
  have hrun : (init.sys.after services acts).Inv services.runtime ∧
      (init.sys.after services acts).Each P := by
    refine Transition.run_invariant_of_eachStep (P := fun s => s.Inv services.runtime ∧ s.Each P)
      ?_ ⟨init.inv, fun l hl => ?_⟩ hC
    · rintro s act ⟨hs, heach⟩ hc
      exact ⟨hs.step (hs.steps act),
        hs.each_step hnew (fun l l' => hstep s act l l' hs hc) heach⟩
    · exact absurd ⟨init.ofRun _, fun _ => rfl, rfl⟩ hl.not_absent
  exact hrun.2

/-- The worker that holds a claim on a run in its record holds it in the system. -/
theorem Represents.claimed {l : Life} {w : ℕ} {claim : ClaimedTask} (h : Represents s l)
    (hs : s.Inv rt) (hclaim : (l.workers w).claim = some claim) :
    Claimed rt s w claim l := by
  have hpc : (s.workers w).claim = some claim ∧ claim.runId = l.run.id := by
    rw [h.workers, Pc.onRun] at hclaim
    split at hclaim
    next hany =>
      rw [hclaim] at hany
      exact ⟨hclaim, of_decide_eq_true hany⟩
    next => cases hclaim
  obtain ⟨l', hl'⟩ := hs.claimed hpc.1
  rw [← h.unique hl'.represents (hl'.runId.trans hpc.2)]
  exact hl'

/-! ## A sample world -/

def demoServices : Services where
  runtime := CommandExecutor.demoRuntime
  workflowVersion := "mvp-v1"
  evaluateGoalQualification _ :=
    { result := .qualified, reasonCodes := [], explanation := "", proposal := none,
      clarificationQuestions := [], screenEstimate := 1, policyVersion := "", findings := [] }

def demoCompany : CompanyRow where
  id := 1
  founderId := 0
  name := []
  status := .active
  currentProfileVersionId := some 2
  rowVersion := 1
  createdAt := 0
  updatedAt := 0

def demoProfile : CompanyProfileVersionRow where
  id := 2
  companyId := 1
  version := 1
  purpose := []
  targetCustomer := []
  constraints := .arr []
  normalizedLimits := .obj []
  sensitiveDataWarningAcknowledged := true
  createdBy := 0
  createdAt := 0

def demoInitiative : InitiativeRow where
  id := 3
  companyId := 1
  type := "PROTOTYPE"
  title := []
  status := .draft
  currentGoalVersionId := none
  rowVersion := 1
  createdAt := 0
  updatedAt := 0

def demoInit : InitialWorld where
  world :=
    { db :=
        { Db.empty with
          founders := [{ id := 0 }], companies := [demoCompany], companyProfileVersions := [demoProfile],
          initiatives := [demoInitiative] }
      objects := []
      nextId := 4
      now := 0 }
  runs := rfl
  tasks := rfl
  taskAttempts := rfl
  modelInvocationEffects := rfl
  artifacts := rfl
  artifactVersions := rfl
  humanWaits := rfl
  clarificationAnswerVersions := rfl
  runEvents := nofun

def demoGoal : CreateGoalDto where
  schemaVersion := 1
  goal :=
    { targetUser := [], problem := [], desiredOutcome := [], primaryFlow := [],
      mustHaves := [], nonGoals := [], visualDirection := [],
      constraints := { maxScreens := 1, primaryFlows := 1, clientOnly := true, dataMode := [] },
      referenceIds := [] }
  attachmentIds := []
  startRun := true

/-- The founder starts a run; its task is number `8`. -/
def demoStart : Action :=
  .createGoalAndRun { id := 0, companyId := some 1 } (.ofUuid 3) 1 0 (.ofUuid 0) demoGoal


def demoWorker : WorkerConfig where
  workerId := "worker"
  leaseSeconds := 30

def demoResult : ModelResult where
  outputSchemaVersion := "1"
  content := .obj []
  usage := .obj []

def demoRun (w : ℕ) : List Action :=
  [.claimTask w demoWorker none [], .loadContext w, .isLeaseCurrent w,
    .beginModelInvocation w, .invoke w, .providerReturns w demoResult, .completeTask w]

end Aico
