import Aico.Common.CanonicalDigest
import Aico.DurabilitySpike.DurableWaitSteps
import Aico.Foundation.Outcome

/-!
# When an answer commits

An answer commits exactly when the locked rows are as it expects them and the database takes
what it writes (`answer_succeeds_iff`). The expiry of the wait is not looked at, so a wait that
has expired is answered like any other.
-/

namespace Aico.DurableWait

variable {rt : Runtime} {w : World} {input : AnswerWaitInput} {wait : HumanWaitRow}
  {run : RunRow} {task : TaskRow}

/-! ## What an answer needs -/

/-- The actor is the founder, and the locked rows are as the answer expects them. -/
structure Matches (w : World) (input : AnswerWaitInput) (wait : HumanWaitRow) (run : RunRow)
    (task : TaskRow) : Prop where
  founder : ∃ c ∈ w.db.companies, c.id = input.companyId.value ∧ c.founderId = input.actorId.value
  lockedWait : w.db.humanWaits.find? (isWait input.companyId.value input.runId.value
    input.waitId.value) = some wait
  lockedRun : w.db.runs.find? (isRun input.companyId.value input.runId.value) = some run
  lockedTask : w.db.tasks.find? (isTask input.companyId.value input.runId.value wait.taskId) = some task
  expected : Expects input wait run task

/-- The wait expires later. -/
def Unexpired (now : Timestamp) (wait : HumanWaitRow) : Prop :=
  ∃ expiresAt, wait.expiresAt = some expiresAt ∧ now < expiresAt

/-- The database takes what the answer writes: the actor is a known founder, the context of the
wait is stored, the content can be stored as a document, the wait has no answer yet, and the next
number of the run is free. -/
structure Recordable (w : World) (input : AnswerWaitInput) (wait : HumanWaitRow) : Prop where
  actor : ∃ f ∈ w.db.founders, f.id = input.actorId.value
  context : ∃ cs ∈ w.db.contextSnapshots,
    cs.companyId = input.companyId.value ∧ cs.id = wait.contextSnapshotId
  content : Json.storable input.content = true
  unanswered : ∀ a ∈ w.db.clarificationAnswerVersions, a.waitId ≠ input.waitId.value
  numbered : ∃ c, w.db.runEventCounters.find? (fun c =>
      c.runId = input.runId.value ∧ c.companyId = input.companyId.value) = some c ∧
    ∀ e ∈ w.db.events, e.runId = some input.runId.value →
      e.runSequence ≠ some (parseInt c.nextSequence)

/-- What the answer should do: it commits exactly when the rows match and the wait has not
expired, and otherwise it leaves every table as it was. -/
structure AnswersExactly (rt : Runtime) (w : World) (input : AnswerWaitInput) : Prop where
  commits : Prog.Succeeds (answer rt input) w ↔
    ∃ wait run task, Matches w input wait run task ∧ Unexpired w.now wait
  refused : ∀ e w', answer rt input w = (.error e, w') → w'.db = w.db

/-! ## What an answer does -/

section Statements

variable {α β : Type}

theorem newId_succeeds {k : Uuid → Op β} : Prog.Succeeds (Op.newId >>= k) w ↔
    Prog.Succeeds (k w.nextId) { w with nextId := w.nextId + 1 } :=
  Iff.rfl

theorem now_succeeds {k : Timestamp → Op β} :
    Prog.Succeeds (Op.now >>= k) w ↔ Prog.Succeeds (k w.now) w :=
  Iff.rfl

theorem query_succeeds {f : Db → α} {k : α → Op β} :
    Prog.Succeeds (Op.query f >>= k) w ↔ Prog.Succeeds (k (f w.db)) w :=
  Iff.rfl

theorem exec_succeeds {f : Db → Db} {k : PUnit → Op β} :
    Prog.Succeeds (Op.exec f >>= k) w ↔ Prog.Succeeds (k ⟨⟩) { w with db := f w.db } :=
  Iff.rfl

theorem assertFounder_succeeds {companyId actorId : Uuid} {k : PUnit → Op β} :
    Prog.Succeeds (assertFounder companyId actorId >>= k) w ↔
      (∃ c ∈ w.db.companies, c.id = companyId ∧ c.founderId = actorId) ∧
        Prog.Succeeds (k ⟨⟩) w := by
  have hknown : (w.db.companies.any fun c => c.id = companyId ∧ c.founderId = actorId) = true ↔
      ∃ c ∈ w.db.companies, c.id = companyId ∧ c.founderId = actorId := by
    simp
  rw [← hknown]
  exact Prog.succeeds_ensure

theorem lockWait_succeeds {companyId runId waitId : Uuid} {k : HumanWaitRow → Op β} :
    Prog.Succeeds (lockWait companyId runId waitId >>= k) w ↔
      ∃ wait, w.db.humanWaits.find? (isWait companyId runId waitId) = some wait ∧
        Prog.Succeeds (k wait) w :=
  Prog.succeeds_require

theorem lockRun_succeeds {companyId runId : Uuid} {k : RunRow → Op β} :
    Prog.Succeeds (lockRun companyId runId >>= k) w ↔
      ∃ run, w.db.runs.find? (isRun companyId runId) = some run ∧ Prog.Succeeds (k run) w :=
  Prog.succeeds_require

theorem lockTask_succeeds {companyId runId : Uuid} {taskId : Option Uuid} {k : TaskRow → Op β} :
    Prog.Succeeds (lockTask companyId runId taskId >>= k) w ↔
      ∃ task, w.db.tasks.find? (isTask companyId runId taskId) = some task ∧
        Prog.Succeeds (k task) w :=
  Prog.succeeds_require

end Statements

theorem append_succeeds {β : Type} {options : AppendEventOptions} {f : Uuid → Op β} :
    Prog.Succeeds (DomainEvent.append options >>= f) w ↔
      ∃ sequence, DomainEvent.allocated options w.db.runEventCounters = .ok sequence ∧
        DomainEvent.sequenceTaken (DomainEvent.eventRow options w.nextId sequence w.now)
          w.db.events = false ∧
        Prog.Succeeds (f w.nextId) (DomainEvent.appended options sequence w) := by
  rw [Prog.succeeds_bind]
  constructor
  · rintro ⟨eventId, w', h, hf⟩
    obtain ⟨sequence, hallocated, hfree, rfl, rfl⟩ := DomainEvent.append_eq_ok.mp h
    exact ⟨sequence, hallocated, hfree, hf⟩
  · rintro ⟨sequence, hallocated, hfree, hf⟩
    exact ⟨w.nextId, _, DomainEvent.append_of_allocated hallocated hfree, hf⟩

theorem numbered_iff {options : AppendEventOptions} {runId : UuidText} (id now : ℕ)
    (counters : List RunEventCounterRow) (events : List EventRow)
    (hrun : options.runId = some runId) :
    (∃ sequence, DomainEvent.allocated options counters = .ok sequence ∧
      DomainEvent.sequenceTaken (DomainEvent.eventRow options id sequence now) events = false) ↔
    ∃ c, counters.find? (fun c =>
        c.runId = runId.value ∧ c.companyId = options.companyId.value) = some c ∧
      ∀ e ∈ events, e.runId = some runId.value →
        e.runSequence ≠ some (parseInt c.nextSequence) := by
  have hfree (n : ℕ) : DomainEvent.sequenceTaken (DomainEvent.eventRow options id (some n) now)
      events = false ↔ ∀ e ∈ events, e.runId = some runId.value → e.runSequence ≠ some n := by
    simp [DomainEvent.sequenceTaken, DomainEvent.eventRow, hrun]
  have hcounter : counters.find? (DomainEvent.isCounterOf options runId) = counters.find?
      fun c => c.runId = runId.value ∧ c.companyId = options.companyId.value := rfl
  rw [DomainEvent.allocated, hrun]
  dsimp only
  rw [hcounter]
  cases counters.find? fun c => c.runId = runId.value ∧ c.companyId = options.companyId.value with
  | none => simp
  | some c => simp [hfree]

/-- The writes of an answer are taken where the row it copies is there, the content can be stored,
the wait has no answer and the event gets a number. -/
theorem recordAnswer_succeeds_iff :
    Prog.Succeeds (recordAnswer rt input wait run) w ↔
      ∃ source, (w.db.contextSnapshots.filter fun cs => cs.companyId = input.companyId.value ∧
          cs.id = wait.contextSnapshotId).head? = some source ∧
        Json.storable input.content = true ∧
        (∀ a ∈ w.db.clarificationAnswerVersions, a.waitId ≠ input.waitId.value) ∧
        ∃ c, w.db.runEventCounters.find? (fun c =>
            c.runId = input.runId.value ∧ c.companyId = input.companyId.value) = some c ∧
          ∀ e ∈ w.db.events, e.runId = some input.runId.value →
            e.runSequence ≠ some (parseInt c.nextSequence) := by
  have hanswered : (w.db.clarificationAnswerVersions.any fun a => a.waitId = input.waitId.value) =
      false ↔ ∀ a ∈ w.db.clarificationAnswerVersions, a.waitId ≠ input.waitId.value := by
    simp
  have hevent := numbered_iff (w.nextId + 2) w.now w.db.runEventCounters w.db.events
    (rfl : (inputResolvedEvent input wait w.nextId (w.nextId + 1)).runId = some input.runId)
  rw [recordAnswer, newId_succeeds, newId_succeeds, now_succeeds, query_succeeds,
    Prog.succeeds_require]
  apply exists_congr
  intro source
  apply and_congr_right
  intro _
  rw [Prog.succeeds_ensure, query_succeeds, Prog.succeeds_ensure, hanswered]
  apply and_congr_right
  intro _
  apply and_congr_right
  intro _
  simp only [exec_succeeds, append_succeeds]
  refine Iff.trans ?_ hevent
  apply exists_congr
  intro sequence
  apply and_congr_right
  intro _
  exact and_iff_left (Prog.succeeds_pure _ _)

/-- The callback of an answer returns where the rows match and the writes are taken. -/
theorem resolveWait_succeeds_iff :
    Prog.Succeeds (resolveWait rt input) w ↔ ∃ wait run task, Matches w input wait run task ∧
      Prog.Succeeds (recordAnswer rt input wait run) w := by
  rw [resolveWait, assertFounder_succeeds]
  simp only [lockWait_succeeds, lockRun_succeeds, lockTask_succeeds, Prog.succeeds_ensure,
    answerable_iff]
  constructor
  · rintro ⟨hfounder, wait, hwait, run, hrun, task, htask, hexpected, hrecord⟩
    exact ⟨wait, run, task, ⟨hfounder, hwait, hrun, htask, hexpected⟩, hrecord⟩
  · rintro ⟨wait, run, task, h, hrecord⟩
    exact ⟨h.founder, wait, h.lockedWait, run, h.lockedRun, task, h.lockedTask, h.expected,
      hrecord⟩

theorem recordAnswer_succeeds (hactor : ∃ f ∈ w.db.founders, f.id = input.actorId.value) :
    Prog.Succeeds (recordAnswer rt input wait run) w ↔ Recordable w input wait := by
  have hcontext : (∃ source, (w.db.contextSnapshots.filter fun cs =>
      cs.companyId = input.companyId.value ∧ cs.id = wait.contextSnapshotId).head? = some source) ↔
      ∃ cs ∈ w.db.contextSnapshots,
        cs.companyId = input.companyId.value ∧ cs.id = wait.contextSnapshotId := by
    rw [← Option.isSome_iff_exists, List.head?_filter, List.find?_isSome]
    simp
  rw [recordAnswer_succeeds_iff]
  constructor
  · rintro ⟨source, hsource, hcontent, hunanswered, hnumbered⟩
    exact ⟨hactor, hcontext.mp ⟨source, hsource⟩, hcontent, hunanswered, hnumbered⟩
  · intro h
    obtain ⟨source, hsource⟩ := hcontext.mpr h.context
    exact ⟨source, hsource, h.content, h.unanswered, h.numbered⟩

/-- A new command of a known actor returns where its callback does. -/
theorem run_succeeds {options : CommandOptions}
    (hfresh : CommandExecutor.recorded options w.db = none)
    (hactor : CommandExecutor.knownActor options w.db = true) :
    Prog.Succeeds (CommandExecutor.run rt options) w ↔
      Prog.Succeeds options.execute (CommandExecutor.reserved rt options w) := by
  constructor
  · rintro ⟨result, w', hrun⟩
    rcases hexec : options.execute (CommandExecutor.reserved rt options w) with ⟨e | response, w₁⟩
    · rw [CommandExecutor.run_of_new_error hfresh hactor hexec] at hrun
      cases hrun
    · exact ⟨response, w₁, hexec⟩
  · rintro ⟨response, w₁, hexec⟩
    exact ⟨_, _, CommandExecutor.run_of_new_ok hfresh hactor hexec⟩

/-- An answer of the valid shape under a new key commits where the rows match and the database
takes what it writes. -/
theorem answer_succeeds_iff (hshape : answerShape input = true)
    (hfresh : CommandExecutor.recorded (answerCommand rt input) w.db = none) :
    Prog.Succeeds (answer rt input) w ↔
      ∃ wait run task, Matches w input wait run task ∧ Recordable w input wait := by
  have hknown : CommandExecutor.knownActor (answerCommand rt input) w.db = true ↔
      ∃ f ∈ w.db.founders, f.id = input.actorId.value := by
    rw [CommandExecutor.knownActor, List.any_eq_true]
    exact exists_congr fun f => and_congr_right fun _ => decide_eq_true_iff
  rw [answer, Prog.succeeds_ensure, and_iff_right hshape]
  by_cases hactor : ∃ f ∈ w.db.founders, f.id = input.actorId.value
  · have hrun : Prog.Succeeds (CommandExecutor.run rt (answerCommand rt input)) w ↔
        Prog.Succeeds (resolveWait rt input)
          (CommandExecutor.reserved rt (answerCommand rt input) w) :=
      run_succeeds hfresh (hknown.mpr hactor)
    have hactor' : ∃ f ∈ (CommandExecutor.reserved rt (answerCommand rt input) w).db.founders,
        f.id = input.actorId.value := hactor
    refine hrun.trans (resolveWait_succeeds_iff.trans ?_)
    simp only [recordAnswer_succeeds hactor']
    constructor
    · rintro ⟨wait, run, task, h, hrecord⟩
      exact ⟨wait, run, task,
        ⟨h.founder, h.lockedWait, h.lockedRun, h.lockedTask, h.expected⟩,
        ⟨hactor, hrecord.context, hrecord.content, hrecord.unanswered, hrecord.numbered⟩⟩
    · rintro ⟨wait, run, task, h, hrecord⟩
      exact ⟨wait, run, task,
        ⟨h.founder, h.lockedWait, h.lockedRun, h.lockedTask, h.expected⟩,
        ⟨hactor, hrecord.context, hrecord.content, hrecord.unanswered, hrecord.numbered⟩⟩
  · constructor
    · rintro ⟨result, w', hrun⟩
      have hunknown := Bool.eq_false_iff.mpr (mt hknown.mp hactor)
      have herror : ∃ e w', CommandExecutor.run rt (answerCommand rt input) w = (.error e, w') :=
        CommandExecutor.run_of_unknownActor hfresh hunknown
      obtain ⟨e, w'', herror⟩ := herror
      have hcontra := hrun.symm.trans herror
      cases hcontra
    · rintro ⟨wait, run, task, -, hrecord⟩
      exact absurd hrecord.actor hactor

/-- Every answer of the valid shape under a new key commits exactly when it should, unless the
rows match and the expiry of the wait does not go with what the database takes: a wait that has
expired is answered all the same. -/
theorem answersExactly_iff (hshape : answerShape input = true)
    (hfresh : CommandExecutor.recorded (answerCommand rt input) w.db = none) :
    AnswersExactly rt w input ↔ ∀ wait run task, Matches w input wait run task →
      (Unexpired w.now wait ↔ Recordable w input wait) := by
  have hsame {wait wait' : HumanWaitRow} {run run' : RunRow} {task task' : TaskRow}
      (h : Matches w input wait run task) (h' : Matches w input wait' run' task') :
      wait' = wait :=
    Option.some.inj (h'.lockedWait.symm.trans h.lockedWait)
  constructor
  · intro h wait run task hmatches
    have hcommits := (answer_succeeds_iff hshape hfresh).symm.trans h.commits
    constructor
    · intro hunexpired
      obtain ⟨wait', run', task', hmatches', hrecordable⟩ :=
        hcommits.mpr ⟨wait, run, task, hmatches, hunexpired⟩
      rwa [hsame hmatches hmatches'] at hrecordable
    · intro hrecordable
      obtain ⟨wait', run', task', hmatches', hunexpired⟩ :=
        hcommits.mp ⟨wait, run, task, hmatches, hrecordable⟩
      rwa [hsame hmatches hmatches'] at hunexpired
  · intro h
    refine ⟨(answer_succeeds_iff hshape hfresh).trans ?_, fun e w' => answer_error_db⟩
    constructor
    · rintro ⟨wait, run, task, hmatches, hrecordable⟩
      exact ⟨wait, run, task, hmatches, (h wait run task hmatches).mpr hrecordable⟩
    · rintro ⟨wait, run, task, hmatches, hunexpired⟩
      exact ⟨wait, run, task, hmatches, (h wait run task hmatches).mp hunexpired⟩

/-! ## A wait that expires -/

def askedCompany : CompanyRow where
  id := 1
  founderId := 0
  name := js "Demo"
  status := .active
  currentProfileVersionId := none
  rowVersion := 1
  createdAt := 0
  updatedAt := 0

def askedRun : RunRow where
  id := 2
  companyId := 1
  initiativeId := 9
  contextSnapshotId := 6
  state := .awaitingFounderInput
  stage := .intake
  rowVersion := 2
  workflowVersion := "1"
  policyVersion := "1"
  blockingReasonCode := none
  failureReasonCode := none
  cancellationRequestedAt := none
  createdAt := 0
  updatedAt := 0

def askedTask : TaskRow where
  id := 3
  companyId := 1
  runId := 2
  type := "QUALIFY_GOAL"
  ownerEmployeeDefinitionId := none
  state := .awaitingInput
  priority := 0
  inputManifest := .obj []
  attemptCount := 0
  rowVersion := 2
  leaseOwner := none
  leaseToken := none
  leaseExpiresAt := none
  availableAt := 0
  blockerCode := none
  createdAt := 0
  updatedAt := 0
  completedAt := none

def askedWait : HumanWaitRow where
  id := 4
  companyId := 1
  runId := 2
  taskId := some 3
  workflowVersion := "1"
  waitKind := "CLARIFICATION"
  waitVersion := 1
  requestId := 5
  requestVersion := 1
  expectedRunState := .awaitingFounderInput
  expectedRunRowVersion := 2
  resumeRunState := .draft
  contextSnapshotId := 6
  responseSchemaId := "durable-wait-response"
  responseSchemaVersion := "1.0"
  reasonCodes := []
  status := .opened
  expiresAt := some 10
  createdAt := 0
  resolvedAt := none
  resolvedByCommandId := none
  resolvedByEventId := none
  continuationTaskId := none

def askedWorld (now : Timestamp) : World where
  db :=
    { Db.empty with
      founders := [⟨0⟩]
      companies := [askedCompany]
      contextSnapshots := [⟨6, 1, 7, 8, [], 0⟩]
      runs := [askedRun]
      runEventCounters := [⟨1, 2, 1⟩]
      tasks := [askedTask]
      humanWaits := [askedWait] }
  objects := []
  nextId := 20
  now := now

def askedInput : AnswerWaitInput where
  actorId := .ofUuid 0
  companyId := .ofUuid 1
  runId := .ofUuid 2
  waitId := .ofUuid 4
  requestId := .ofUuid 5
  requestVersion := 1
  workflowVersion := "1"
  expectedRunVersion := 2
  schemaId := "durable-wait-response"
  schemaVersion := "1.0"
  content := .object [("decision", .text "CONTINUE"), ("note", .text "Go on")]
  idempotencyKey := 12
  correlationId := .ofUuid 13

theorem matches_askedInput (now : Timestamp) :
    Matches (askedWorld now) askedInput askedWait askedRun askedTask where
  founder := ⟨askedCompany, List.mem_cons_self, rfl, rfl⟩
  lockedWait := rfl
  lockedRun := rfl
  lockedTask := rfl
  expected := answerable_iff.mp (by decide)

theorem recordable_askedInput (now : Timestamp) :
    Recordable (askedWorld now) askedInput askedWait where
  actor := ⟨_, List.mem_cons_self, rfl⟩
  context := ⟨_, List.mem_cons_self, rfl, rfl⟩
  content := by decide
  unanswered := by
    intro a ha
    cases ha
  numbered := ⟨⟨1, 2, 1⟩, rfl, fun e he => absurd he List.not_mem_nil⟩

theorem answerShape_askedInput : answerShape askedInput = true := by decide

/-- An answer before the wait expires. -/
theorem answersExactly_iff_demo :
    AnswersExactly (.sample id) (askedWorld 5) askedInput := by
  refine (answersExactly_iff answerShape_askedInput rfl).mpr fun wait run task h => ?_
  obtain rfl : wait = askedWait :=
    Option.some.inj (h.lockedWait.symm.trans (matches_askedInput 5).lockedWait)
  exact iff_of_true ⟨10, rfl, by decide⟩ (recordable_askedInput 5)

/-- An answer ten ticks after the wait expired. -/
theorem answersExactly_fails :
    ¬ ∀ (rt : Runtime) (w : World) (input : AnswerWaitInput), answerShape input = true →
      CommandExecutor.recorded (answerCommand rt input) w.db = none → AnswersExactly rt w input := by
  intro h
  have hexact := h (.sample id) (askedWorld 20) askedInput answerShape_askedInput rfl
  have hanswered : Prog.Succeeds (answer (.sample id) askedInput) (askedWorld 20) :=
    (answer_succeeds_iff answerShape_askedInput rfl).mpr
      ⟨askedWait, askedRun, askedTask, matches_askedInput 20, recordable_askedInput 20⟩
  obtain ⟨wait, run, task, hmatches, expiresAt, hexpires, hlater⟩ := hexact.commits.mp hanswered
  obtain rfl : wait = askedWait :=
    Option.some.inj (hmatches.lockedWait.symm.trans (matches_askedInput 20).lockedWait)
  obtain rfl := Option.some.inj hexpires
  exact absurd hlater (by decide)

end Aico.DurableWait
