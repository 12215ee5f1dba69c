import Aico.Governance.CommandExecutor
import Aico.Governance.DomainEvent

/-!
# Durable waits

`openWait` stops a draft run and its task for a question to the founder,
`answer` records the reply, moves the run to a new context snapshot and makes
the task ready again, and `cancelFixture` ends the run. The answer runs as an
idempotent command.
-/

namespace Aico

structure OpenWaitInput where
  actorId : UuidText
  companyId : UuidText
  runId : UuidText
  taskId : UuidText
  correlationId : UuidText
  expectedRunVersion : ℕ
  injectRollback : Bool

structure AnswerWaitInput where
  actorId : UuidText
  companyId : UuidText
  runId : UuidText
  waitId : UuidText
  requestId : UuidText
  requestVersion : ℕ
  workflowVersion : String
  expectedRunVersion : ℕ
  schemaId : String
  schemaVersion : String
  content : Json
  idempotencyKey : Uuid
  correlationId : UuidText

namespace DurableWait

def conflict (code : String) : DomainError where
  status := 409
  code := code
  detail := "The persisted durability-spike state does not permit this transition."
  remediation := ["refresh_resource"]

def resourceNotFound : DomainError where
  status := 404
  code := "resource_not_found"
  detail := "The requested resource does not exist."

def answerShapeInvalid : DomainError where
  status := 400
  code := "validation_failed"
  detail := "The durability response does not match durable-wait-response/1.0."

/-! ## Reading with a lock -/

def assertFounder (companyId actorId : Uuid) : Op PUnit := do
  let known ← Op.query fun db => db.companies.any fun c =>
    c.id = companyId ∧ c.founderId = actorId
  Prog.ensure (known = true) (.domain resourceNotFound)

def isRun (companyId runId : Uuid) (r : RunRow) : Bool :=
  r.companyId = companyId ∧ r.id = runId

def lockRun (companyId runId : Uuid) : Op RunRow := do
  let run ← Op.query fun db => db.runs.find? (isRun companyId runId)
  Prog.require run (.domain (conflict "run_missing"))

def isTask (companyId runId : Uuid) (taskId : Option Uuid) (t : TaskRow) : Bool :=
  t.companyId = companyId ∧ t.runId = runId ∧ some t.id = taskId

def lockTask (companyId runId : Uuid) (taskId : Option Uuid) : Op TaskRow := do
  let task ← Op.query fun db => db.tasks.find? (isTask companyId runId taskId)
  Prog.require task (.domain (conflict "task_missing"))

def isWait (companyId runId waitId : Uuid) (w : HumanWaitRow) : Bool :=
  w.companyId = companyId ∧ w.runId = runId ∧ w.id = waitId

def lockWait (companyId runId waitId : Uuid) : Op HumanWaitRow := do
  let wait ← Op.query fun db => db.humanWaits.find? (isWait companyId runId waitId)
  Prog.require wait (.domain (conflict "wait_missing"))

/-! ## Opening -/

def awaitingTask (now : Timestamp) (t : TaskRow) : TaskRow :=
  { t with
    state := .awaitingInput
    leaseOwner := none
    leaseToken := none
    leaseExpiresAt := none
    rowVersion := t.rowVersion + 1
    updatedAt := now }

def awaitingRun (now : Timestamp) (r : RunRow) : RunRow :=
  { r with
    state := .awaitingFounderInput
    rowVersion := r.rowVersion + 1
    updatedAt := now }

def humanWaitRow (input : OpenWaitInput) (run : RunRow) (waitId requestId : Uuid)
    (now : Timestamp) : HumanWaitRow where
  id := waitId
  companyId := input.companyId.value
  runId := input.runId.value
  taskId := some input.taskId.value
  workflowVersion := run.workflowVersion
  waitKind := "CLARIFICATION"
  waitVersion := 1
  requestId := requestId
  requestVersion := 1
  expectedRunState := .awaitingFounderInput
  expectedRunRowVersion := run.rowVersion + 1
  resumeRunState := run.state
  contextSnapshotId := run.contextSnapshotId
  responseSchemaId := "durable-wait-response"
  responseSchemaVersion := "1.0"
  reasonCodes := ["AICO_002_DURABILITY_PROBE"]
  status := .opened
  expiresAt := some (now + 86400000)
  createdAt := now
  resolvedAt := none
  resolvedByCommandId := none
  resolvedByEventId := none
  continuationTaskId := none

def inputRequestedEvent (input : OpenWaitInput) (wait : HumanWaitRow) :
    AppendEventOptions where
  companyId := input.companyId
  runId := some input.runId
  type := "founder_input_requested"
  actorType := "SYSTEM"
  actorId := js "durable-wait-spike/v1"
  correlationId := input.correlationId
  payload := .object [("wait_id", .uuid wait.id), ("request_id", .uuid wait.requestId),
    ("request_version", .nat 1), ("wait_version", .nat 1),
    ("workflow_version", .text wait.workflowVersion),
    ("expected_run_state", .text "AWAITING_FOUNDER_INPUT"),
    ("expected_run_version", .nat wait.expectedRunRowVersion),
    ("context_snapshot_id", .uuid wait.contextSnapshotId)]

def openResponse (wait : HumanWaitRow) (eventId : Uuid) : Json :=
  .object [("wait_id", .uuid wait.id), ("request_id", .uuid wait.requestId),
    ("request_version", .nat 1), ("wait_version", .nat 1), ("event_id", .uuid eventId),
    ("run_version", .nat wait.expectedRunRowVersion),
    ("workflow_version", .text wait.workflowVersion),
    ("context_snapshot_id", .uuid wait.contextSnapshotId),
    ("state", .text "AWAITING_FOUNDER_INPUT")]

/-- The constraints on a new wait: a nonempty workflow version and no other open
wait of the run. -/
def waitInsertable (wait : HumanWaitRow) (waits : List HumanWaitRow) : Bool :=
  wait.workflowVersion ≠ "" ∧ ∀ w ∈ waits, w.runId = wait.runId → w.status ≠ .opened

def recordWait (input : OpenWaitInput) (run : RunRow) : Op Json := do
  let waitId ← Op.newId
  let requestId ← Op.newId
  let now ← Op.now
  Op.exec fun db =>
    { db with
      tasks := Table.updateWhere
        (isTask input.companyId.value input.runId.value (some input.taskId.value))
        (awaitingTask now) db.tasks }
  Op.exec fun db =>
    { db with
      runs := Table.updateWhere (isRun input.companyId.value input.runId.value)
        (awaitingRun now) db.runs }
  let wait := humanWaitRow input run waitId requestId now
  let insertable ← Op.query fun db => waitInsertable wait db.humanWaits
  Prog.ensure (insertable = true) (.constraint "human_waits_one_open_per_run")
  Op.exec fun db => { db with humanWaits := db.humanWaits ++ [wait] }
  let eventId ← DomainEvent.append (inputRequestedEvent input wait)
  Prog.ensure (input.injectRollback = false)
    (.error "A2-TX-01 injected rollback before commit")
  pure (openResponse wait eventId)

def openWait (input : OpenWaitInput) : Op Json :=
  Op.transaction do
    assertFounder input.companyId.value input.actorId.value
    let run ← lockRun input.companyId.value input.runId.value
    let task ← lockTask input.companyId.value input.runId.value (some input.taskId.value)
    Prog.ensure (run.rowVersion = input.expectedRunVersion ∧ run.state = .draft)
      (.domain (conflict "wait_open_precondition_failed"))
    Prog.ensure ((task.state = .queued ∨ task.state = .ready) ∧ task.leaseToken = none)
      (.domain (conflict "task_not_waitable"))
    recordWait input run

/-! ## Answering -/

/-- `content?.decision === 'CONTINUE'`. -/
def decisionIsContinue (content : Json) : Bool :=
  match content.field "decision" with
  | some (.str decision) => decision = js "CONTINUE"
  | _ => false

def noteIsBounded (content : Json) : Bool :=
  match content.field "note" with
  | some (.str note) => 1 ≤ note.length ∧ note.length ≤ 200
  | _ => false

/-- `assertAnswerShape`. -/
def answerShape (input : AnswerWaitInput) : Bool :=
  input.schemaId = "durable-wait-response" ∧ input.schemaVersion = "1.0" ∧
    decisionIsContinue input.content ∧ noteIsBounded input.content

def answerable (input : AnswerWaitInput) (wait : HumanWaitRow) (run : RunRow)
    (task : TaskRow) : Bool :=
  wait.status = .opened ∧
  wait.requestId.text = input.requestId.text ∧
  wait.requestVersion = input.requestVersion ∧
  wait.workflowVersion = input.workflowVersion ∧
  wait.responseSchemaId = input.schemaId ∧
  wait.responseSchemaVersion = input.schemaVersion ∧
  run.workflowVersion = wait.workflowVersion ∧
  run.state = wait.expectedRunState ∧
  run.rowVersion = input.expectedRunVersion ∧
  run.rowVersion = wait.expectedRunRowVersion ∧
  run.cancellationRequestedAt = none ∧
  task.state = .awaitingInput ∧
  task.leaseToken = none

structure Expects (input : AnswerWaitInput) (wait : HumanWaitRow) (run : RunRow)
    (task : TaskRow) : Prop where
  opened : wait.status = .opened
  request : wait.requestId.text = input.requestId.text
  requestVersion : wait.requestVersion = input.requestVersion
  workflowVersion : wait.workflowVersion = input.workflowVersion
  schemaId : wait.responseSchemaId = input.schemaId
  schemaVersion : wait.responseSchemaVersion = input.schemaVersion
  runWorkflow : run.workflowVersion = wait.workflowVersion
  runState : run.state = wait.expectedRunState
  runVersion : run.rowVersion = input.expectedRunVersion
  waitVersion : run.rowVersion = wait.expectedRunRowVersion
  uncanceled : run.cancellationRequestedAt = none
  awaiting : task.state = .awaitingInput
  unleased : task.leaseToken = none

theorem answerable_iff {input : AnswerWaitInput} {wait : HumanWaitRow} {run : RunRow}
    {task : TaskRow} : answerable input wait run task = true ↔ Expects input wait run task := by
  rw [answerable, decide_eq_true_iff]
  constructor
  · rintro ⟨h₁, h₂, h₃, h₄, h₅, h₆, h₇, h₈, h₉, h₁₀, h₁₁, h₁₂, h₁₃⟩
    exact ⟨h₁, h₂, h₃, h₄, h₅, h₆, h₇, h₈, h₉, h₁₀, h₁₁, h₁₂, h₁₃⟩
  · rintro ⟨h₁, h₂, h₃, h₄, h₅, h₆, h₇, h₈, h₉, h₁₀, h₁₁, h₁₂, h₁₃⟩
    exact ⟨h₁, h₂, h₃, h₄, h₅, h₆, h₇, h₈, h₉, h₁₀, h₁₁, h₁₂, h₁₃⟩

def answerVersionRow (rt : Runtime) (input : AnswerWaitInput) (wait : HumanWaitRow)
    (answerVersionId : Uuid) (committedAt : Timestamp) :
    ClarificationAnswerVersionRow where
  id := answerVersionId
  companyId := input.companyId.value
  runId := input.runId.value
  waitId := input.waitId.value
  version := 1
  requestId := input.requestId.value
  requestVersion := input.requestVersion
  sourceContextSnapshotId := wait.contextSnapshotId
  responseSchemaId := input.schemaId
  responseSchemaVersion := input.schemaVersion
  content := Json.jsonb input.content
  contentDigest := rt.canonicalDigest input.content
  createdBy := input.actorId.value
  createdAt := committedAt

def resumedSnapshotRow (input : AnswerWaitInput) (source : ContextSnapshotRow)
    (resumedContextSnapshotId answerVersionId : Uuid) (committedAt : Timestamp) :
    ContextSnapshotRow where
  id := resumedContextSnapshotId
  companyId := input.companyId.value
  companyProfileVersionId := source.companyProfileVersionId
  goalVersionId := source.goalVersionId
  answerVersionIds := source.answerVersionIds ++ [answerVersionId]
  createdAt := committedAt

def resumedManifest (wait : HumanWaitRow) (snapshot : ContextSnapshotRow) : Json :=
  .object [("context_snapshot_id", .uuid snapshot.id),
    ("answer_version_ids", .arr (snapshot.answerVersionIds.map .uuid)),
    ("wait_id", .uuid wait.id), ("wait_version", .nat 1),
    ("workflow_version", .text wait.workflowVersion)]

def readyTask (wait : HumanWaitRow) (snapshot : ContextSnapshotRow) (now : Timestamp)
    (t : TaskRow) : TaskRow :=
  { t with
    state := .ready
    availableAt := now
    leaseOwner := none
    leaseToken := none
    leaseExpiresAt := none
    rowVersion := t.rowVersion + 1
    updatedAt := now
    inputManifest := Json.concat t.inputManifest (resumedManifest wait snapshot) }

def resumedRun (wait : HumanWaitRow) (snapshot : ContextSnapshotRow) (now : Timestamp)
    (r : RunRow) : RunRow :=
  { r with
    state := wait.resumeRunState
    contextSnapshotId := snapshot.id
    rowVersion := r.rowVersion + 1
    updatedAt := now }

def inputResolvedEvent (input : AnswerWaitInput) (wait : HumanWaitRow)
    (answerVersionId resumedContextSnapshotId : Uuid) : AppendEventOptions where
  companyId := input.companyId
  runId := some input.runId
  type := "founder_input_resolved"
  actorType := "FOUNDER"
  actorId := input.actorId.text
  correlationId := input.correlationId
  causationId := some input.waitId
  payload := .object [("wait_id", input.waitId.toJson), ("wait_version", .nat 1),
    ("request_id", input.requestId.toJson),
    ("request_version", .nat input.requestVersion),
    ("answer_version_id", .uuid answerVersionId),
    ("continuation_task_id", Json.orNull .uuid wait.taskId),
    ("source_context_snapshot_id", .uuid wait.contextSnapshotId),
    ("resumed_context_snapshot_id", .uuid resumedContextSnapshotId),
    ("workflow_version", .text wait.workflowVersion),
    ("resumed_state", .text wait.resumeRunState.text)]

def resolvedWait (input : AnswerWaitInput) (eventId : Uuid) (committedAt : Timestamp)
    (w : HumanWaitRow) : HumanWaitRow :=
  { w with
    status := .resolved
    resolvedAt := some committedAt
    resolvedByCommandId := some input.idempotencyKey
    resolvedByEventId := some eventId
    continuationTaskId := w.taskId }

def answerBody (input : AnswerWaitInput) (wait : HumanWaitRow) (run : RunRow)
    (answerVersionId eventId resumedContextSnapshotId : Uuid) (committedAt : Timestamp) :
    Json :=
  .object [("wait_id", input.waitId.toJson), ("wait_version", .nat 1),
    ("answer_version_id", .uuid answerVersionId),
    ("continuation_task_id", Json.orNull .uuid wait.taskId), ("event_id", .uuid eventId),
    ("context_snapshot_id", .uuid resumedContextSnapshotId),
    ("run_version", .nat (run.rowVersion + 1)),
    ("workflow_version", .text wait.workflowVersion), ("committed_at", .time committedAt)]

/-- Write the answer, the snapshot and the transitions it causes. -/
def recordAnswer (rt : Runtime) (input : AnswerWaitInput) (wait : HumanWaitRow)
    (run : RunRow) : Op CommandResponse := do
  let companyId := input.companyId.value
  let runId := input.runId.value
  let answerVersionId ← Op.newId
  let resumedContextSnapshotId ← Op.newId
  let committedAt ← Op.now
  let sources ← Op.query fun db => db.contextSnapshots.filter fun cs =>
    cs.companyId = companyId ∧ cs.id = wait.contextSnapshotId
  let source ← Prog.require sources.head? (.domain (conflict "wait_context_missing"))
  Prog.ensure (Json.storable input.content = true) (.error "unsupported Unicode escape sequence")
  let answered ← Op.query fun db => db.clarificationAnswerVersions.any fun a =>
    a.waitId = input.waitId.value
  Prog.ensure (answered = false) (.constraint "clarification_answer_versions_wait_id_key")
  Op.exec fun db =>
    { db with
      clarificationAnswerVersions := db.clarificationAnswerVersions ++
        [answerVersionRow rt input wait answerVersionId committedAt] }
  let snapshot :=
    resumedSnapshotRow input source resumedContextSnapshotId answerVersionId committedAt
  Op.exec fun db => { db with contextSnapshots := db.contextSnapshots ++ [snapshot] }
  Op.exec fun db =>
    { db with
      contextSnapshotAnswers := db.contextSnapshotAnswers ++
        [{ companyId := companyId
           contextSnapshotId := resumedContextSnapshotId
           answerVersionId := answerVersionId
           ordinal := snapshot.answerVersionIds.length - 1 }] }
  Op.exec fun db =>
    { db with
      tasks := Table.updateWhere (isTask companyId runId wait.taskId)
        (readyTask wait snapshot committedAt) db.tasks }
  Op.exec fun db =>
    { db with
      runs := Table.updateWhere (isRun companyId runId)
        (resumedRun wait snapshot committedAt) db.runs }
  let eventId ← DomainEvent.append
    (inputResolvedEvent input wait answerVersionId resumedContextSnapshotId)
  Op.exec fun db =>
    { db with
      humanWaits := Table.updateWhere
        (fun w => isWait companyId runId input.waitId.value w ∧ w.status = .opened)
        (resolvedWait input eventId committedAt) db.humanWaits }
  pure
    { status := 202
      body := answerBody input wait run answerVersionId eventId resumedContextSnapshotId
        committedAt }

/-- The callback of `answer`. -/
def resolveWait (rt : Runtime) (input : AnswerWaitInput) : Op CommandResponse := do
  assertFounder input.companyId.value input.actorId.value
  let wait ← lockWait input.companyId.value input.runId.value input.waitId.value
  let run ← lockRun input.companyId.value input.runId.value
  let task ← lockTask input.companyId.value input.runId.value wait.taskId
  Prog.ensure (answerable input wait run task = true)
    (.domain (conflict "wait_state_conflict"))
  recordAnswer rt input wait run

def answerRequest (input : AnswerWaitInput) : Json :=
  .object [("companyId", input.companyId.toJson), ("runId", input.runId.toJson),
    ("waitId", input.waitId.toJson), ("requestId", input.requestId.toJson),
    ("requestVersion", .nat input.requestVersion),
    ("workflowVersion", .text input.workflowVersion),
    ("expectedRunVersion", .nat input.expectedRunVersion),
    ("schemaId", .text input.schemaId), ("schemaVersion", .text input.schemaVersion),
    ("content", input.content)]

def answer (rt : Runtime) (input : AnswerWaitInput) : Op CommandResult := do
  Prog.ensure (answerShape input = true) (.domain answerShapeInvalid)
  CommandExecutor.run rt
    { actorId := input.actorId.value
      operation := "durability-spike.wait.answer"
      idempotencyKey := input.idempotencyKey
      request := answerRequest input
      execute := resolveWait rt input }

/-! ## Canceling -/

/-- `state NOT IN ('SUCCEEDED', 'FAILED', 'CANCELED')`. -/
def cancelable : TaskState → Bool
  | .succeeded | .failed | .canceled => false
  | _ => true

def canceledWait (now : Timestamp) (w : HumanWaitRow) : HumanWaitRow :=
  { w with
    status := .canceled
    resolvedAt := some now }

def canceledTask (now : Timestamp) (t : TaskRow) : TaskRow :=
  { t with
    state := .canceled
    leaseOwner := none
    leaseToken := none
    leaseExpiresAt := none
    completedAt := some now
    rowVersion := t.rowVersion + 1
    updatedAt := now }

def canceledRun (now : Timestamp) (r : RunRow) : RunRow :=
  { r with
    state := .canceled
    stage := .terminal
    cancellationRequestedAt := some now
    rowVersion := r.rowVersion + 1
    updatedAt := now }

def cancelEvent (companyId runId : UuidText) (actorId : JsString)
    (correlationId : UuidText) (priorState : RunState) : AppendEventOptions where
  companyId := companyId
  runId := some runId
  type := "durability_cancel_probe"
  actorType := "FOUNDER"
  actorId := actorId
  correlationId := correlationId
  payload := .object [("prior_state", .text priorState.text), ("state", .text "CANCELED")]

def cancelFixture (companyId runId : UuidText) (actorId : JsString)
    (correlationId : UuidText) : Op Json :=
  Op.transaction do
    let run ← lockRun companyId.value runId.value
    Prog.ensure (run.state.isTerminal = false) (.domain (conflict "run_terminal"))
    let now ← Op.now
    Op.exec fun db =>
      { db with
        humanWaits := Table.updateWhere
          (fun w => w.companyId = companyId.value ∧ w.runId = runId.value ∧
            w.status = .opened)
          (canceledWait now) db.humanWaits }
    Op.exec fun db =>
      { db with
        tasks := Table.updateWhere
          (fun t => t.companyId = companyId.value ∧ t.runId = runId.value ∧
            cancelable t.state)
          (canceledTask now) db.tasks }
    Op.exec fun db =>
      { db with
        runs := Table.updateWhere (isRun companyId.value runId.value)
          (canceledRun now) db.runs }
    let eventId ← DomainEvent.append
      (cancelEvent companyId runId actorId correlationId run.state)
    pure (.object [("run_id", runId.toJson), ("event_id", .uuid eventId),
      ("state", .text "CANCELED")])

end DurableWait

end Aico
