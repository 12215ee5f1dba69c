import Aico.Attachments.Attachments
import Aico.Initiatives.Goal

/-!
# Initiatives

`create` opens an initiative, `createGoalAndRun` adds a goal version to it and
starts a run: the context snapshot, the run with its event counter and budget,
the first task unless the goal needs clarification, and two events, all in the
transaction of one command.
-/

namespace Aico

/-- The parameters the services are configured with. -/
structure Services where
  runtime : Runtime
  workflowVersion : String
  evaluateGoalQualification : StructuredGoalDto → GoalQualification

structure CreateInitiativeDto where
  type : String
  title : JsString

def pmEmployeeDefinitionId : Uuid := 0x019c0000000070008000000000000001

namespace Initiatives

def activeInitiativeExists : DomainError where
  status := 409
  code := "active_initiative_exists"
  title := "An active Prototype Initiative already exists"
  detail := "The MVP permits one non-terminal Prototype Initiative per company."
  remediation := ["get_active_initiative"]

def companyNotFound : DomainError where
  status := 404
  code := "resource_not_found"
  title := "Company not found"
  detail := "Provision a company before creating an initiative."
  remediation := ["create_company"]

def resourceNotFound : DomainError where
  status := 404
  code := "resource_not_found"
  title := "Resource not found"
  detail := "The requested resource does not exist."

def initiativeChanged : DomainError where
  status := 412
  code := "precondition_failed"
  title := "The initiative changed"
  detail := "Refresh the initiative and retry with its current ETag."
  remediation := ["refresh_resource", "retry_command"]

def initiativeResponse (row : InitiativeRow) : Json :=
  .object [("id", .uuid row.id), ("type", .text row.type), ("title", .str row.title),
    ("status", .text row.status.text),
    ("current_goal_version", Json.orNull .uuid row.currentGoalVersionId),
    ("row_version", .nat row.rowVersion), ("created_at", .time row.createdAt)]

def isActivePrototype (companyId : Uuid) (i : InitiativeRow) : Bool :=
  i.companyId = companyId ∧ i.type = "PROTOTYPE" ∧ i.status.isOpen

/-- `ORDER BY created_at DESC, id DESC`: whether `i` stands before `j`. -/
def newer (i j : InitiativeRow) : Bool :=
  j.createdAt < i.createdAt ∨ (i.createdAt = j.createdAt ∧ j.id ≤ i.id)

def getCurrent (actor : RequestActor) : Op Json := do
  let companyId ← companyScopeFromActor actor
  let rows ← Op.query fun db =>
    (db.initiatives.filter (isActivePrototype companyId)).insertionSort
      fun i j => newer i j
  let row ← Prog.require rows.head? (.domain resourceNotFound)
  pure (initiativeResponse row)

/-! ## Opening an initiative -/

def initiativeRow (companyId initiativeId : Uuid) (title : JsString) (now : Timestamp) :
    InitiativeRow where
  id := initiativeId
  companyId := companyId
  type := "PROTOTYPE"
  title := title
  status := .draft
  currentGoalVersionId := none
  rowVersion := 1
  createdAt := now
  updatedAt := now

def initiativeCreatedEvent (companyId : Uuid) (actor : RequestActor)
    (correlationId : UuidText) (initiativeId : Uuid) : AppendEventOptions where
  companyId := .ofUuid companyId
  runId := none
  type := "initiative_created"
  actorType := "FOUNDER"
  actorId := actor.id.text
  correlationId := correlationId
  payload := .object [("initiative_id", .uuid initiativeId), ("type", .text "PROTOTYPE"),
    ("status", .text "DRAFT")]

/-- The callback of `create`. -/
def openInitiative (companyId : Uuid) (actor : RequestActor) (correlationId : UuidText)
    (dto : CreateInitiativeDto) : Op CommandResponse := do
  let existing ← Op.query fun db => db.initiatives.filter (isActivePrototype companyId)
  Prog.ensure (existing = []) (.domain activeInitiativeExists)
  let initiativeId ← Op.newId
  let title := dto.title.trim
  let now ← Op.now
  Prog.ensure (3 ≤ title.charLength ∧ title.charLength ≤ 160)
    (.constraint "initiatives_title_check")
  Op.exec fun db =>
    { db with
      initiatives := db.initiatives ++ [initiativeRow companyId initiativeId title now] }
  let _ ← DomainEvent.append
    (initiativeCreatedEvent companyId actor correlationId initiativeId)
  pure
    { status := 201
      body := initiativeResponse (initiativeRow companyId initiativeId title now) }

/-- A lost race for the one active initiative is reported like a found one. -/
def mapUniqueViolation (failure : Failure) : Failure :=
  match failure with
  | .constraint "initiatives_one_active_prototype" => .domain activeInitiativeExists
  | failure => failure

def create (rt : Runtime) (actor : RequestActor) (idempotencyKey : Uuid)
    (correlationId : UuidText) (dto : CreateInitiativeDto) : Op CommandResult := do
  let companyId ← Prog.require actor.companyId (.domain companyNotFound)
  Prog.catchError
    (CommandExecutor.run rt
      { actorId := actor.id
        operation := "initiatives.create"
        idempotencyKey := idempotencyKey
        request := .object [("type", .text dto.type), ("title", .str dto.title)]
        execute := openInitiative companyId actor correlationId dto })
    fun failure => Prog.throw (mapUniqueViolation failure)

/-! ## Starting a run -/

/-- The identifiers `createGoalAndRun` draws. A goal that needs clarification
has no task. -/
structure RunIds where
  goalVersionId : Uuid
  contextSnapshotId : Uuid
  runId : Uuid
  taskId : Option Uuid
  qualificationId : Uuid

def drawRunIds (needsClarification : Bool) : Op RunIds := do
  let goalVersionId ← Op.newId
  let contextSnapshotId ← Op.newId
  let runId ← Op.newId
  if needsClarification then do
    let qualificationId ← Op.newId
    pure ⟨goalVersionId, contextSnapshotId, runId, none, qualificationId⟩
  else do
    let taskId ← Op.newId
    let qualificationId ← Op.newId
    pure ⟨goalVersionId, contextSnapshotId, runId, some taskId, qualificationId⟩

def goalVersionRow (companyId initiativeId : Uuid) (actor : RequestActor) (ids : RunIds)
    (version : ℕ) (dto : CreateGoalDto) (now : Timestamp) : GoalVersionRow where
  id := ids.goalVersionId
  companyId := companyId
  initiativeId := initiativeId
  version := version
  schemaVersion := dto.schemaVersion
  structuredGoal := Json.jsonb (canonicalStructuredGoal dto.goal)
  attachmentIds := .arr (dto.attachmentIds.map UuidText.toJson)
  createdBy := actor.id
  createdAt := now

def contextSnapshotRow (companyId : Uuid) (ids : RunIds) (profileVersionId : Uuid)
    (now : Timestamp) : ContextSnapshotRow where
  id := ids.contextSnapshotId
  companyId := companyId
  companyProfileVersionId := profileVersionId
  goalVersionId := ids.goalVersionId
  answerVersionIds := []
  createdAt := now

def initialRunState (needsClarification : Bool) : RunState :=
  if needsClarification then .awaitingFounderInput else .draft

def blockingReason (needsClarification : Bool) : Option String :=
  if needsClarification then some "GOAL_NEEDS_CLARIFICATION" else none

def runRow (services : Services) (companyId initiativeId : Uuid) (ids : RunIds)
    (needsClarification : Bool) (now : Timestamp) : RunRow where
  id := ids.runId
  companyId := companyId
  initiativeId := initiativeId
  contextSnapshotId := ids.contextSnapshotId
  state := initialRunState needsClarification
  stage := .intake
  rowVersion := 1
  workflowVersion := services.workflowVersion
  policyVersion := "mvp-v1"
  blockingReasonCode := blockingReason needsClarification
  failureReasonCode := none
  cancellationRequestedAt := none
  createdAt := now
  updatedAt := now

def taskRow (services : Services) (companyId : Uuid) (ids : RunIds)
    (profileVersionId : Uuid) (now : Timestamp) (taskId : Uuid) : TaskRow where
  id := taskId
  companyId := companyId
  runId := ids.runId
  type := "CREATE_PRODUCT_BRIEF"
  ownerEmployeeDefinitionId := some pmEmployeeDefinitionId
  state := .queued
  priority := 100
  inputManifest := Json.jsonb (.object
    [("context_snapshot_id", .uuid ids.contextSnapshotId),
      ("company_profile_version_id", .uuid profileVersionId),
      ("goal_version_id", .uuid ids.goalVersionId),
      ("workflow_version", .text services.workflowVersion),
      ("policy_version", .text "mvp-v1")])
  attemptCount := 0
  rowVersion := 1
  leaseOwner := none
  leaseToken := none
  leaseExpiresAt := none
  availableAt := now
  blockerCode := none
  createdAt := now
  updatedAt := now
  completedAt := none

def qualificationRow (companyId initiativeId : Uuid) (ids : RunIds)
    (qualification : GoalQualification) : GoalQualificationRow where
  id := ids.qualificationId
  companyId := companyId
  initiativeId := initiativeId
  goalVersionId := ids.goalVersionId
  runId := some ids.runId
  result := qualification.result.text
  reasonCodes := qualification.reasonCodes
  explanation := qualification.explanation
  proposal := qualification.proposal
  clarificationQuestions :=
    Json.jsonb (.arr (qualification.clarificationQuestions.map ClarificationQuestion.toJson))
  screenEstimate := qualification.screenEstimate
  policyVersion := qualification.policyVersion

def qualificationCheck (qualification : GoalQualification) : Bool :=
  (if qualification.result = .outOfScope then qualification.proposal.any (· ≠ "")
    else qualification.proposal.isNone) &&
  (if qualification.result = .needsClarification then
      1 ≤ qualification.clarificationQuestions.length ∧
        qualification.clarificationQuestions.length ≤ 5
    else qualification.clarificationQuestions.length = 0)

def budgetLedgerRows (companyId runId : Uuid) : List BudgetLedgerRow :=
  [{ companyId := companyId, runId := runId, category := "MODEL_TOKENS",
     hardLimit := 20000 },
   { companyId := companyId, runId := runId, category := "MODEL_COST_MINOR",
     hardLimit := 500 }]

def runCreatedEvent (companyId : Uuid) (initiativeId : UuidText) (actor : RequestActor)
    (correlationId : UuidText) (ids : RunIds) (needsClarification : Bool) :
    AppendEventOptions where
  companyId := .ofUuid companyId
  runId := some (.ofUuid ids.runId)
  type := "run_created"
  actorType := "FOUNDER"
  actorId := actor.id.text
  correlationId := correlationId
  payload := .object [("initiative_id", initiativeId.toJson),
    ("goal_version_id", .uuid ids.goalVersionId),
    ("context_snapshot_id", .uuid ids.contextSnapshotId),
    ("initial_task_id", Json.orNull .uuid ids.taskId),
    ("state", .text (initialRunState needsClarification).text),
    ("stage", .text "INTAKE")]

def goalQualificationRecordedEvent (companyId : Uuid) (correlationId : UuidText)
    (ids : RunIds) (qualification : GoalQualification) : AppendEventOptions where
  companyId := .ofUuid companyId
  runId := some (.ofUuid ids.runId)
  type := "goal_qualification_recorded"
  actorType := "SYSTEM"
  actorId := js "goal-qualification/v1"
  correlationId := correlationId
  payload := .object [("goal_version_id", .uuid ids.goalVersionId),
    ("qualification_id", .uuid ids.qualificationId),
    ("result", .text qualification.result.text),
    ("reason_codes", .arr (qualification.reasonCodes.map .text)),
    ("screen_estimate", .nat qualification.screenEstimate),
    ("policy_version", .text qualification.policyVersion),
    ("question_count", .nat qualification.clarificationQuestions.length)]

def goalAndRunBody (services : Services) (ids : RunIds) (version : ℕ)
    (qualification : GoalQualification) (needsClarification : Bool) (now : Timestamp) :
    Json :=
  .object [("goal_version", .object [("id", .uuid ids.goalVersionId),
      ("version", .nat version), ("schema_version", .nat 1),
      ("created_by", .text "FOUNDER"), ("created_at", .time now)]),
    ("qualification", publicGoalQualification qualification),
    ("run", .object [("id", .uuid ids.runId),
      ("state", .text (initialRunState needsClarification).text),
      ("stage", .text "INTAKE"), ("version", .nat 1),
      ("context_snapshot_id", .uuid ids.contextSnapshotId),
      ("workflow_version", .text services.workflowVersion),
      ("policy_version", .text "mvp-v1"),
      ("blocking_reason_code",
        Json.orNull .text (blockingReason needsClarification))])]

/-- `COALESCE(MAX(version), 0) + 1`. -/
def nextGoalVersion (companyId initiativeId : Uuid) (rows : List GoalVersionRow) : ℕ :=
  ((rows.filter fun g => g.companyId = companyId ∧ g.initiativeId = initiativeId).map
    GoalVersionRow.version).foldl max 0 + 1

def insertRun (services : Services) (companyId initiativeId : Uuid) (ids : RunIds)
    (profileVersionId : Uuid) (qualification : GoalQualification)
    (needsClarification : Bool) (now : Timestamp) : Op PUnit := do
  Op.exec fun db =>
    { db with
      contextSnapshots := db.contextSnapshots ++
        [contextSnapshotRow companyId ids profileVersionId now] }
  Op.exec fun db =>
    { db with
      runs := db.runs ++ [runRow services companyId initiativeId ids needsClarification now] }
  Op.exec fun db =>
    { db with
      runEventCounters := db.runEventCounters ++
        [{ companyId := companyId, runId := ids.runId, nextSequence := 1 }] }
  Op.exec fun db =>
    { db with
      tasks := db.tasks ++
        ids.taskId.toList.map (taskRow services companyId ids profileVersionId now) }
  Prog.ensure (qualificationCheck qualification = true)
    (.constraint "goal_qualifications_check")
  Op.exec fun db =>
    { db with
      goalQualifications := db.goalQualifications ++
        [qualificationRow companyId initiativeId ids qualification] }
  Op.exec fun db =>
    { db with
      budgetLedgers := db.budgetLedgers ++ budgetLedgerRows companyId ids.runId }

/-- The callback of `createGoalAndRun`. -/
def startRun (services : Services) (companyId : Uuid) (actor : RequestActor)
    (initiativeId : UuidText) (expectedVersion : ℕ) (correlationId : UuidText)
    (dto : CreateGoalDto) (qualification : GoalQualification) : Op CommandResponse := do
  let needsClarification := decide (qualification.result = .needsClarification)
  let initiativeRows ← Op.query fun db => db.initiatives.filter fun i =>
    i.companyId = companyId ∧ i.id = initiativeId.value ∧ i.status.isOpen
  let initiative ← Prog.require initiativeRows.head? (.domain resourceNotFound)
  Prog.ensure (initiative.rowVersion = expectedVersion) (.domain initiativeChanged)
  let profileRows ← Op.query fun db =>
    (db.companies.filter fun c => c.id = companyId ∧ c.founderId = actor.id).map
      CompanyRow.currentProfileVersionId
  let version ← Op.query fun db =>
    nextGoalVersion companyId initiativeId.value db.goalVersions
  let ids ← drawRunIds needsClarification
  let now ← Op.now
  let versionTaken ← Op.query fun db => db.goalVersions.any fun g =>
    g.initiativeId = initiativeId.value ∧ g.version = version
  Prog.ensure (versionTaken = false)
    (.constraint "goal_versions_initiative_id_version_key")
  Op.exec fun db =>
    { db with
      goalVersions := db.goalVersions ++
        [goalVersionRow companyId initiativeId.value actor ids version dto now] }
  Attachments.bindToGoalVersion companyId ids.goalVersionId dto.attachmentIds
  Op.exec fun db =>
    { db with
      initiatives := Table.updateWhere
        (fun i => i.companyId = companyId ∧ i.id = initiativeId.value)
        (fun i =>
          { i with
            currentGoalVersionId := some ids.goalVersionId
            status := .active
            rowVersion := i.rowVersion + 1
            updatedAt := now })
        db.initiatives }
  let profileVersion ← Prog.require profileRows.head? .typeError
  let profileVersionId ← Prog.require profileVersion
    (.constraint "context_snapshots_company_profile_version_id_not_null")
  insertRun services companyId initiativeId.value ids profileVersionId qualification
    needsClarification now
  let _ ← DomainEvent.append
    (runCreatedEvent companyId initiativeId actor correlationId ids needsClarification)
  let _ ← DomainEvent.append
    (goalQualificationRecordedEvent companyId correlationId ids qualification)
  pure
    { status := 201
      body := goalAndRunBody services ids version qualification needsClarification now }

def createGoalAndRun (services : Services) (actor : RequestActor)
    (initiativeId : UuidText) (expectedVersion : ℕ) (idempotencyKey : Uuid)
    (correlationId : UuidText) (dto : CreateGoalDto) : Op CommandResult := do
  let companyId ← Prog.require actor.companyId (.domain companyNotFound)
  let qualification ←
    GoalScopePolicy.evaluate services.evaluateGoalQualification dto
  Prog.ensure (qualification.result ≠ .outOfScope)
    (.domain (GoalScopePolicy.toOutOfScopeError qualification))
  CommandExecutor.run services.runtime
    { actorId := actor.id
      operation := "initiatives.goals.create_and_start"
      idempotencyKey := idempotencyKey
      request := .object [("initiativeId", initiativeId.toJson),
        ("expectedVersion", .nat expectedVersion), ("dto", dto.toJson)]
      execute := startRun services companyId actor initiativeId expectedVersion
        correlationId dto qualification }

end Initiatives

end Aico
