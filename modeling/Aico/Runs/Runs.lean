import Mathlib.Data.List.Sort
import Mathlib.Data.List.Dedup
import Aico.Common.CompanyScope
import Aico.Governance.DomainEvent

/-!
# Reading runs

What a founder reads of a run: the run with its frozen context (`get`), its tasks
(`tasks`) and its events, a page at a time (`events`). Every query selects by the
company of the actor, and a run of another company is answered like a run that
does not exist. `rows` holds the queries, one list of rows each.
-/

namespace Aico

structure RunView where
  run : RunRow
  snapshot : ContextSnapshotRow
  profile : CompanyProfileVersionRow
  goal : GoalVersionRow
  qualification : Option GoalQualificationRow

structure TaskQueryDto where
  limit : ℕ := 50
  state : Option TaskState := none
  type : Option String := none
  limit_pos : 1 ≤ limit := by decide
  limit_le : limit ≤ 100 := by decide

structure EventQueryDto where
  afterSequence : ℕ := 0
  limit : ℕ := 100
  type : Option String := none
  limit_pos : 1 ≤ limit := by decide
  limit_le : limit ≤ 200 := by decide

/-- An event as a page shows it. -/
structure ProjectedEvent where
  eventId : Uuid
  schemaVersion : ℕ
  type : String
  runSequence : ℕ
  actor : EnvelopeActor
  occurredAt : Timestamp
  correlationId : Uuid
  causationId : Option Uuid
  audience : String
  payload : Json

structure EventsPage where
  events : List ProjectedEvent
  hasMore : Bool

namespace Runs

/-- The rows of a `LEFT JOIN`. -/
def leftJoin {α : Type} : List α → List (Option α)
  | [] => [none]
  | rows => rows.map some

/-- An absent filter and an empty one select everything. -/
def matchesFilter (filter : Option String) (value : String) : Bool :=
  filter.all fun text => text = "" ∨ value = text

def notFound : DomainError where
  status := 404
  code := "resource_not_found"
  title := "Resource not found"
  detail := "The requested resource does not exist."

def deletionDenied : DomainError where
  status := 403
  code := "action_denied"
  title := "The action is not allowed"
  detail := "Run deletion is not available in this release."

def isRun (companyId runId : Uuid) (r : RunRow) : Bool :=
  r.companyId = companyId ∧ r.id = runId

def assertRun (companyId runId : Uuid) : Op PUnit := do
  let known ← Op.query fun db => db.runs.any (isRun companyId runId)
  Prog.ensure (known = true) (.domain notFound)

/-! ## A run and its context -/

def runViews (companyId runId : Uuid) (db : Db) : List RunView :=
  (db.runs.filter (isRun companyId runId)).flatMap fun r =>
    (db.contextSnapshots.filter fun cs =>
      cs.id = r.contextSnapshotId ∧ cs.companyId = r.companyId).flatMap fun cs =>
      (db.companyProfileVersions.filter fun p =>
        p.id = cs.companyProfileVersionId ∧ p.companyId = r.companyId).flatMap fun p =>
        (db.goalVersions.filter fun gv =>
          gv.id = cs.goalVersionId ∧ gv.companyId = r.companyId).flatMap fun gv =>
          (leftJoin (db.goalQualifications.filter fun q =>
            q.companyId = r.companyId ∧ q.goalVersionId = gv.id)).map fun q =>
            { run := r, snapshot := cs, profile := p, goal := gv, qualification := q }

/-- `ORDER BY gva.ordinal, o.id`. -/
def attachmentOrder (a b : GoalVersionAttachmentRow × ObjectRecordRow) : Bool :=
  a.1.ordinal < b.1.ordinal ∨ (a.1.ordinal = b.1.ordinal ∧ a.2.id ≤ b.2.id)

def attachments (companyId goalVersionId : Uuid) (db : Db) : List ObjectRecordRow :=
  (((db.goalVersionAttachments.filter fun gva =>
      gva.companyId = companyId ∧ gva.goalVersionId = goalVersionId).flatMap fun gva =>
      (db.objectRecords.filter fun o =>
        o.companyId = gva.companyId ∧ o.id = gva.objectId).map fun o => (gva, o)).insertionSort
    fun a b => attachmentOrder a b).map Prod.snd

/-- The states of the tasks of a run with the number of tasks in each. -/
def taskCounts (companyId runId : Uuid) (db : Db) : List (TaskState × ℕ) :=
  let states := (db.tasks.filter fun t =>
    t.companyId = companyId ∧ t.runId = runId).map TaskRow.state
  states.dedup.map fun state => (state, states.count state)

def profileJson (p : CompanyProfileVersionRow) : Json :=
  .object [("id", .uuid p.id), ("version", .nat p.version), ("purpose", .str p.purpose),
    ("target_customer", .str p.targetCustomer), ("constraints", p.constraints),
    ("normalized_limits", p.normalizedLimits), ("created_at", .time p.createdAt)]

def goalJson (gv : GoalVersionRow) : Json :=
  .object [("id", .uuid gv.id), ("version", .nat gv.version),
    ("schema_version", .nat gv.schemaVersion), ("structured_goal", gv.structuredGoal),
    ("created_by", .text "FOUNDER"), ("created_at", .time gv.createdAt)]

def attachmentJson (o : ObjectRecordRow) : Json :=
  .object [("id", .uuid o.id), ("media_type", Json.orNull .text o.detectedMediaType),
    ("size_bytes", .nat o.sizeBytes), ("checksum_sha256", .str o.checksumSha256),
    ("filename", Json.orNull .str o.originalFilename)]

def contextJson (view : RunView) (attachments : List ObjectRecordRow) : Json :=
  .object [("company_profile_version_id", .uuid view.snapshot.companyProfileVersionId),
    ("goal_version_id", .uuid view.snapshot.goalVersionId),
    ("answer_version_ids", .arr (view.snapshot.answerVersionIds.map .uuid)),
    ("company_profile", profileJson view.profile), ("goal", goalJson view.goal),
    ("attachments", .arr (attachments.map attachmentJson))]

def qualificationJson : Option GoalQualificationRow → Json
  | none => .null
  | some q =>
      if q.result = "" then .null
      else .object [("result", .text q.result),
        ("reason_codes", .arr (q.reasonCodes.map .text)), ("explanation", .text q.explanation),
        ("proposal", Json.orNull .text q.proposal),
        ("clarification_questions",
          match q.clarificationQuestions with
          | .null => .arr []
          | questions => questions),
        ("screen_estimate", .nat q.screenEstimate), ("policy_version", .text q.policyVersion)]

def runJson (view : RunView) (counts : List (TaskState × ℕ))
    (attachments : List ObjectRecordRow) : Json :=
  .object [("id", .uuid view.run.id), ("initiative_id", .uuid view.run.initiativeId),
    ("state", .text view.run.state.text), ("stage", .text view.run.stage.text),
    ("version", .nat view.run.rowVersion), ("workflow_version", .text view.run.workflowVersion),
    ("policy_version", .text view.run.policyVersion), ("context", contextJson view attachments),
    ("qualification", qualificationJson view.qualification),
    ("summary", .object [
      ("task_counts", .object (counts.map fun entry => (entry.1.text, .nat entry.2))),
      ("pending_decisions", .nat (if view.run.state.isAwaiting then 1 else 0)),
      ("blocking_reason",
        Json.orNull .text (view.run.blockingReasonCode.or view.run.failureReasonCode))]),
    ("created_at", .time view.run.createdAt), ("updated_at", .time view.run.updatedAt)]

def get (actor : RequestActor) (runId : UuidText) : Op Json := do
  let companyId ← companyScopeFromActor actor
  let rows ← Op.query (runViews companyId runId.value)
  let view ← Prog.require rows.head? (.domain notFound)
  let counts ← Op.query (taskCounts companyId runId.value)
  let objects ← Op.query (attachments companyId view.snapshot.goalVersionId)
  pure (runJson view counts objects)

/-! ## Tasks -/

/-- `ORDER BY t.created_at, t.id`. -/
def taskOrder (t u : TaskRow) : Bool :=
  t.createdAt < u.createdAt ∨ (t.createdAt = u.createdAt ∧ t.id ≤ u.id)

def taskRows (companyId runId : Uuid) (query : TaskQueryDto) (db : Db) :
    List (TaskRow × Option EmployeeDefinitionRow) :=
  ((((db.tasks.filter fun t =>
      t.companyId = companyId ∧ t.runId = runId ∧ query.state.all (fun state => t.state = state) ∧
        matchesFilter query.type t.type).flatMap fun t =>
      (leftJoin (db.employeeDefinitions.filter fun e =>
        some e.id = t.ownerEmployeeDefinitionId)).map fun e => (t, e)).insertionSort
    fun a b => taskOrder a.1 b.1).take query.limit)

def taskJson (row : TaskRow × Option EmployeeDefinitionRow) : Json :=
  let t := row.1
  .object [("id", .uuid t.id), ("type", .text t.type), ("state", .text t.state.text),
    ("priority", .int t.priority), ("attempt_count", .nat t.attemptCount),
    ("row_version", .nat t.rowVersion), ("blocker_code", Json.orNull .text t.blockerCode),
    ("created_at", .time t.createdAt), ("updated_at", .time t.updatedAt),
    ("completed_at", Json.orNull .time t.completedAt),
    ("employee_key", Json.orNull .text (row.2.map EmployeeDefinitionRow.employeeKey)),
    ("employee_version", Json.orNull .nat (row.2.map EmployeeDefinitionRow.version))]

def tasks (actor : RequestActor) (runId : UuidText) (query : TaskQueryDto) : Op Json := do
  let companyId ← companyScopeFromActor actor
  assertRun companyId runId.value
  let rows ← Op.query (taskRows companyId runId.value query)
  pure (.arr (rows.map taskJson))

/-! ## Events -/

def isSelected (companyId runId : Uuid) (afterSequence : ℕ) (type : Option String)
    (e : EventRow) : Bool :=
  e.companyId = companyId ∧ e.runId = some runId ∧
    (e.runSequence.any fun sequence => afterSequence < sequence) ∧ matchesFilter type e.type

/-- `ORDER BY run_sequence`; a selected event has one. -/
def sequenceOrder (e e' : EventRow) : Bool :=
  e.runSequence.getD 0 ≤ e'.runSequence.getD 0

/-- `LIMIT limit + 1`. -/
def eventRows (companyId runId : Uuid) (query : EventQueryDto) (db : Db) : List EventRow :=
  ((db.events.filter (isSelected companyId runId query.afterSequence query.type)).insertionSort
    fun e e' => sequenceOrder e e').take (query.limit + 1)

def projected (e : EventRow) : ProjectedEvent where
  eventId := e.id
  schemaVersion := e.schemaVersion
  type := e.type
  runSequence := parseInt (e.runSequence.getD 0)
  actor := { type := e.actorType, id := e.actorId, version := e.actorVersion }
  occurredAt := e.occurredAt
  correlationId := e.correlationId
  causationId := e.causationId
  audience := e.audience
  payload := e.payload

/-- The page of the selected rows: one row over the limit says that there are
more. -/
def eventsPage (limit : ℕ) (rows : List EventRow) : EventsPage where
  events := (rows.take limit).map projected
  hasMore := limit < rows.length

def events (actor : RequestActor) (runId : UuidText) (query : EventQueryDto) : Op EventsPage := do
  let companyId ← companyScopeFromActor actor
  assertRun companyId runId.value
  let rows ← Op.query (eventRows companyId runId.value query)
  pure (eventsPage query.limit rows)

/-! ## Deletion -/

def denyDelete (actor : RequestActor) (runId : UuidText) : Op PUnit := do
  let companyId ← companyScopeFromActor actor
  assertRun companyId runId.value
  Prog.throw (.domain deletionDenied)

end Runs

end Aico
