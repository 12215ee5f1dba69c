import Aico.Governance.DomainEvent

/-!
# The worker

`processOnce` takes one task through separate transactions: `claimTask`,
`loadContext`, `isLeaseCurrent`, `beginModelInvocation`, the call of the model
provider, and `completeTask`; `abandonAttempt`, `blockUnknownModelOutcome` and
`failTask` are its other ways out. Each of them is one program here. How they
follow one another is the business of the system that runs them.

The transactions after the claim re-read the task and compare its lease token
with the claim's (`stale`). A stale `completeTask` or `failTask` still marks the
model invocation effect, which all attempts of the task share.
-/

namespace Aico

structure ClaimedTask where
  id : Uuid
  companyId : Uuid
  runId : Uuid
  type : String
  attemptCount : ℕ
  inputManifest : Json
  workflowVersion : String
  leaseToken : Uuid
  attemptId : Uuid
  attemptNumber : ℕ
  effectKey : Digest

structure ContextRow where
  goal : Json
  purpose : JsString
  targetCustomer : JsString

structure ModelResult where
  outputSchemaVersion : String
  content : Json
  usage : Json

/-- The configuration of a worker process. -/
structure WorkerConfig where
  workerId : String
  leaseSeconds : ℕ

namespace Worker

/-! ## Claiming -/

def joinRuns (db : Db) : List (TaskRow × RunRow) :=
  db.tasks.flatMap fun t =>
    (db.runs.filter fun r => r.id = t.runId ∧ r.companyId = t.companyId).map fun r => (t, r)

def claimable (now : Timestamp) (runId : Option Uuid) (t : TaskRow) (r : RunRow) : Bool :=
  (((t.state = .queued ∨ t.state = .ready ∨ t.state = .retryWait) ∧ t.availableAt ≤ now) ∨
    (t.state = .running ∧ t.leaseExpiresAt.any fun expiresAt => expiresAt < now)) ∧
  r.state.isTerminal = false ∧ r.cancellationRequestedAt = none ∧
  runId.all fun id => t.runId = id

/-- `ORDER BY priority DESC, created_at, id`: whether `t` stands before `u`. -/
def claimOrder (t u : TaskRow) : Bool :=
  u.priority < t.priority ∨ (t.priority = u.priority ∧
    (t.createdAt < u.createdAt ∨ (t.createdAt = u.createdAt ∧ t.id ≤ u.id)))

def candidate (now : Timestamp) (runId : Option Uuid) (locked : List Uuid) (db : Db) :
    Option (TaskRow × RunRow) :=
  (((joinRuns db).filter fun row =>
      claimable now runId row.1 row.2 ∧ row.1.id ∉ locked).insertionSort
    fun row row' => claimOrder row.1 row'.1).head?

def effectKey (rt : Runtime) (taskId : Uuid) (taskType : String) : Digest :=
  rt.canonicalDigest (.object [("provider", .text "deterministic"),
    ("task_id", .uuid taskId), ("task_type", .text taskType)])

def claimOf (rt : Runtime) (t : TaskRow) (r : RunRow) (leaseToken attemptId : Uuid) :
    ClaimedTask where
  id := t.id
  companyId := t.companyId
  runId := t.runId
  type := t.type
  attemptCount := t.attemptCount
  inputManifest := t.inputManifest
  workflowVersion := r.workflowVersion
  leaseToken := leaseToken
  attemptId := attemptId
  attemptNumber := t.attemptCount + 1
  effectKey := effectKey rt t.id t.type

def leased (config : WorkerConfig) (leaseToken : Uuid) (now : Timestamp) (t : TaskRow) :
    TaskRow :=
  { t with
    state := .running
    leaseOwner := some config.workerId
    leaseToken := some leaseToken
    leaseExpiresAt := some (now + config.leaseSeconds * 1000)
    attemptCount := t.attemptCount + 1
    rowVersion := t.rowVersion + 1
    updatedAt := now }

def abandoned (resultClass : String) (now : Timestamp) (a : TaskAttemptRow) :
    TaskAttemptRow :=
  { a with
    status := .abandoned
    resultClass := some resultClass
    completedAt := some now }

def policyDecisionRow (rt : Runtime) (claim : ClaimedTask) (policyDecisionId : Uuid)
    (now : Timestamp) : PolicyDecisionRow where
  id := policyDecisionId
  companyId := claim.companyId
  runId := claim.runId
  taskId := some claim.id
  attemptId := some claim.attemptId
  actorType := "EMPLOYEE"
  actorId := "EMP-PM/v1"
  action := "model.invoke"
  resourceDigest := rt.canonicalDigest (.object [("provider", .text "deterministic"),
    ("task_type", .text claim.type)])
  contextDigest := rt.canonicalDigest claim.inputManifest
  policyVersion := "mvp-v1"
  result := "ALLOW"
  reasonCode := "deterministic_provider_allowed"
  expiresAt := some (now + 30000)

def attemptRow (claim : ClaimedTask) (policyDecisionId : Uuid) : TaskAttemptRow where
  id := claim.attemptId
  companyId := claim.companyId
  runId := claim.runId
  taskId := claim.id
  attemptNumber := claim.attemptNumber
  idempotencyKey := claim.attemptId
  inputManifest := claim.inputManifest
  runtimeManifest := Json.jsonb (.object
    [("workflow_version", .text claim.workflowVersion), ("policy_version", .text "mvp-v1"),
      ("policy_decision_id", .uuid policyDecisionId), ("employee_key", .text "EMP-PM"),
      ("employee_version", .nat 1), ("instruction_version", .text "pm-v1"),
      ("output_schema_version", .text "product-brief-v1"),
      ("rubric_version", .text "pm-v1"), ("provider", .text "deterministic"),
      ("lease_token", .uuid claim.leaseToken)])
  status := .running
  resultClass := none
  outputRefs := []
  usage := .obj []
  completedAt := none

def effectRow (claim : ClaimedTask) : ModelInvocationEffectRow where
  effectKey := claim.effectKey
  companyId := claim.companyId
  runId := claim.runId
  taskId := claim.id
  attemptId := claim.attemptId
  provider := "deterministic"
  status := .running
  invocationCount := 0
  outputDigest := none
  usage := .obj []
  completedAt := none

/-- The run of a task that has just been claimed. -/
def qualifying (now : Timestamp) (r : RunRow) : RunRow :=
  { r with
    state := .qualifying
    stage := .product
    rowVersion := r.rowVersion + 1
    updatedAt := now }

def taskStartedEvent (config : WorkerConfig) (claim : ClaimedTask) :
    AppendEventOptions where
  companyId := .ofUuid claim.companyId
  runId := some (.ofUuid claim.runId)
  type := "task_started"
  actorType := "EMPLOYEE"
  actorId := js "EMP-PM"
  actorVersion := some "1"
  correlationId := .ofUuid claim.runId
  causationId := some (.ofUuid claim.attemptId)
  payload := .object [("task_id", .uuid claim.id), ("attempt_id", .uuid claim.attemptId),
    ("attempt_number", .nat claim.attemptNumber), ("lease_token", .uuid claim.leaseToken),
    ("worker_id", .text config.workerId)]

/-- `INSERT … ON CONFLICT (company_id, run_id, task_id) DO NOTHING`; the key of
the effect is its primary key. -/
def insertEffect (claim : ClaimedTask) : Op PUnit := do
  let conflict ← Op.query fun db => db.modelInvocationEffects.any fun e =>
    e.companyId = claim.companyId ∧ e.runId = claim.runId ∧ e.taskId = claim.id
  if conflict then pure ⟨⟩
  else do
    let taken ← Op.query fun db => db.modelInvocationEffects.any fun e =>
      e.effectKey = claim.effectKey
    Prog.ensure (taken = false) (.constraint "model_invocation_effects_pkey")
    Op.exec fun db =>
      { db with
        modelInvocationEffects := db.modelInvocationEffects ++ [effectRow claim] }

def takeTask (rt : Runtime) (config : WorkerConfig) (t : TaskRow) (r : RunRow) :
    Op ClaimedTask := do
  let leaseToken ← Op.newId
  let attemptId ← Op.newId
  let policyDecisionId ← Op.newId
  let claim := claimOf rt t r leaseToken attemptId
  let now ← Op.now
  Op.exec fun db =>
    { db with
      tasks := Table.updateWhere
        (fun t => t.companyId = claim.companyId ∧ t.id = claim.id)
        (leased config leaseToken now) db.tasks }
  Op.exec fun db =>
    { db with
      taskAttempts := Table.updateWhere
        (fun a => a.companyId = claim.companyId ∧ a.taskId = claim.id ∧
          a.status = .running)
        (abandoned "LEASE_EXPIRED" now) db.taskAttempts }
  Op.exec fun db =>
    { db with
      policyDecisions := db.policyDecisions ++
        [policyDecisionRow rt claim policyDecisionId now] }
  let numberTaken ← Op.query fun db => db.taskAttempts.any fun a =>
    a.taskId = claim.id ∧ a.attemptNumber = claim.attemptNumber
  Prog.ensure (numberTaken = false)
    (.constraint "task_attempts_task_id_attempt_number_key")
  Op.exec fun db =>
    { db with taskAttempts := db.taskAttempts ++ [attemptRow claim policyDecisionId] }
  insertEffect claim
  Op.exec fun db =>
    { db with
      runs := Table.updateWhere
        (fun r => r.companyId = claim.companyId ∧ r.id = claim.runId ∧ r.state = .draft)
        (qualifying now) db.runs }
  let _ ← DomainEvent.append (taskStartedEvent config claim)
  pure claim

def claimTask (rt : Runtime) (config : WorkerConfig) (runId : Option Uuid)
    (locked : List Uuid) : Op (Option ClaimedTask) :=
  Op.transaction do
    let now ← Op.now
    let row ← Op.query (candidate now runId locked)
    match row with
    | none => pure none
    | some (t, r) => do
        let claim ← takeTask rt config t r
        pure (some claim)

/-! ## Before the invocation -/

def contextRows (companyId runId : Uuid) (db : Db) : List ContextRow :=
  (db.runs.filter fun r => r.companyId = companyId ∧ r.id = runId).flatMap fun r =>
    (db.contextSnapshots.filter fun cs =>
      cs.id = r.contextSnapshotId ∧ cs.companyId = r.companyId).flatMap fun cs =>
      (db.goalVersions.filter fun gv =>
        gv.id = cs.goalVersionId ∧ gv.companyId = cs.companyId).flatMap fun gv =>
        (db.companyProfileVersions.filter fun cp =>
          cp.id = cs.companyProfileVersionId ∧ cp.companyId = cs.companyId).map fun cp =>
          { goal := gv.structuredGoal, purpose := cp.purpose,
            targetCustomer := cp.targetCustomer }

def loadContext (companyId runId : Uuid) : Op ContextRow := do
  let rows ← Op.query (contextRows companyId runId)
  Prog.require rows.head? (.error "Frozen run context is missing")

/-- The task of a claim with its run, as the re-reads after the claim see
them. -/
def currentRow (claim : ClaimedTask) (db : Db) : Option (TaskRow × RunRow) :=
  ((joinRuns db).filter fun row =>
    row.1.companyId = claim.companyId ∧ row.1.id = claim.id).head?

def leaseCurrent (claim : ClaimedTask) (now : Timestamp) (t : TaskRow) (r : RunRow) :
    Bool :=
  t.state = .running ∧ t.leaseToken = some claim.leaseToken ∧
    (t.leaseExpiresAt.any fun expiresAt => now < expiresAt) ∧
    r.state.isTerminal = false ∧ r.cancellationRequestedAt = none

def isLeaseCurrent (claim : ClaimedTask) : Op Bool := do
  let now ← Op.now
  let row ← Op.query (currentRow claim)
  pure (row.any fun row => leaseCurrent claim now row.1 row.2)

def canBegin (e : ModelInvocationEffectRow) : Bool :=
  e.status = .running ∧ e.invocationCount = 0

def isEffectOf (claim : ClaimedTask) (e : ModelInvocationEffectRow) : Bool :=
  e.companyId = claim.companyId ∧ e.effectKey = claim.effectKey

def beginModelInvocation (claim : ClaimedTask) : Op Bool :=
  Op.transaction do
    let rows ← Op.query fun db => db.modelInvocationEffects.filter (isEffectOf claim)
    if rows.head?.any canBegin then do
      Op.exec fun db =>
        { db with
          modelInvocationEffects := Table.updateWhere (isEffectOf claim)
            (fun e => { e with invocationCount := 1 }) db.modelInvocationEffects }
      pure true
    else pure false

/-! ## Ways out -/

def abandonRunning (claim : ClaimedTask) (resultClass : String) (now : Timestamp)
    (db : Db) : Db :=
  { db with
    taskAttempts := Table.updateWhere
      (fun a => a.companyId = claim.companyId ∧ a.id = claim.attemptId ∧
        a.status = .running)
      (abandoned resultClass now) db.taskAttempts }

def markUnknown (claim : ClaimedTask) (now : Timestamp) (db : Db) : Db :=
  { db with
    modelInvocationEffects := Table.updateWhere
      (fun e => isEffectOf claim e ∧ e.status = .running)
      (fun e => { e with status := .unknown, completedAt := some now })
      db.modelInvocationEffects }

def abandonAttempt (claim : ClaimedTask) (resultClass : String) : Op PUnit := do
  let now ← Op.now
  Op.exec (abandonRunning claim resultClass now)

def stale (claim : ClaimedTask) : Option (TaskRow × RunRow) → Bool
  | none => true
  | some (t, r) =>
      t.state ≠ .running ∨ t.leaseToken ≠ some claim.leaseToken ∨ r.state.isTerminal

def reconciliationRequired : String := "model_outcome_reconciliation_required"

def reconciliationEvent (claim : ClaimedTask) : AppendEventOptions where
  companyId := .ofUuid claim.companyId
  runId := some (.ofUuid claim.runId)
  type := reconciliationRequired
  actorType := "SYSTEM"
  actorId := js "orchestration-worker/v1"
  correlationId := .ofUuid claim.runId
  causationId := some (.ofUuid claim.attemptId)
  payload := .object [("task_id", .uuid claim.id), ("attempt_id", .uuid claim.attemptId),
    ("effect_key", .str claim.effectKey),
    ("reason_code", .text "UNKNOWN_EXTERNAL_OUTCOME")]

def isHeldTask (claim : ClaimedTask) (t : TaskRow) : Bool :=
  t.companyId = claim.companyId ∧ t.id = claim.id ∧
    t.leaseToken = some claim.leaseToken ∧ t.state = .running

def blockRun (claim : ClaimedTask) (now : Timestamp) (db : Db) : Db :=
  { db with
    runs := Table.updateWhere
      (fun r => r.companyId = claim.companyId ∧ r.id = claim.runId ∧
        r.state.isTerminal = false ∧ r.cancellationRequestedAt = none)
      (fun r =>
        { r with
          state := .blocked
          blockingReasonCode := some reconciliationRequired
          rowVersion := r.rowVersion + 1
          updatedAt := now })
      db.runs }

/-- The blocked task; only one of the two ways to block it counts its version
up. -/
def blockedTask (bump : ℕ) (now : Timestamp) (t : TaskRow) : TaskRow :=
  { t with
    state := .blocked
    blockerCode := some reconciliationRequired
    leaseOwner := none
    leaseToken := none
    leaseExpiresAt := none
    rowVersion := t.rowVersion + bump
    updatedAt := now }

def blockUnknownModelOutcome (claim : ClaimedTask) : Op PUnit :=
  Op.transaction do
    let current ← Op.query (currentRow claim)
    let now ← Op.now
    if stale claim current then
      Op.exec (abandonRunning claim "STALE_RECONCILIATION" now)
    else do
      Op.exec (abandonRunning claim "UNKNOWN_EXTERNAL_OUTCOME" now)
      Op.exec fun db =>
        { db with
          tasks := Table.updateWhere (isHeldTask claim) (blockedTask 1 now) db.tasks }
      Op.exec (blockRun claim now)
      let _ ← DomainEvent.append (reconciliationEvent claim)
      pure ⟨⟩

def failTask (claim : ClaimedTask) : Op PUnit :=
  Op.transaction do
    let current ← Op.query (currentRow claim)
    let now ← Op.now
    if stale claim current then do
      Op.exec (abandonRunning claim "STALE_FAILURE" now)
      Op.exec (markUnknown claim now)
    else do
      Op.exec fun db =>
        { db with
          taskAttempts := Table.updateWhere
            (fun a => a.companyId = claim.companyId ∧ a.id = claim.attemptId ∧
              a.status = .running)
            (fun a =>
              { a with
                status := .failed
                resultClass := some "UNKNOWN_EXTERNAL_OUTCOME"
                completedAt := some now })
            db.taskAttempts }
      Op.exec (markUnknown claim now)
      Op.exec fun db =>
        { db with
          tasks := Table.updateWhere (isHeldTask claim) (blockedTask 0 now) db.tasks }
      Op.exec (blockRun claim now)
      let _ ← DomainEvent.append (reconciliationEvent claim)
      pure ⟨⟩

/-! ## Completion -/

def artifactRow (claim : ClaimedTask) (artifactId : Uuid) (now : Timestamp) :
    ArtifactRow where
  id := artifactId
  companyId := claim.companyId
  runId := claim.runId
  type := "product_brief"
  logicalKey := "product-brief"
  currentVersionId := none
  updatedAt := now

def artifactVersionRow (rt : Runtime) (claim : ClaimedTask) (result : ModelResult)
    (artifactId artifactVersionId : Uuid) : ArtifactVersionRow where
  id := artifactVersionId
  companyId := claim.companyId
  runId := claim.runId
  artifactId := artifactId
  version := 1
  schemaVersion := result.outputSchemaVersion
  content := Json.jsonb result.content
  checksum := rt.canonicalDigest result.content
  sizeBytes := (Json.utf8 (Json.stringify result.content)).length
  creatorType := "EMPLOYEE"
  creatorVersion := "EMP-PM/v1"
  lineage := Json.jsonb (.object [("context", claim.inputManifest),
    ("attempt_id", .uuid claim.attemptId)])
  lifecycleState := "PENDING_APPROVAL"

def publishedEvent (claim : ClaimedTask) (artifactId artifactVersionId : Uuid) :
    AppendEventOptions where
  companyId := .ofUuid claim.companyId
  runId := some (.ofUuid claim.runId)
  type := "product_brief_published"
  actorType := "EMPLOYEE"
  actorId := js "EMP-PM"
  actorVersion := some "1"
  correlationId := .ofUuid claim.runId
  causationId := some (.ofUuid claim.attemptId)
  payload := .object [("task_id", .uuid claim.id), ("attempt_id", .uuid claim.attemptId),
    ("attempt_number", .nat claim.attemptNumber), ("artifact_id", .uuid artifactId),
    ("artifact_version_id", .uuid artifactVersionId), ("artifact_version", .nat 1),
    ("run_state", .text "AWAITING_BRIEF_APPROVAL")]

def succeededAttempt (artifactVersionId : Uuid) (result : ModelResult) (now : Timestamp)
    (a : TaskAttemptRow) : TaskAttemptRow :=
  { a with
    status := .succeeded
    resultClass := some "SUCCESS"
    outputRefs := [artifactVersionId]
    usage := Json.jsonb result.usage
    completedAt := some now }

def succeededEffect (rt : Runtime) (result : ModelResult) (now : Timestamp)
    (e : ModelInvocationEffectRow) : ModelInvocationEffectRow :=
  { e with
    status := .succeeded
    outputDigest := some (rt.canonicalDigest result.content)
    usage := Json.jsonb result.usage
    completedAt := some now }

def succeededTask (now : Timestamp) (t : TaskRow) : TaskRow :=
  { t with
    state := .succeeded
    leaseOwner := none
    leaseToken := none
    leaseExpiresAt := none
    completedAt := some now
    updatedAt := now
    rowVersion := t.rowVersion + 1 }

def awaitingBriefApproval (now : Timestamp) (r : RunRow) : RunRow :=
  { r with
    state := .awaitingBriefApproval
    stage := .product
    rowVersion := r.rowVersion + 1
    updatedAt := now }

def publish (rt : Runtime) (claim : ClaimedTask) (result : ModelResult)
    (now : Timestamp) : Op PUnit := do
  let artifactId ← Op.newId
  let artifactVersionId ← Op.newId
  let keyTaken ← Op.query fun db => db.artifacts.any fun a =>
    a.companyId = claim.companyId ∧ a.runId = claim.runId ∧ a.type = "product_brief" ∧
      a.logicalKey = "product-brief"
  Prog.ensure (keyTaken = false)
    (.constraint "artifacts_company_id_run_id_type_logical_key_key")
  Op.exec fun db =>
    { db with artifacts := db.artifacts ++ [artifactRow claim artifactId now] }
  Op.exec fun db =>
    { db with
      artifactVersions := db.artifactVersions ++
        [artifactVersionRow rt claim result artifactId artifactVersionId] }
  Op.exec fun db =>
    { db with
      artifacts := Table.updateWhere
        (fun a => a.companyId = claim.companyId ∧ a.id = artifactId)
        (fun a => { a with currentVersionId := some artifactVersionId, updatedAt := now })
        db.artifacts }
  Op.exec fun db =>
    { db with
      taskAttempts := Table.updateWhere
        (fun a => a.companyId = claim.companyId ∧ a.id = claim.attemptId)
        (succeededAttempt artifactVersionId result now) db.taskAttempts }
  Op.exec fun db =>
    { db with
      modelInvocationEffects := Table.updateWhere
        (fun e => isEffectOf claim e ∧ e.status = .running)
        (succeededEffect rt result now) db.modelInvocationEffects }
  Op.exec fun db =>
    { db with
      tasks := Table.updateWhere
        (fun t => t.companyId = claim.companyId ∧ t.id = claim.id)
        (succeededTask now) db.tasks }
  Op.exec fun db =>
    { db with
      runs := Table.updateWhere
        (fun r => r.id = claim.runId ∧ r.companyId = claim.companyId)
        (awaitingBriefApproval now) db.runs }
  let _ ← DomainEvent.append (publishedEvent claim artifactId artifactVersionId)
  pure ⟨⟩

def completeTask (rt : Runtime) (claim : ClaimedTask) (result : ModelResult) : Op PUnit :=
  Op.transaction do
    let current ← Op.query (currentRow claim)
    let now ← Op.now
    if stale claim current then do
      Op.exec (abandonRunning claim "STALE_COMPLETION" now)
      Op.exec (markUnknown claim now)
    else publish rt claim result now

end Worker

end Aico
