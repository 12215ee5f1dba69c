import Aico.Schema.Tenant

/-!
# Rows of a run

A run with its context snapshots, its task with the attempts and the model
invocation effect, the artifacts it publishes and the waits it opens.
-/

namespace Aico

inductive RunState where
  | draft | qualifying | awaitingFounderInput | awaitingBriefApproval
  | designing | awaitingDesignApproval | building | reviewing | reworking
  | awaitingFinalApproval | blocked | failed | canceled | completed
deriving DecidableEq

namespace RunState

/-- The value of the `state` column. -/
def text : RunState → String
  | draft => "DRAFT"
  | qualifying => "QUALIFYING"
  | awaitingFounderInput => "AWAITING_FOUNDER_INPUT"
  | awaitingBriefApproval => "AWAITING_BRIEF_APPROVAL"
  | designing => "DESIGNING"
  | awaitingDesignApproval => "AWAITING_DESIGN_APPROVAL"
  | building => "BUILDING"
  | reviewing => "REVIEWING"
  | reworking => "REWORKING"
  | awaitingFinalApproval => "AWAITING_FINAL_APPROVAL"
  | blocked => "BLOCKED"
  | failed => "FAILED"
  | canceled => "CANCELED"
  | completed => "COMPLETED"

/-- `['CANCELED', 'FAILED', 'COMPLETED'].includes(state)`. -/
def isTerminal : RunState → Bool
  | canceled | failed | completed => true
  | _ => false

/-- `state.startsWith('AWAITING_')`. -/
def isAwaiting : RunState → Bool
  | awaitingFounderInput | awaitingBriefApproval | awaitingDesignApproval
  | awaitingFinalApproval => true
  | _ => false

end RunState

inductive RunStage where
  | intake | product | design | build | qa | final | terminal
deriving DecidableEq

namespace RunStage

/-- The value of the `stage` column. -/
def text : RunStage → String
  | intake => "INTAKE"
  | product => "PRODUCT"
  | design => "DESIGN"
  | build => "BUILD"
  | qa => "QA"
  | final => "FINAL"
  | terminal => "TERMINAL"

end RunStage

structure ContextSnapshotRow where
  id : Uuid
  companyId : Uuid
  companyProfileVersionId : Uuid
  goalVersionId : Uuid
  answerVersionIds : List Uuid
  createdAt : Timestamp

structure ContextSnapshotAnswerRow where
  companyId : Uuid
  contextSnapshotId : Uuid
  answerVersionId : Uuid
  ordinal : ℕ

structure RunRow where
  id : Uuid
  companyId : Uuid
  initiativeId : Uuid
  contextSnapshotId : Uuid
  state : RunState
  stage : RunStage
  rowVersion : ℕ
  workflowVersion : String
  policyVersion : String
  blockingReasonCode : Option String
  failureReasonCode : Option String
  cancellationRequestedAt : Option Timestamp
  createdAt : Timestamp
  updatedAt : Timestamp

structure BudgetLedgerRow where
  companyId : Uuid
  runId : Uuid
  category : String
  hardLimit : ℕ

inductive TaskState where
  | queued | ready | running | awaitingInput | retryWait | succeeded | blocked
  | failed | canceled
deriving DecidableEq

namespace TaskState

/-- The value of the `state` column. -/
def text : TaskState → String
  | queued => "QUEUED"
  | ready => "READY"
  | running => "RUNNING"
  | awaitingInput => "AWAITING_INPUT"
  | retryWait => "RETRY_WAIT"
  | succeeded => "SUCCEEDED"
  | blocked => "BLOCKED"
  | failed => "FAILED"
  | canceled => "CANCELED"

end TaskState

structure TaskRow where
  id : Uuid
  companyId : Uuid
  runId : Uuid
  type : String
  ownerEmployeeDefinitionId : Option Uuid
  state : TaskState
  priority : ℤ
  inputManifest : Json
  attemptCount : ℕ
  rowVersion : ℕ
  leaseOwner : Option String
  leaseToken : Option Uuid
  leaseExpiresAt : Option Timestamp
  availableAt : Timestamp
  blockerCode : Option String
  createdAt : Timestamp
  updatedAt : Timestamp
  completedAt : Option Timestamp

inductive AttemptStatus where
  | running | succeeded | failed | abandoned
deriving DecidableEq

structure TaskAttemptRow where
  id : Uuid
  companyId : Uuid
  runId : Uuid
  taskId : Uuid
  attemptNumber : ℕ
  idempotencyKey : Uuid
  inputManifest : Json
  runtimeManifest : Json
  status : AttemptStatus
  resultClass : Option String
  outputRefs : List Uuid
  usage : Json
  completedAt : Option Timestamp

structure PolicyDecisionRow where
  id : Uuid
  companyId : Uuid
  runId : Uuid
  taskId : Option Uuid
  attemptId : Option Uuid
  actorType : String
  actorId : String
  action : String
  resourceDigest : Digest
  contextDigest : Digest
  policyVersion : String
  result : String
  reasonCode : String
  expiresAt : Option Timestamp

structure ArtifactRow where
  id : Uuid
  companyId : Uuid
  runId : Uuid
  type : String
  logicalKey : String
  currentVersionId : Option Uuid
  updatedAt : Timestamp

structure ArtifactVersionRow where
  id : Uuid
  companyId : Uuid
  runId : Uuid
  artifactId : Uuid
  version : ℕ
  schemaVersion : String
  content : Json
  checksum : Digest
  sizeBytes : ℕ
  creatorType : String
  creatorVersion : String
  lineage : Json
  lifecycleState : String

inductive EffectStatus where
  | running | succeeded | unknown
deriving DecidableEq

structure ModelInvocationEffectRow where
  effectKey : Digest
  companyId : Uuid
  runId : Uuid
  taskId : Uuid
  attemptId : Uuid
  provider : String
  status : EffectStatus
  invocationCount : ℕ
  outputDigest : Option Digest
  usage : Json
  completedAt : Option Timestamp

inductive WaitStatus where
  | opened | resolved | canceled | expired
deriving DecidableEq

structure HumanWaitRow where
  id : Uuid
  companyId : Uuid
  runId : Uuid
  taskId : Option Uuid
  workflowVersion : String
  waitKind : String
  waitVersion : ℕ
  requestId : Uuid
  requestVersion : ℕ
  expectedRunState : RunState
  expectedRunRowVersion : ℕ
  resumeRunState : RunState
  contextSnapshotId : Uuid
  responseSchemaId : String
  responseSchemaVersion : String
  reasonCodes : List String
  status : WaitStatus
  expiresAt : Option Timestamp
  createdAt : Timestamp
  resolvedAt : Option Timestamp
  resolvedByCommandId : Option Uuid
  resolvedByEventId : Option Uuid
  continuationTaskId : Option Uuid

structure ClarificationAnswerVersionRow where
  id : Uuid
  companyId : Uuid
  runId : Uuid
  waitId : Uuid
  version : ℕ
  requestId : Uuid
  requestVersion : ℕ
  sourceContextSnapshotId : Uuid
  responseSchemaId : String
  responseSchemaVersion : String
  content : Json
  contentDigest : Digest
  createdBy : Uuid
  createdAt : Timestamp

end Aico
