import Aico.Schema.Workflow

/-!
# The schema of the gate proof

The rows the decision command reads and writes, and the domain events with their
outbox messages. A column filled from a text of the request, of the clock or of the
policy port holds that text; a `CHECK` on the form of a digest that the program computes, or
copies from another row, is left out.
-/

namespace Aico

namespace GateProof

inductive FounderStatus where
  | active | disabled
deriving DecidableEq

structure FounderRow where
  id : Uuid
  authSubject : String
  status : FounderStatus
  authorityVersion : ℕ

inductive SessionStatus where
  | active | revoked | expired
deriving DecidableEq

structure FounderSessionRow where
  id : Uuid
  founderId : Uuid
  authSubject : String
  status : SessionStatus
  expiresAt : Timestamp
  sessionVersion : ℕ

inductive CompanyStatus where
  | active | inactive
deriving DecidableEq

structure CompanyRow where
  id : Uuid
  founderId : Uuid
  currentFounderId : Uuid
  status : CompanyStatus
  rowVersion : ℕ

inductive TargetingState where
  | active | paused | denyAll | rolledBack
deriving DecidableEq

/-- The value of the `status` column. -/
def TargetingState.text : TargetingState → String
  | active => "ACTIVE"
  | paused => "PAUSED"
  | denyAll => "DENY_ALL"
  | rolledBack => "ROLLED_BACK"

structure PolicyTargetingVersionRow where
  id : Uuid
  companyId : Uuid
  policyVersionId : Uuid
  policyVersion : String
  policyDigest : Digest
  workflowVersion : String
  employeeDefinitionVersion : String
  environmentDigest : Digest
  budgetDigest : Digest
  status : TargetingState

structure PolicyTargetRow where
  companyId : Uuid
  targetKey : String
  activeTargetingVersionId : Uuid

structure RunRow where
  id : Uuid
  companyId : Uuid
  state : RunState
  stage : RunStage
  rowVersion : ℕ
  workflowVersion : String
  targetingVersionId : Uuid
  employeeDefinitionVersion : String
  environmentDigest : Digest
  budgetDigest : Digest
  operatorKillVersion : ℕ
  cancellationRequestedAt : Option JsString
  updatedAt : JsString

structure ArtifactVersionRow where
  id : Uuid
  companyId : Uuid
  runId : Uuid
  artifactId : Uuid
  contentDigest : Digest

inductive GateStatus where
  | pending | approved | revisionRequested
deriving DecidableEq

/-- The value of the `status` column. -/
def GateStatus.text : GateStatus → String
  | pending => "PENDING"
  | approved => "APPROVED"
  | revisionRequested => "REVISION_REQUESTED"

structure GateInstanceRow where
  id : Uuid
  companyId : Uuid
  runId : Uuid
  artifactId : Uuid
  artifactVersionId : Uuid
  artifactVersion : ℕ
  artifactChecksum : Digest
  status : GateStatus
  rowVersion : ℕ
  decidedAt : Option JsString

structure CommandReceiptRow where
  id : Uuid
  companyId : Uuid
  founderId : Uuid
  sessionId : Uuid
  idempotencyKey : Uuid
  requestDigest : Digest
  responseStatus : ℕ
  responseBody : Json
  correlationId : Uuid

inductive PolicyResult where
  | allow | deny
deriving DecidableEq

/-- The value of the `result` column. -/
def PolicyResult.text : PolicyResult → String
  | allow => "ALLOW"
  | deny => "DENY"

structure PolicyDecisionRow where
  id : Uuid
  decisionSchema : String
  result : PolicyResult
  reasonCode : String
  companyId : Uuid
  founderId : Uuid
  sessionId : Uuid
  commandId : Uuid
  runId : Option Uuid
  gateInstanceId : Option Uuid
  artifactId : Option Uuid
  artifactVersionId : Option Uuid
  policyInputDigest : Digest
  policyVersion : JsString
  targetingVersionId : Option Uuid
  binding : Json
  issuedAt : JsString
  expiresAt : Option JsString
  maximumUses : ℕ
  correlationId : Uuid

inductive Decision where
  | approve | requestRevision
deriving DecidableEq

/-- The value of the `decision` column. -/
def Decision.text : Decision → String
  | approve => "APPROVE"
  | requestRevision => "REQUEST_REVISION"

structure FounderGateDecisionRow where
  id : Uuid
  companyId : Uuid
  runId : Uuid
  gateInstanceId : Uuid
  artifactId : Uuid
  artifactVersionId : Uuid
  policyDecisionId : Uuid
  founderId : Uuid
  commandId : Uuid
  decision : Decision
  feedback : Option JsString
  feedbackDigest : Option Digest
  feedbackClassification : Option String
  approvalReferencesDigest : Digest
  decidedAt : JsString
  correlationId : Uuid

structure ApprovedArtifactBindingRow where
  id : Uuid
  companyId : Uuid
  runId : Uuid
  gateInstanceId : Uuid
  artifactId : Uuid
  artifactVersionId : Uuid
  decisionRecordId : Uuid
  policyDecisionId : Uuid
  checksum : Digest
  boundAt : JsString

inductive ContinuationKind where
  | startDesignFromBrief | reviseProductBrief
deriving DecidableEq

/-- The value of the `kind` column. -/
def ContinuationKind.text : ContinuationKind → String
  | startDesignFromBrief => "START_DESIGN_FROM_BRIEF"
  | reviseProductBrief => "REVISE_PRODUCT_BRIEF"

structure ContinuationIntentRow where
  id : Uuid
  companyId : Uuid
  runId : Uuid
  decisionRecordId : Uuid
  policyDecisionId : Uuid
  kind : ContinuationKind
  logicalKey : JsString
  sourceArtifactVersionId : Uuid
  createdAt : JsString

structure RunEventCounterRow where
  companyId : Uuid
  runId : Uuid
  nextSequence : ℕ

inductive EventType where
  | policyDecided | approvalDecided
deriving DecidableEq

/-- The value of the `event_type` column. -/
def EventType.text : EventType → String
  | policyDecided => "policy.decided"
  | approvalDecided => "approval.decided"

structure DomainEventRow where
  id : Uuid
  eventSchema : String
  eventType : EventType
  companyId : Uuid
  runId : Option Uuid
  runSequence : Option ℕ
  aggregateType : String
  aggregateId : Uuid
  actorFounderId : Uuid
  correlationId : Uuid
  causationId : Uuid
  occurredAt : JsString
  payload : Json
  payloadDigest : Digest

structure OutboxMessageRow where
  id : Uuid
  companyId : Uuid
  eventId : Uuid
  topic : String
  envelope : Json
  envelopeDigest : Digest
  createdAt : JsString
  publishedAt : Option Timestamp

/-- The tables the decision command reads and writes. -/
structure ProofDb where
  founders : List FounderRow
  founderSessions : List FounderSessionRow
  companies : List CompanyRow
  policyTargetingVersions : List PolicyTargetingVersionRow
  policyTargets : List PolicyTargetRow
  runs : List RunRow
  artifactVersions : List ArtifactVersionRow
  gateInstances : List GateInstanceRow
  commandReceipts : List CommandReceiptRow
  policyDecisions : List PolicyDecisionRow
  founderGateDecisions : List FounderGateDecisionRow
  approvedArtifactBindings : List ApprovedArtifactBindingRow
  continuationIntents : List ContinuationIntentRow
  runEventCounters : List RunEventCounterRow
  domainEvents : List DomainEventRow
  outboxMessages : List OutboxMessageRow

/-- The database with no rows. -/
def ProofDb.empty : ProofDb where
  founders := []
  founderSessions := []
  companies := []
  policyTargetingVersions := []
  policyTargets := []
  runs := []
  artifactVersions := []
  gateInstances := []
  commandReceipts := []
  policyDecisions := []
  founderGateDecisions := []
  approvedArtifactBindings := []
  continuationIntents := []
  runEventCounters := []
  domainEvents := []
  outboxMessages := []

def DomainEventRow.place (e : DomainEventRow) : Option (Uuid × Uuid × ℕ) :=
  match e.runId, e.runSequence with
  | some runId, some sequence => some (e.companyId, runId, sequence)
  | _, _ => none

end GateProof

end Aico
