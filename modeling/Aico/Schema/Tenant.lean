import Aico.Common.Identifiers

/-!
# Rows of a company

Founders, companies with their profile versions, initiatives with their goal
versions, and the objects a goal version may refer to. A text column that holds
what a founder wrote is a `JsString`, another one a `String`, a `jsonb` column a
`Json`, a nullable column an `Option`.
-/

namespace Aico

/-- The bytes of a request body or a stored object. -/
abbrev Bytes := List UInt8

structure FounderRow where
  id : Uuid

inductive CompanyStatus where
  | active | deleting | deleted
deriving DecidableEq

/-- The value of the `status` column. -/
def CompanyStatus.text : CompanyStatus → String
  | active => "ACTIVE"
  | deleting => "DELETING"
  | deleted => "DELETED"

structure CompanyRow where
  id : Uuid
  founderId : Uuid
  name : JsString
  status : CompanyStatus
  currentProfileVersionId : Option Uuid
  rowVersion : ℕ
  createdAt : Timestamp
  updatedAt : Timestamp

structure CompanyProfileVersionRow where
  id : Uuid
  companyId : Uuid
  version : ℕ
  purpose : JsString
  targetCustomer : JsString
  constraints : Json
  normalizedLimits : Json
  sensitiveDataWarningAcknowledged : Bool
  createdBy : Uuid
  createdAt : Timestamp

inductive InitiativeStatus where
  | draft | active | completed | failed | canceled
deriving DecidableEq

namespace InitiativeStatus

/-- The value of the `status` column. -/
def text : InitiativeStatus → String
  | draft => "DRAFT"
  | active => "ACTIVE"
  | completed => "COMPLETED"
  | failed => "FAILED"
  | canceled => "CANCELED"

/-- `status IN ('DRAFT', 'ACTIVE')`. -/
def isOpen : InitiativeStatus → Bool
  | draft | active => true
  | _ => false

end InitiativeStatus

structure InitiativeRow where
  id : Uuid
  companyId : Uuid
  type : String
  title : JsString
  status : InitiativeStatus
  currentGoalVersionId : Option Uuid
  rowVersion : ℕ
  createdAt : Timestamp
  updatedAt : Timestamp

structure GoalVersionRow where
  id : Uuid
  companyId : Uuid
  initiativeId : Uuid
  version : ℕ
  schemaVersion : ℕ
  structuredGoal : Json
  attachmentIds : Json
  createdBy : Uuid
  createdAt : Timestamp

structure GoalQualificationRow where
  id : Uuid
  companyId : Uuid
  initiativeId : Uuid
  goalVersionId : Uuid
  runId : Option Uuid
  result : String
  reasonCodes : List String
  explanation : String
  proposal : Option String
  clarificationQuestions : Json
  screenEstimate : ℕ
  policyVersion : String

structure GoalVersionAttachmentRow where
  companyId : Uuid
  goalVersionId : Uuid
  objectId : Uuid
  ordinal : ℕ

inductive ObjectPurpose where
  | qualityFixture | attachment
deriving DecidableEq

/-- The value of the `purpose` column. -/
def ObjectPurpose.text : ObjectPurpose → String
  | qualityFixture => "quality-fixture"
  | attachment => "attachment"

inductive LifecycleState where
  | staged | ready | deleted
deriving DecidableEq

inductive ScanState where
  | pending | clean | rejected | quarantined
deriving DecidableEq

/-- The value of the `scan_state` column. -/
def ScanState.text : ScanState → String
  | pending => "PENDING"
  | clean => "CLEAN"
  | rejected => "REJECTED"
  | quarantined => "QUARANTINED"

structure ObjectRecordRow where
  id : Uuid
  companyId : Uuid
  purpose : ObjectPurpose
  objectKey : JsString
  checksumSha256 : Digest
  sizeBytes : ℕ
  version : ℕ
  lifecycleState : LifecycleState
  declaredMediaType : Option String
  detectedMediaType : Option String
  originalFilename : Option JsString
  scanState : ScanState
  expiresAt : Option Timestamp

structure AttachmentRetrievalGrantRow where
  id : Uuid
  companyId : Uuid
  objectId : Uuid
  runId : Uuid
  expiresAt : Timestamp
  consumedAt : Option Timestamp

structure EmployeeDefinitionRow where
  id : Uuid
  employeeKey : String
  version : ℕ

inductive IdempotencyState where
  | processing | completed
deriving DecidableEq

structure IdempotencyRecordRow where
  id : Uuid
  actorId : Uuid
  operation : String
  idempotencyKey : Uuid
  requestDigest : Digest
  state : IdempotencyState
  responseStatus : Option ℕ
  responseBody : Option Json

end Aico
