import Aico.Governance.CommandExecutor
import Aico.Governance.DomainEvent
import Aico.Common.CompanyScope

/-!
# Companies

`create` provisions the one company of a founder with the first version of its
profile, `updateProfile` adds the next version and makes it the current one, and
`getCurrent` reads the company back. The version a client sends with an update is
compared with the version of the current profile; the row version of the company
counts up beside it.
-/

namespace Aico

structure NormalizedLimitsDto where
  maxScreens : ℕ
  primaryFlows : ℕ
  dataMode : JsString

structure CompanyProfileDto where
  purpose : JsString
  targetCustomer : JsString
  constraints : List JsString
  normalizedLimits : NormalizedLimitsDto
  sensitiveDataWarningAcknowledged : Bool

structure CreateCompanyDto where
  name : JsString
  profile : CompanyProfileDto

def NormalizedLimitsDto.toJson (limits : NormalizedLimitsDto) : Json :=
  .object [("max_screens", .nat limits.maxScreens),
    ("primary_flows", .nat limits.primaryFlows), ("data_mode", .str limits.dataMode)]

def CompanyProfileDto.toJson (profile : CompanyProfileDto) : Json :=
  .object [("purpose", .str profile.purpose), ("target_customer", .str profile.targetCustomer),
    ("constraints", .arr (profile.constraints.map .str)),
    ("normalized_limits", profile.normalizedLimits.toJson),
    ("sensitive_data_warning_acknowledged", .bool profile.sensitiveDataWarningAcknowledged)]

def CreateCompanyDto.toJson (dto : CreateCompanyDto) : Json :=
  .object [("name", .str dto.name), ("profile", dto.profile.toJson)]

namespace CompanyProfilePolicy

def violation (field rule : String) : Json :=
  .object [("field", .text field), ("rule", .text rule)]

def violatedUnless (check : Bool) (field rule : String) : List Json :=
  if check then [] else [violation field rule]

/-- Whether the trimmed text has between `lo` and `hi` code units. -/
def lengthWithin (lo hi : ℕ) (text : JsString) : Bool :=
  lo ≤ text.trim.length ∧ text.trim.length ≤ hi

/-- What is outside the boundary in a profile. -/
def violations (profile : CompanyProfileDto) : List Json :=
  violatedUnless (lengthWithin 10 1000 profile.purpose) "purpose" "purpose_length" ++
  violatedUnless (lengthWithin 3 500 profile.targetCustomer) "target_customer"
    "target_customer_length" ++
  violatedUnless (1 ≤ profile.constraints.length ∧ profile.constraints.length ≤ 20 ∧
      profile.constraints.all (lengthWithin 1 200))
    "constraints" "durable_constraints_required" ++
  violatedUnless
      (1 ≤ profile.normalizedLimits.maxScreens ∧ profile.normalizedLimits.maxScreens ≤ 5)
    "normalized_limits.max_screens" "max_five_screens" ++
  violatedUnless (profile.normalizedLimits.primaryFlows = 1) "normalized_limits.primary_flows"
    "one_primary_flow" ++
  violatedUnless (profile.normalizedLimits.dataMode = js "mock_or_local")
    "normalized_limits.data_mode" "mock_or_local_data"

def warningNotAcknowledged : DomainError where
  status := 422
  code := "unsupported_sensitive_data"
  title := "Sensitive-data warning was not acknowledged"
  detail := "Acknowledge that the company profile must not include real customer or other " ++
    "sensitive data."
  errors := [violation "sensitive_data_warning_acknowledged" "must_acknowledge"]
  remediation := ["acknowledge_sensitive_data_warning"]

def outsideBoundary (detail : String) (errors : List Json) : DomainError where
  status := 422
  code := "domain_rule_violated"
  title := "The company profile is outside the MVP boundary"
  detail := detail
  errors := errors
  remediation := ["correct_company_profile"]

def assertProfile (profile : CompanyProfileDto) : Op PUnit := do
  Prog.ensure (profile.sensitiveDataWarningAcknowledged = true) (.domain warningNotAcknowledged)
  Prog.ensure (violations profile = [])
    (.domain (outsideBoundary ("Submit name, purpose, target customer, durable constraints, " ++
      "and normalized limits that fit the bounded prototype.") (violations profile)))

def assertName (name : JsString) : Op PUnit :=
  Prog.ensure (lengthWithin 2 120 name)
    (.domain (outsideBoundary "Submit a company name between 2 and 120 characters."
      [violation "name" "company_name_length"]))

def assertCreate (name : JsString) (profile : CompanyProfileDto) : Op PUnit := do
  assertName name
  assertProfile profile

end CompanyProfilePolicy

namespace Companies

def companyAlreadyExists : DomainError where
  status := 409
  code := "company_already_exists"
  title := "The founder already has a company"
  detail := "The MVP supports one company per founder account."
  remediation := ["get_current_company"]

def profileChanged : DomainError where
  status := 412
  code := "precondition_failed"
  title := "The company profile changed"
  detail := "Refresh the company profile and retry with its current ETag."
  remediation := ["refresh_resource", "retry_command"]

def notFound : DomainError where
  status := 404
  code := "resource_not_found"
  title := "Company not found"
  detail := "No company is provisioned for this founder."
  remediation := ["create_company"]

def companyQuery (p : CompanyRow → Bool) (db : Db) :
    List (CompanyRow × CompanyProfileVersionRow) :=
  (db.companies.filter p).flatMap fun c =>
    (db.companyProfileVersions.filter fun v =>
      v.companyId = c.id ∧ some v.id = c.currentProfileVersionId).map fun v => (c, v)

/-- `founder_id = $1 AND status <> 'DELETED'`. -/
def isCompanyOf (founderId : Uuid) (c : CompanyRow) : Bool :=
  c.founderId = founderId ∧ c.status ≠ .deleted

def toResponse (row : CompanyRow × CompanyProfileVersionRow) : Json :=
  .object [("id", .uuid row.1.id), ("name", .str row.1.name),
    ("status", .text row.1.status.text), ("row_version", .nat row.1.rowVersion),
    ("current_profile", .object [("id", .uuid row.2.id), ("version", .nat row.2.version),
      ("purpose", .str row.2.purpose), ("target_customer", .str row.2.targetCustomer),
      ("constraints", row.2.constraints), ("normalized_limits", row.2.normalizedLimits),
      ("sensitive_data_warning_acknowledged", .bool row.2.sensitiveDataWarningAcknowledged),
      ("created_at", .time row.2.createdAt)]),
    ("created_at", .time row.1.createdAt)]

/-- The company as the transaction that has written it reads it back. -/
def getByIdWithRunner (companyId founderId : Uuid) :
    Op (CompanyRow × CompanyProfileVersionRow) := do
  let rows ← Op.query (companyQuery fun c => c.id = companyId ∧ isCompanyOf founderId c)
  Prog.require rows.head? .typeError

def getCurrent (actor : RequestActor) : Op Json := do
  let rows ← Op.query (companyQuery (isCompanyOf actor.id))
  let row ← Prog.require rows.head? (.domain notFound)
  pure (toResponse row)

/-! ## Writing -/

def profileRow (companyId profileId : Uuid) (version : ℕ) (actor : RequestActor)
    (dto : CompanyProfileDto) (now : Timestamp) : CompanyProfileVersionRow where
  id := profileId
  companyId := companyId
  version := version
  purpose := dto.purpose.trim
  targetCustomer := dto.targetCustomer.trim
  constraints := Json.jsonb (.arr (dto.constraints.map .str))
  normalizedLimits := Json.jsonb dto.normalizedLimits.toJson
  sensitiveDataWarningAcknowledged := dto.sensitiveDataWarningAcknowledged
  createdBy := actor.id
  createdAt := now

def companyRow (companyId : Uuid) (actor : RequestActor) (name : JsString) (now : Timestamp) :
    CompanyRow where
  id := companyId
  founderId := actor.id
  name := name.trim
  status := .active
  currentProfileVersionId := none
  rowVersion := 1
  createdAt := now
  updatedAt := now

/-- `char_length(text) BETWEEN lo AND hi`. -/
def charLengthWithin (lo hi : ℕ) (text : JsString) : Bool :=
  lo ≤ text.charLength ∧ text.charLength ≤ hi

/-- Insert a profile version; the constraints of its table are checked. -/
def insertProfile (row : CompanyProfileVersionRow) : Op PUnit := do
  Prog.ensure (charLengthWithin 10 1000 row.purpose)
    (.constraint "company_profile_versions_purpose_check")
  Prog.ensure (charLengthWithin 3 500 row.targetCustomer)
    (.constraint "company_profile_versions_target_customer_check")
  let taken ← Op.query fun db => db.companyProfileVersions.any fun v =>
    v.companyId = row.companyId ∧ v.version = row.version
  Prog.ensure (taken = false) (.constraint "company_profile_versions_company_id_version_key")
  Op.exec fun db => { db with companyProfileVersions := db.companyProfileVersions ++ [row] }

/-- Make the profile version the current one; `bump` counts the row version up. -/
def setCurrentProfile (companyId founderId profileId : Uuid) (bump : ℕ) (now : Timestamp) :
    Op PUnit :=
  Op.exec fun db =>
    { db with
      companies := Table.updateWhere (fun c => c.id = companyId ∧ c.founderId = founderId)
        (fun c =>
          { c with
            currentProfileVersionId := some profileId
            rowVersion := c.rowVersion + bump
            updatedAt := now })
        db.companies }

def companyCreatedEvent (companyId profileId : Uuid) (actor : RequestActor)
    (correlationId : UuidText) : AppendEventOptions where
  companyId := .ofUuid companyId
  runId := none
  type := "company_created"
  actorType := "FOUNDER"
  actorId := actor.id.text
  correlationId := correlationId
  payload := .object [("company_id", .uuid companyId), ("profile_version_id", .uuid profileId),
    ("profile_version", .nat 1)]

def profileVersionCreatedEvent (companyId profileId : Uuid) (version : ℕ) (actor : RequestActor)
    (correlationId : UuidText) : AppendEventOptions where
  companyId := .ofUuid companyId
  runId := none
  type := "company_profile_version_created"
  actorType := "FOUNDER"
  actorId := actor.id.text
  correlationId := correlationId
  payload := .object [("profile_version_id", .uuid profileId), ("profile_version", .nat version)]

/-- The callback of `create`. -/
def provision (actor : RequestActor) (correlationId : UuidText) (dto : CreateCompanyDto) :
    Op CommandResponse := do
  let existing ← Op.query fun db => db.companies.filter fun c => c.founderId = actor.id
  Prog.ensure (existing = []) (.domain companyAlreadyExists)
  let companyId ← Op.newId
  let profileId ← Op.newId
  let now ← Op.now
  Prog.ensure (charLengthWithin 2 120 dto.name.trim) (.constraint "companies_name_check")
  Op.exec fun db =>
    { db with companies := db.companies ++ [companyRow companyId actor dto.name now] }
  insertProfile (profileRow companyId profileId 1 actor dto.profile now)
  setCurrentProfile companyId actor.id profileId 0 now
  let _ ← DomainEvent.append (companyCreatedEvent companyId profileId actor correlationId)
  let company ← getByIdWithRunner companyId actor.id
  pure { status := 201, body := toResponse company }

def create (rt : Runtime) (actor : RequestActor) (idempotencyKey : Uuid)
    (correlationId : UuidText) (dto : CreateCompanyDto) : Op CommandResult := do
  CompanyProfilePolicy.assertCreate dto.name dto.profile
  CommandExecutor.run rt
    { actorId := actor.id
      operation := "companies.create"
      idempotencyKey := idempotencyKey
      request := dto.toJson
      execute := provision actor correlationId dto }

/-- The callback of `updateProfile`. -/
def replaceProfile (actor : RequestActor) (expectedVersion : ℕ) (correlationId : UuidText)
    (dto : CompanyProfileDto) : Op CommandResponse := do
  let rows ← Op.query (companyQuery (isCompanyOf actor.id))
  let current ← Prog.require rows.head? (.domain notFound)
  Prog.ensure (current.2.version = expectedVersion) (.domain profileChanged)
  let profileId ← Op.newId
  let nextVersion := current.2.version + 1
  let now ← Op.now
  insertProfile (profileRow current.1.id profileId nextVersion actor dto now)
  setCurrentProfile current.1.id actor.id profileId 1 now
  let _ ← DomainEvent.append
    (profileVersionCreatedEvent current.1.id profileId nextVersion actor correlationId)
  let company ← getByIdWithRunner current.1.id actor.id
  pure { status := 200, body := toResponse company }

def updateProfile (rt : Runtime) (actor : RequestActor) (idempotencyKey : Uuid)
    (expectedVersion : ℕ) (correlationId : UuidText) (dto : CompanyProfileDto) :
    Op CommandResult := do
  CompanyProfilePolicy.assertProfile dto
  CommandExecutor.run rt
    { actorId := actor.id
      operation := "companies.profile.replace"
      idempotencyKey := idempotencyKey
      request := .object [("expectedVersion", .nat expectedVersion), ("dto", dto.toJson)]
      execute := replaceProfile actor expectedVersion correlationId dto }

end Companies

end Aico
