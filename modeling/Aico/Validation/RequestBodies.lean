import Aico.Companies.Companies
import Aico.Initiatives.Initiatives
import Aico.Initiatives.GoalQualification

/-!
# Request bodies

The validation pipe transforms the body of a request and then checks the decorators
of its class. `@MinLength` and `@MaxLength` count characters. A body is of the shape
its class declares; a missing part, or an array in the place of a part, ends in an
error of the policies before anything is written.
-/

namespace Aico

/-- `@Transform(trimString)` on the texts of a profile. -/
def CompanyProfileDto.transform (dto : CompanyProfileDto) : CompanyProfileDto :=
  { dto with purpose := dto.purpose.trim, targetCustomer := dto.targetCustomer.trim }

def CreateCompanyDto.transform (dto : CreateCompanyDto) : CreateCompanyDto where
  name := dto.name.trim
  profile := dto.profile.transform

/-- `@MinLength(lo)` and `@MaxLength(hi)`. -/
def lengthBetween (lo hi : ℕ) (text : JsString) : Bool :=
  lo ≤ text.charLength ∧ text.charLength ≤ hi

namespace NormalizedLimitsDto

def isValid (dto : NormalizedLimitsDto) : Bool :=
  1 ≤ dto.maxScreens ∧ dto.maxScreens ≤ 5 ∧ dto.primaryFlows = 1 ∧
    dto.dataMode = js "mock_or_local"

end NormalizedLimitsDto

def CompanyProfileDto.isValid (dto : CompanyProfileDto) : Bool :=
  lengthBetween 10 1000 dto.purpose && lengthBetween 3 500 dto.targetCustomer &&
    (1 ≤ dto.constraints.length && dto.constraints.length ≤ 20) &&
    dto.constraints.all (lengthBetween 1 200) && dto.normalizedLimits.isValid

def CreateCompanyDto.isValid (dto : CreateCompanyDto) : Bool :=
  lengthBetween 2 120 dto.name && dto.profile.isValid

def CreateInitiativeDto.isValid (dto : CreateInitiativeDto) : Bool :=
  dto.type = "PROTOTYPE" && lengthBetween 3 160 dto.title

/-- `^MH-[0-9]{3}$`. -/
def isMustHaveId (id : JsString) : Bool :=
  id.length = 6 && id.take 3 = js "MH-" && (id.drop 3).all fun u => 0x30 ≤ u && u ≤ 0x39

def MustHaveDto.isValid (dto : MustHaveDto) : Bool :=
  isMustHaveId dto.id && lengthBetween 3 500 dto.text

def GoalConstraintsDto.isValid (dto : GoalConstraintsDto) : Bool :=
  1 ≤ dto.maxScreens ∧ dto.maxScreens ≤ 5 ∧ dto.primaryFlows = 1 ∧
    dto.dataMode = js "mock_or_local"

def StructuredGoalDto.isValid (dto : StructuredGoalDto) : Bool :=
  lengthBetween 3 300 dto.targetUser && lengthBetween 10 1000 dto.problem &&
    lengthBetween 10 1000 dto.desiredOutcome && lengthBetween 5 500 dto.primaryFlow &&
    (dto.mustHaves.length ≤ 20 && dto.mustHaves.all MustHaveDto.isValid) &&
    (dto.nonGoals.length ≤ 20 && dto.nonGoals.all (lengthBetween 1 500)) &&
    lengthBetween 3 500 dto.visualDirection && dto.constraints.isValid &&
    dto.referenceIds.length ≤ 20

def CreateGoalDto.isValid (dto : CreateGoalDto) : Bool :=
  dto.schemaVersion = 1 && dto.goal.isValid && dto.attachmentIds.length ≤ 5 &&
    (dto.attachmentIds.map UuidText.text).Nodup

/-- The body of a request that writes companies, initiatives or goals. -/
inductive RequestBody where
  | createCompany (dto : CreateCompanyDto)
  | replaceProfile (dto : CompanyProfileDto)
  | createInitiative (dto : CreateInitiativeDto)
  | createGoalAndRun (dto : CreateGoalDto)

/-- What comes with the body. -/
structure RequestCall where
  actor : RequestActor
  idempotencyKey : Uuid
  correlationId : UuidText
  expectedVersion : ℕ
  initiativeId : UuidText

namespace RequestBody

def transform : RequestBody → RequestBody
  | createCompany dto => createCompany dto.transform
  | replaceProfile dto => replaceProfile dto.transform
  | body => body

/-- The checks of the decorators. -/
def isValid : RequestBody → Bool
  | createCompany dto => dto.isValid
  | replaceProfile dto => dto.isValid
  | createInitiative dto => dto.isValid
  | createGoalAndRun dto => dto.isValid

def isAccepted (body : RequestBody) : Bool := body.transform.isValid

def perform (rt : Runtime) (workflowVersion : String) (engine : RegExpEngine)
    (call : RequestCall) : RequestBody → Op CommandResult
  | createCompany dto =>
      Companies.create rt call.actor call.idempotencyKey call.correlationId dto
  | replaceProfile dto =>
      Companies.updateProfile rt call.actor call.idempotencyKey call.expectedVersion
        call.correlationId dto
  | createInitiative dto =>
      Initiatives.create rt call.actor call.idempotencyKey call.correlationId dto
  | createGoalAndRun dto =>
      Initiatives.createGoalAndRun
        ⟨rt, workflowVersion, GoalQualification.evaluateGoalQualification engine⟩ call.actor
        call.initiativeId call.expectedVersion call.idempotencyKey call.correlationId dto

def handle (rt : Runtime) (workflowVersion : String) (engine : RegExpEngine)
    (call : RequestCall) (body : RequestBody) : Op CommandResult :=
  body.transform.perform rt workflowVersion engine call

end RequestBody

end Aico
