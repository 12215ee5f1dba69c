import Aico.Schema.Database

/-!
# CHECK constraints

What the migrations ask of each row of `companies`, `company_profile_versions`,
`initiatives`, `goal_versions` and `goal_qualifications`. A `status` column holds one of
its values by its type.
-/

namespace Json

/-- `jsonb_typeof(v) = 'array'`. -/
def isArray : Json → Bool
  | .arr _ => true
  | _ => false

/-- `jsonb_array_length(v)`. -/
def arrayLength : Json → ℕ
  | .arr elements => elements.length
  | _ => 0

end Json

namespace Aico

/-- `char_length(text) BETWEEN lo AND hi`. -/
def charLengthBetween (lo hi : ℕ) (text : JsString) : Bool :=
  lo ≤ text.charLength ∧ text.charLength ≤ hi

def CompanyRow.check (row : CompanyRow) : Bool :=
  charLengthBetween 2 120 row.name && 0 < row.rowVersion

def CompanyProfileVersionRow.check (row : CompanyProfileVersionRow) : Bool :=
  0 < row.version && charLengthBetween 10 1000 row.purpose &&
    charLengthBetween 3 500 row.targetCustomer && row.constraints.isArray &&
    row.normalizedLimits.isObject

def InitiativeRow.check (row : InitiativeRow) : Bool :=
  row.type = "PROTOTYPE" && charLengthBetween 3 160 row.title && 0 < row.rowVersion

def GoalVersionRow.check (row : GoalVersionRow) : Bool :=
  0 < row.version && row.schemaVersion = 1 && row.structuredGoal.isObject &&
    row.attachmentIds.isArray

def GoalQualificationRow.check (row : GoalQualificationRow) : Bool :=
  (row.result ∈ ["qualified", "needs_clarification", "out_of_scope"]) &&
    row.clarificationQuestions.isArray && 0 ≤ row.screenEstimate &&
    (if row.result = "out_of_scope" then row.proposal.any (· ≠ "") else row.proposal.isNone) &&
    (if row.result = "needs_clarification" then
      1 ≤ row.clarificationQuestions.arrayLength && row.clarificationQuestions.arrayLength ≤ 5
    else row.clarificationQuestions.arrayLength = 0)

/-- The rows of the five tables satisfy their constraints. -/
structure Db.ChecksHold (db : Db) : Prop where
  companies : ∀ row ∈ db.companies, row.check = true
  companyProfileVersions : ∀ row ∈ db.companyProfileVersions, row.check = true
  initiatives : ∀ row ∈ db.initiatives, row.check = true
  goalVersions : ∀ row ∈ db.goalVersions, row.check = true
  goalQualifications : ∀ row ∈ db.goalQualifications, row.check = true

/-- The error of a violated CHECK constraint of one of the tables. -/
def Failure.IsCheckViolation : Failure → Prop
  | .constraint name => name ∈ ["companies_name_check", "company_profile_versions_purpose_check",
      "company_profile_versions_target_customer_check", "initiatives_title_check",
      "goal_qualifications_check"]
  | _ => False

end Aico
