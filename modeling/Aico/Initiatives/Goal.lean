import Aico.Schema.Database

/-!
# Goals

The goal a founder submits (`CreateGoalDto`), the document stored for it
(`canonicalStructuredGoal`) and its qualification. How a goal is qualified
(`evaluateGoalQualification`) is a pure function of the structured goal and a
parameter of the services; what surrounds it, `GoalScopePolicy`, is not.
-/

namespace Aico

structure MustHaveDto where
  id : JsString
  text : JsString

structure GoalConstraintsDto where
  maxScreens : ℕ
  primaryFlows : ℕ
  clientOnly : Bool
  dataMode : JsString

structure StructuredGoalDto where
  targetUser : JsString
  problem : JsString
  desiredOutcome : JsString
  primaryFlow : JsString
  mustHaves : List MustHaveDto
  nonGoals : List JsString
  visualDirection : JsString
  constraints : GoalConstraintsDto
  referenceIds : List UuidText

structure CreateGoalDto where
  schemaVersion : ℕ
  goal : StructuredGoalDto
  attachmentIds : List UuidText
  startRun : Bool

def canonicalStructuredGoal (goal : StructuredGoalDto) : Json :=
  .object [("target_user", .str goal.targetUser), ("problem", .str goal.problem),
    ("desired_outcome", .str goal.desiredOutcome),
    ("primary_flow", .str goal.primaryFlow),
    ("must_haves", .arr (goal.mustHaves.map fun item =>
      .object [("id", .str item.id), ("text", .str item.text)])),
    ("non_goals", .arr (goal.nonGoals.map .str)),
    ("visual_direction", .str goal.visualDirection),
    ("constraints", .object [("max_screens", .nat goal.constraints.maxScreens),
      ("primary_flows", .nat goal.constraints.primaryFlows),
      ("client_only", .bool goal.constraints.clientOnly),
      ("data_mode", .str goal.constraints.dataMode)]),
    ("reference_ids", .arr (goal.referenceIds.map UuidText.toJson))]

/-- The request body. -/
def CreateGoalDto.toJson (dto : CreateGoalDto) : Json :=
  .object [("schema_version", .nat dto.schemaVersion),
    ("goal", canonicalStructuredGoal dto.goal),
    ("attachment_ids", .arr (dto.attachmentIds.map UuidText.toJson)),
    ("start_run", .bool dto.startRun)]

inductive QualificationResult where
  | qualified | needsClarification | outOfScope
deriving DecidableEq

/-- The value of the `result` column. -/
def QualificationResult.text : QualificationResult → String
  | qualified => "qualified"
  | needsClarification => "needs_clarification"
  | outOfScope => "out_of_scope"

structure ClarificationQuestion where
  id : String
  code : String
  prompt : String

structure QualificationFinding where
  reasonCode : String
  rule : String
  field : Option String
  capability : Option String

structure GoalQualification where
  result : QualificationResult
  reasonCodes : List String
  explanation : String
  proposal : Option String
  clarificationQuestions : List ClarificationQuestion
  screenEstimate : ℕ
  policyVersion : String
  findings : List QualificationFinding

def ClarificationQuestion.toJson (question : ClarificationQuestion) : Json :=
  .object [("id", .text question.id), ("code", .text question.code),
    ("prompt", .text question.prompt)]

def publicGoalQualification (qualification : GoalQualification) : Json :=
  .object [("result", .text qualification.result.text),
    ("reason_codes", .arr (qualification.reasonCodes.map .text)),
    ("explanation", .text qualification.explanation),
    ("proposal", Json.orNull .text qualification.proposal),
    ("clarification_questions",
      .arr (qualification.clarificationQuestions.map ClarificationQuestion.toJson)),
    ("screen_estimate", .nat qualification.screenEstimate),
    ("policy_version", .text qualification.policyVersion)]

namespace GoalScopePolicy

/-- An entry of an error list that is left out when it is undefined. -/
def optionalEntry (name : String) (value : Option String) : List (String × Json) :=
  match value with
  | some text => [(name, .text text)]
  | none => []

def violation (rule field : String) : Json :=
  .object [("rule", .text rule), ("field", .text field)]

/-- What the command itself gets wrong, before the goal is looked at. -/
def violations (dto : CreateGoalDto) : List Json :=
  (if dto.startRun then []
    else [violation "first_slice_requires_start_run" "start_run"]) ++
  (if (dto.goal.mustHaves.map MustHaveDto.id).dedup.length
      ≠ dto.goal.mustHaves.length then
      [violation "unique_must_have_ids" "goal.must_haves"]
    else [])

def commandOutOfScope (errors : List Json) : DomainError where
  status := 422
  code := "goal_out_of_scope"
  title := "The goal exceeds the Prototype Initiative boundary"
  detail := "Submit a new goal version that fits the bounded client-side prototype scope."
  errors := errors
  remediation := ["narrow_goal", "submit_new_goal_version"]

def toOutOfScopeError (qualification : GoalQualification) : DomainError where
  status := 422
  code := "goal_out_of_scope"
  title := "The goal exceeds the Prototype Initiative boundary"
  detail := qualification.explanation
  errors := (qualification.findings.map fun finding =>
      .object ([("rule", .text finding.rule)] ++
        optionalEntry "field" finding.field ++
        optionalEntry "capability" finding.capability ++
        [("reason_code", .text finding.reasonCode)])) ++
    [.object [("qualification", publicGoalQualification qualification)]]
  remediation := ["narrow_goal", "submit_new_goal_version"]

def evaluate (evaluateGoalQualification : StructuredGoalDto → GoalQualification)
    (dto : CreateGoalDto) : Op GoalQualification := do
  Prog.ensure (violations dto = []) (.domain (commandOutOfScope (violations dto)))
  pure (evaluateGoalQualification dto.goal)

end GoalScopePolicy

end Aico
