import Aico.Initiatives.Goal

/-!
# Qualifying a goal

`evaluateGoalQualification` looks for what is outside the boundary of the private
alpha in the text of a goal and in its limits; a goal inside it may still need
clarification. Whether a pattern matches, and which numbers of screens a text names,
is left to the platform's regular expressions (`RegExpEngine`).
-/

namespace Aico

/-- `RegExp.prototype.test` with the flag `i`, and the numbers that the screen pattern
captures in a text. -/
structure RegExpEngine where
  test : String → JsString → Bool
  screenNumbers : JsString → List ℕ

/-- What the founder is told about a reason, and what to do next. -/
structure GoalReason where
  founderMessage : String
  nextAction : String

structure DeniedCapability where
  capability : String
  reasonCode : String
  rule : String
  patterns : List String

namespace QualificationPolicy

def policyVersion : String := "1.0.0"
def maxPersonas : ℕ := 1
def maxFlows : ℕ := 1
def maxScreens : ℕ := 5
def dataMode : JsString := js "mock_or_local"
def maxClarificationQuestions : ℕ := 5

def reasonCodeOrder : List String :=
  ["GOAL_CATEGORY_UNSUPPORTED", "GOAL_TOO_MANY_PERSONAS", "GOAL_TOO_MANY_FLOWS",
    "GOAL_TOO_MANY_SCREENS", "GOAL_PLATFORM_UNSUPPORTED", "GOAL_TEMPLATE_UNAVAILABLE",
    "GOAL_REQUIRES_BACKEND", "GOAL_REQUIRES_REAL_DATA", "GOAL_CAPABILITY_UNSUPPORTED",
    "GOAL_NEEDS_CLARIFICATION"]

/-- `GOAL_REASON_CODES`. -/
def reason : String → GoalReason
  | "GOAL_CATEGORY_UNSUPPORTED" =>
      ⟨"This prototype category is not enabled for the private alpha.",
        "Choose an eligible category or submit a new, narrower goal version."⟩
  | "GOAL_TOO_MANY_PERSONAS" =>
      ⟨"The goal contains more than one primary persona.",
        "Choose one primary persona and submit a new goal version."⟩
  | "GOAL_TOO_MANY_FLOWS" =>
      ⟨"The goal contains more than one primary user flow.",
        "Choose one flow to prototype and submit a new goal version."⟩
  | "GOAL_TOO_MANY_SCREENS" =>
      ⟨"The proposed flow needs more than five screens or routes.",
        "Narrow the flow to five screens or fewer and submit a new goal version."⟩
  | "GOAL_PLATFORM_UNSUPPORTED" =>
      ⟨"The requested output is not a responsive browser prototype.",
        "Reframe the goal as a responsive web flow or cancel this initiative."⟩
  | "GOAL_TEMPLATE_UNAVAILABLE" =>
      ⟨"The requested stack does not fit the fixed private-alpha template.",
        "Accept the fixed React and TypeScript template or narrow the goal."⟩
  | "GOAL_REQUIRES_BACKEND" =>
      ⟨"The requested behavior requires a generated backend or production service.",
        "Replace it with a client-side mock interaction and submit a new goal version."⟩
  | "GOAL_REQUIRES_REAL_DATA" =>
      ⟨"The requested behavior requires real, sensitive, or external data.",
        "Use safe local mock data and submit a new goal version."⟩
  | "GOAL_CAPABILITY_UNSUPPORTED" =>
      ⟨"The goal requests a capability outside the private-alpha boundary.",
        "Review the cited limitation, remove that capability, and submit a new goal version."⟩
  | "GOAL_NEEDS_CLARIFICATION" =>
      ⟨"The goal is missing information required to qualify the primary flow.",
        "Answer the bounded clarification questions or cancel the initiative."⟩
  | _ => ⟨"", ""⟩

end QualificationPolicy

namespace GoalQualification

open QualificationPolicy

def missingTargetUser : String :=
  "^(tbd|n\\/a|na|unknown|todo|users?|people|someone|tbc)$"

def vagueText : String := "^(tbd|n\\/a|na|unknown|todo|tbc|not sure)\\b"

def deniedCapabilityPatterns : List DeniedCapability := [
  { capability := "production_deployment"
    reasonCode := "GOAL_CAPABILITY_UNSUPPORTED"
    rule := "denied_capability"
    patterns := [
      "\\bproduction deploy(?:ment|ing)?\\b",
      "\\bdeploy(?:ing|ed)? (?:the )?(?:prototype|app|application) to production\\b",
      "\\bdeploy to (?:aws|gcp|azure|vercel|netlify|kubernetes)\\b",
      "\\bproduction hosting\\b"] },
  { capability := "generated_backend"
    reasonCode := "GOAL_REQUIRES_BACKEND"
    rule := "denied_capability"
    patterns := [
      "\\bgenerated backend\\b", "\\bbackend rest api\\b", "\\brest api server\\b",
      "\\bgraphql server\\b", "\\bexpress server\\b", "\\bnestjs backend\\b",
      "\\bproduction service\\b"] },
  { capability := "production_database"
    reasonCode := "GOAL_REQUIRES_BACKEND"
    rule := "denied_capability"
    patterns := [
      "\\bproduction database\\b", "\\bpostgres(?:ql)? production\\b",
      "\\bconnect to (?:the )?(?:company|production) database\\b"] },
  { capability := "real_authentication"
    reasonCode := "GOAL_CAPABILITY_UNSUPPORTED"
    rule := "denied_capability"
    patterns := [
      "\\breal (?:user )?authentication\\b", "\\bproduction (?:login|authentication)\\b",
      "\\boauth(?:2)? login\\b", "\\bsingle sign[- ]on\\b"] },
  { capability := "real_payment"
    reasonCode := "GOAL_CAPABILITY_UNSUPPORTED"
    rule := "denied_capability"
    patterns := [
      "\\bstripe\\b", "\\bpaypal\\b", "\\breal payments?\\b", "\\bprocess(?:ing)? payments?\\b",
      "\\bpayment processing\\b", "\\bcharge (?:a |the )?credit cards?\\b",
      "\\bcheckout with (?:real )?cards?\\b"] },
  { capability := "email_delivery"
    reasonCode := "GOAL_CAPABILITY_UNSUPPORTED"
    rule := "denied_capability"
    patterns := [
      "\\bsend(?:s|ing)? (?:transactional )?emails?\\b", "\\bemail delivery\\b"] },
  { capability := "third_party_business_api"
    reasonCode := "GOAL_CAPABILITY_UNSUPPORTED"
    rule := "denied_capability"
    patterns := [
      "\\bsalesforce\\b", "\\bhubspot\\b", "\\bthird[- ]party (?:business )?api\\b",
      "\\bexternal crm api\\b"] },
  { capability := "sensitive_data"
    reasonCode := "GOAL_CAPABILITY_UNSUPPORTED"
    rule := "denied_capability"
    patterns := [
      "\\bssn\\b", "\\bsocial security numbers?\\b", "\\breal customer (?:pii|data)\\b",
      "\\bcredit card numbers?\\b", "\\bpassport numbers?\\b", "\\bmedical records?\\b",
      "\\bphi\\b"] },
  { capability := "native_mobile"
    reasonCode := "GOAL_PLATFORM_UNSUPPORTED"
    rule := "denied_capability"
    patterns := [
      "\\bios app\\b", "\\bandroid app\\b", "\\breact native\\b", "\\bnative mobile\\b",
      "\\bswift(?:ui)? app\\b"] },
  { capability := "native_desktop"
    reasonCode := "GOAL_PLATFORM_UNSUPPORTED"
    rule := "denied_capability"
    patterns := [
      "\\belectron\\b", "\\bnative desktop\\b", "\\bdesktop app\\b"] },
  { capability := "browser_extension"
    reasonCode := "GOAL_PLATFORM_UNSUPPORTED"
    rule := "denied_capability"
    patterns := [
      "\\bbrowser extension\\b", "\\bchrome extension\\b"] },
  { capability := "multi_user_collaboration"
    reasonCode := "GOAL_CAPABILITY_UNSUPPORTED"
    rule := "denied_capability"
    patterns := [
      "\\breal[- ]time collaboration\\b", "\\bmulti[- ]user editing\\b",
      "\\bconcurrent users collaborating\\b"] },
  { capability := "multiple_primary_flows"
    reasonCode := "GOAL_TOO_MANY_FLOWS"
    rule := "denied_capability"
    patterns := [
      "\\b(?:two|2|three|3|multiple) (?:primary )?(?:user )?flows\\b",
      "\\bsecond (?:primary )?user flow\\b"] },
  { capability := "multiple_concurrent_initiatives"
    reasonCode := "GOAL_CAPABILITY_UNSUPPORTED"
    rule := "denied_capability"
    patterns := [
      "\\btwo initiatives at once\\b", "\\bconcurrent initiatives\\b"] },
  { capability := "custom_employees"
    reasonCode := "GOAL_CAPABILITY_UNSUPPORTED"
    rule := "denied_capability"
    patterns := [
      "\\bcustom employees?\\b", "\\bcustom agent role\\b",
      "\\bwrite a new employee definition\\b"] },
  { capability := "arbitrary_shell"
    reasonCode := "GOAL_CAPABILITY_UNSUPPORTED"
    rule := "denied_capability"
    patterns := [
      "\\barbitrary shell\\b", "\\bunrestricted shell\\b", "\\brun bash\\b"] },
  { capability := "unrestricted_network"
    reasonCode := "GOAL_CAPABILITY_UNSUPPORTED"
    rule := "denied_capability"
    patterns := [
      "\\bunrestricted network\\b", "\\bopen internet access from the sandbox\\b"] },
  { capability := "external_business_action"
    reasonCode := "GOAL_CAPABILITY_UNSUPPORTED"
    rule := "denied_capability"
    patterns := [
      "\\bsend a wire\\b", "\\bcharge the customer in production\\b",
      "\\bmutate production systems\\b"] }]

/-- The text a goal asks with, one field or must-have a line. -/
def requestedText (goal : StructuredGoalDto) : JsString :=
  (js "\n").intercalate ([goal.targetUser, goal.problem, goal.desiredOutcome, goal.primaryFlow,
    goal.visualDirection] ++ goal.mustHaves.map MustHaveDto.text)

variable (engine : RegExpEngine)

def screenEstimateFromText (text : JsString) : ℕ := (engine.screenNumbers text).foldl max 0

def personaCountFromText (text : JsString) : ℕ :=
  if engine.test "\\b(?:two|2|three|3|multiple) (?:primary )?personas\\b" text ∨
      engine.test ("\\band also (?:for )?(?:admins?|customers?|operators?) as (?:a )?" ++
        "primary\\b") text ∨
      engine.test "\\bfor both [^.\\n]+ and [^.\\n]+ as primary users\\b" text then
    2
  else 1

def findingIf (found : Bool) (finding : QualificationFinding) : List QualificationFinding :=
  if found then [finding] else []

def boundaryFindings (goal : StructuredGoalDto) : List QualificationFinding :=
  let text := requestedText goal
  findingIf (engine.test "\\bgeneral[- ]purpose coding\\b" text ||
      engine.test "\\bunrestricted agent\\b" text ||
      engine.test "\\bcustom coding sandbox\\b" text)
    ⟨"GOAL_CATEGORY_UNSUPPORTED", "allowed_categories", some "goal", none⟩ ++
  findingIf (maxPersonas < personaCountFromText engine text)
    ⟨"GOAL_TOO_MANY_PERSONAS", "one_primary_persona", some "goal.target_user", none⟩ ++
  findingIf (goal.constraints.primaryFlows ≠ maxFlows)
    ⟨"GOAL_TOO_MANY_FLOWS", "one_primary_flow", some "goal.constraints.primary_flows", none⟩ ++
  (if maxScreens < goal.constraints.maxScreens then
    [⟨"GOAL_TOO_MANY_SCREENS", "max_five_screens", some "goal.constraints.max_screens", none⟩]
  else
    findingIf (maxScreens < screenEstimateFromText engine text)
      ⟨"GOAL_TOO_MANY_SCREENS", "max_five_screens", some "goal.primary_flow", none⟩) ++
  findingIf (!goal.constraints.clientOnly)
    ⟨"GOAL_REQUIRES_BACKEND", "client_only", some "goal.constraints.client_only", none⟩ ++
  findingIf (goal.constraints.dataMode ≠ dataMode)
    ⟨"GOAL_REQUIRES_REAL_DATA", "mock_or_local_data", some "goal.constraints.data_mode",
      none⟩ ++
  findingIf (engine.test "\\b(?:rails|django|laravel|flutter|swiftui)\\b" text &&
      !engine.test "\\breact\\b" text)
    ⟨"GOAL_TEMPLATE_UNAVAILABLE", "fixed_react_template", some "goal", none⟩

def capabilityFindings (text : JsString) : List QualificationFinding :=
  (deniedCapabilityPatterns.filter fun entry => entry.patterns.any fun p => engine.test p text).map
    fun entry => ⟨entry.reasonCode, entry.rule, none, some entry.capability⟩

def uniqueReasonCodes (findings : List QualificationFinding) : List String :=
  reasonCodeOrder.filter fun code => findings.any fun finding => finding.reasonCode = code

def explanationFor (codes : List String) (result : QualificationResult) : String :=
  let messages := " ".intercalate (codes.map fun code => (reason code).founderMessage)
  match result with
  | .qualified =>
      "This goal fits the private-alpha prototype boundary: one primary persona, one primary " ++
        "flow, five screens or fewer, a client-only React prototype, and local mock data."
  | .outOfScope => messages ++ " The submitted goal was not changed."
  | .needsClarification => messages

/-- The values of a `Set`, in the order they were first added. -/
def distinct (values : List String) : List String := values.reverse.dedup.reverse

def proposalFor (codes : List String) (findings : List QualificationFinding) : String :=
  let actions := distinct (codes.map fun code => (reason code).nextAction)
  let capabilities := distinct (findings.filterMap QualificationFinding.capability)
  let capabilityClause :=
    if capabilities = [] then ""
    else " Remove " ++ ", ".intercalate capabilities ++ " from the requested behavior."
  "Keep one primary persona, one primary flow, and five screens or fewer using local mock data." ++
    capabilityClause ++ " " ++ " ".intercalate actions

/-- A question, before it is numbered. -/
structure Question where
  code : String
  prompt : String

/-- Whether a text is shorter than `n` or says nothing. -/
def isVague (n : ℕ) (text : JsString) : Bool :=
  text.trim.length < n || engine.test vagueText text.trim

def openQuestions (goal : StructuredGoalDto) : List Question :=
  (if engine.test missingTargetUser goal.targetUser.trim then
    [⟨"missing_target_user", "Who is the single primary user of this prototype?"⟩] else []) ++
  (if isVague engine 20 goal.problem then
    [⟨"vague_problem",
      "What specific problem should this five-screen prototype solve for that user?"⟩] else []) ++
  (if isVague engine 20 goal.desiredOutcome then
    [⟨"vague_outcome",
      "What should that user have accomplished at the end of the primary flow?"⟩] else []) ++
  (if isVague engine 12 goal.primaryFlow then
    [⟨"vague_flow", "What is the single primary flow, from first action to done?"⟩] else []) ++
  (if goal.mustHaves = [] then
    [⟨"missing_must_have",
      "Which must-have belongs in this prototype versus a later version?"⟩] else [])

/-- The questions with their identifiers `Q1`, `Q2` and so on. -/
def numbered (questions : List Question) : List ClarificationQuestion :=
  questions.zipIdx.map fun q => ⟨"Q" ++ toString (q.2 + 1), q.1.code, q.1.prompt⟩

def evaluateGoalQualification (goal : StructuredGoalDto) : GoalQualification :=
  let text := requestedText goal
  let screenEstimate := max goal.constraints.maxScreens (screenEstimateFromText engine text)
  let findings := boundaryFindings engine goal ++ capabilityFindings engine text
  let outOfScopeCodes := uniqueReasonCodes findings
  let boundedQuestions :=
    (numbered (openQuestions engine goal)).take maxClarificationQuestions
  if outOfScopeCodes ≠ [] then
    { result := .outOfScope
      reasonCodes := outOfScopeCodes
      explanation := explanationFor outOfScopeCodes .outOfScope
      proposal := some (proposalFor outOfScopeCodes findings)
      clarificationQuestions := []
      screenEstimate := screenEstimate
      policyVersion := QualificationPolicy.policyVersion
      findings := findings }
  else
    match boundedQuestions with
    | question :: _ =>
        { result := .needsClarification
          reasonCodes := ["GOAL_NEEDS_CLARIFICATION"]
          explanation := explanationFor ["GOAL_NEEDS_CLARIFICATION"] .needsClarification
          proposal := none
          clarificationQuestions := boundedQuestions
          screenEstimate := screenEstimate
          policyVersion := QualificationPolicy.policyVersion
          findings := [⟨"GOAL_NEEDS_CLARIFICATION", "clarification_required",
            some (if question.code = "missing_target_user" then "goal.target_user" else "goal"),
            none⟩] }
    | [] =>
        { result := .qualified
          reasonCodes := []
          explanation := explanationFor [] .qualified
          proposal := none
          clarificationQuestions := []
          screenEstimate := screenEstimate
          policyVersion := QualificationPolicy.policyVersion
          findings := [] }

end GoalQualification

end Aico
