import Aico.GateSpike.PolicyRecords

/-!
# Asking the policy about the gate

A command names a gate, which is read with its run, its artifact version and its targeting
version. The policy port is asked about them (`evaluateExact`), and an answer that allows the
command is checked against the rows and the clock before it stands (`settle`).
-/

namespace Aico

namespace GateProof

/-! ## The gate and its run -/

/-- The rows that `lockGate01State` joins. -/
structure Gate01StateRow where
  run : RunRow
  gate : GateInstanceRow
  artifactVersion : ArtifactVersionRow
  targeting : PolicyTargetingVersionRow

def findRun (db : ProofDb) (companyId runId : Uuid) : Option RunRow :=
  db.runs.find? fun r => r.companyId = companyId && r.id = runId

def isGate (companyId runId gateInstanceId : Uuid) (g : GateInstanceRow) : Bool :=
  g.companyId = companyId && g.runId = runId && g.id = gateInstanceId

def gate01State (db : ProofDb) (companyId runId gateInstanceId : Uuid) : Option Gate01StateRow := do
  let run ← findRun db companyId runId
  let gate ← db.gateInstances.find? (isGate companyId runId gateInstanceId)
  let artifactVersion ← db.artifactVersions.find? fun v => v.companyId = companyId &&
    v.runId = runId && v.artifactId = gate.artifactId && v.id = gate.artifactVersionId
  let targeting ← db.policyTargetingVersions.find? fun p =>
    p.companyId = companyId && p.id = run.targetingVersionId
  pure ⟨run, gate, artifactVersion, targeting⟩

def lockGate01State (platform : GatePlatform) (companyId : Uuid) (r : Gate01CommandRequest) :
    GateOp Gate01StateRow := do
  let runId ← GateOp.uuid platform r.command.runId
  let runTargets ← GateOp.query fun db => findRun db companyId runId
  let _ ← Prog.require runTargets authorityForbidden
  let _ ← GateOp.uuid platform r.command.expected.artifactVersionId
  let gateInstanceId ← GateOp.uuid platform r.command.expected.gateInstanceId
  let rows ← GateOp.query fun db => gate01State db companyId runId gateInstanceId
  Prog.require rows authorityForbidden

def matchesExactGate01 (r : Gate01CommandRequest) (state : Gate01StateRow) : Bool :=
  let expected := r.command.expected
  JsNumber.ofInt r.ifMatch = expected.runRowVersion ∧
  expected.runState = js "AWAITING_BRIEF_APPROVAL" ∧
  expected.runStage = js "PRODUCT" ∧
  expected.gate = js "GATE-01" ∧
  js state.run.state.text = expected.runState ∧
  js state.run.stage.text = expected.runStage ∧
  .ofNat state.run.rowVersion = expected.runRowVersion ∧
  Uuid.text state.gate.id = expected.gateInstanceId ∧
  state.gate.status = .pending ∧
  .ofNat state.gate.rowVersion = expected.gateInstanceRowVersion ∧
  Uuid.text state.gate.artifactId = expected.artifactId ∧
  Uuid.text state.gate.artifactVersionId = expected.artifactVersionId ∧
  .ofNat state.gate.artifactVersion = expected.artifactVersion ∧
  state.gate.artifactChecksum = expected.artifactChecksum ∧
  state.targeting.workflowVersion = state.run.workflowVersion ∧
  state.targeting.employeeDefinitionVersion = state.run.employeeDefinitionVersion ∧
  state.targeting.environmentDigest = state.run.environmentDigest ∧
  state.targeting.budgetDigest = state.run.budgetDigest ∧
  state.run.cancellationRequestedAt = none

/-! ## The policy input -/

structure PolicyInputParts where
  context : DecisionWorkContext
  request : Gate01CommandRequest
  state : Gate01StateRow
  now : JsString
  messageId : Uuid
  policyRequestId : Uuid
  authenticatedAt : JsString
  cancellationRequestedAt : Option JsString

def actionKey : Decision → String
  | .approve => "gate.gate-01.approve/v1"
  | .requestRevision => "gate.gate-01.request-revision/v1"

def PolicyInputParts.json (rt : Runtime) (parts : PolicyInputParts) (resourceVersion : Json) : Json :=
  let authority := parts.context.authority
  let command := parts.request.command
  let run := parts.state.run
  let gate := parts.state.gate
  let targeting := parts.state.targeting
  .object
    [("meta", .object [("schema_version", .nat 1), ("message_id", .uuid parts.messageId),
        ("correlation_id", .str parts.context.correlationId),
        ("causation_id", .str command.commandId), ("occurred_at", .str parts.now)]),
      ("policy_input_schema", .text "policy-input/v1"),
      ("policy_request_id", .uuid parts.policyRequestId), ("evaluation_time", .str parts.now),
      ("policy", .object [("version_id", .uuid targeting.policyVersionId),
        ("semantic_version", .text targeting.policyVersion), ("digest", .str targeting.policyDigest),
        ("targeting_version_id", .uuid run.targetingVersionId),
        ("targeting_state", .text targeting.status.text)]),
      ("actor", .object [("type", .text "FOUNDER"), ("id", .uuid authority.founderId),
        ("version", .str (JsString.decimal authority.founderAuthorityVersion)),
        ("authentication_context_id", .uuid authority.sessionId),
        ("authenticated_at", .str parts.authenticatedAt),
        ("authentication_strength", .text "PROOF_SESSION"),
        ("revocation_version", .nat authority.sessionVersion)]),
      ("company", .object [("id", .uuid authority.companyId), ("status", .text "ACTIVE"),
        ("founder_id", .uuid authority.founderId)]),
      ("run", .object [("id", .uuid run.id), ("state", .text run.state.text),
        ("stage", .text run.stage.text), ("row_version", .nat run.rowVersion),
        ("workflow_version", .text run.workflowVersion),
        ("policy_version", .text targeting.policyVersion),
        ("cancellation_requested_at", .orNull .str parts.cancellationRequestedAt),
        ("operator_kill_version", .nat run.operatorKillVersion)]),
      ("task", .null), ("attempt", .null),
      ("action", .object [("key", .text (actionKey command.decision.type)),
        ("parameters_digest", .str parts.context.requestDigest)]),
      ("resource", .object [("type", .text "GATE_INSTANCE"),
        ("id", .str command.expected.gateInstanceId), ("version", resourceVersion),
        ("company_id", .uuid authority.companyId), ("run_id", .str command.runId),
        ("digest", .str (rt.canonicalDigest (.object [("gate", .text "GATE-01"),
          ("gate_instance_id", .uuid gate.id), ("gate_instance_row_version", .nat gate.rowVersion),
          ("artifact_id", .uuid gate.artifactId),
          ("artifact_version_id", .uuid gate.artifactVersionId),
          ("artifact_version", .nat gate.artifactVersion),
          ("artifact_checksum", .str gate.artifactChecksum),
          ("content_digest", .str parts.state.artifactVersion.contentDigest)])))]),
      ("gate", .object [("id", .text "GATE-01"), ("gate_instance_id", .uuid gate.id),
        ("gate_instance_status", .text gate.status.text),
        ("gate_instance_row_version", .nat gate.rowVersion),
        ("artifact_id", .uuid gate.artifactId),
        ("artifact_version_id", .uuid gate.artifactVersionId),
        ("artifact_version", .nat gate.artifactVersion),
        ("artifact_checksum", .str gate.artifactChecksum)]),
      ("approval_references", .arr []),
      ("budget", .object [("applicability", .text "NOT_APPLICABLE"),
        ("policy_version", .text targeting.policyVersion),
        ("snapshot_digest", .str run.budgetDigest)]),
      ("environment", .object [("application_version", .text "aico-006-proof/v1"),
        ("deployment_environment", .text "TEST"), ("provider", .null), ("tool_key", .null),
        ("tool_version", .null), ("network_mode", .null),
        ("digest", .str (rt.canonicalDigest (.object
          [("environment_digest", .str run.environmentDigest),
            ("employee_definition_version", .text run.employeeDefinitionVersion)])))])]

def PolicyInputParts.input (rt : Runtime) (parts : PolicyInputParts) : Json :=
  parts.json rt (.num parts.request.command.expected.gateInstanceRowVersion)

def PolicyInputParts.staleVersion (parts : PolicyInputParts) : Json :=
  if parts.request.command.expected.gateInstanceRowVersion =
      .ofNat parts.state.gate.rowVersion then
    .nat (parts.state.gate.rowVersion + 1)
  else .num parts.request.command.expected.gateInstanceRowVersion

def buildPolicyInput (platform : GatePlatform) (context : DecisionWorkContext)
    (r : Gate01CommandRequest) (state : Gate01StateRow) (now : JsString) :
    GateOp PolicyInputParts := do
  let messageId ← GateOp.newId
  let policyRequestId ← GateOp.newId
  let authenticatedAt ← Prog.require r.authority.authenticatedAt (.fault .invalidDate)
  let cancellationRequestedAt ← match state.run.cancellationRequestedAt with
    | none => pure none
    | some at_ => do
        let text ← Prog.require (platform.isoText at_) (.fault .invalidDate)
        pure (some text)
  pure ⟨context, r, state, now, messageId, policyRequestId, authenticatedAt,
    cancellationRequestedAt⟩

/-! ## Checks of an answer -/

/-- `Date.parse(left) < Date.parse(right)`. -/
def parsesBefore (platform : GatePlatform) (left right : JsString) : Bool :=
  match platform.dateParse left, platform.dateParse right with
  | some l, some r => l < r
  | _, _ => false

/-- `Date.parse(left) <= Date.parse(right)`. -/
def parsesUpTo (platform : GatePlatform) (left right : JsString) : Bool :=
  match platform.dateParse left, platform.dateParse right with
  | some l, some r => l ≤ r
  | _, _ => false

def expectedBinding (rt : Runtime) (input : Json) (requestDigest : Digest) : Json :=
  let orNull (outer inner : String) := Json.coalesce (input.member outer inner) .null
  .object [("actor_type", given "actor" "type" input), ("actor_id", given "actor" "id" input),
    ("actor_version", given "actor" "version" input), ("company_id", given "company" "id" input),
    ("run_id", given "run" "id" input), ("task_id", .null), ("attempt_id", .null),
    ("action", given "action" "key" input), ("parameters_digest", .str requestDigest),
    ("resource_type", given "resource" "type" input),
    ("resource_id", given "resource" "id" input),
    ("resource_version", given "resource" "version" input),
    ("resource_digest", given "resource" "digest" input),
    ("run_state", given "run" "state" input), ("run_stage", given "run" "stage" input),
    ("run_row_version", given "run" "row_version" input), ("task_state", .null),
    ("gate", orNull "gate" "id"), ("gate_instance_id", orNull "gate" "gate_instance_id"),
    ("gate_instance_row_version", orNull "gate" "gate_instance_row_version"),
    ("artifact_version_id", orNull "gate" "artifact_version_id"),
    ("approval_references_digest", .str (contractDigest rt
      ((input.field "approval_references").getD .null))),
    ("budget_digest", given "budget" "snapshot_digest" input),
    ("environment_digest", given "environment" "digest" input),
    ("workflow_version", given "run" "workflow_version" input),
    ("policy_targeting_version_id", given "policy" "targeting_version_id" input),
    ("maximum_uses", .nat 1)]

def matchesCompleteAllowBinding (platform : GatePlatform) (decision : AllowPolicyDecisionV1)
    (input : Json) (requestDigest : Digest) : Bool :=
  decision.reasonCode = js "ACTION_ALLOWED" &&
    decision.policyInputDigest = contractDigest platform.rt input &&
    Json.strictEquals (some decision.policyVersionId) (input.member "policy" "version_id") &&
    Json.strictEquals (some decision.policyVersion) (input.member "policy" "semantic_version") &&
    Json.strictEquals (some decision.policyDigest) (input.member "policy" "digest") &&
    Json.strictEquals (some decision.policyTargetingVersionId)
      (input.member "policy" "targeting_version_id") &&
    parsesBefore platform decision.issuedAt decision.expiresAt &&
    contractDigest platform.rt decision.binding =
      contractDigest platform.rt (expectedBinding platform.rt input requestDigest)

/-- A denial in the place of an `ALLOW` that does not hold. -/
def denialOf (platform : GatePlatform) (reasonCode : DenyReasonCode)
    (decision : AllowPolicyDecisionV1) (state : Gate01StateRow) : DenyPolicyDecisionV1 where
  toPolicyDecisionBaseV1 := decision.toPolicyDecisionBaseV1
  reasonCode := reasonCode
  binding := Json.defined
    [("actor_type", decision.binding.field "actor_type"),
      ("actor_version", decision.binding.field "actor_version"),
      ("company_id", decision.binding.field "company_id"),
      ("action_class", decision.binding.field "action"),
      ("resource_class", decision.binding.field "resource_type"),
      ("supplied_reference_digest", some (.str (platform.rt.canonicalDigest (.object
        [("run_id", .uuid state.run.id), ("gate_instance_id", .uuid state.gate.id),
          ("artifact_version_id", .uuid state.gate.artifactVersionId)])))),
      ("run_id", some (.uuid state.run.id))]
  issuedAt := decision.issuedAt

def expiredDenial (platform : GatePlatform) := denialOf platform .allowExpired

def invalidAllowDenial (platform : GatePlatform) := denialOf platform .invalidContext

/-! ## The service -/

/-- The service, with the answer of the policy port at a reading of the clock. -/
structure Gate01CommandService where
  platform : GatePlatform
  policyDecision : JsString → Json → Except EvaluationError PolicyDecisionV1

namespace Gate01CommandService

variable (svc : Gate01CommandService)

def evaluate (input : Json) : GateOp PolicyDecisionV1 := do
  let reading ← GateOp.now
  Prog.lift ((svc.policyDecision reading input).mapError fun e => .fault (.evaluation e))

/-- The answer to the input, asked for once more where it allows what is not there. -/
def evaluateExact (parts : PolicyInputParts) : GateOp PolicyDecisionV1 := do
  let decision ← svc.evaluate (parts.input svc.platform.rt)
  if decision.effect = .allow ∧ matchesExactGate01 parts.request parts.state = false then
    svc.evaluate (parts.json svc.platform.rt parts.staleVersion)
  else pure decision

def settle (parts : PolicyInputParts) : GateOp PolicyDecisionV1 := do
  let decision ← svc.evaluateExact parts
  match decision with
  | .deny d => pure (.deny d)
  | .allow d =>
      if matchesCompleteAllowBinding svc.platform d (parts.input svc.platform.rt)
          parts.context.requestDigest = false then
        pure (.deny (invalidAllowDenial svc.platform d parts.state))
      else do
        let reading ← GateOp.now
        if parsesUpTo svc.platform d.expiresAt reading = true then
          pure (.deny (expiredDenial svc.platform d parts.state))
        else pure (.allow d)

end Gate01CommandService

end GateProof

end Aico
