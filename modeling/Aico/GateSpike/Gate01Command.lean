import Aico.GateSpike.Gate01Policy

/-!
# Deciding the gate

`execute` stores the decision of the policy on a command with its event, and where that is an
`ALLOW`, the decision of the founder, the moves of the gate and the run, the binding of an approved
artifact, what is to follow, and a second event. `executeRedactedDenial` stores a denial that names
no run.
-/

namespace JsString

/-- `btrim(text)`, which takes spaces only. -/
def btrim (s : JsString) : JsString :=
  (s.dropWhile (· = 0x20)).rdropWhile (· = 0x20)

end JsString

namespace Aico

namespace GateProof

/-! ## The founder's decision -/

def feedbackClassification : String := "CONFIDENTIAL_FOUNDER_INPUT"

def feedbackDigest (rt : Runtime) (feedback : JsString) : Digest :=
  rt.canonicalDigest (.object [("classification", .text feedbackClassification),
    ("value", .str feedback.trim)])

def founderDecisionCheck (row : FounderGateDecisionRow) : Bool :=
  match row.decision with
  | .approve =>
      row.feedback.isNone && row.feedbackDigest.isNone && row.feedbackClassification.isNone
  | .requestRevision =>
      row.feedback.any (fun f => f ≠ [] && 1 ≤ (JsString.btrim f).charLength &&
          (JsString.btrim f).charLength ≤ 4000) &&
        row.feedbackDigest.isSome && row.feedbackClassification = some feedbackClassification

def founderDecisionFree (db : ProofDb) (row : FounderGateDecisionRow) : Bool :=
  db.founderGateDecisions.all fun d =>
    (d.companyId ≠ row.companyId || d.commandId ≠ row.commandId) &&
      (d.companyId ≠ row.companyId || d.runId ≠ row.runId || d.gateInstanceId ≠ row.gateInstanceId)

def isArtifactVersionOf (row b : ApprovedArtifactBindingRow) : Bool :=
  b.companyId = row.companyId && b.runId = row.runId && b.artifactId = row.artifactId &&
    b.artifactVersionId = row.artifactVersionId

def bindingFree (db : ProofDb) (row : ApprovedArtifactBindingRow) : Bool :=
  db.approvedArtifactBindings.all fun b =>
    (b.companyId ≠ row.companyId || b.runId ≠ row.runId || b.gateInstanceId ≠ row.gateInstanceId) &&
      !isArtifactVersionOf row b

def continuationFree (db : ProofDb) (row : ContinuationIntentRow) : Bool :=
  db.continuationIntents.all fun c =>
    c.companyId ≠ row.companyId || c.runId ≠ row.runId || c.logicalKey ≠ row.logicalKey

/-- `GATE-01:gate:decision`. -/
def logicalKey (gateInstanceId : Uuid) (decision : Decision) : JsString :=
  js "GATE-01:" ++ Uuid.text gateInstanceId ++ js ":" ++ js decision.text

def resultingGateStatus : Decision → GateStatus
  | .approve => .approved
  | .requestRevision => .revisionRequested

def resultingRunState : Decision → RunState
  | .approve => .designing
  | .requestRevision => .qualifying

def resultingRunStage : Decision → RunStage
  | .approve => .design
  | .requestRevision => .product

def continuationKind : Decision → ContinuationKind
  | .approve => .startDesignFromBrief
  | .requestRevision => .reviseProductBrief

section

variable (platform : GatePlatform) (context : DecisionWorkContext) (r : Gate01CommandRequest)
  (state : Gate01StateRow) (decision : AllowPolicyDecisionV1)

def founderDecisionRow (id policyDecisionId commandId correlationId : Uuid) :
    FounderGateDecisionRow where
  id := id
  companyId := context.authority.companyId
  runId := state.run.id
  gateInstanceId := state.gate.id
  artifactId := state.gate.artifactId
  artifactVersionId := state.gate.artifactVersionId
  policyDecisionId := policyDecisionId
  founderId := context.authority.founderId
  commandId := commandId
  decision := r.command.decision.type
  feedback := r.command.decision.feedback.map JsString.trim
  feedbackDigest := r.command.decision.feedback.map (feedbackDigest platform.rt)
  feedbackClassification := r.command.decision.feedback.map fun _ => feedbackClassification
  approvalReferencesDigest := contractDigest platform.rt (.arr [])
  decidedAt := decision.issuedAt
  correlationId := correlationId

def insertFounderDecision : GateOp Uuid := do
  let id ← GateOp.newId
  let policyDecisionId ← GateOp.uuid platform decision.policyDecisionId
  let commandId ← GateOp.uuid platform r.command.commandId
  let correlationId ← GateOp.uuid platform context.correlationId
  let row := founderDecisionRow platform context r state decision id policyDecisionId commandId
    correlationId
  Prog.ensure (0 ∉ row.feedback.getD []) (.fault .invalidText)
  Prog.ensure (founderDecisionCheck row = true) (.fault (.checkViolation "founder_gate_decisions"))
  let free ← GateOp.query fun db => founderDecisionFree db row
  Prog.ensure (free = true) (.fault (.uniqueViolation "founder_gate_decisions"))
  GateOp.exec fun db => { db with founderGateDecisions := db.founderGateDecisions ++ [row] }
  pure id

/-! ## The moves of the gate and the run -/

def isPendingGate (g : GateInstanceRow) : Bool :=
  isGate context.authority.companyId state.run.id state.gate.id g && g.status = .pending &&
    g.rowVersion = state.gate.rowVersion

def decidedGate (status : GateStatus) (decidedAt : JsString) (g : GateInstanceRow) :
    GateInstanceRow :=
  { g with
    status := status
    rowVersion := g.rowVersion + 1
    decidedAt := some decidedAt }

def moveGate : GateOp PUnit := do
  let found ← GateOp.query fun db => db.gateInstances.any (isPendingGate context state)
  Prog.ensure (found = true) (invalidContext 409)
  Prog.ensure (state.gate.rowVersion < maxInteger) (.fault .outOfRange)
  GateOp.exec fun db =>
    { db with
      gateInstances := Table.updateWhere (isPendingGate context state)
        (decidedGate (resultingGateStatus r.command.decision.type) decision.issuedAt)
        db.gateInstances }

def isAwaitingRun (run : RunRow) : Bool :=
  run.companyId = context.authority.companyId && run.id = state.run.id &&
    run.state = .awaitingBriefApproval && run.stage = .product &&
    run.rowVersion = state.run.rowVersion && run.cancellationRequestedAt.isNone

def decidedRun (type : Decision) (updatedAt : JsString) (run : RunRow) : RunRow :=
  { run with
    state := resultingRunState type
    stage := resultingRunStage type
    rowVersion := run.rowVersion + 1
    updatedAt := updatedAt }

def moveRun : GateOp PUnit := do
  let found ← GateOp.query fun db => db.runs.any (isAwaitingRun context state)
  Prog.ensure (found = true) (invalidContext 409)
  Prog.ensure (state.run.rowVersion < maxInteger) (.fault .outOfRange)
  GateOp.exec fun db =>
    { db with
      runs := Table.updateWhere (isAwaitingRun context state)
        (decidedRun r.command.decision.type decision.issuedAt) db.runs }

/-! ## What follows -/

def bindingRow (id decisionRecordId policyDecisionId : Uuid) : ApprovedArtifactBindingRow where
  id := id
  companyId := context.authority.companyId
  runId := state.run.id
  gateInstanceId := state.gate.id
  artifactId := state.gate.artifactId
  artifactVersionId := state.gate.artifactVersionId
  decisionRecordId := decisionRecordId
  policyDecisionId := policyDecisionId
  checksum := state.gate.artifactChecksum
  boundAt := decision.issuedAt

def bindArtifact (decisionRecordId : Uuid) : GateOp (Option Uuid) :=
  match r.command.decision.type with
  | .requestRevision => pure none
  | .approve => do
      let id ← GateOp.newId
      let policyDecisionId ← GateOp.uuid platform decision.policyDecisionId
      let row := bindingRow context state decision id decisionRecordId policyDecisionId
      let free ← GateOp.query fun db => bindingFree db row
      Prog.ensure (free = true) (.fault (.uniqueViolation "approved_artifact_bindings"))
      GateOp.exec fun db =>
        { db with approvedArtifactBindings := db.approvedArtifactBindings ++ [row] }
      GateOp.failpoint .afterApprovedBinding
      pure (some id)

def continuationRow (id decisionRecordId policyDecisionId : Uuid) : ContinuationIntentRow where
  id := id
  companyId := context.authority.companyId
  runId := state.run.id
  decisionRecordId := decisionRecordId
  policyDecisionId := policyDecisionId
  kind := continuationKind r.command.decision.type
  logicalKey := logicalKey state.gate.id r.command.decision.type
  sourceArtifactVersionId := state.gate.artifactVersionId
  createdAt := decision.issuedAt

def insertContinuation (decisionRecordId : Uuid) : GateOp Uuid := do
  let id ← GateOp.newId
  let policyDecisionId ← GateOp.uuid platform decision.policyDecisionId
  let row := continuationRow context r state decision id decisionRecordId policyDecisionId
  let free ← GateOp.query fun db => continuationFree db row
  Prog.ensure (free = true) (.fault (.uniqueViolation "continuation_intents"))
  GateOp.exec fun db => { db with continuationIntents := db.continuationIntents ++ [row] }
  GateOp.failpoint .afterContinuation
  pure id

def policyEventDraft (d : PolicyDecisionV1) : EventDraft where
  eventType := .policyDecided
  runId := r.command.runId
  aggregateId := d.base.policyDecisionId
  causationId := r.command.commandId
  payload := [("policy_decision_id", .str d.base.policyDecisionId),
    ("result", .text d.effect.text), ("reason_code", .str d.reasonCode)]
  eventFailpoint := .afterPolicyEvent
  outboxFailpoint := .afterPolicyOutbox

def approvalEventDraft (decisionRecordId continuationIntentId policyEventId : Uuid) :
    EventDraft where
  eventType := .approvalDecided
  runId := Uuid.text state.run.id
  aggregateId := Uuid.text decisionRecordId
  causationId := Uuid.text policyEventId
  payload := [("decision_record_id", .uuid decisionRecordId),
    ("policy_decision_id", .str decision.policyDecisionId),
    ("decision", .text r.command.decision.type.text), ("gate", .text "GATE-01"),
    ("gate_instance_id", .uuid state.gate.id),
    ("artifact_version_id", .uuid state.gate.artifactVersionId),
    ("resulting_run_state", .text (resultingRunState r.command.decision.type).text),
    ("continuation_intent_id", .uuid continuationIntentId)]
  eventFailpoint := .afterApprovalEvent
  outboxFailpoint := .afterApprovalOutbox

def deniedBody (d : DenyPolicyDecisionV1) (eventId : Uuid) : Json :=
  .object [("outcome", .text "DENY"), ("reasonCode", .text d.reasonCode.text),
    ("policyDecisionId", .str d.policyDecisionId), ("eventId", .uuid eventId)]

def allowedBody (decisionRecordId eventId continuationIntentId : Uuid) (bindingId : Option Uuid) :
    Json :=
  let type := r.command.decision.type
  .object [("outcome", .text "ALLOW"), ("receipt", .object
    [("receipt_schema", .text "founder-decision-receipt/v1"),
      ("command_id", .str r.command.commandId), ("decision_record_id", .uuid decisionRecordId),
      ("policy_decision_id", .str decision.policyDecisionId), ("event_id", .uuid eventId),
      ("company_id", .uuid context.authority.companyId), ("run_id", .uuid state.run.id),
      ("gate", .text "GATE-01"), ("gate_instance_id", .uuid state.gate.id),
      ("resulting_gate_instance_status", .text (resultingGateStatus type).text),
      ("artifact_version_id", .uuid state.gate.artifactVersionId),
      ("artifact_version", .nat state.gate.artifactVersion),
      ("artifact_checksum", .str state.gate.artifactChecksum), ("decision", .text type.text),
      ("prior_run_state", .text "AWAITING_BRIEF_APPROVAL"),
      ("resulting_run_state", .text (resultingRunState type).text),
      ("resulting_run_stage", .text (resultingRunStage type).text),
      ("resulting_run_row_version", .nat (state.run.rowVersion + 1)),
      ("approved_artifact_binding_id", .orNull .uuid bindingId),
      ("continuation", .object [("kind", .text (continuationKind type).text),
        ("continuation_intent_id", .uuid continuationIntentId)]),
      ("decided_at", .str decision.issuedAt), ("correlation_id", .str context.correlationId),
      ("replayed", .bool false)])]

/-- Store what follows from an `ALLOW`. -/
def recordDecision (policyEventId : Uuid) : GateOp (ℕ × Json) := do
  let decisionRecordId ← insertFounderDecision platform context r state decision
  GateOp.failpoint .afterFounderDecision
  moveGate context r state decision
  moveRun context r state decision
  GateOp.failpoint .afterGateTransition
  let bindingId ← bindArtifact platform context r state decision decisionRecordId
  let continuationIntentId ← insertContinuation platform context r state decision decisionRecordId
  let eventId ← appendEvent platform context
    (approvalEventDraft r state decision decisionRecordId continuationIntentId policyEventId)
  pure (200, allowedBody context r state decision decisionRecordId eventId continuationIntentId
    bindingId)

end

namespace Gate01CommandService

variable (svc : Gate01CommandService)

def recordPolicyDecision (parts : PolicyInputParts) (decision : PolicyDecisionV1) :
    GateOp (ℕ × Json) := do
  insertPolicyDecision svc.platform parts.context parts.request decision
  GateOp.failpoint .afterPolicyDecision
  let policyEventId ← appendEvent svc.platform parts.context
    (policyEventDraft parts.request decision)
  match decision with
  | .deny d => pure (403, deniedBody d policyEventId)
  | .allow d => do
      Prog.ensure (matchesExactGate01 parts.request parts.state = true) (invalidContext 400)
      recordDecision svc.platform parts.context parts.request parts.state d policyEventId

def decide (r : Gate01CommandRequest) (context : DecisionWorkContext) : GateOp (ℕ × Json) := do
  let state ← lockGate01State svc.platform context.authority.companyId r
  let evaluationTime ← GateOp.now
  let parts ← buildPolicyInput svc.platform context r state evaluationTime
  let decision ← svc.settle parts
  svc.recordPolicyDecision parts decision

def deniedError (body : Json) : CommandError :=
  .denied
    { reasonCode := (body.field "reasonCode").getD .null
      policyDecisionId := (body.field "policyDecisionId").getD .null
      eventId := (body.field "eventId").getD .null }

def execute (r : Gate01CommandRequest) : GateOp Json := do
  Prog.lift ((assertCommandEnvelope svc.platform.isUuid r).mapError .proof)
  Prog.ensure (JsNumber.ofInt r.ifMatch = r.command.expected.runRowVersion)
    (.proof ⟨.preconditionFailed, 412⟩)
  let result ← unitOfWork svc.platform r.authority r.idempotencyKey r.correlationId
    (decisionBusinessDigest svc.platform.rt r.command r.ifMatch) (svc.decide r)
  Prog.ensure (Json.isText (result.1.field "outcome") "DENY" = false) (deniedError result.1)
  pure (((result.1.field "receipt").getD (.obj [])).put "replayed" (.bool result.2))

/-! ## Denials that name no run -/

structure RedactedDenialRequest where
  request : Gate01CommandRequest
  actorType : JsString
  actorVersion : JsString
  reasonCode : DenyReasonCode
  resourceClass : JsString
  suppliedReference : JsString

def activeTargeting (db : ProofDb) (companyId : Uuid) : Option PolicyTargetingVersionRow := do
  let target ← db.policyTargets.find? fun t => t.companyId = companyId && t.targetKey = "GATE-01"
  db.policyTargetingVersions.find? fun p =>
    p.companyId = companyId && p.id = target.activeTargetingVersionId

def redactedDenial (input : RedactedDenialRequest) (context : DecisionWorkContext)
    (target : PolicyTargetingVersionRow) (decidedAt : JsString)
    (decisionId policyRequestId : Uuid) : DenyPolicyDecisionV1 where
  metadata :=
    { messageId := Uuid.text decisionId
      correlationId := .str context.correlationId
      causationId := .str input.request.command.commandId
      occurredAt := decidedAt }
  policyDecisionId := Uuid.text decisionId
  policyRequestId := .uuid policyRequestId
  policyInputDigest := context.requestDigest
  policyVersionId := .uuid target.policyVersionId
  policyVersion := .text target.policyVersion
  policyDigest := .str target.policyDigest
  policyTargetingVersionId := .uuid target.id
  reasonCode := input.reasonCode
  binding := .object [("actor_type", .str input.actorType),
    ("actor_version", .str input.actorVersion),
    ("company_id", .uuid context.authority.companyId), ("action_class", .text "DECIDE_GATE_01"),
    ("resource_class", .str input.resourceClass),
    ("supplied_reference_digest", .str (svc.platform.rt.canonicalDigest (.object
      [("company_id", .uuid context.authority.companyId),
        ("supplied_reference", .str input.suppliedReference)])))]
  issuedAt := decidedAt

def denyRedacted (input : RedactedDenialRequest) (context : DecisionWorkContext) :
    GateOp (ℕ × Json) := do
  let targets ← GateOp.query fun db => activeTargeting db context.authority.companyId
  let target ← Prog.require targets authorityForbidden
  let decidedAt ← GateOp.now
  let decisionId ← GateOp.newId
  let policyRequestId ← GateOp.newId
  let decision := svc.redactedDenial input context target decidedAt decisionId policyRequestId
  insertPolicyDecision svc.platform context input.request (.deny decision)
  let eventId ← appendCompanyPolicyEvent svc.platform context input.request.command.commandId
    decision
  pure (403, deniedBody decision eventId)

def executeRedactedDenial (input : RedactedDenialRequest) : GateOp PUnit := do
  let r := input.request
  Prog.lift ((assertCommandEnvelope svc.platform.isUuid r).mapError .proof)
  let result ← unitOfWork svc.platform r.authority r.idempotencyKey r.correlationId
    (decisionBusinessDigest svc.platform.rt r.command r.ifMatch) (svc.denyRedacted input)
  Prog.ensure (Json.isText (result.1.field "outcome") "DENY" = true) (invalidContext 400)
  Prog.throw (deniedError result.1)

end Gate01CommandService

end GateProof

end Aico
