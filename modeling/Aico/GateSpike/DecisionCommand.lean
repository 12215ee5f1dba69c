import Aico.Foundation.DateText
import Aico.GateSpike.ProofSchema

/-!
# Decision commands

A founder decides a gate by a command, which the service checks (`assertCommandEnvelope`)
and names by the digest of what it says (`decisionBusinessDigest`). The receipt of a command
is stored under the idempotency key of its request, and the key gives the receipt back to
the requests of the same digest only (`lockReceipt`).
-/

namespace Aico

namespace GateProof

/-! ## Canonical digests -/

section

variable (rt : Runtime)

mutual

/-- A text that is an instant is respelled, wherever it stands. -/
def normalizeCanonicalJson : Json → Json
  | .arr elements => .arr (normalizeElements elements)
  | .obj entries => .obj (normalizeEntries entries)
  | .str s => .str (JsDate.respell s)
  | value => value

def normalizeElements : List Json → List Json
  | [] => []
  | v :: rest => normalizeCanonicalJson v :: normalizeElements rest

def normalizeEntries : List (JsString × Json) → List (JsString × Json)
  | [] => []
  | (key, v) :: rest => (key, normalizeCanonicalJson v) :: normalizeEntries rest

end

def contractDigest (value : Json) : Digest := rt.canonicalDigest (normalizeCanonicalJson value)

end

/-! ## Commands -/

inductive DecisionV1 where
  | approve (decisionSchema : JsString) (feedback : Option JsString)
  | requestRevision (decisionSchema feedback : JsString)

namespace DecisionV1

def type : DecisionV1 → Decision
  | .approve .. => .approve
  | .requestRevision .. => .requestRevision

def decisionSchema : DecisionV1 → JsString
  | .approve schema _ => schema
  | .requestRevision schema _ => schema

def feedback : DecisionV1 → Option JsString
  | .approve _ feedback => feedback
  | .requestRevision _ feedback => some feedback

def json (d : DecisionV1) : Json :=
  .object [("decision_schema", .str d.decisionSchema), ("type", .text d.type.text),
    ("feedback", .orNull .str d.feedback)]

def map (onText onFeedback : JsString → JsString) : DecisionV1 → DecisionV1
  | .approve schema feedback => .approve (onText schema) (feedback.map onFeedback)
  | .requestRevision schema feedback => .requestRevision (onText schema) (onFeedback feedback)

end DecisionV1

/-- The gate that a command expects to decide. -/
structure ExpectedGate where
  runRowVersion : JsNumber
  runState : JsString
  runStage : JsString
  gate : JsString
  gateInstanceId : JsString
  gateInstanceRowVersion : JsNumber
  artifactId : JsString
  artifactVersionId : JsString
  artifactVersion : JsNumber
  artifactChecksum : JsString

def ExpectedGate.json (e : ExpectedGate) : Json :=
  .object [("run_row_version", .num e.runRowVersion), ("run_state", .str e.runState),
    ("run_stage", .str e.runStage), ("gate", .str e.gate),
    ("gate_instance_id", .str e.gateInstanceId),
    ("gate_instance_row_version", .num e.gateInstanceRowVersion),
    ("artifact_id", .str e.artifactId), ("artifact_version_id", .str e.artifactVersionId),
    ("artifact_version", .num e.artifactVersion),
    ("artifact_checksum", .str e.artifactChecksum)]

structure DecisionCommandV1 where
  commandSchema : JsString
  commandId : JsString
  runId : JsString
  expected : ExpectedGate
  decision : DecisionV1

def DecisionCommandV1.json (c : DecisionCommandV1) : Json :=
  .object [("command_schema", .str c.commandSchema), ("command_id", .str c.commandId),
    ("run_id", .str c.runId), ("expected", c.expected.json), ("decision", c.decision.json)]

def normalizedDecisionCommand (c : DecisionCommandV1) : DecisionCommandV1 :=
  { c with decision := c.decision.map id JsString.trim }

def decisionBusinessDigest (rt : Runtime) (command : DecisionCommandV1) (parsedIfMatch : ℤ) :
    Digest :=
  contractDigest rt (.object [("command", (normalizedDecisionCommand command).json),
    ("if_match", .int parsedIfMatch)])

/-! ## Requests -/

/-- Who sends a request. A date is its ISO text, and an invalid one has none. -/
structure FounderAuthorityInput where
  sessionId : JsString
  authSubject : JsString
  companyId : JsString
  authenticatedAt : Option JsString

structure Gate01CommandRequest where
  authority : FounderAuthorityInput
  idempotencyKey : JsString
  correlationId : JsString
  ifMatch : ℤ
  command : DecisionCommandV1

inductive ProofErrorCode where
  | authenticationRequired | authorityForbidden | idempotencyConflict | preconditionFailed
  | invalidContext
deriving DecidableEq

structure Gate01ProofError where
  code : ProofErrorCode
  statusCode : ℕ
deriving DecidableEq

def hasFeedback : DecisionV1 → Bool
  | .approve .. => true
  | .requestRevision _ feedback => feedback.trim ≠ []

structure EnvelopeValid (isUuid : JsString → Bool) (r : Gate01CommandRequest) : Prop where
  commandSchema : r.command.commandSchema = js "founder-decision-command/v1"
  gate : r.command.expected.gate = js "GATE-01"
  idempotencyKey : isUuid r.idempotencyKey = true
  correlationId : isUuid r.correlationId = true
  commandId : isUuid r.command.commandId = true
  runId : isUuid r.command.runId = true
  safe : r.ifMatch ≤ 2 ^ 53 - 1
  positive : 0 < r.ifMatch
  feedback : hasFeedback r.command.decision = true

/-- A number that is no integer is refused as well. -/
def assertCommandEnvelope (isUuid : JsString → Bool) (r : Gate01CommandRequest) :
    Except Gate01ProofError Unit :=
  if r.command.commandSchema ≠ js "founder-decision-command/v1" ∨
      r.command.expected.gate ≠ js "GATE-01" ∨ isUuid r.idempotencyKey = false ∨
      isUuid r.correlationId = false ∨ isUuid r.command.commandId = false ∨
      isUuid r.command.runId = false ∨ ¬ r.ifMatch ≤ 2 ^ 53 - 1 ∨ r.ifMatch ≤ 0 ∨
      hasFeedback r.command.decision = false then
    .error ⟨.invalidContext, 400⟩
  else .ok ()

theorem assertCommandEnvelope_eq_ok {isUuid : JsString → Bool} {r : Gate01CommandRequest} :
    assertCommandEnvelope isUuid r = .ok () ↔ EnvelopeValid isUuid r := by
  unfold assertCommandEnvelope
  constructor
  · intro h
    split at h
    · cases h
    · next hvalid =>
        simp only [not_or, not_not, ne_eq, Bool.not_eq_false, not_le, not_lt] at hvalid
        obtain ⟨hschema, hgate, hkey, hcorrelation, hcommand, hrun, hsafe, hpositive, hfeedback⟩ :=
          hvalid
        exact ⟨hschema, hgate, hkey, hcorrelation, hcommand, hrun, hsafe, hpositive, hfeedback⟩
  · intro h
    rw [if_neg]
    simp only [not_or, not_not, ne_eq, Bool.not_eq_false, not_le, not_lt]
    exact ⟨h.commandSchema, h.gate, h.idempotencyKey, h.correlationId, h.commandId, h.runId, h.safe,
      h.positive, h.feedback⟩

/-! ## Receipts -/

structure ReceiptScope where
  companyId : Uuid
  founderId : Uuid
  idempotencyKey : Uuid
  requestDigest : Digest

/-- The receipt that is stored for the key, when its digest is that of the request. -/
def lockReceipt (receipts : List CommandReceiptRow) (scope : ReceiptScope) :
    Except Gate01ProofError (Option CommandReceiptRow) :=
  match receipts.find? fun r => r.companyId = scope.companyId ∧ r.founderId = scope.founderId ∧
      r.idempotencyKey = scope.idempotencyKey with
  | none => .ok none
  | some receipt =>
      if receipt.requestDigest ≠ scope.requestDigest then .error ⟨.idempotencyConflict, 409⟩
      else .ok (some receipt)

end GateProof

end Aico
