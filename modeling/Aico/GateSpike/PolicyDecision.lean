import Aico.GateSpike.PolicyContracts

/-!
# The deterministic policy decision

The service decides a policy input by a list of rules in a fixed order (`denialReason`). A
denial does not repeat the input: its binding holds classes of what was asked for, and the
identifiers of the run only where the resource belongs to it (`redactedBinding`).
-/

namespace Json

/-- `value ?? fallback`. -/
def coalesce (value : Option Json) (fallback : Json) : Json :=
  match value with
  | none | some .null => fallback
  | some v => v

def isNull (value : Option Json) : Bool := strictEquals value (some .null)

def isText (value : Option Json) (text : String) : Bool := strictEquals value (some (.text text))

/-- `String(value)` of a text or a number. -/
def spelled : Option Json → Option JsString
  | some (.str s) => some s
  | some (.num n) => some n.text
  | _ => none

end Json

namespace Aico

namespace GateProof

/-! ## Decisions -/

inductive DenyReasonCode where
  | roleForbidden | wrongStage | approvalMissing | staleVersion | resourceOutOfScope
  | budgetUnavailable | environmentUnsafe | tenantMismatch | invalidContext
  | authenticationRequired | policyVersionUnsupported | allowExpired | runCanceled | runTerminal
deriving DecidableEq

def DenyReasonCode.text : DenyReasonCode → String
  | roleForbidden => "ROLE_FORBIDDEN"
  | wrongStage => "WRONG_STAGE"
  | approvalMissing => "APPROVAL_MISSING"
  | staleVersion => "STALE_VERSION"
  | resourceOutOfScope => "RESOURCE_OUT_OF_SCOPE"
  | budgetUnavailable => "BUDGET_UNAVAILABLE"
  | environmentUnsafe => "ENVIRONMENT_UNSAFE"
  | tenantMismatch => "TENANT_MISMATCH"
  | invalidContext => "INVALID_CONTEXT"
  | authenticationRequired => "AUTHENTICATION_REQUIRED"
  | policyVersionUnsupported => "POLICY_VERSION_UNSUPPORTED"
  | allowExpired => "ALLOW_EXPIRED"
  | runCanceled => "RUN_CANCELED"
  | runTerminal => "RUN_TERMINAL"

structure EnvelopeMetaV1 where
  messageId : JsString
  correlationId : Json
  causationId : Json
  occurredAt : JsString

structure PolicyDecisionBaseV1 where
  metadata : EnvelopeMetaV1
  policyDecisionId : JsString
  policyRequestId : Json
  policyInputDigest : Digest
  policyVersionId : Json
  policyVersion : Json
  policyDigest : Json
  policyTargetingVersionId : Json

structure AllowPolicyDecisionV1 extends PolicyDecisionBaseV1 where
  reasonCode : JsString
  binding : Json
  issuedAt : JsString
  expiresAt : JsString

/-- A denial, which never expires and may not be used. -/
structure DenyPolicyDecisionV1 extends PolicyDecisionBaseV1 where
  reasonCode : DenyReasonCode
  binding : Json
  issuedAt : JsString

inductive PolicyDecisionV1 where
  | allow (decision : AllowPolicyDecisionV1)
  | deny (decision : DenyPolicyDecisionV1)

section

variable (rt : Runtime)

/-- Five groups of the digest, with the version and the variant of a UUID. -/
def deterministicUuid (seed : Json) : JsString :=
  let digest := contractDigest rt seed
  let slice (start stop : ℕ) := (digest.take stop).drop start
  slice 0 8 ++ js "-" ++ slice 8 12 ++ js "-5" ++ slice 13 16 ++ js "-8" ++ slice 17 20 ++
    js "-" ++ slice 20 32

def policyBase (input : Option Json) (inputDigest : Digest) (issuedAt : JsString) :
    PolicyDecisionBaseV1 :=
  let decisionId := deterministicUuid rt (.object [("kind", .text "policy-decision/v1"),
    ("input_digest", .str inputDigest), ("issued_at", .str issuedAt)])
  let fallback (kind : String) := Json.str <| deterministicUuid rt <|
    .object [("kind", .text kind), ("input_digest", .str inputDigest)]
  let redacted (kind : String) := Json.str <| deterministicUuid rt <|
    .object [("kind", .text kind), ("inputDigest", .str inputDigest)]
  { metadata :=
      { messageId := decisionId
        correlationId := Json.coalesce (input.bind (Json.member "meta" "correlation_id"))
          (redacted "redacted-correlation")
        causationId := Json.coalesce (input.bind (Json.member "meta" "message_id")) .null
        occurredAt := issuedAt }
    policyDecisionId := decisionId
    policyRequestId := Json.coalesce (input.bind (Json.field "policy_request_id"))
      (redacted "redacted-policy-request")
    policyInputDigest := inputDigest
    policyVersionId := Json.coalesce (input.bind (Json.member "policy" "version_id"))
      (fallback "unsupported-policy-version")
    policyVersion := Json.coalesce (input.bind (Json.member "policy" "semantic_version"))
      (.text "unsupported")
    policyDigest := Json.coalesce (input.bind (Json.member "policy" "digest"))
      (.str (contractDigest rt (.object [("kind", .text "redacted-policy")])))
    policyTargetingVersionId := Json.coalesce
      (input.bind (Json.member "policy" "targeting_version_id"))
      (fallback "unsupported-policy-targeting") }

/-! ## Bindings -/

def tenantMatches (input : Json) : Bool :=
  Json.strictEquals (input.member "resource" "company_id") (input.member "company" "id")

def runMatches (input : Json) : Bool :=
  tenantMatches input &&
    Json.strictEquals (input.member "resource" "run_id") (input.member "run" "id")

/-- The value of a property of a record, which a policy input has. -/
def given (outer inner : String) (input : Json) : Json :=
  (input.member outer inner).getD .null

def redactedBinding : Option Json → Json
  | none => .object [("actor_type", .null), ("actor_version", .null), ("company_id", .null),
      ("action_class", .text "UNKNOWN"), ("resource_class", .text "UNKNOWN"),
      ("supplied_reference_digest", .null)]
  | some input => .object <|
      [("actor_type", given "actor" "type" input),
        ("actor_version", given "actor" "version" input),
        ("company_id", given "company" "id" input),
        ("action_class", given "action" "key" input),
        ("resource_class", given "resource" "type" input),
        ("supplied_reference_digest", .str (contractDigest rt (.object
          [("action_class", given "action" "key" input),
            ("resource_class", given "resource" "type" input),
            ("tenant_matches", .bool (tenantMatches input)),
            ("run_matches", .bool (runMatches input))])))] ++
      (if runMatches input then [("run_id", given "run" "id" input)] else []) ++
      (if runMatches input && !Json.isNull (input.field "task") then
        [("task_id", given "task" "id" input)] else []) ++
      (if runMatches input && !Json.isNull (input.field "attempt") then
        [("attempt_id", given "attempt" "id" input)] else [])

end

/-! ## The service -/

structure DeterministicPolicyDecisionService where
  rt : Runtime
  isUuid : JsString → Bool
  allowTtlMs : ℕ
  allowTtlMs_pos : 0 < allowTtlMs
  allowTtlMs_safe : allowTtlMs < 2 ^ 53
  supportedPolicyVersions : List JsString

/-- What the service throws: a clock that does not return RFC 3339 UTC, and an expiry that is no
time. -/
inductive EvaluationError where
  | clockNotRfc3339 | invalidTime
deriving DecidableEq

/-- The last time value, in milliseconds since the year 0. -/
def maxTime : ℕ := 62167219200000 + 8640000000000000

def terminalRunStates : List String := ["BLOCKED", "FAILED", "CANCELED", "COMPLETED"]

namespace DeterministicPolicyDecisionService

variable (svc : DeterministicPolicyDecisionService)

def isSupported (version : Option Json) : Bool :=
  match version with
  | some (.str s) => s ∈ svc.supportedPolicyVersions
  | _ => false

def denialReason (input : Json) : Option DenyReasonCode :=
  if !Json.isText (input.member "policy" "targeting_state") "ACTIVE" ||
      !svc.isSupported (input.member "policy" "semantic_version") then
    some .policyVersionUnsupported
  else if Json.isNull (input.member "actor" "version") ||
      Json.isNull (input.member "actor" "authentication_context_id") ||
      Json.isNull (input.member "actor" "authenticated_at") ||
      Json.isNull (input.member "actor" "authentication_strength") ||
      Json.isNull (input.member "actor" "revocation_version") then
    some .authenticationRequired
  else if !Json.isText (input.member "actor" "type") "FOUNDER" ||
      !Json.isText (input.member "company" "status") "ACTIVE" ||
      !Json.strictEquals (input.member "actor" "id") (input.member "company" "founder_id") then
    some .roleForbidden
  else if !tenantMatches input then some .tenantMismatch
  else if !Json.isNull (input.member "run" "cancellation_requested_at") then some .runCanceled
  else if terminalRunStates.any (Json.isText (input.member "run" "state")) then some .runTerminal
  else if !Json.isText (input.member "action" "key") "gate.gate-01.approve/v1" &&
      !Json.isText (input.member "action" "key") "gate.gate-01.request-revision/v1" then
    some .policyVersionUnsupported
  else if !Json.isText (input.member "run" "state") "AWAITING_BRIEF_APPROVAL" ||
      !Json.isText (input.member "run" "stage") "PRODUCT" ||
      !Json.isText (input.member "gate" "id") "GATE-01" ||
      !Json.isText (input.member "gate" "gate_instance_status") "PENDING" then
    some .wrongStage
  else if !Json.strictEquals (input.member "resource" "run_id") (input.member "run" "id") ||
      !Json.isText (input.member "resource" "type") "GATE_INSTANCE" ||
      !Json.strictEquals (input.member "resource" "id")
        (input.member "gate" "gate_instance_id") then
    some .resourceOutOfScope
  else if Json.spelled (input.member "resource" "version") ≠
      Json.spelled (input.member "gate" "gate_instance_row_version") then
    some .staleVersion
  else if !Json.isNull (input.field "task") || !Json.isNull (input.field "attempt") then
    some .invalidContext
  else if !Json.isText (input.member "budget" "applicability") "NOT_APPLICABLE" ||
      !Json.strictEquals (input.member "budget" "policy_version")
        (input.member "policy" "semantic_version") then
    some .budgetUnavailable
  else if !Json.isNull (input.member "environment" "provider") ||
      !Json.isNull (input.member "environment" "tool_key") ||
      !Json.isNull (input.member "environment" "tool_version") ||
      !Json.isNull (input.member "environment" "network_mode") then
    some .environmentUnsafe
  else none

def allowBinding (input : Json) : Json :=
  let orNull (outer inner : String) := Json.coalesce (input.member outer inner) .null
  .object [("actor_type", given "actor" "type" input), ("actor_id", given "actor" "id" input),
    ("actor_version", given "actor" "version" input), ("company_id", given "company" "id" input),
    ("run_id", given "run" "id" input), ("task_id", orNull "task" "id"),
    ("attempt_id", orNull "attempt" "id"), ("action", given "action" "key" input),
    ("parameters_digest", given "action" "parameters_digest" input),
    ("resource_type", given "resource" "type" input),
    ("resource_id", given "resource" "id" input),
    ("resource_version", given "resource" "version" input),
    ("resource_digest", given "resource" "digest" input),
    ("run_state", given "run" "state" input), ("run_stage", given "run" "stage" input),
    ("run_row_version", given "run" "row_version" input), ("task_state", orNull "task" "state"),
    ("gate", orNull "gate" "id"), ("gate_instance_id", orNull "gate" "gate_instance_id"),
    ("gate_instance_row_version", orNull "gate" "gate_instance_row_version"),
    ("artifact_version_id", orNull "gate" "artifact_version_id"),
    ("approval_references_digest", .str (contractDigest svc.rt
      ((input.field "approval_references").getD .null))),
    ("budget_digest", given "budget" "snapshot_digest" input),
    ("environment_digest", given "environment" "digest" input),
    ("workflow_version", given "run" "workflow_version" input),
    ("policy_targeting_version_id", given "policy" "targeting_version_id" input),
    ("maximum_uses", .nat 1)]

def allow (input : Json) (inputDigest : Digest) (issuedAt : JsString) (issued : ℕ) :
    Except EvaluationError PolicyDecisionV1 :=
  if issued + svc.allowTtlMs ≤ maxTime then
    .ok <| .allow
      { toPolicyDecisionBaseV1 := policyBase svc.rt (some input) inputDigest issuedAt
        reasonCode := js "ACTION_ALLOWED"
        binding := svc.allowBinding input
        issuedAt := issuedAt
        expiresAt := JsDate.toISOString (issued + svc.allowTtlMs) }
  else .error .invalidTime

def deny (input : Option Json) (inputDigest : Digest) (issuedAt : JsString)
    (reasonCode : DenyReasonCode) : PolicyDecisionV1 :=
  .deny
    { toPolicyDecisionBaseV1 := policyBase svc.rt input inputDigest issuedAt
      reasonCode := reasonCode
      binding := redactedBinding svc.rt input
      issuedAt := issuedAt }

def evaluate (issuedAt : JsString) (candidate : Json) : Except EvaluationError PolicyDecisionV1 :=
  match JsDate.parse issuedAt with
  | none => .error .clockNotRfc3339
  | some issued =>
      if !validatePolicyInputV1 svc.isUuid candidate then
        .ok <| svc.deny none (contractDigest svc.rt
          (.object [("policy_input_schema", .text "invalid-or-unsupported")])) issuedAt
          .invalidContext
      else if JsDate.respell (candidate.textField "evaluation_time") ≠
          JsDate.respell issuedAt then
        .ok <| svc.deny (some candidate) (contractDigest svc.rt candidate) issuedAt .invalidContext
      else
        match svc.denialReason candidate with
        | some reason =>
            .ok <| svc.deny (some candidate) (contractDigest svc.rt candidate) issuedAt reason
        | none => svc.allow candidate (contractDigest svc.rt candidate) issuedAt issued

end DeterministicPolicyDecisionService

end GateProof

end Aico
