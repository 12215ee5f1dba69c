import Aico.GateSpike.PolicyDecision

/-!
# Resources of another company

A policy input may name a resource of another company. The denial is then the same whatever the
input says of the resource apart from its type (`evaluate_foreign`): the rules that come before
the one on the company do not look at the resource, and the binding holds its type only.
-/

namespace Json

theorem eq_of_strictEquals {v w : Option Json} (h : strictEquals v w = true) : v = w := by
  unfold strictEquals at h
  split at h
  · rfl
  · rfl
  · rw [of_decide_eq_true h]
  · rw [JsNumber.ext (of_decide_eq_true h)]
  · rw [of_decide_eq_true h]
  · cases h

theorem member_congr {v w : Json} {outer : String} (h : v.field outer = w.field outer)
    (inner : String) : v.member outer inner = w.member outer inner := by
  rw [member, member, h]

end Json

namespace Aico

namespace GateProof

/-- Two policy inputs that differ only in what they say of a resource of another company, whose
type they agree on. -/
structure ForeignTwins (isUuid : JsString → Bool) (a b : Json) : Prop where
  valid : validatePolicyInputV1 isUuid a = true
  valid' : validatePolicyInputV1 isUuid b = true
  rest : ∀ name, name ≠ "resource" → a.field name = b.field name
  resource : ∀ name, name ∉ ["id", "version", "digest", "run_id", "company_id"] →
    a.member "resource" name = b.member "resource" name
  foreign : a.member "resource" "company_id" ≠ a.member "company" "id"
  foreign' : b.member "resource" "company_id" ≠ b.member "company" "id"

namespace DeterministicPolicyDecisionService

variable (svc : DeterministicPolicyDecisionService) {a b : Json} {now : JsString}

def foreignReason (input : Json) : DenyReasonCode :=
  if !Json.isText (input.member "policy" "targeting_state") "ACTIVE" ||
      !svc.isSupported (input.member "policy" "semantic_version") then
    .policyVersionUnsupported
  else if Json.isNull (input.member "actor" "version") ||
      Json.isNull (input.member "actor" "authentication_context_id") ||
      Json.isNull (input.member "actor" "authenticated_at") ||
      Json.isNull (input.member "actor" "authentication_strength") ||
      Json.isNull (input.member "actor" "revocation_version") then
    .authenticationRequired
  else if !Json.isText (input.member "actor" "type") "FOUNDER" ||
      !Json.isText (input.member "company" "status") "ACTIVE" ||
      !Json.strictEquals (input.member "actor" "id") (input.member "company" "founder_id") then
    .roleForbidden
  else .tenantMismatch

variable {svc}

theorem tenantMatches_eq_false
    (h : a.member "resource" "company_id" ≠ a.member "company" "id") : tenantMatches a = false :=
  Bool.eq_false_iff.mpr (mt Json.eq_of_strictEquals h)

theorem denialReason_of_foreign (h : tenantMatches a = false) :
    svc.denialReason a = some (svc.foreignReason a) := by
  unfold denialReason foreignReason
  simp only [h, Bool.not_false, if_true, apply_ite some]

theorem foreignReason_congr (h : ∀ name, name ≠ "resource" → a.field name = b.field name) :
    svc.foreignReason a = svc.foreignReason b := by
  have hmember {outer : String} (hne : outer ≠ "resource") (inner : String) :
      a.member outer inner = b.member outer inner := Json.member_congr (h outer hne) inner
  have hpolicy := hmember (by simp : "policy" ≠ "resource")
  have hactor := hmember (by simp : "actor" ≠ "resource")
  have hcompany := hmember (by simp : "company" ≠ "resource")
  unfold foreignReason
  simp only [hpolicy, hactor, hcompany]

theorem redactedBinding_of_foreign (rt : Runtime) (h : tenantMatches a = false) :
    redactedBinding rt (some a) = .object
      [("actor_type", given "actor" "type" a), ("actor_version", given "actor" "version" a),
        ("company_id", given "company" "id" a), ("action_class", given "action" "key" a),
        ("resource_class", given "resource" "type" a),
        ("supplied_reference_digest", .str (contractDigest rt (.object
          [("action_class", given "action" "key" a), ("resource_class", given "resource" "type" a),
            ("tenant_matches", .bool false), ("run_matches", .bool false)])))] := by
  simp [redactedBinding, runMatches, h]

theorem redactedBinding_congr (rt : Runtime) (h : ForeignTwins svc.isUuid a b) :
    redactedBinding rt (some a) = redactedBinding rt (some b) := by
  have hgiven {outer : String} (hne : outer ≠ "resource") (inner : String) :
      given outer inner a = given outer inner b := by
    rw [given, given, Json.member_congr (h.rest outer hne)]
  have hactor := hgiven (by simp : "actor" ≠ "resource")
  have hcompany := hgiven (by simp : "company" ≠ "resource")
  have haction := hgiven (by simp : "action" ≠ "resource")
  have htype : given "resource" "type" a = given "resource" "type" b := by
    rw [given, given, h.resource "type" (by simp)]
  rw [redactedBinding_of_foreign rt (tenantMatches_eq_false h.foreign),
    redactedBinding_of_foreign rt (tenantMatches_eq_false h.foreign'), hactor, hactor, hcompany,
    haction, htype]

/-- A denial of a foreign resource names no run, task or attempt. -/
theorem field_redactedBinding (rt : Runtime) (h : tenantMatches a = false) {name : String}
    (hname : name ∈ ["run_id", "task_id", "attempt_id"]) :
    (redactedBinding rt (some a)).field name = none := by
  rw [redactedBinding_of_foreign rt h, Json.field_object]
  simp only [List.mem_cons, List.not_mem_nil, or_false] at hname
  rcases hname with rfl | rfl | rfl <;> simp

/-- A valid input at a clock in RFC 3339 UTC, with a foreign resource, is denied. -/
theorem evaluate_of_foreign {issued : ℕ} (hclock : JsDate.parse now = some issued)
    (hvalid : validatePolicyInputV1 svc.isUuid a = true) (h : tenantMatches a = false) :
    svc.evaluate now a = .ok (svc.deny (some a) (contractDigest svc.rt a) now
      (if JsDate.respell (a.textField "evaluation_time") ≠ JsDate.respell now then .invalidContext
        else svc.foreignReason a)) := by
  unfold evaluate
  simp only [hclock, hvalid, Bool.not_true, Bool.false_eq_true, if_false,
    denialReason_of_foreign h]
  split
  · rfl
  · rfl

/-- The decisions on two inputs that differ only in what they say of a resource of another
company are denials with one reason and one binding. A clock that is not in RFC 3339 UTC is
refused before the input is looked at. -/
theorem evaluate_foreign (h : ForeignTwins svc.isUuid a b) (now : JsString) :
    (JsDate.parse now = none → svc.evaluate now a = .error .clockNotRfc3339 ∧
      svc.evaluate now b = .error .clockNotRfc3339) ∧
    (JsDate.parse now ≠ none → ∃ d d', svc.evaluate now a = .ok (.deny d) ∧
      svc.evaluate now b = .ok (.deny d') ∧ d.reasonCode = d'.reasonCode ∧
      d.binding = d'.binding ∧
      ∀ name ∈ ["run_id", "task_id", "attempt_id"], d.binding.field name = none) := by
  have ha := tenantMatches_eq_false h.foreign
  have hb := tenantMatches_eq_false h.foreign'
  constructor
  · intro hclock
    simp [evaluate, hclock]
  · intro hclock
    obtain ⟨issued, hclock⟩ := Option.ne_none_iff_exists'.mp hclock
    have htime : a.textField "evaluation_time" = b.textField "evaluation_time" := by
      rw [Json.textField, Json.textField, h.rest "evaluation_time" (by simp)]
    refine ⟨_, _, evaluate_of_foreign hclock h.valid ha, evaluate_of_foreign hclock h.valid' hb,
      ?_, redactedBinding_congr svc.rt h, fun name hname => field_redactedBinding svc.rt ha hname⟩
    dsimp only
    rw [htime, foreignReason_congr h.rest]

end DeterministicPolicyDecisionService

/-! ## Two resources of another company -/

def ownId : JsString := js "0190a6c2-7b3e-7c1a-9f52-3d8e6b4a1c07"

def foreignId : JsString := js "0190a6c2-7b3e-7c1a-9f52-3d8e6b4a1c08"

theorem foreignId_ne : foreignId ≠ ownId := by decide

def hexDigest : Json := .str (List.replicate 64 0x61)

def foreignInput (resourceId : Json) : Json :=
  let id := Json.str ownId
  let digest := hexDigest
  let instant := Json.text "2024-01-01T00:00:00Z"
  .object
    [("meta", .object [("schema_version", .nat 1), ("message_id", id), ("correlation_id", id),
        ("causation_id", .null), ("occurred_at", instant)]),
      ("policy_input_schema", .text "policy-input/v1"), ("policy_request_id", id),
      ("evaluation_time", instant),
      ("policy", .object [("version_id", id), ("semantic_version", .text "1"), ("digest", digest),
        ("targeting_version_id", id), ("targeting_state", .text "ACTIVE")]),
      ("actor", .object [("type", .text "FOUNDER"), ("id", id), ("version", .text "1"),
        ("authentication_context_id", id), ("authenticated_at", instant),
        ("authentication_strength", .text "mfa"), ("revocation_version", .nat 1)]),
      ("company", .object [("id", id), ("status", .text "ACTIVE"), ("founder_id", id)]),
      ("run", .object [("id", id), ("state", .text "AWAITING_BRIEF_APPROVAL"),
        ("stage", .text "PRODUCT"), ("row_version", .nat 1), ("workflow_version", .text "1"),
        ("policy_version", .text "1"), ("cancellation_requested_at", .null),
        ("operator_kill_version", .nat 1)]),
      ("task", .null), ("attempt", .null),
      ("action", .object [("key", .text "gate.gate-01.approve/v1"),
        ("parameters_digest", digest)]),
      ("resource", .object [("type", .text "GATE_INSTANCE"), ("id", resourceId),
        ("version", .nat 1), ("company_id", .str foreignId), ("run_id", id),
        ("digest", digest)]),
      ("gate", .null), ("approval_references", .arr []),
      ("budget", .object [("applicability", .text "NOT_APPLICABLE"),
        ("policy_version", .text "1"), ("snapshot_digest", digest)]),
      ("environment", .object [("application_version", .text "1"),
        ("deployment_environment", .text "TEST"), ("provider", .null), ("tool_key", .null),
        ("tool_version", .null), ("network_mode", .null), ("digest", digest)])]

theorem validBudget_foreignInput :
    validBudget (.object [("applicability", .text "NOT_APPLICABLE"), ("policy_version", .text "1"),
      ("snapshot_digest", hexDigest)]) = true := by
  have happlicability : isNonEmptyString (.text "NOT_APPLICABLE") = true := by decide
  have hversion : isNonEmptyString (.text "1") = true := by decide
  have hdigest : isSha256HexValue hexDigest = true := by decide
  rw [validBudget, if_pos (by simp [Json.field_object, isOneOf_text])]
  exact validRecord_object rfl (by simp) (by simp [happlicability, hversion, hdigest])

theorem valid_foreignInput {resourceId : JsString} (h : resourceId ≠ []) :
    validatePolicyInputV1 Uuid.isVersioned (foreignInput (.str resourceId)) = true := by
  have hid : isUuidValue Uuid.isVersioned (.str ownId) = true := by decide
  have hforeign : isUuidValue Uuid.isVersioned (.str foreignId) = true := by decide
  have hactor : isNonEmptyString (.str ownId) = true := by decide
  have hdigest : isSha256HexValue hexDigest = true := by decide
  have hinstant : isRfc3339Utc (.text "2024-01-01T00:00:00Z") = true := by decide
  have hone : isPositiveInt (.nat 1) = true := by decide
  have hschema : isSchemaVersion (.nat 1) = true := by decide
  have hversion : isNonEmptyString (.text "1") = true := by decide
  have hstrength : isNonEmptyString (.text "mfa") = true := by decide
  have hstate : isNonEmptyString (.text "AWAITING_BRIEF_APPROVAL") = true := by decide
  have hresource : isNonEmptyString (.str resourceId) = true := decide_eq_true h
  refine validRecord_object rfl (by simp) ?_
  simp only [List.forall₂_cons, hid, hinstant, validBudget_foreignInput, nullable_null, true_and,
    validTask, validAttempt, validGate]
  refine ⟨?_, isOneOf_text (by simp), ?_, ?_, ?_, ?_, ?_, ?_, rfl, ?_, .nil⟩
  all_goals
    apply validRecord_object rfl (by simp)
    simp [hid, hforeign, hactor, hdigest, hinstant, hone, hschema, hversion, hstrength, hstate, hresource,
      nullable_of, isOneOf_text, actorTypes, runStages, resourceTypes, policyActionKeys]

/-- The inputs name two resources. -/
theorem foreignTwins_foreignInput {left right : JsString} (hleft : left ≠ []) (hright : right ≠ []) :
    ForeignTwins Uuid.isVersioned (foreignInput (.str left)) (foreignInput (.str right)) where
  valid := valid_foreignInput hleft
  valid' := valid_foreignInput hright
  rest := by
    intro name hname
    simp only [foreignInput, Json.field_object, List.find?_cons, decide_eq_false hname.symm]
  resource := by
    intro name hname
    have hid : decide ("id" = name) = false := decide_eq_false fun heq => hname (by simp [← heq])
    simp [foreignInput, Json.member, Json.field_object, List.find?_cons, hid]
  foreign := by
    simp [foreignInput, Json.member, Json.field_object, foreignId_ne]
  foreign' := by
    simp [foreignInput, Json.member, Json.field_object, foreignId_ne]

/-- A service for one policy version, with SHA-256 replaced by the text itself. -/
def foreignService : DeterministicPolicyDecisionService where
  rt := .sample id
  isUuid := Uuid.isVersioned
  allowTtlMs := 30000
  allowTtlMs_pos := by decide
  allowTtlMs_safe := by decide
  supportedPolicyVersions := [js "1"]

/-- Two decisions at one time on two resources. -/
theorem evaluate_foreign_demo :
    ∃ d d', foreignService.evaluate (js "2024-01-01T00:00:00Z") (foreignInput (.text "a")) =
        .ok (.deny d) ∧
      foreignService.evaluate (js "2024-01-01T00:00:00Z") (foreignInput (.text "b")) =
        .ok (.deny d') ∧ d.reasonCode = d'.reasonCode ∧ d.binding = d'.binding ∧
      ∀ name ∈ ["run_id", "task_id", "attempt_id"], d.binding.field name = none := by
  have htwins : ForeignTwins foreignService.isUuid (foreignInput (.text "a"))
      (foreignInput (.text "b")) := foreignTwins_foreignInput (by decide) (by decide)
  exact (DeterministicPolicyDecisionService.evaluate_foreign htwins
    (js "2024-01-01T00:00:00Z")).2 (by decide)

/-- A clock that is not in RFC 3339 UTC gets no decision. -/
theorem evaluate_foreign_fails :
    ¬ ∀ (svc : DeterministicPolicyDecisionService) (now : JsString) (a b : Json),
      ForeignTwins svc.isUuid a b → ∃ d d', svc.evaluate now a = .ok (.deny d) ∧
        svc.evaluate now b = .ok (.deny d') ∧ d.reasonCode = d'.reasonCode ∧
        d.binding = d'.binding := by
  intro h
  have htwins : ForeignTwins foreignService.isUuid (foreignInput (.text "a"))
      (foreignInput (.text "b")) := foreignTwins_foreignInput (by decide) (by decide)
  obtain ⟨d, _, hd, _⟩ := h foreignService (js "yesterday") _ _ htwins
  have hclock : JsDate.parse (js "yesterday") = none := by decide
  simp [DeterministicPolicyDecisionService.evaluate, hclock] at hd

end GateProof

end Aico
