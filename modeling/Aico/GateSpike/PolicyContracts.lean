import Aico.GateSpike.ConsumerProbe
import Aico.GateSpike.DecisionCommand

/-!
# Policy inputs

A policy input is a JSON document, of which each record has its own keys and no others
(`validatePolicyInputV1`). The texts that are UUIDs are those of `isUuid`.
-/

namespace Json

/-- The value of a property of a property. -/
def member (outer inner : String) (v : Json) : Option Json := (v.field outer).bind (field inner)

theorem field_object (entries : List (String × Json)) (name : String) :
    (object entries).field name = (entries.find? fun e => e.1 = name).map Prod.snd := by
  induction entries with
  | nil => rfl
  | cons e entries ih =>
      rw [object, field] at ih ⊢
      rw [List.map_cons, List.find?_cons, List.find?_cons]
      by_cases h : e.1 = name
      · simp [h]
      · have hjs : js e.1 ≠ js name := js_injective.ne h
        simpa [h, hjs] using ih

theorem field_of_mem {entries : List (String × Json)} (hnodup : (entries.map Prod.fst).Nodup)
    {e : String × Json} (he : e ∈ entries) : (object entries).field e.1 = some e.2 := by
  rw [field_object]
  induction entries with
  | nil => cases he
  | cons e' entries ih =>
      obtain ⟨hnot, hnodup⟩ := List.nodup_cons.mp hnodup
      rcases List.mem_cons.mp he with rfl | he
      · simp
      · have hne : e'.1 ≠ e.1 := by
          intro heq
          exact hnot (heq ▸ List.mem_map_of_mem he)
        rw [List.find?_cons]
        simpa [hne] using ih hnodup he

end Json

namespace Aico

namespace GateProof

/-! ## Checks of values -/

section

variable (isUuid : JsString → Bool)

def hasExactKeys (value : Json) (required : List String) : Bool :=
  match value with
  | .obj entries =>
      (required.all fun key => entries.any fun e => e.1 = js key) &&
        entries.all fun e => required.any fun key => e.1 = js key
  | _ => false

theorem hasExactKeys_object (entries : List (String × Json)) (required : List String) :
    hasExactKeys (.object entries) required =
      ((required.all fun key => entries.any fun e => e.1 = key) &&
        entries.all fun e => required.any fun key => e.1 = key) := by
  simp [Json.object, hasExactKeys, List.any_map, List.all_map, Function.comp_def,
    js_injective.eq_iff]

def isOneOf (values : List String) : Json → Bool
  | .str s => values.any fun value => s = js value
  | _ => false

def isNonEmptyString : Json → Bool
  | .str s => s ≠ []
  | _ => false

/-- A safe integer above zero. -/
def isPositiveInt : Json → Bool
  | .num n =>
      let value := Json.digitsValue n.text
      n.text = JsString.decimal value && 0 < value && value < 2 ^ 53
  | _ => false

def isSha256HexValue : Json → Bool
  | .str s => s.length = 64 && s.all fun u => (0x30 ≤ u && u ≤ 0x39) || (0x61 ≤ u && u ≤ 0x66)
  | _ => false

def isRfc3339Utc : Json → Bool
  | .str s => (JsDate.parse s).isSome
  | _ => false

def isUuidValue : Json → Bool
  | .str s => isUuid s
  | _ => false

/-- A finite number that is not negative. -/
def isAmount : Json → Bool
  | .num n => n.text.head? ≠ some 0x2D
  | _ => false

def nullable (check : Json → Bool) : Json → Bool
  | .null => true
  | value => check value

@[simp] theorem nullable_null (check : Json → Bool) : nullable check .null = true := rfl

theorem nullable_of {check : Json → Bool} {value : Json} (h : check value = true) :
    nullable check value = true := by
  unfold nullable
  split
  · rfl
  · exact h

theorem isOneOf_text {values : List String} {s : String} (h : s ∈ values) :
    isOneOf values (.text s) = true := by
  simpa [isOneOf, Json.text, js_injective.eq_iff] using h

def validRecord (fields : List (String × (Json → Bool))) (value : Json) : Bool :=
  hasExactKeys value (fields.map Prod.fst) && fields.all fun f => (value.field f.1).any f.2

/-- A record literal with the keys of the fields, in their order, is checked value by value. -/
theorem validRecord_object {fields : List (String × (Json → Bool))}
    {entries : List (String × Json)} (hkeys : entries.map Prod.fst = fields.map Prod.fst)
    (hnodup : (fields.map Prod.fst).Nodup)
    (h : List.Forall₂ (fun f e => f.2 e.2 = true) fields entries) :
    validRecord fields (.object entries) = true := by
  have hmem : ∀ f ∈ fields, ∃ e ∈ entries, e.1 = f.1 ∧ f.2 e.2 = true := by
    clear hnodup
    induction h with
    | nil => exact fun f hf => absurd hf List.not_mem_nil
    | cons hcheck _ ih =>
        obtain ⟨hkey, hkeys⟩ := List.cons.inj hkeys
        intro f hf
        rcases List.mem_cons.mp hf with rfl | hf
        · exact ⟨_, List.mem_cons_self, hkey, hcheck⟩
        · obtain ⟨e, he, hrest⟩ := ih hkeys f hf
          exact ⟨e, List.mem_cons_of_mem _ he, hrest⟩
  unfold validRecord
  rw [Bool.and_eq_true, hasExactKeys_object, ← hkeys, Bool.and_eq_true]
  refine ⟨⟨?_, ?_⟩, ?_⟩
  · rw [List.all_eq_true]
    intro key hkey
    obtain ⟨e, he, rfl⟩ := List.mem_map.mp hkey
    exact List.any_eq_true.mpr ⟨e, he, decide_eq_true rfl⟩
  · rw [List.all_eq_true]
    intro e he
    exact List.any_eq_true.mpr ⟨e.1, List.mem_map_of_mem he, decide_eq_true rfl⟩
  · rw [List.all_eq_true]
    intro f hf
    obtain ⟨e, he, hname, hcheck⟩ := hmem f hf
    rw [← hname, Json.field_of_mem (by rw [hkeys]; exact hnodup) he]
    exact hcheck

/-! ## The records of a policy input -/

def runStages : List String := ["INTAKE", "PRODUCT", "DESIGN", "BUILD", "QA", "FINAL"]

def policyActionKeys : List String :=
  ["gate.gate-01.approve/v1", "gate.gate-01.request-revision/v1", "task.design.dispatch/v1",
    "tool.invoke/v1"]

def actorTypes : List String := ["FOUNDER", "EMPLOYEE", "OPERATOR", "SYSTEM"]

def resourceTypes : List String :=
  ["GATE_INSTANCE", "ARTIFACT_VERSION", "TOOL_REQUEST", "CONTINUATION_INTENT"]

def gates : List String := ["GATE-01", "GATE-02", "GATE-03"]

def isSchemaVersion : Json → Bool
  | .num n => n.text = js "1"
  | _ => false

def validMeta : Json → Bool := validRecord
  [("schema_version", isSchemaVersion), ("message_id", isUuidValue isUuid),
    ("correlation_id", isUuidValue isUuid), ("causation_id", nullable (isUuidValue isUuid)),
    ("occurred_at", isRfc3339Utc)]

def validPolicy : Json → Bool := validRecord
  [("version_id", isUuidValue isUuid), ("semantic_version", isNonEmptyString),
    ("digest", isSha256HexValue), ("targeting_version_id", isUuidValue isUuid),
    ("targeting_state", isOneOf ["ACTIVE", "PAUSED", "DENY_ALL", "ROLLED_BACK"])]

def validActor : Json → Bool := validRecord
  [("type", isOneOf actorTypes), ("id", isNonEmptyString),
    ("version", nullable isNonEmptyString),
    ("authentication_context_id", nullable (isUuidValue isUuid)),
    ("authenticated_at", nullable isRfc3339Utc),
    ("authentication_strength", nullable isNonEmptyString),
    ("revocation_version", nullable isPositiveInt)]

def validCompany : Json → Bool := validRecord
  [("id", isUuidValue isUuid), ("status", isOneOf ["ACTIVE", "DELETING", "DELETED"]),
    ("founder_id", isUuidValue isUuid)]

def validRun : Json → Bool := validRecord
  [("id", isUuidValue isUuid), ("state", isNonEmptyString), ("stage", isOneOf runStages),
    ("row_version", isPositiveInt), ("workflow_version", isNonEmptyString),
    ("policy_version", isNonEmptyString), ("cancellation_requested_at", nullable isRfc3339Utc),
    ("operator_kill_version", isPositiveInt)]

def validTask : Json → Bool := nullable <| validRecord
  [("id", isUuidValue isUuid), ("state", isNonEmptyString), ("row_version", isPositiveInt),
    ("employee_definition_id", nullable (isUuidValue isUuid))]

def validAttempt : Json → Bool := nullable <| validRecord
  [("id", isUuidValue isUuid), ("number", isPositiveInt), ("status", isNonEmptyString),
    ("lease_token_digest", nullable isSha256HexValue), ("lease_expires_at", nullable isRfc3339Utc)]

def validAction : Json → Bool := validRecord
  [("key", isOneOf policyActionKeys), ("parameters_digest", isSha256HexValue)]

def validResource : Json → Bool := validRecord
  [("type", isOneOf resourceTypes), ("id", isNonEmptyString),
    ("version", fun value => isPositiveInt value || isNonEmptyString value),
    ("company_id", isUuidValue isUuid), ("run_id", isUuidValue isUuid),
    ("digest", isSha256HexValue)]

def validGate : Json → Bool := nullable <| validRecord
  [("id", isOneOf gates), ("gate_instance_id", isUuidValue isUuid),
    ("gate_instance_status", isOneOf ["PENDING", "APPROVED", "REVISION_REQUESTED", "CANCELED"]),
    ("gate_instance_row_version", isPositiveInt), ("artifact_id", isUuidValue isUuid),
    ("artifact_version_id", isUuidValue isUuid), ("artifact_version", isPositiveInt),
    ("artifact_checksum", isSha256HexValue)]

def validApprovalReferences : Json → Bool
  | .arr references => references.all <| validRecord
      [("approval_id", isUuidValue isUuid), ("gate", isOneOf gates),
        ("artifact_version_id", isUuidValue isUuid),
        ("decision", isOneOf ["APPROVE", "REQUEST_REVISION"])]
  | _ => false

def validBudget (value : Json) : Bool :=
  if (value.field "applicability").any (isOneOf ["NOT_APPLICABLE"]) then
    validRecord [("applicability", isNonEmptyString), ("policy_version", isNonEmptyString),
      ("snapshot_digest", isSha256HexValue)] value
  else if (value.field "applicability").any (isOneOf ["REQUIRED"]) then
    validRecord [("applicability", isNonEmptyString), ("policy_version", isNonEmptyString),
      ("ledger_row_version", isPositiveInt), ("category", isNonEmptyString),
      ("hard_limit", isAmount), ("reserved", isAmount), ("consumed", isAmount),
      ("requested", isAmount), ("snapshot_digest", isSha256HexValue)] value
  else false

def validEnvironment : Json → Bool := validRecord
  [("application_version", isNonEmptyString),
    ("deployment_environment", isOneOf ["LOCAL", "TEST", "STAGING", "PRODUCTION"]),
    ("provider", nullable isNonEmptyString), ("tool_key", nullable isNonEmptyString),
    ("tool_version", nullable isNonEmptyString), ("network_mode", nullable isNonEmptyString),
    ("digest", isSha256HexValue)]

def validatePolicyInputV1 : Json → Bool := validRecord
  [("meta", validMeta isUuid), ("policy_input_schema", isOneOf ["policy-input/v1"]),
    ("policy_request_id", isUuidValue isUuid), ("evaluation_time", isRfc3339Utc),
    ("policy", validPolicy isUuid), ("actor", validActor isUuid),
    ("company", validCompany isUuid), ("run", validRun isUuid), ("task", validTask isUuid),
    ("attempt", validAttempt isUuid), ("action", validAction), ("resource", validResource isUuid),
    ("gate", validGate isUuid), ("approval_references", validApprovalReferences isUuid),
    ("budget", validBudget), ("environment", validEnvironment)]

end

end GateProof

end Aico
