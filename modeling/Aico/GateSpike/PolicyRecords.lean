import Aico.GateSpike.DecisionUnitOfWork
import Aico.Governance.DomainEvent

/-!
# Policy decisions and events in the tables

`insertPolicyDecision` stores what the policy port decided, and `appendEvent` the next event of
the run with its message. The texts of a decision are read by the database before its constraints
are checked. The later rows of a command refer to rows that these have referred to or that the
same transaction has written.
-/

namespace Aico

namespace GateProof

def maxInteger : ℕ := 2 ^ 31 - 1

def PolicyDecisionV1.base : PolicyDecisionV1 → PolicyDecisionBaseV1
  | .allow d => d.toPolicyDecisionBaseV1
  | .deny d => d.toPolicyDecisionBaseV1

def PolicyDecisionV1.effect : PolicyDecisionV1 → PolicyResult
  | .allow _ => .allow
  | .deny _ => .deny

def PolicyDecisionV1.reasonCode : PolicyDecisionV1 → JsString
  | .allow d => d.reasonCode
  | .deny d => js d.reasonCode.text

def PolicyDecisionV1.binding : PolicyDecisionV1 → Json
  | .allow d => d.binding
  | .deny d => d.binding

def PolicyDecisionV1.issuedAt : PolicyDecisionV1 → JsString
  | .allow d => d.issuedAt
  | .deny d => d.issuedAt

def PolicyDecisionV1.expiresAt : PolicyDecisionV1 → Option JsString
  | .allow d => some d.expiresAt
  | .deny _ => none

def policyReasonCodes : List String :=
  ["ACTION_ALLOWED", "ROLE_FORBIDDEN", "WRONG_STAGE", "APPROVAL_MISSING", "STALE_VERSION",
    "RESOURCE_OUT_OF_SCOPE", "BUDGET_UNAVAILABLE", "ENVIRONMENT_UNSAFE", "TENANT_MISMATCH",
    "INVALID_CONTEXT", "AUTHENTICATION_REQUIRED", "POLICY_VERSION_UNSUPPORTED", "ALLOW_EXPIRED",
    "RUN_CANCELED", "RUN_TERMINAL"]

section

variable (platform : GatePlatform)

/-! ## Parameters of statements -/

def uuidParameter (value : Option Json) : GateOp (Option Uuid) :=
  match Json.coalesce value .null with
  | .null => pure none
  | .str s => do
      let id ← GateOp.uuid platform s
      pure (some id)
  | _ => Prog.throw (.fault .invalidUuid)

def textParameter : Json → GateOp JsString
  | .str s => do
      Prog.ensure (0 ∉ s) (.fault .invalidText)
      pure s
  | _ => Prog.throw (.fault .invalidText)

def integerParameter (value : Option Json) : GateOp ℕ :=
  match value with
  | some (.num n) => do
      let read := Json.digitsValue n.text
      Prog.ensure (n = JsNumber.ofNat read ∧ read ≤ maxInteger) (.fault .outOfRange)
      pure read
  | _ => Prog.throw (.fault .outOfRange)

def jsonParameter (value : Json) : GateOp Json := do
  Prog.ensure (value.storable = true) (.fault .invalidText)
  pure value.jsonb

/-- A text in the place of an instant that may be null. -/
def timestampParameter (value : Option JsString) : GateOp PUnit :=
  match value with
  | none => pure ⟨⟩
  | some s => do
      let _ ← GateOp.timestamp platform s
      pure ⟨⟩

/-! ## Policy decisions -/

/-- What a decision says of the gate. A denial says nothing. -/
structure GateReferences where
  gateInstanceId : Option Uuid
  artifactId : Option Uuid
  artifactVersionId : Option Uuid
  maximumUses : ℕ

def gateReferences (r : Gate01CommandRequest) : PolicyDecisionV1 → GateOp GateReferences
  | .allow d => do
      let gateInstanceId ← uuidParameter platform (d.binding.field "gate_instance_id")
      let artifactId ← GateOp.uuid platform r.command.expected.artifactId
      let artifactVersionId ← uuidParameter platform (d.binding.field "artifact_version_id")
      let maximumUses ← integerParameter (d.binding.field "maximum_uses")
      pure ⟨gateInstanceId, some artifactId, artifactVersionId, maximumUses⟩
  | .deny _ => pure ⟨none, none, none, 0⟩

def policyDecisionRow (context : DecisionWorkContext) (r : Gate01CommandRequest)
    (decision : PolicyDecisionV1) : GateOp PolicyDecisionRow := do
  let id ← GateOp.uuid platform decision.base.policyDecisionId
  let reasonCode ← Prog.require (policyReasonCodes.find? fun c => js c = decision.reasonCode)
    (.fault (.checkViolation "policy_decisions"))
  let commandId ← GateOp.uuid platform r.command.commandId
  let runId ← uuidParameter platform (decision.binding.field "run_id")
  let gate ← gateReferences platform r decision
  let policyVersion ← textParameter decision.base.policyVersion
  let targetingVersionId ← uuidParameter platform (some decision.base.policyTargetingVersionId)
  let binding ← jsonParameter decision.binding
  let _ ← GateOp.timestamp platform decision.issuedAt
  timestampParameter platform decision.expiresAt
  let correlationId ← GateOp.uuid platform context.correlationId
  pure
    { id := id
      decisionSchema := "policy-decision/v1"
      result := decision.effect
      reasonCode := reasonCode
      companyId := context.authority.companyId
      founderId := context.authority.founderId
      sessionId := context.authority.sessionId
      commandId := commandId
      runId := runId
      gateInstanceId := gate.gateInstanceId
      artifactId := gate.artifactId
      artifactVersionId := gate.artifactVersionId
      policyInputDigest := decision.base.policyInputDigest
      policyVersion := policyVersion
      targetingVersionId := targetingVersionId
      binding := binding
      issuedAt := decision.issuedAt
      expiresAt := decision.expiresAt
      maximumUses := gate.maximumUses
      correlationId := correlationId }

/-- `expires_at > issued_at`. -/
def expiresLater (row : PolicyDecisionRow) : Bool :=
  match platform.readTimestamp row.issuedAt, row.expiresAt.bind platform.readTimestamp with
  | some issued, some expires => issued < expires
  | _, _ => false

/-- The `CHECK`s on the digest of a decision, which is that of the port, and on its result. -/
def policyDecisionCheck (row : PolicyDecisionRow) : Bool :=
  isSha256HexValue (.str row.policyInputDigest) &&
    match row.result with
    | .allow => row.reasonCode = "ACTION_ALLOWED" && row.runId.isSome &&
        row.gateInstanceId.isSome && row.artifactId.isSome && row.artifactVersionId.isSome &&
        row.targetingVersionId.isSome && expiresLater platform row && 0 < row.maximumUses &&
        row.binding.isObject
    | .deny => row.reasonCode ≠ "ACTION_ALLOWED" && row.expiresAt.isNone && row.maximumUses = 0 &&
        row.binding.isObject

def policyDecisionFree (db : ProofDb) (row : PolicyDecisionRow) : Bool :=
  db.policyDecisions.all fun d =>
    d.id ≠ row.id && (d.companyId ≠ row.companyId || d.commandId ≠ row.commandId)

def references {α ρ : Type} (key : Option α) (rows : List ρ) (p : α → ρ → Bool) : Bool :=
  match key with
  | none => true
  | some k => rows.any (p k)

/-- The foreign keys of a decision, other than that of the locked session. -/
def policyDecisionRefers (db : ProofDb) (row : PolicyDecisionRow) : Bool :=
  let gate := row.runId.bind fun r => row.gateInstanceId.map (Prod.mk r)
  let artifactVersion := row.runId.bind fun r => row.artifactId.bind fun a =>
    row.artifactVersionId.map fun v => (r, a, v)
  db.companies.any (fun c => c.id = row.companyId && c.founderId = row.founderId) &&
    references row.runId db.runs (fun id r => r.companyId = row.companyId && r.id = id) &&
    references gate db.gateInstances (fun k g =>
      g.companyId = row.companyId && g.runId = k.1 && g.id = k.2) &&
    references artifactVersion db.artifactVersions (fun k v => v.companyId = row.companyId &&
      v.runId = k.1 && v.artifactId = k.2.1 && v.id = k.2.2) &&
    references row.targetingVersionId db.policyTargetingVersions
      (fun id p => p.companyId = row.companyId && p.id = id)

def insertPolicyDecision (context : DecisionWorkContext) (r : Gate01CommandRequest)
    (decision : PolicyDecisionV1) : GateOp PUnit := do
  let row ← policyDecisionRow platform context r decision
  Prog.ensure (policyDecisionCheck platform row = true) (.fault (.checkViolation "policy_decisions"))
  let free ← GateOp.query fun db => policyDecisionFree db row
  Prog.ensure (free = true) (.fault (.uniqueViolation "policy_decisions"))
  let refers ← GateOp.query fun db => policyDecisionRefers db row
  Prog.ensure (refers = true) (.fault (.foreignKeyViolation "policy_decisions"))
  GateOp.exec fun db => { db with policyDecisions := db.policyDecisions ++ [row] }

/-! ## Events -/

/-- An event to append. Its identifiers are the texts the caller has. -/
structure EventDraft where
  eventType : EventType
  runId : JsString
  aggregateId : JsString
  causationId : JsString
  payload : List (String × Json)
  eventFailpoint : Gate01Failpoint
  outboxFailpoint : Gate01Failpoint

def EventDraft.eventPayload (draft : EventDraft) : Json :=
  .object (("schema_version", .nat 1) :: draft.payload)

def EventDraft.aggregateType (draft : EventDraft) : String :=
  match draft.eventType with
  | .policyDecided => "PolicyDecision"
  | .approvalDecided => "GateInstance"

def eventEnvelope (eventId : Uuid) (eventType : EventType) (companyId : Uuid)
    (runId runSequence : Json) (correlationId causationId occurredAt : JsString) (payload : Json) :
    Json :=
  .object [("schema_version", .nat 1), ("event_id", .uuid eventId),
    ("event_type", .text eventType.text), ("company_id", .uuid companyId), ("run_id", runId),
    ("run_sequence", runSequence), ("correlation_id", .str correlationId),
    ("causation_id", .str causationId), ("occurred_at", .str occurredAt), ("payload", payload)]

def isCounter (companyId runId : Uuid) (c : RunEventCounterRow) : Bool :=
  c.companyId = companyId && c.runId = runId

def nextSequence (companyId runId : Uuid) (counters : List RunEventCounterRow) : ℕ :=
  match counters.find? (isCounter companyId runId) with
  | none => 1
  | some c => c.nextSequence

/-- `INSERT … ON CONFLICT DO UPDATE`. -/
def allocated (companyId runId : Uuid) (counters : List RunEventCounterRow) :
    List RunEventCounterRow :=
  if (counters.find? (isCounter companyId runId)).isSome then
    Table.updateWhere (isCounter companyId runId)
      (fun c => { c with nextSequence := c.nextSequence + 1 }) counters
  else counters ++ [⟨companyId, runId, 2⟩]

def outboxMessageRow (companyId eventId id : Uuid) (topic : EventType) (envelope : Json)
    (createdAt : JsString) : OutboxMessageRow where
  id := id
  companyId := companyId
  eventId := eventId
  topic := topic.text
  envelope := envelope.jsonb
  envelopeDigest := platform.rt.canonicalDigest envelope
  createdAt := createdAt
  publishedAt := none

/-- The identifiers that the database reads for an event. -/
structure EventKeys where
  eventId : Uuid
  runId : Uuid
  runSequence : ℕ
  aggregateId : Uuid
  correlationId : Uuid
  causationId : Uuid

def domainEventRow (context : DecisionWorkContext) (draft : EventDraft) (keys : EventKeys)
    (occurredAt : JsString) : DomainEventRow where
  id := keys.eventId
  eventSchema := "domain-event/v1"
  eventType := draft.eventType
  companyId := context.authority.companyId
  runId := some keys.runId
  runSequence := some keys.runSequence
  aggregateType := draft.aggregateType
  aggregateId := keys.aggregateId
  actorFounderId := context.authority.founderId
  correlationId := keys.correlationId
  causationId := keys.causationId
  occurredAt := occurredAt
  payload := draft.eventPayload.jsonb
  payloadDigest := platform.rt.canonicalDigest draft.eventPayload

/-- The documents of an event can be stored, since their texts are fixed or identifiers that the
database has read. -/
def appendEvent (context : DecisionWorkContext) (draft : EventDraft) : GateOp Uuid := do
  let companyId := context.authority.companyId
  let runId ← GateOp.uuid platform draft.runId
  let sequence ← GateOp.query fun db => parseInt (nextSequence companyId runId db.runEventCounters)
  GateOp.exec fun db => { db with runEventCounters := allocated companyId runId db.runEventCounters }
  let eventId ← GateOp.newId
  let occurredAt ← GateOp.now
  let aggregateId ← GateOp.uuid platform draft.aggregateId
  let correlationId ← GateOp.uuid platform context.correlationId
  let causationId ← GateOp.uuid platform draft.causationId
  let _ ← GateOp.timestamp platform occurredAt
  let event := domainEventRow platform context draft
    ⟨eventId, runId, sequence, aggregateId, correlationId, causationId⟩ occurredAt
  let free ← GateOp.query fun db => db.domainEvents.all fun e => e.place ≠ event.place
  Prog.ensure (free = true) (.fault (.uniqueViolation "domain_events"))
  GateOp.exec fun db => { db with domainEvents := db.domainEvents ++ [event] }
  GateOp.failpoint draft.eventFailpoint
  let id ← GateOp.newId
  let envelope := eventEnvelope eventId draft.eventType companyId (.str draft.runId)
    (.nat sequence) context.correlationId draft.causationId occurredAt draft.eventPayload
  GateOp.exec fun db =>
    { db with
      outboxMessages := db.outboxMessages ++
        [outboxMessageRow platform companyId eventId id draft.eventType envelope occurredAt] }
  GateOp.failpoint draft.outboxFailpoint
  pure eventId

def appendCompanyPolicyEvent (context : DecisionWorkContext) (commandId : JsString)
    (decision : DenyPolicyDecisionV1) : GateOp Uuid := do
  let companyId := context.authority.companyId
  let eventId ← GateOp.newId
  let occurredAt ← GateOp.now
  let payload := Json.defined
    [("schema_version", some (.nat 1)), ("policy_decision_id", some (.str decision.policyDecisionId)),
      ("result", some (.text "DENY")), ("reason_code", some (.text decision.reasonCode.text)),
      ("action_class", decision.binding.field "action_class"),
      ("resource_class", decision.binding.field "resource_class"),
      ("supplied_reference_digest", decision.binding.field "supplied_reference_digest")]
  let aggregateId ← GateOp.uuid platform decision.policyDecisionId
  let correlationId ← GateOp.uuid platform context.correlationId
  let causationId ← GateOp.uuid platform commandId
  let _ ← GateOp.timestamp platform occurredAt
  let stored ← jsonParameter payload
  GateOp.exec fun db =>
    { db with
      domainEvents := db.domainEvents ++
        [{ id := eventId
           eventSchema := "domain-event/v1"
           eventType := .policyDecided
           companyId := companyId
           runId := none
           runSequence := none
           aggregateType := "PolicyDecision"
           aggregateId := aggregateId
           actorFounderId := context.authority.founderId
           correlationId := correlationId
           causationId := causationId
           occurredAt := occurredAt
           payload := stored
           payloadDigest := platform.rt.canonicalDigest payload }] }
  let id ← GateOp.newId
  let envelope := eventEnvelope eventId .policyDecided companyId .null .null context.correlationId
    commandId occurredAt payload
  GateOp.exec fun db =>
    { db with
      outboxMessages := db.outboxMessages ++
        [outboxMessageRow platform companyId eventId id .policyDecided envelope occurredAt] }
  pure eventId

end

end GateProof

end Aico
