import Mathlib.Data.List.Sort
import Aico.Foundation.Table
import Aico.GateSpike.ProofSchema

/-!
# The consumer of the outbox

A call of `consume` is two transactions: `validateAndApply` checks the delivered
message against the stored one and its event, and applies, defers, quarantines or
recognises it; `acknowledge` follows when the event was applied or known. The offset of
a run is locked by the first statement on it, so two transactions of one consumer on
one run do not overlap.
-/

namespace Json

/-- `left === right` on two properties. Two objects are never the same. -/
def strictEquals : Option Json → Option Json → Bool
  | none, none => true
  | some .null, some .null => true
  | some (.bool a), some (.bool b) => a = b
  | some (.num a), some (.num b) => a.text = b.text
  | some (.str a), some (.str b) => a = b
  | _, _ => false

def sortedKeys (keys : List JsString) : List JsString :=
  keys.insertionSort fun a b => (unitOrder a b).isLE = true

/-- Whether the value is an object with exactly these keys. -/
def hasExactKeys (expected : List String) : Json → Bool
  | .obj entries => sortedKeys (entries.map Prod.fst) = sortedKeys (expected.map js)
  | _ => false

def textField (name : String) (v : Json) : JsString :=
  match v.field name with
  | some (.str s) => s
  | _ => []

end Json

namespace Aico

namespace GateProof

/-- What the consumer takes from the platform: digests, the texts that are UUIDs,
`Date.parse`, and `Number` where it gives a natural number. -/
structure ConsumerPlatform where
  rt : Runtime
  readUuid : JsString → Option Uuid
  dateParse : JsString → Option Timestamp
  toNumber : Json → Option ℕ

inductive QuarantineReason where
  | outboxNotFound | envelopeDigestMismatch | eventNotFound | eventSchemaInvalid
  | envelopeEventMismatch | payloadDigestMismatch | payloadSchemaInvalid | causationInvalid
  | sequenceRegression | inboxDigestMismatch
deriving DecidableEq

/-! ## The tables of the consumers -/

structure ProjectionInboxRow where
  consumerKey : String
  eventId : Uuid
  eventDigest : Digest
  receivedAt : Timestamp

structure ConsumerRunOffsetRow where
  consumerKey : String
  companyId : Uuid
  runId : Uuid
  lastSequence : ℕ
  updatedAt : Timestamp

structure ConsumerDeferredMessageRow where
  consumerKey : String
  outboxMessageId : Uuid
  eventId : Uuid
  companyId : Uuid
  runId : Uuid
  runSequence : ℕ
  messageDigest : Digest
  observedAt : Timestamp

structure ConsumerQuarantineRow where
  id : Uuid
  consumerKey : String
  claimedOutboxMessageId : Option JsString
  claimedEventId : Option JsString
  companyId : Option Uuid
  runId : Option Uuid
  reasonCode : QuarantineReason
  suppliedMessageDigest : Digest
  observedAt : Timestamp

structure ConsumerOutboxAcknowledgementRow where
  consumerKey : String
  outboxMessageId : Uuid
  eventId : Uuid
  acknowledgedAt : Timestamp

structure Gate01ProjectionRow where
  companyId : Uuid
  runId : Uuid
  lastSequence : ℕ
  gateStatus : GateStatus
  decisionRecordId : JsString
  updatedAt : Timestamp

structure ConsumerDb where
  projectionInbox : List ProjectionInboxRow
  consumerRunOffsets : List ConsumerRunOffsetRow
  consumerDeferredMessages : List ConsumerDeferredMessageRow
  consumerQuarantine : List ConsumerQuarantineRow
  consumerOutboxAcknowledgements : List ConsumerOutboxAcknowledgementRow
  gate01Projection : List Gate01ProjectionRow

/-- The database with the supply of identifiers. -/
structure ProofWorld where
  db : ProofDb
  consumer : ConsumerDb
  nextId : ℕ

/-! ## Deliveries -/

structure ConsumerDelivery where
  outboxMessageId : JsString
  deliveredEnvelope : Option Json

/-- A delivery that passed the checks. -/
structure ValidatedDelivery where
  outbox : OutboxMessageRow
  event : DomainEventRow

inductive ConsumerProbeResult where
  | applied (delivery : ValidatedDelivery)
  | deduped (delivery : ValidatedDelivery)
  | deferred (outboxMessageId eventId : Uuid) (runSequence expectedSequence : ℕ)
  | quarantined (outboxMessageId : JsString) (eventId : Option JsString)
      (reason : QuarantineReason)

namespace Gate01OutboxConsumerProbe

variable (platform : ConsumerPlatform) (consumerKey : String)

/-- The digest of a value; nothing and `null` are digested as an object. -/
def safeDigest (value : Option Json) : Digest :=
  match value with
  | none | some .null => platform.rt.canonicalDigest (.object [("value", .null)])
  | some v => platform.rt.canonicalDigest v

/-- Whether the text of the envelope and that of the event are the same instant. -/
def sameInstant (left : Option Json) (right : JsString) : Bool :=
  match left with
  | some (.str s) => (platform.dateParse s).isSome &&
      platform.dateParse s = platform.dateParse right
  | _ => false

/-- A UUID that a property of the delivered envelope names. -/
def claimedString (value : Option Json) (key : String) : Option JsString :=
  match value.bind (Json.field key) with
  | some (.str s) => if (platform.readUuid s).isSome then some s else none
  | _ => none

def lockOutbox (db : ProofDb) (outboxMessageId : JsString) : Option OutboxMessageRow :=
  (platform.readUuid outboxMessageId).bind fun id =>
    db.outboxMessages.find? fun m => m.id = id

def check (c : Bool) (reason : QuarantineReason) : Except QuarantineReason PUnit :=
  if c then .ok ⟨⟩ else .error reason

/-- `^[0-9a-f]{64}$`. -/
def isSha256Hex (text : JsString) : Bool :=
  text.length = 64 && text.all fun u => (0x30 ≤ u && u ≤ 0x39) || (0x61 ≤ u && u ≤ 0x66)

def isSha256HexField (value : Option Json) : Bool :=
  match value with
  | some (.str s) => isSha256Hex s
  | _ => false

def validateCompanyScopedDenial (event : DomainEventRow) (decision : PolicyDecisionRow) : Bool :=
  event.runSequence.isNone && decision.result = .deny &&
    Json.strictEquals (event.payload.field "result") (some (.text "DENY")) &&
    decision.maximumUses = 0 && decision.expiresAt.isNone && decision.runId.isNone &&
    decision.gateInstanceId.isNone && decision.artifactId.isNone &&
    decision.artifactVersionId.isNone &&
    decision.binding.hasExactKeys ["actor_type", "actor_version", "company_id", "action_class",
      "resource_class", "supplied_reference_digest"] &&
    Json.strictEquals (decision.binding.field "company_id") (some (.uuid event.companyId)) &&
    Json.strictEquals (event.payload.field "action_class")
      (decision.binding.field "action_class") &&
    Json.strictEquals (event.payload.field "resource_class")
      (decision.binding.field "resource_class") &&
    Json.strictEquals (event.payload.field "supplied_reference_digest")
      (decision.binding.field "supplied_reference_digest") &&
    isSha256HexField (decision.binding.field "supplied_reference_digest") &&
    (decision.binding.field "run_id").isNone && (decision.binding.field "task_id").isNone &&
    (decision.binding.field "attempt_id").isNone

def policyPayloadKeys (companyScoped : Bool) : List String :=
  if companyScoped then
    ["schema_version", "policy_decision_id", "result", "reason_code", "action_class",
      "resource_class", "supplied_reference_digest"]
  else ["schema_version", "policy_decision_id", "result", "reason_code"]

def validatePolicyPayload (db : ProofDb) (event : DomainEventRow) :
    Except QuarantineReason PUnit := do
  let payload := event.payload
  check (payload.hasExactKeys (policyPayloadKeys event.runId.isNone) &&
    Json.strictEquals (payload.field "schema_version") (some (.nat 1))) .payloadSchemaInvalid
  let evidence := db.policyDecisions.find? fun d =>
    d.companyId = event.companyId ∧ d.id = event.aggregateId
  match evidence with
  | none => .error .payloadSchemaInvalid
  | some decision => do
      check (event.aggregateType = "PolicyDecision" &&
        decision.decisionSchema = "policy-decision/v1" &&
        Json.strictEquals (payload.field "policy_decision_id") (some (.uuid decision.id)) &&
        Json.strictEquals (payload.field "result") (some (.text decision.result.text)) &&
        Json.strictEquals (payload.field "reason_code") (some (.text decision.reasonCode)))
        .payloadSchemaInvalid
      check (event.causationId = decision.commandId) .causationInvalid
      check (event.runId.isSome || validateCompanyScopedDenial event decision)
        .payloadSchemaInvalid

structure ApprovalEvidenceRow where
  decision : FounderGateDecisionRow
  continuation : ContinuationIntentRow
  gate : GateInstanceRow

def approvalEvidence (db : ProofDb) (event : DomainEventRow) : List ApprovalEvidenceRow :=
  (db.founderGateDecisions.filter fun d =>
      d.companyId = event.companyId ∧ d.id = event.aggregateId).flatMap fun d =>
    (db.continuationIntents.filter fun c =>
        c.companyId = d.companyId ∧ c.decisionRecordId = d.id).flatMap fun c =>
      (db.gateInstances.filter fun g =>
        g.companyId = d.companyId ∧ g.runId = d.runId ∧ g.id = d.gateInstanceId).map fun g =>
          ⟨d, c, g⟩

def expectedGateStatus : Decision → GateStatus
  | .approve => .approved
  | .requestRevision => .revisionRequested

def expectedRunState : Decision → RunState
  | .approve => .designing
  | .requestRevision => .qualifying

def expectedContinuation : Decision → ContinuationKind
  | .approve => .startDesignFromBrief
  | .requestRevision => .reviseProductBrief

def priorEvent (db : ProofDb) (event : DomainEventRow) : Option DomainEventRow :=
  db.domainEvents.find? fun e => e.companyId = event.companyId ∧ e.runId = event.runId ∧
    e.runId.isSome ∧ e.runSequence.map (· + 1) = event.runSequence

def validateApprovalPayload (db : ProofDb) (event : DomainEventRow) :
    Except QuarantineReason PUnit := do
  let payload := event.payload
  check (payload.hasExactKeys ["schema_version", "decision_record_id", "policy_decision_id",
      "decision", "gate", "gate_instance_id", "artifact_version_id", "resulting_run_state",
      "continuation_intent_id"] &&
    Json.strictEquals (payload.field "schema_version") (some (.nat 1)) &&
    Json.strictEquals (payload.field "gate") (some (.text "GATE-01"))) .payloadSchemaInvalid
  match (approvalEvidence db event).head? with
  | none => .error .payloadSchemaInvalid
  | some evidence => do
      let d := evidence.decision
      check (event.aggregateType = "GateInstance" &&
        Json.strictEquals (payload.field "decision_record_id") (some (.uuid d.id)) &&
        Json.strictEquals (payload.field "policy_decision_id")
          (some (.uuid d.policyDecisionId)) &&
        Json.strictEquals (payload.field "decision") (some (.text d.decision.text)) &&
        Json.strictEquals (payload.field "gate_instance_id") (some (.uuid d.gateInstanceId)) &&
        Json.strictEquals (payload.field "artifact_version_id")
          (some (.uuid d.artifactVersionId)) &&
        Json.strictEquals (payload.field "continuation_intent_id")
          (some (.uuid evidence.continuation.id)) &&
        Json.strictEquals (payload.field "resulting_run_state")
          (some (.text (expectedRunState d.decision).text)) &&
        evidence.continuation.kind = expectedContinuation d.decision &&
        evidence.gate.status = expectedGateStatus d.decision) .payloadSchemaInvalid
      match priorEvent db event with
      | none => .error .causationInvalid
      | some prior =>
          check (prior.id = event.causationId && prior.eventType = .policyDecided &&
            prior.aggregateId = d.policyDecisionId) .causationInvalid

def isSafeInteger (n : ℕ) : Bool := n < 2 ^ 53

def placedWell (event : DomainEventRow) : Bool :=
  match event.runId, event.runSequence with
  | none, none => event.eventType = .policyDecided
  | some _, some sequence => isSafeInteger sequence && 0 < sequence
  | _, _ => false

def sameSequence (left : Option Json) (right : Option ℕ) : Bool :=
  match right with
  | none => Json.strictEquals left (some .null)
  | some sequence => left.bind platform.toNumber = some sequence

def envelopeMatches (envelope : Json) (event : DomainEventRow) (topic : String) : Bool :=
  envelope.hasExactKeys ["schema_version", "event_id", "event_type", "company_id", "run_id",
      "run_sequence", "correlation_id", "causation_id", "occurred_at", "payload"] &&
    event.payload.isObject &&
    Json.strictEquals (envelope.field "schema_version") (some (.nat 1)) &&
    Json.strictEquals (envelope.field "event_id") (some (.uuid event.id)) &&
    Json.strictEquals (envelope.field "event_type") (some (.text event.eventType.text)) &&
    Json.strictEquals (envelope.field "company_id") (some (.uuid event.companyId)) &&
    Json.strictEquals (envelope.field "run_id") (some (Json.orNull .uuid event.runId)) &&
    sameSequence platform (envelope.field "run_sequence") event.runSequence &&
    Json.strictEquals (envelope.field "correlation_id") (some (.uuid event.correlationId)) &&
    Json.strictEquals (envelope.field "causation_id") (some (.uuid event.causationId)) &&
    sameInstant platform (envelope.field "occurred_at") event.occurredAt &&
    safeDigest platform (envelope.field "payload") = event.payloadDigest &&
    topic = event.eventType.text

def validateDelivery (db : ProofDb) (candidate : ConsumerDelivery) (outbox : OutboxMessageRow) :
    Except QuarantineReason ValidatedDelivery := do
  let deliveredEnvelope := candidate.deliveredEnvelope.getD outbox.envelope
  check (safeDigest platform (some outbox.envelope) = outbox.envelopeDigest &&
    safeDigest platform (some deliveredEnvelope) = outbox.envelopeDigest) .envelopeDigestMismatch
  let events := db.domainEvents.find? fun e =>
    e.companyId = outbox.companyId ∧ e.id = outbox.eventId
  match events with
  | none => .error .eventNotFound
  | some event => do
      check (event.eventSchema = "domain-event/v1" && placedWell event) .eventSchemaInvalid
      check (safeDigest platform (some event.payload) = event.payloadDigest)
        .payloadDigestMismatch
      check (envelopeMatches platform deliveredEnvelope event outbox.topic)
        .envelopeEventMismatch
      match event.eventType with
      | .policyDecided => validatePolicyPayload db event
      | .approvalDecided => validateApprovalPayload db event
      pure ⟨outbox, event⟩

/-! ## Applying a delivery -/

def write (f : ConsumerDb → ConsumerDb) (w : ProofWorld) : ProofWorld :=
  { w with consumer := f w.consumer }

def suppliedMessage (candidate : ConsumerDelivery) : Json :=
  .object [("outbox_message_id", .str candidate.outboxMessageId),
    ("delivered_envelope",
      candidate.deliveredEnvelope.getD (.object [("source", .text "AUTHORITATIVE_OUTBOX")]))]

def quarantineRow (candidate : ConsumerDelivery) (outbox : Option OutboxMessageRow)
    (reason : QuarantineReason) (observedAt : Timestamp) (event : Option DomainEventRow)
    (id : Uuid) : ConsumerQuarantineRow where
  id := id
  consumerKey := consumerKey
  claimedOutboxMessageId :=
    if (platform.readUuid candidate.outboxMessageId).isSome then some candidate.outboxMessageId
    else none
  claimedEventId := (event.map fun e => e.id.text).or
    (claimedString platform candidate.deliveredEnvelope "event_id")
  companyId := outbox.map OutboxMessageRow.companyId
  runId := event.bind DomainEventRow.runId
  reasonCode := reason
  suppliedMessageDigest := safeDigest platform (some (suppliedMessage candidate))
  observedAt := observedAt

/-- `INSERT … ON CONFLICT (consumer_key, supplied_message_digest, reason_code) DO NOTHING`. -/
def insertQuarantine (row : ConsumerQuarantineRow) (rows : List ConsumerQuarantineRow) :
    List ConsumerQuarantineRow :=
  if rows.any fun r => r.consumerKey = row.consumerKey ∧
      r.suppliedMessageDigest = row.suppliedMessageDigest ∧ r.reasonCode = row.reasonCode then rows
  else rows ++ [row]

def quarantine (candidate : ConsumerDelivery) (outbox : Option OutboxMessageRow)
    (reason : QuarantineReason) (observedAt : Timestamp) (event : Option DomainEventRow)
    (w : ProofWorld) : ConsumerProbeResult × ProofWorld :=
  let row := quarantineRow platform consumerKey candidate outbox reason observedAt event w.nextId
  (.quarantined candidate.outboxMessageId row.claimedEventId reason,
    write (fun c => { c with consumerQuarantine := insertQuarantine row c.consumerQuarantine })
      { w with nextId := w.nextId + 1 })

def isOffset (companyId runId : Uuid) (o : ConsumerRunOffsetRow) : Bool :=
  o.consumerKey = consumerKey ∧ o.companyId = companyId ∧ o.runId = runId

def insertOffset (companyId runId : Uuid) (observedAt : Timestamp)
    (rows : List ConsumerRunOffsetRow) : List ConsumerRunOffsetRow :=
  if rows.any (isOffset consumerKey companyId runId) then rows
  else rows ++ [⟨consumerKey, companyId, runId, 0, observedAt⟩]

/-- `Number(offsets[0]?.last_sequence ?? 0)`. -/
def lastSequence (companyId runId : Uuid) (c : ConsumerDb) : ℕ :=
  ((c.consumerRunOffsets.find? (isOffset consumerKey companyId runId)).map
    ConsumerRunOffsetRow.lastSequence).getD 0

def inboxRow (eventId : Uuid) (c : ConsumerDb) : Option ProjectionInboxRow :=
  c.projectionInbox.find? fun r => r.consumerKey = consumerKey ∧ r.eventId = eventId

/-- The delivery as it is quarantined once its message is known. -/
def storedDelivery (outbox : OutboxMessageRow) : ConsumerDelivery :=
  ⟨outbox.id.text, some outbox.envelope⟩

def deferredRow (delivery : ValidatedDelivery) (runId : Uuid) (runSequence : ℕ)
    (observedAt : Timestamp) : ConsumerDeferredMessageRow where
  consumerKey := consumerKey
  outboxMessageId := delivery.outbox.id
  eventId := delivery.event.id
  companyId := delivery.event.companyId
  runId := runId
  runSequence := runSequence
  messageDigest := delivery.outbox.envelopeDigest
  observedAt := observedAt

def isDeferral (outboxMessageId : Uuid) (r : ConsumerDeferredMessageRow) : Bool :=
  r.consumerKey = consumerKey ∧ r.outboxMessageId = outboxMessageId

def insertDeferred (row : ConsumerDeferredMessageRow) (rows : List ConsumerDeferredMessageRow) :
    List ConsumerDeferredMessageRow :=
  if rows.any (isDeferral row.consumerKey row.outboxMessageId) then rows else rows ++ [row]

def gateStatus (event : DomainEventRow) : GateStatus :=
  if Json.strictEquals (event.payload.field "decision") (some (.text "APPROVE")) then .approved
  else .revisionRequested

def projectionRow (event : DomainEventRow) (runId : Uuid) (runSequence : ℕ)
    (observedAt : Timestamp) : Gate01ProjectionRow where
  companyId := event.companyId
  runId := runId
  lastSequence := runSequence
  gateStatus := gateStatus event
  decisionRecordId := event.payload.textField "decision_record_id"
  updatedAt := observedAt

def isProjection (companyId runId : Uuid) (r : Gate01ProjectionRow) : Bool :=
  r.companyId = companyId ∧ r.runId = runId

/-- `INSERT … ON CONFLICT (company_id, run_id) DO UPDATE … WHERE` the row is older. -/
def upsertProjection (row : Gate01ProjectionRow) (rows : List Gate01ProjectionRow) :
    List Gate01ProjectionRow :=
  if rows.any (isProjection row.companyId row.runId) then
    Table.updateWhere
      (fun r => isProjection row.companyId row.runId r ∧ r.lastSequence < row.lastSequence)
      (fun _ => row) rows
  else rows ++ [row]

def applyNext (delivery : ValidatedDelivery) (runId : Uuid) (runSequence lastSequence : ℕ)
    (observedAt : Timestamp) (c : ConsumerDb) : ConsumerDb :=
  { c with
    projectionInbox := c.projectionInbox ++
      [⟨consumerKey, delivery.event.id, delivery.event.payloadDigest, observedAt⟩]
    gate01Projection :=
      if delivery.event.eventType = .approvalDecided then
        upsertProjection (projectionRow delivery.event runId runSequence observedAt)
          c.gate01Projection
      else c.gate01Projection
    consumerRunOffsets := Table.updateWhere
      (fun o => isOffset consumerKey delivery.event.companyId runId o ∧
        o.lastSequence = lastSequence)
      (fun o => { o with lastSequence := runSequence, updatedAt := observedAt })
      c.consumerRunOffsets
    consumerDeferredMessages := c.consumerDeferredMessages.filter fun r =>
      !isDeferral consumerKey delivery.outbox.id r }

def applyInOrder (delivery : ValidatedDelivery) (runId : Uuid) (runSequence : ℕ)
    (observedAt : Timestamp) (w : ProofWorld) : ConsumerProbeResult × ProofWorld :=
  let event := delivery.event
  let w := write (fun c =>
    { c with
      consumerRunOffsets :=
        insertOffset consumerKey event.companyId runId observedAt c.consumerRunOffsets }) w
  let lastSequence := lastSequence consumerKey event.companyId runId w.consumer
  let expectedSequence := lastSequence + 1
  match inboxRow consumerKey event.id w.consumer with
  | some inbox =>
      if inbox.eventDigest ≠ event.payloadDigest then
        quarantine platform consumerKey (storedDelivery delivery.outbox) (some delivery.outbox)
          .inboxDigestMismatch observedAt (some event) w
      else if lastSequence < runSequence then
        quarantine platform consumerKey (storedDelivery delivery.outbox) (some delivery.outbox)
          .sequenceRegression observedAt (some event) w
      else (.deduped delivery, w)
  | none =>
      if expectedSequence < runSequence then
        (.deferred delivery.outbox.id event.id runSequence expectedSequence,
          write (fun c =>
            { c with
              consumerDeferredMessages :=
                insertDeferred (deferredRow consumerKey delivery runId runSequence observedAt)
                  c.consumerDeferredMessages }) w)
      else if runSequence < expectedSequence then
        quarantine platform consumerKey (storedDelivery delivery.outbox) (some delivery.outbox)
          .sequenceRegression observedAt (some event) w
      else
        (.applied delivery,
          write (applyNext consumerKey delivery runId runSequence lastSequence observedAt) w)

def applyCompanyScoped (delivery : ValidatedDelivery) (observedAt : Timestamp) (w : ProofWorld) :
    ConsumerProbeResult × ProofWorld :=
  let event := delivery.event
  match inboxRow consumerKey event.id w.consumer with
  | some inbox =>
      if inbox.eventDigest ≠ event.payloadDigest then
        quarantine platform consumerKey (storedDelivery delivery.outbox) (some delivery.outbox)
          .inboxDigestMismatch observedAt (some event) w
      else (.deduped delivery, w)
  | none =>
      (.applied delivery, write (fun c =>
        { c with
          projectionInbox := c.projectionInbox ++
            [⟨consumerKey, event.id, event.payloadDigest, observedAt⟩] }) w)

/-- The first transaction of a call. -/
def validateAndApply (candidate : ConsumerDelivery) (observedAt : Timestamp) (w : ProofWorld) :
    ConsumerProbeResult × ProofWorld :=
  match lockOutbox platform w.db candidate.outboxMessageId with
  | none => quarantine platform consumerKey candidate none .outboxNotFound observedAt none w
  | some outbox =>
      match validateDelivery platform w.db candidate outbox with
      | .error reason =>
          quarantine platform consumerKey candidate (some outbox) reason observedAt none w
      | .ok delivery =>
          match delivery.event.runId, delivery.event.runSequence with
          | some runId, some runSequence =>
              applyInOrder platform consumerKey delivery runId runSequence observedAt w
          | _, _ => applyCompanyScoped platform consumerKey delivery observedAt w

def isAcknowledged (outboxMessageId eventId : Uuid) (r : ConsumerOutboxAcknowledgementRow) :
    Bool :=
  r.consumerKey = consumerKey ∧ (r.outboxMessageId = outboxMessageId ∨ r.eventId = eventId)

/-- `INSERT … ON CONFLICT DO NOTHING`. -/
def insertAcknowledgement (outboxMessageId eventId : Uuid) (observedAt : Timestamp)
    (rows : List ConsumerOutboxAcknowledgementRow) : List ConsumerOutboxAcknowledgementRow :=
  if rows.any (isAcknowledged consumerKey outboxMessageId eventId) then rows
  else rows ++ [⟨consumerKey, outboxMessageId, eventId, observedAt⟩]

/-- `COALESCE(published_at, $1)` on the message. -/
def publish (outboxMessageId eventId : Uuid) (observedAt : Timestamp)
    (messages : List OutboxMessageRow) : List OutboxMessageRow :=
  Table.updateWhere (fun m => m.id = outboxMessageId ∧ m.eventId = eventId)
    (fun m => { m with publishedAt := m.publishedAt.or (some observedAt) }) messages

/-- The second transaction of a call. -/
def acknowledge (delivery : ValidatedDelivery) (observedAt : Timestamp) (w : ProofWorld) :
    ProofWorld :=
  { w with
    consumer := { w.consumer with
      consumerOutboxAcknowledgements := insertAcknowledgement consumerKey delivery.outbox.id
        delivery.event.id observedAt w.consumer.consumerOutboxAcknowledgements }
    db := { w.db with
      outboxMessages :=
        publish delivery.outbox.id delivery.event.id observedAt w.db.outboxMessages } }

/-- A call that nothing interrupts, or that crashes after it has applied an event. -/
def consume (candidate : ConsumerDelivery) (observedAt : Timestamp)
    (crashAfterProjectionCommit : Bool) (w : ProofWorld) :
    Option ConsumerProbeResult × ProofWorld :=
  match validateAndApply platform consumerKey candidate observedAt w with
  | (.applied delivery, w) =>
      if crashAfterProjectionCommit then (none, w)
      else (some (.applied delivery), acknowledge consumerKey delivery observedAt w)
  | (.deduped delivery, w) =>
      (some (.deduped delivery), acknowledge consumerKey delivery observedAt w)
  | (result, w) => (some result, w)

end Gate01OutboxConsumerProbe

end GateProof

end Aico
