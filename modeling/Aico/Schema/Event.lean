import Aico.Schema.Workflow

/-!
# Rows of the event log

The ordered events of a run with the counter that numbers them, the outbox
message of each event, and what the local consumer records: an inbox receipt
and a projection. The envelope of a message is a JSON document with fixed
fields; `Envelope` holds the fields and `Envelope.toJson` is the document.
-/

namespace Aico

structure RunEventCounterRow where
  companyId : Uuid
  runId : Uuid
  nextSequence : ℕ
deriving DecidableEq

structure EventRow where
  id : Uuid
  schemaVersion : ℕ
  type : String
  companyId : Uuid
  runId : Option Uuid
  runSequence : Option ℕ
  actorType : String
  actorId : JsString
  actorVersion : Option String
  correlationId : Uuid
  causationId : Option Uuid
  audience : String
  dataClassification : String
  payload : Json
  occurredAt : Timestamp

structure EnvelopeActor where
  type : String
  id : JsString
  version : Option String

/-- The document an outbox message carries. -/
structure Envelope where
  eventId : Uuid
  schemaVersion : ℕ
  type : String
  companyId : UuidText
  runId : Option UuidText
  runSequence : Option ℕ
  actor : EnvelopeActor
  occurredAt : Timestamp
  correlationId : UuidText
  causationId : Option UuidText
  audience : String
  dataClassification : String
  payload : Json

def UuidText.toJson (u : UuidText) : Json := .str u.text

namespace Envelope

def toJson (e : Envelope) : Json :=
  .object [("event_id", .uuid e.eventId), ("schema_version", .nat e.schemaVersion),
    ("type", .text e.type), ("company_id", e.companyId.toJson),
    ("run_id", Json.orNull UuidText.toJson e.runId),
    ("run_sequence", Json.orNull Json.nat e.runSequence),
    ("actor", .object [("type", .text e.actor.type), ("id", .str e.actor.id),
      ("version", Json.orNull Json.text e.actor.version)]),
    ("occurred_at", .time e.occurredAt),
    ("correlation_id", e.correlationId.toJson),
    ("causation_id", Json.orNull UuidText.toJson e.causationId),
    ("audience", .text e.audience),
    ("data_classification", .text e.dataClassification), ("payload", e.payload)]

end Envelope

structure OutboxMessageRow where
  id : Uuid
  eventId : Uuid
  topic : String
  envelope : Envelope
  availableAt : Timestamp
  leaseOwner : Option String
  leaseToken : Option Uuid
  leaseExpiresAt : Option Timestamp
  publishedAt : Option Timestamp
  attempts : ℕ

structure InboxReceiptRow where
  consumerName : String
  eventId : Uuid
  processedAt : Timestamp
  resultDigest : Digest

structure LocalEventProjectionRow where
  consumerName : String
  eventId : Uuid
  projectionKey : JsString
  resultDigest : Digest

end Aico
