import Aico.Orchestration.Worker

/-!
# The outbox publisher

`publishOnce` delivers one message in three transactions: `claim` takes a lease on it,
`consume` records that the local consumer has processed its event, and `acknowledge`
marks it published, if the lease is still the same. A publisher may stop between any
two of them, and the message is then claimed again when the lease has expired.

A message is read back from a `jsonb` column, so its envelope is the stored one.
-/

namespace Aico

/-- A claimed message. -/
structure OutboxRow where
  id : Uuid
  eventId : Uuid
  envelope : Json
  leaseToken : Uuid

structure PublishOptions where
  eventId : Option Uuid := none
  stopAfterConsumerCommit : Bool := false

namespace OutboxPublisher

/-! ## Claiming -/

def claimable (now : Timestamp) (eventId : Option Uuid) (m : OutboxMessageRow) : Bool :=
  m.publishedAt = none ∧ m.availableAt ≤ now ∧
    (m.leaseExpiresAt.all fun expiresAt => expiresAt < now) ∧ eventId.all fun id => m.eventId = id

/-- `ORDER BY available_at, id`. -/
def claimOrder (m m' : OutboxMessageRow) : Bool :=
  m.availableAt < m'.availableAt ∨ (m.availableAt = m'.availableAt ∧ m.id ≤ m'.id)

def candidate (now : Timestamp) (eventId : Option Uuid) (locked : List Uuid) (db : Db) :
    Option OutboxMessageRow :=
  ((db.outboxMessages.filter fun m => claimable now eventId m ∧ m.id ∉ locked).insertionSort
    fun m m' => claimOrder m m').head?

def leased (config : WorkerConfig) (leaseToken : Uuid) (now : Timestamp) (m : OutboxMessageRow) :
    OutboxMessageRow :=
  { m with
    leaseOwner := some config.workerId
    leaseToken := some leaseToken
    leaseExpiresAt := some (now + config.leaseSeconds * 1000)
    attempts := m.attempts + 1 }

def lease (config : WorkerConfig) (leaseToken : Uuid) (now : Timestamp) (id : Uuid) (db : Db) :
    Db :=
  { db with
    outboxMessages := Table.updateWhere (fun m => m.id = id) (leased config leaseToken now)
      db.outboxMessages }

def storedEnvelope (m : OutboxMessageRow) : Json := m.envelope.toJson.jsonb

/-- What a claim returns. -/
def heldRow (m : OutboxMessageRow) (leaseToken : Uuid) : OutboxRow where
  id := m.id
  eventId := m.eventId
  envelope := storedEnvelope m
  leaseToken := leaseToken

def claim (config : WorkerConfig) (locked : List Uuid) (eventId : Option Uuid) :
    Op (Option OutboxRow) :=
  Op.transaction do
    let now ← Op.now
    let row ← Op.query (candidate now eventId locked)
    match row with
    | none => pure none
    | some m => do
        let leaseToken ← Op.newId
        Op.exec (lease config leaseToken now m.id)
        pure (some (heldRow m leaseToken))

/-! ## Consuming -/

def consumerName : String := "local-event-projection/v1"

def projectionPart (value : Option Json) (fallback : JsString) : JsString :=
  match value with
  | some (.str s) => s
  | some (.num n) => n.text
  | _ => fallback

/-- `a ?? b` on properties. -/
def coalesce (a b : Option Json) : Option Json :=
  match a with
  | none | some .null => b
  | some v => some v

def projectionKey (eventId : Uuid) (envelope : Json) : JsString :=
  projectionPart (envelope.field "type") (js "unknown") ++ js ":" ++
    projectionPart (envelope.field "run_id") (js "company") ++ js ":" ++
    projectionPart (coalesce (envelope.field "run_sequence") (envelope.field "event_id"))
      eventId.text

def receiptRow (rt : Runtime) (message : OutboxRow) (now : Timestamp) : InboxReceiptRow where
  consumerName := consumerName
  eventId := message.eventId
  processedAt := now
  resultDigest := rt.canonicalDigest message.envelope

def projectionRow (rt : Runtime) (message : OutboxRow) : LocalEventProjectionRow :=
  let key := projectionKey message.eventId message.envelope
  { consumerName := consumerName
    eventId := message.eventId
    projectionKey := key
    resultDigest := rt.canonicalDigest
      (.object [("projectionKey", .str key), ("envelope", message.envelope)]) }

def insertProjection (row : LocalEventProjectionRow) : Op PUnit := do
  let applied ← Op.query fun db => db.localEventProjections.any fun p =>
    p.consumerName = row.consumerName ∧ p.eventId = row.eventId
  Prog.ensure (applied = false) (.constraint "local_event_projections_pkey")
  let taken ← Op.query fun db => db.localEventProjections.any fun p =>
    p.consumerName = row.consumerName ∧ p.projectionKey = row.projectionKey
  Prog.ensure (taken = false)
    (.constraint "local_event_projections_consumer_name_projection_key_key")
  let known ← Op.query fun db => db.events.any fun e => e.id = row.eventId
  Prog.ensure (known = true) (.constraint "local_event_projections_event_id_fkey")
  Op.exec fun db => { db with localEventProjections := db.localEventProjections ++ [row] }

def consume (rt : Runtime) (message : OutboxRow) : Op PUnit :=
  Op.transaction do
    let now ← Op.now
    let processed ← Op.query fun db => db.inboxReceipts.any fun r =>
      r.consumerName = consumerName ∧ r.eventId = message.eventId
    if processed then pure ⟨⟩
    else do
      let known ← Op.query fun db => db.events.any fun e => e.id = message.eventId
      Prog.ensure (known = true) (.constraint "inbox_receipts_event_id_fkey")
      Op.exec fun db =>
        { db with inboxReceipts := db.inboxReceipts ++ [receiptRow rt message now] }
      insertProjection (projectionRow rt message)

/-! ## Acknowledging -/

def isHeldBy (message : OutboxRow) (m : OutboxMessageRow) : Bool :=
  m.id = message.id ∧ m.leaseToken = some message.leaseToken ∧ m.publishedAt = none

def published (now : Timestamp) (m : OutboxMessageRow) : OutboxMessageRow :=
  { m with
    publishedAt := some now
    leaseOwner := none
    leaseToken := none
    leaseExpiresAt := none }

def settle (message : OutboxRow) (now : Timestamp) (db : Db) : Db :=
  { db with
    outboxMessages := Table.updateWhere (isHeldBy message) (published now) db.outboxMessages }

def acknowledge (message : OutboxRow) : Op PUnit :=
  Op.transaction do
    let now ← Op.now
    Op.exec (settle message now)

def publishOnce (rt : Runtime) (config : WorkerConfig) (locked : List Uuid)
    (options : PublishOptions) : Op Bool := do
  let message ← claim config locked options.eventId
  match message with
  | none => pure false
  | some message => do
      consume rt message
      if options.stopAfterConsumerCommit then pure true
      else do
        acknowledge message
        pure true

/-! ## What the transactions do -/

section

variable {rt : Runtime} {config : WorkerConfig} {locked : List Uuid} {eventId : Option Uuid}
  {message : OutboxRow} {w : World}

theorem candidate_some {now : Timestamp} {db : Db} {m : OutboxMessageRow}
    (h : candidate now eventId locked db = some m) :
    m ∈ db.outboxMessages ∧ claimable now eventId m = true := by
  have hmem := List.mem_of_mem_head? (Option.mem_def.mpr h)
  rw [List.mem_insertionSort, List.mem_filter] at hmem
  obtain ⟨hmem, hclaimable⟩ := hmem
  exact ⟨hmem, (of_decide_eq_true hclaimable).1⟩

theorem claim_of_none (h : candidate w.now eventId locked w.db = none) :
    claim config locked eventId w = (.ok none, w) := by
  apply Op.transaction_of_ok
  rw [Op.now_bind, Op.query_bind, h]
  rfl

theorem claim_of_some {m : OutboxMessageRow} (h : candidate w.now eventId locked w.db = some m) :
    claim config locked eventId w =
      (.ok (some (heldRow m w.nextId)),
        { w with
          nextId := w.nextId + 1
          db := lease config w.nextId w.now m.id w.db }) := by
  apply Op.transaction_of_ok
  rw [Op.now_bind, Op.query_bind, h]
  rfl

def recorded (rt : Runtime) (message : OutboxRow) (now : Timestamp) (db : Db) : Db :=
  { db with
    inboxReceipts := db.inboxReceipts ++ [receiptRow rt message now]
    localEventProjections := db.localEventProjections ++ [projectionRow rt message] }

theorem consume_of_processed
    (h : ∃ r ∈ w.db.inboxReceipts, r.consumerName = consumerName ∧ r.eventId = message.eventId) :
    consume rt message w = (.ok ⟨⟩, w) := by
  have hprocessed : (w.db.inboxReceipts.any fun r =>
      r.consumerName = consumerName ∧ r.eventId = message.eventId) = true := by
    simpa using h
  apply Op.transaction_of_ok
  rw [Op.now_bind, Op.query_bind, hprocessed]
  rfl

theorem insertProjection_of_new {row : LocalEventProjectionRow}
    (hknown : ∃ e ∈ w.db.events, e.id = row.eventId)
    (hfresh : ∀ p ∈ w.db.localEventProjections,
      p.eventId ≠ row.eventId ∧ p.projectionKey ≠ row.projectionKey) :
    insertProjection row w =
      (.ok ⟨⟩,
        { w with
          db :=
            { w.db with localEventProjections := w.db.localEventProjections ++ [row] } }) := by
  have happlied : (w.db.localEventProjections.any fun p =>
      p.consumerName = row.consumerName ∧ p.eventId = row.eventId) = false := by
    apply List.any_eq_false.mpr
    intro p hp
    simp [(hfresh p hp).1]
  have htaken : (w.db.localEventProjections.any fun p =>
      p.consumerName = row.consumerName ∧ p.projectionKey = row.projectionKey) = false := by
    apply List.any_eq_false.mpr
    intro p hp
    simp [(hfresh p hp).2]
  have hevent : (w.db.events.any fun e => e.id = row.eventId) = true := by
    simpa using hknown
  rw [insertProjection, Op.query_bind, happlied, Op.ensure_of _ rfl, Op.query_bind, htaken,
    Op.ensure_of _ rfl, Op.query_bind, hevent, Op.ensure_of _ rfl]
  rfl

theorem consume_of_new (hnew : ∀ r ∈ w.db.inboxReceipts, r.eventId ≠ message.eventId)
    (hknown : ∃ e ∈ w.db.events, e.id = message.eventId)
    (hfresh : ∀ p ∈ w.db.localEventProjections, p.eventId ≠ message.eventId ∧
      p.projectionKey ≠ projectionKey message.eventId message.envelope) :
    consume rt message w =
      (.ok ⟨⟩, { w with db := recorded rt message w.now w.db }) := by
  have hprocessed : (w.db.inboxReceipts.any fun r =>
      r.consumerName = consumerName ∧ r.eventId = message.eventId) = false := by
    apply List.any_eq_false.mpr
    intro r hr
    simp [hnew r hr]
  have hevent : (w.db.events.any fun e => e.id = message.eventId) = true := by
    simpa using hknown
  apply Op.transaction_of_ok
  rw [Op.now_bind, Op.query_bind, hprocessed, if_neg Bool.false_ne_true, Op.query_bind, hevent,
    Op.ensure_of _ rfl, Op.exec_bind]
  exact insertProjection_of_new hknown hfresh

theorem acknowledge_run :
    acknowledge message w = (.ok ⟨⟩, { w with db := settle message w.now w.db }) := rfl

end

end OutboxPublisher

end Aico
