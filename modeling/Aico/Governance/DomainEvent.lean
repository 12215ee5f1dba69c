import Aico.Schema.Views

/-!
# Appending an event

`DomainEvent.append` allocates the next sequence number of the run, inserts the
event and inserts its outbox message, all inside the caller's transaction. The
two rows are built by `eventRow` and `outboxMessageRow` from the same options,
identifiers, sequence number and time.

The sequence number is read back from the driver as a text and parsed into a
JavaScript number, so it is rounded to a double (`parseInt`): exact up to
`2 ^ 53`, and `2 ^ 53 + 1` is read as `2 ^ 53`.
-/

namespace Aico

structure AppendEventOptions where
  companyId : UuidText
  runId : Option UuidText
  type : String
  actorType : String
  actorId : JsString
  actorVersion : Option String := none
  correlationId : UuidText
  causationId : Option UuidText := none
  audience : Option String := none
  dataClassification : Option String := none
  payload : Json

/-- `Number.parseInt` of the decimal text of an integer: the nearest double,
the even one of two. -/
def parseInt (n : ℕ) : ℕ :=
  let shift := Nat.log2 n - 52
  let unit := 2 ^ shift
  let q := n / unit
  let r := n % unit
  if 2 * r < unit ∨ (2 * r = unit ∧ q % 2 = 0) then q * unit else (q + 1) * unit

theorem parseInt_of_le {n : ℕ} (h : n ≤ 2 ^ 53) : parseInt n = n := by
  rcases h.lt_or_eq with h | rfl
  · have hshift : Nat.log2 n - 52 = 0 := by
      rcases Nat.eq_zero_or_pos n with rfl | hpos
      · decide
      · have := (Nat.log2_lt (by omega)).mpr h
        omega
    simp [parseInt, hshift, Nat.mod_one]
  · decide

theorem parseInt_succ : parseInt (2 ^ 53 + 1) = 2 ^ 53 := by
  decide

namespace DomainEvent

def eventRow (options : AppendEventOptions) (eventId : Uuid) (sequence : Option ℕ)
    (occurredAt : Timestamp) : EventRow where
  id := eventId
  schemaVersion := 1
  type := options.type
  companyId := options.companyId.value
  runId := options.runId.map UuidText.value
  runSequence := sequence
  actorType := options.actorType
  actorId := options.actorId
  actorVersion := options.actorVersion
  correlationId := options.correlationId.value
  causationId := options.causationId.map UuidText.value
  audience := options.audience.getD "FOUNDER"
  dataClassification := options.dataClassification.getD "INTERNAL"
  payload := options.payload
  occurredAt := occurredAt

def envelope (options : AppendEventOptions) (eventId : Uuid) (sequence : Option ℕ)
    (occurredAt : Timestamp) : Envelope where
  eventId := eventId
  schemaVersion := 1
  type := options.type
  companyId := options.companyId
  runId := options.runId
  runSequence := sequence
  actor := { type := options.actorType, id := options.actorId,
             version := options.actorVersion }
  occurredAt := occurredAt
  correlationId := options.correlationId
  causationId := options.causationId
  audience := options.audience.getD "FOUNDER"
  dataClassification := options.dataClassification.getD "INTERNAL"
  payload := options.payload

def outboxMessageRow (options : AppendEventOptions) (messageId eventId : Uuid)
    (sequence : Option ℕ) (occurredAt : Timestamp) : OutboxMessageRow where
  id := messageId
  eventId := eventId
  topic := "aico." ++ options.type
  envelope := envelope options eventId sequence occurredAt
  availableAt := occurredAt
  leaseOwner := none
  leaseToken := none
  leaseExpiresAt := none
  publishedAt := none
  attempts := 0

def isCounterOf (options : AppendEventOptions) (runId : UuidText)
    (c : RunEventCounterRow) : Bool :=
  c.runId = runId.value ∧ c.companyId = options.companyId.value

/-- `next_sequence = next_sequence + 1` for the run of the options. -/
def bumpCounter (options : AppendEventOptions) (counters : List RunEventCounterRow) :
    List RunEventCounterRow :=
  match options.runId with
  | none => counters
  | some runId => Table.updateWhere (isCounterOf options runId)
      (fun c => { c with nextSequence := c.nextSequence + 1 }) counters

/-- The sequence number the options get: none for an event of the company, the
parsed counter for an event of a run. -/
def allocated (options : AppendEventOptions) (counters : List RunEventCounterRow) :
    Except Failure (Option ℕ) :=
  match options.runId with
  | none => .ok none
  | some runId =>
      match counters.find? (isCounterOf options runId) with
      | none => .error .typeError
      | some c => .ok (some (parseInt c.nextSequence))

/-- `UNIQUE (run_id, run_sequence)`; null run identifiers never collide. -/
def sequenceTaken (e : EventRow) (events : List EventRow) : Bool :=
  events.any fun e' => e'.runId = e.runId ∧ e'.runSequence = e.runSequence ∧
    e.runId.isSome

def append (options : AppendEventOptions) : Op Uuid := do
  let eventId ← Op.newId
  let sequence ← Op.query fun db => allocated options db.runEventCounters
  match sequence with
  | .error e => Prog.throw e
  | .ok sequence => do
      Op.exec fun db =>
        { db with runEventCounters := bumpCounter options db.runEventCounters }
      let occurredAt ← Op.now
      let row := eventRow options eventId sequence occurredAt
      let taken ← Op.query fun db => sequenceTaken row db.events
      Prog.ensure (taken = false) (.constraint "events_run_id_run_sequence_key")
      Op.exec fun db => { db with events := db.events ++ [row] }
      let messageId ← Op.newId
      Op.exec fun db =>
        { db with
          outboxMessages := db.outboxMessages ++
            [outboxMessageRow options messageId eventId sequence occurredAt] }
      pure eventId

/-- The world after a successful append: the counter is advanced, one event and
one message are added, two identifiers are used up. -/
def appended (options : AppendEventOptions) (sequence : Option ℕ) (w : World) :
    World :=
  { w with
    nextId := w.nextId + 2
    db := { w.db with
      runEventCounters := bumpCounter options w.db.runEventCounters
      events := w.db.events ++ [eventRow options w.nextId sequence w.now]
      outboxMessages := w.db.outboxMessages ++
        [outboxMessageRow options (w.nextId + 1) w.nextId sequence w.now] } }

theorem append_of_allocated {options : AppendEventOptions} {sequence : Option ℕ}
    {w : World} (h : allocated options w.db.runEventCounters = .ok sequence)
    (hfree : sequenceTaken (eventRow options w.nextId sequence w.now) w.db.events
      = false) :
    append options w = (.ok w.nextId, appended options sequence w) := by
  simp only [append, Op.newId_bind, Op.query_bind, h, Op.exec_bind, Op.now_bind,
    Op.ensure_bind, hfree, if_true]
  rfl

theorem append_eq_ok {options : AppendEventOptions} {eventId : Uuid} {w w' : World} :
    append options w = (.ok eventId, w') ↔
      ∃ sequence, allocated options w.db.runEventCounters = .ok sequence ∧
        sequenceTaken (eventRow options w.nextId sequence w.now) w.db.events = false ∧
        eventId = w.nextId ∧ w' = appended options sequence w := by
  constructor
  · intro h
    cases hr : allocated options w.db.runEventCounters with
    | error e =>
        simp only [append, Op.newId_bind, Op.query_bind, hr, Op.throw_run] at h
        cases h
    | ok sequence =>
        cases hfree :
            sequenceTaken (eventRow options w.nextId sequence w.now) w.db.events with
        | true =>
            simp only [append, Op.newId_bind, Op.query_bind, hr, Op.exec_bind,
              Op.now_bind, Op.ensure_bind, hfree] at h
            cases h
        | false =>
            rw [append_of_allocated hr hfree] at h
            cases h
            exact ⟨sequence, rfl, hfree, rfl, rfl⟩
  · rintro ⟨sequence, hr, hfree, rfl, rfl⟩
    exact append_of_allocated hr hfree

theorem append_respects {R : World → World → Prop} [WorldOrder R]
    {options : AppendEventOptions}
    (hcounter : ∀ w, R w { w with db :=
      { w.db with runEventCounters := bumpCounter options w.db.runEventCounters } })
    (hevent : ∀ w eventId sequence now, R w { w with db :=
      { w.db with events := w.db.events ++ [eventRow options eventId sequence now] } })
    (hmessage : ∀ w messageId eventId sequence now, R w { w with db :=
      { w.db with
        outboxMessages := w.db.outboxMessages ++
          [outboxMessageRow options messageId eventId sequence now] } }) :
    Prog.Respects R (append options) := by
  refine .bind .newId fun eventId => .bind (.query _) fun sequence => ?_
  cases sequence with
  | error e => exact .throw e
  | ok sequence =>
      refine .bind (.exec hcounter) fun _ => .bind .now fun now => .bind (.query _) fun _ =>
        .bind (.ensure _ _) fun _ => .bind (.exec fun w => ?_) fun _ =>
        .bind .newId fun messageId => .bind (.exec fun w => ?_) fun _ => .pure _
      · exact hevent w eventId sequence now
      · exact hmessage w messageId eventId sequence now

theorem append_dbFree {R : World → World → Prop} [DbFree R] (options : AppendEventOptions) :
    Prog.Respects R (append options) :=
  append_respects (fun w => DbFree.exec w _) (fun w _ _ _ => DbFree.exec w _)
    fun w _ _ _ _ => DbFree.exec w _

/-- An event changes no table of the context. -/
theorem append_keepsContext {R : World → World → Prop} [ViewOrder Db.context R]
    (options : AppendEventOptions) : Prog.Respects R (append options) :=
  append_respects (fun w => ViewOrder.exec (v := Db.context) w _ rfl)
    (fun w _ _ _ => ViewOrder.exec (v := Db.context) w _ rfl)
    fun w _ _ _ _ => ViewOrder.exec (v := Db.context) w _ rfl

theorem append_keepsWorkflow {R : World → World → Prop} [ViewOrder Db.workflow R]
    {options : AppendEventOptions} (hrun : options.runId = none) :
    Prog.Respects R (append options) := by
  refine append_respects (fun w => ViewOrder.exec (v := Db.workflow) w _ rfl)
    (fun w eventId sequence now => ViewOrder.exec (v := Db.workflow) w _ ?_)
    fun w _ _ _ _ => ViewOrder.exec (v := Db.workflow) w _ rfl
  have hrow : (eventRow options eventId sequence now).runId.isSome = false := by
    rw [eventRow, hrun]
    rfl
  simp [Db.workflow, List.filter_append, hrow]

end DomainEvent

end Aico
