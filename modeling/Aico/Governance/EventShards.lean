import Aico.Governance.EventLog

/-!
# The shards of the event log

The tables are read in shards: what they hold about one run, and what they hold under
one event identifier. `LogShard.Lawful` is what a shard shows when no append is under
way: a run whose events are numbered from `1` up to its counter, an event with the
message that carries it, or nothing.
-/

namespace Aico

/-- What the tables hold about one run, or under one event identifier. -/
@[ext] structure LogShard where
  runs : List RunRow := []
  counters : List RunEventCounterRow := []
  events : List EventRow := []
  messages : List OutboxMessageRow := []

inductive LogKey where
  | run (runId : Uuid)
  | event (eventId : Uuid)
deriving DecidableEq

namespace LogShard

def empty : LogShard := {}

def of (k : LogKey) (db : Db) : LogShard :=
  match k with
  | .run runId =>
      { runs := db.runs.filter fun r => r.id = runId
        counters := db.runEventCounters.filter fun c => c.runId = runId
        events := db.events.filter fun e => e.runId = some runId }
  | .event eventId =>
      { events := db.events.filter fun e => e.id = eventId
        messages := db.outboxMessages.filter fun m => m.eventId = eventId }

end LogShard

def AppendEventOptions.counterKey (options : AppendEventOptions) : Option LogKey :=
  options.runId.map fun runId => .run runId.value

def LogWrite.Touches : LogWrite → LogKey → Prop
  | run row, .run runId => row.id = runId
  | bump options, k => options.counterKey = some k
  | event row, .run runId => row.runId = some runId
  | event row, .event eventId => row.id = eventId
  | message row, .event eventId => row.eventId = eventId
  | _, _ => False

theorem DomainEvent.filter_bumpCounter (options : AppendEventOptions) (runId : Uuid)
    (counters : List RunEventCounterRow) :
    (bumpCounter options counters).filter (fun c => c.runId = runId) =
      bumpCounter options (counters.filter fun c => c.runId = runId) := by
  unfold bumpCounter
  cases options.runId with
  | none => rfl
  | some r =>
      apply Table.filter_updateWhere
      exact fun _ => rfl

theorem DomainEvent.filter_bumpCounter_of_ne {options : AppendEventOptions} {runId : Uuid}
    (h : options.counterKey ≠ some (.run runId))
    (counters : List RunEventCounterRow) :
    (bumpCounter options counters).filter (fun c => c.runId = runId) =
      counters.filter fun c => c.runId = runId := by
  rw [filter_bumpCounter, bumpCounter]
  cases hrun : options.runId with
  | none => rfl
  | some r =>
      apply Table.updateWhere_eq_self
      intro c hc
      have hid : c.runId = runId := of_decide_eq_true (List.mem_filter.mp hc).2
      have hne : runId ≠ r.value := by
        intro heq
        apply h
        rw [AppendEventOptions.counterKey, hrun, heq]
        rfl
      simp [isCounterOf, hid, hne]

/-- A write looks at one shard at a time. -/
theorem LogWrite.local_apply : ReadCommitted.Local LogWrite.apply LogShard.of LogWrite.Touches where
  congr k db db' w h := by
    cases k with
    | run runId =>
        obtain ⟨hruns, hcounters, hevents, -⟩ := (LogShard.mk.injEq ..).mp h
        cases w <;>
          simp [apply, LogShard.of, List.filter_append, DomainEvent.filter_bumpCounter, hruns,
            hcounters, hevents]
    | event eventId =>
        obtain ⟨-, -, hevents, hmessages⟩ := (LogShard.mk.injEq ..).mp h
        cases w <;> simp [apply, LogShard.of, List.filter_append, hevents, hmessages]
  frame k db w h := by
    cases k <;> cases w <;>
      simp_all [apply, LogShard.of, Touches, List.filter_append,
        DomainEvent.filter_bumpCounter_of_ne]

/-- The message carries the event: field by field the envelope is the row. -/
structure OutboxMessageRow.Carries (m : OutboxMessageRow) (e : EventRow) : Prop where
  message : m.eventId = e.id
  eventId : m.envelope.eventId = e.id
  schemaVersion : m.envelope.schemaVersion = e.schemaVersion
  type : m.envelope.type = e.type
  companyId : m.envelope.companyId.value = e.companyId
  runId : m.envelope.runId.map UuidText.value = e.runId
  runSequence : m.envelope.runSequence = e.runSequence
  actor : m.envelope.actor = { type := e.actorType, id := e.actorId, version := e.actorVersion }
  occurredAt : m.envelope.occurredAt = e.occurredAt
  correlationId : m.envelope.correlationId.value = e.correlationId
  causationId : m.envelope.causationId.map UuidText.value = e.causationId
  audience : m.envelope.audience = e.audience
  dataClassification : m.envelope.dataClassification = e.dataClassification
  payload : m.envelope.payload = e.payload

theorem DomainEvent.carries_outboxMessageRow (options : AppendEventOptions)
    (messageId eventId : Uuid) (sequence : Option ℕ) (occurredAt : Timestamp) :
    (outboxMessageRow options messageId eventId sequence occurredAt).Carries
      (eventRow options eventId sequence occurredAt) :=
  ⟨rfl, rfl, rfl, rfl, rfl, rfl, rfl, rfl, rfl, rfl, rfl, rfl, rfl, rfl⟩

namespace LogShard

/-- A run with the events `1` to `n`, whose counter stands at the number after
`n + ahead`. -/
structure Numbered (row : RunRow) (c : RunEventCounterRow) (n ahead : ℕ) (sh : LogShard) :
    Prop where
  runs : sh.runs = [row]
  counters : sh.counters = [c]
  messages : sh.messages = []
  sequences : sh.events.map EventRow.runSequence = (List.range' 1 n).map some
  next : c.nextSequence = n + ahead + 1
  company : c.companyId = row.companyId
  companies : ∀ e ∈ sh.events, e.companyId = row.companyId
  n_le : n ≤ 2 ^ 53

/-- What a shard shows between appends. -/
def Lawful (k : LogKey) (sh : LogShard) : Prop :=
  sh = empty ∨
    match k with
    | .run _ => ∃ row c n, Numbered row c n 0 sh
    | .event _ => ∃ e m, sh = { events := [e], messages := [m] } ∧ m.Carries e

/-- The counter of the options stands at the number after `n + ahead`, and `n + 1` has
been read for the event. -/
def Allocated (options : AppendEventOptions) (sequence : Option ℕ) (ahead : ℕ) (sh : LogShard) :
    Prop :=
  ∃ row c n, Numbered row c n ahead sh ∧ c.companyId = options.companyId.value ∧
    sequence = some (parseInt (n + 1))

end LogShard

end Aico
