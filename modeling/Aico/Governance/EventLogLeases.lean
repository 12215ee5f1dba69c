import Aico.Governance.EventLogIntact
import Aico.Governance.EventLogRows

/-!
# Appends do not look at leases

Whoever leases messages and marks them published changes neither what a message says nor
any other table of the event log, so the invariants of the log stay as they are, also
for the transactions that are open meanwhile.
-/

namespace Aico

/-- What a message says, whoever holds it. -/
structure MessageContent where
  id : Uuid
  eventId : Uuid
  topic : String
  envelope : Envelope

def OutboxMessageRow.content (m : OutboxMessageRow) : MessageContent where
  id := m.id
  eventId := m.eventId
  topic := m.topic
  envelope := m.envelope

theorem OutboxMessageRow.Carries.of_content {m m' : OutboxMessageRow} {e : EventRow}
    (h : m.Carries e) (hcontent : m'.content = m.content) : m'.Carries e := by
  have heventId : m'.eventId = m.eventId := congrArg MessageContent.eventId hcontent
  have henvelope : m'.envelope = m.envelope := congrArg MessageContent.envelope hcontent
  exact
    { message := heventId.trans h.message
      eventId := henvelope ▸ h.eventId
      schemaVersion := henvelope ▸ h.schemaVersion
      type := henvelope ▸ h.type
      companyId := henvelope ▸ h.companyId
      runId := henvelope ▸ h.runId
      runSequence := henvelope ▸ h.runSequence
      actor := henvelope ▸ h.actor
      occurredAt := henvelope ▸ h.occurredAt
      correlationId := henvelope ▸ h.correlationId
      causationId := henvelope ▸ h.causationId
      audience := henvelope ▸ h.audience
      dataClassification := henvelope ▸ h.dataClassification
      payload := henvelope ▸ h.payload }

/-- The tables of the log are the same, up to the leases of the messages. -/
structure SameLog (db db' : Db) : Prop where
  runs : db'.runs = db.runs
  counters : db'.runEventCounters = db.runEventCounters
  events : db'.events = db.events
  contents : db'.outboxMessages.map OutboxMessageRow.content =
    db.outboxMessages.map OutboxMessageRow.content

namespace LogShard

structure Same (sh sh' : LogShard) : Prop where
  runs : sh'.runs = sh.runs
  counters : sh'.counters = sh.counters
  events : sh'.events = sh.events
  contents : sh'.messages.map OutboxMessageRow.content =
    sh.messages.map OutboxMessageRow.content

variable {sh sh' : LogShard} {k : LogKey}

theorem Same.messages_nil (h : Same sh sh') (hmessages : sh.messages = []) :
    sh'.messages = [] := by
  have hcontents := h.contents
  rw [hmessages] at hcontents
  exact List.map_eq_nil_iff.mp hcontents

/-- A shard without messages is the same. -/
theorem Same.eq (h : Same sh sh') (hmessages : sh.messages = []) : sh' = sh := by
  ext1
  · exact h.runs
  · exact h.counters
  · exact h.events
  · rw [hmessages, h.messages_nil hmessages]

theorem Same.lawful (h : Same sh sh') (hlawful : sh.Lawful k) : sh'.Lawful k := by
  rcases hlawful with hempty | hlawful
  · exact .inl ((h.eq (by rw [hempty]; rfl)).trans hempty)
  · right
    cases k with
    | run runId =>
        obtain ⟨row, c, n, hnumbered⟩ := hlawful
        exact ⟨row, c, n, (h.eq hnumbered.messages).symm ▸ hnumbered⟩
    | event eventId =>
        obtain ⟨e, m, rfl, hcarries⟩ := hlawful
        obtain ⟨m', hmessages, hcontent⟩ : ∃ m', sh'.messages = [m'] ∧ m'.content = m.content :=
          List.map_eq_singleton_iff.mp h.contents
        refine ⟨e, m', ?_, hcarries.of_content hcontent⟩
        ext1
        · exact h.runs
        · exact h.counters
        · exact h.events
        · exact hmessages

theorem Same.shows (h : Same sh sh') {place : AppendPlace} (hshows : place.Shows k sh) :
    place.Shows k sh' := by
  have hempty : sh = .empty → sh' = .empty := fun hempty =>
    (h.eq (by rw [hempty]; rfl)).trans hempty
  have hallocated : ∀ {options sequence ahead}, sh.Allocated options sequence ahead →
      sh'.Allocated options sequence ahead := by
    rintro options sequence ahead ⟨row, c, n, hnumbered, hcompany⟩
    exact ⟨row, c, n, (h.eq hnumbered.messages).symm ▸ hnumbered, hcompany⟩
  cases place with
  | ready => exact h.lawful hshows
  | aborted => trivial
  | selected options eventId sequence =>
      obtain ⟨hevent, hrun, hlawful⟩ := hshows
      exact ⟨fun hk => hempty (hevent hk), fun hk => hallocated (hrun hk), h.lawful hlawful⟩
  | counted options eventId sequence =>
      obtain ⟨hevent, hrun, hlawful⟩ := hshows
      exact ⟨fun hk => hempty (hevent hk), fun hk => hallocated (hrun hk),
        fun hk => h.lawful (hlawful hk)⟩
  | inserted options eventId sequence occurredAt =>
      obtain ⟨hevent, hlawful⟩ := hshows
      exact ⟨fun hk => (h.eq (by rw [hevent hk])).trans (hevent hk),
        fun hk => h.lawful (hlawful hk)⟩

end LogShard

namespace SameLog

variable {db db' : Db}

theorem shard (h : SameLog db db') (k : LogKey) :
    LogShard.Same (LogShard.of k db) (LogShard.of k db') := by
  cases k with
  | run runId =>
      exact
        { runs := by rw [LogShard.of, h.runs, LogShard.of]
          counters := by rw [LogShard.of, h.counters, LogShard.of]
          events := by rw [LogShard.of, h.events, LogShard.of]
          contents := rfl }
  | event eventId =>
      refine
        { runs := rfl
          counters := rfl
          events := by rw [LogShard.of, h.events, LogShard.of]
          contents := ?_ }
      have hcontents := congrArg (List.filter fun c => c.eventId = eventId) h.contents
      rw [List.filter_map, List.filter_map] at hcontents
      exact hcontents

theorem apply (h : SameLog db db') (w : LogWrite) : SameLog (w.apply db) (w.apply db') := by
  obtain ⟨hruns, hcounters, hevents, hcontents⟩ := h
  cases w <;> constructor <;> simp [LogWrite.apply, hruns, hcounters, hevents, hcontents]

theorem view (h : SameLog db db') (writes : List LogWrite) :
    SameLog (ReadCommitted.view LogWrite.apply db writes)
      (ReadCommitted.view LogWrite.apply db' writes) := by
  induction writes generalizing db db' with
  | nil => exact h
  | cons w writes ih => exact ih (h.apply w)

end SameLog

namespace EventLog

variable {s : EventLog} {w : World}

theorem Inv.leases (h : s.Inv) (hsame : SameLog s.world.db w.db)
    (hnext : s.world.nextId ≤ w.nextId) : { s with world := w }.Inv := by
  obtain ⟨drawers, h⟩ := h
  refine ⟨drawers,
    { committed := fun k => (hsame.shard k).lawful (h.committed k)
      fresh := ?_
      owns := h.owns
      claims := h.claims
      seen := fun i tx htx k => ((hsame.view tx.writes).shard k).shows (h.seen i tx htx k) }⟩
  intro eventId hle
  obtain ⟨hdrawer, hempty⟩ := h.fresh eventId (hnext.trans hle)
  refine ⟨hdrawer, ?_⟩
  rw [((hsame.shard _).eq (by rw [hempty]; rfl)), hempty]

theorem CompanyUnnumbered.leases (h : s.CompanyUnnumbered) (hsame : SameLog s.world.db w.db) :
    { s with world := w }.CompanyUnnumbered :=
  ⟨hsame.events ▸ h.events, h.txs⟩

theorem MessageIds.leases (h : s.MessageIds) (hsame : SameLog s.world.db w.db)
    (hnext : s.world.nextId ≤ w.nextId) : { s with world := w }.MessageIds := by
  have hids := congrArg (List.map MessageContent.id) hsame.contents
  rw [List.map_map, List.map_map] at hids
  have hids : w.db.outboxMessages.map OutboxMessageRow.id =
      s.world.db.outboxMessages.map OutboxMessageRow.id := hids
  change ReadCommitted.Drawn (w.db.outboxMessages.map OutboxMessageRow.id) s.pendingIds w.nextId
  rw [hids]
  exact h.later hnext

end EventLog

end Aico
