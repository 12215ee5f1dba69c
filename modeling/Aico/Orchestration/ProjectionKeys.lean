import Aico.Governance.EventLogIntact
import Aico.Governance.EventLogRows
import Aico.Orchestration.OutboxPublisher

/-!
# Projection keys

The key of a projection is the type, the run and the number of its event, and for an
event of the company the word `company` and the identifier of the event. Read from the
end, the key falls apart at its colons whatever the type is, so two committed events
never share one.
-/

namespace JsString

/-- Two texts that begin after the same last separator are the same. -/
theorem append_sep_inj {sep : UInt16} {s s' t t' : JsString} (ht : sep ∉ t) (ht' : sep ∉ t')
    (h : s ++ [sep] ++ t = s' ++ [sep] ++ t') : s = s' ∧ t = t' := by
  have hreverse := congrArg List.reverse h
  simp only [List.reverse_append, List.reverse_singleton, List.singleton_append] at hreverse
  obtain ⟨htail, hhead⟩ := append_cons_inj (mt List.mem_reverse.mp ht)
    (mt List.mem_reverse.mp ht') hreverse
  exact ⟨List.reverse_injective hhead, List.reverse_injective htail⟩

end JsString

namespace Aico

def colon : UInt16 := 0x3A

theorem colon_notMem_text (u : Uuid) : colon ∉ u.text := by
  intro hmem
  rcases Uuid.mem_text hmem with ⟨d, hd, heq⟩ | heq
  · interval_cases d <;> exact absurd heq (by decide)
  · exact absurd heq (by decide)

theorem UuidText.colon_notMem_text (u : UuidText) : colon ∉ u.text := by
  intro hmem
  have hlower : lowerUnit colon ∈ u.text.map lowerUnit := List.mem_map_of_mem hmem
  rw [u.spells] at hlower
  exact Aico.colon_notMem_text u.value hlower

theorem colon_notMem_decimal (n : ℕ) : colon ∉ JsString.decimal n := by
  intro hmem
  obtain ⟨d, hd, heq⟩ := JsString.mem_decimal hmem
  interval_cases d <;> exact absurd heq (by decide)

theorem UuidText.text_ne_company (u : UuidText) : u.text ≠ js "company" := by
  intro heq
  have hmem : (0x70 : UInt16) ∈ u.text.map lowerUnit := by
    rw [heq]
    decide
  rw [u.spells] at hmem
  rcases Uuid.mem_text hmem with ⟨d, hd, heq⟩ | heq
  · interval_cases d <;> exact absurd heq (by decide)
  · exact absurd heq (by decide)

namespace Envelope

/-- The run of the event as its key shows it. -/
def runPart (e : Envelope) : JsString := e.runId.elim (js "company") UuidText.text

/-- The number of the event as its key shows it. -/
def sequencePart (e : Envelope) : JsString :=
  e.runSequence.elim e.eventId.text JsString.decimal

theorem colon_notMem_runPart (e : Envelope) : colon ∉ e.runPart := by
  rw [runPart]
  cases e.runId with
  | none => decide
  | some u => exact u.colon_notMem_text

theorem colon_notMem_sequencePart (e : Envelope) : colon ∉ e.sequencePart := by
  rw [sequencePart]
  cases e.runSequence with
  | none => exact colon_notMem_text e.eventId
  | some n => exact colon_notMem_decimal n

end Envelope

/-- The entries of the document that a key is made of. -/
theorem Envelope.toJson_entries (e : Envelope) :
    ∃ entries : List (String × Json), e.toJson = .object entries ∧
      (entries.map fun e => js e.1).Nodup ∧ ("event_id", .uuid e.eventId) ∈ entries ∧
        ("type", .text e.type) ∈ entries ∧
          ("run_id", Json.orNull UuidText.toJson e.runId) ∈ entries ∧
            ("run_sequence", Json.orNull Json.nat e.runSequence) ∈ entries := by
  refine ⟨_, rfl, ?_, by simp, by simp, by simp, by simp⟩
  have hnames : (["event_id", "schema_version", "type", "company_id", "run_id", "run_sequence",
      "actor", "occurred_at", "correlation_id", "causation_id", "audience",
      "data_classification", "payload"].map js).Nodup := List.Nodup.map js_injective (by decide)
  exact hnames

namespace OutboxPublisher

def keyOf (m : OutboxMessageRow) : JsString := projectionKey m.eventId (storedEnvelope m)

theorem keyOf_eq (m : OutboxMessageRow) :
    keyOf m = js m.envelope.type ++ [colon] ++ m.envelope.runPart ++ [colon] ++
      m.envelope.sequencePart := by
  obtain ⟨entries, hobject, hnodup, hevent, htype, hrun, hsequence⟩ := m.envelope.toJson_entries
  rw [keyOf, projectionKey, storedEnvelope, hobject, Json.field_jsonb hnodup hevent,
    Json.field_jsonb hnodup htype, Json.field_jsonb hnodup hrun,
    Json.field_jsonb hnodup hsequence, Envelope.runPart, Envelope.sequencePart]
  cases m.envelope.runId <;> cases m.envelope.runSequence <;> rfl

/-- Read from the end, equal keys have equal parts, whatever the types are. -/
theorem parts_eq {m m' : OutboxMessageRow} (h : keyOf m = keyOf m') :
    m.envelope.runPart = m'.envelope.runPart ∧
      m.envelope.sequencePart = m'.envelope.sequencePart := by
  rw [keyOf_eq, keyOf_eq] at h
  obtain ⟨hfront, hsequence⟩ := JsString.append_sep_inj m.envelope.colon_notMem_sequencePart
    m'.envelope.colon_notMem_sequencePart h
  obtain ⟨-, hrun⟩ := JsString.append_sep_inj m.envelope.colon_notMem_runPart
    m'.envelope.colon_notMem_runPart hfront
  exact ⟨hrun, hsequence⟩

end OutboxPublisher

theorem Envelope.runId_eq {e e' : Envelope} (h : e.runPart = e'.runPart) :
    e.runId.map UuidText.value = e'.runId.map UuidText.value := by
  rw [runPart, runPart] at h
  cases hrun : e.runId with
  | none =>
      cases hrun' : e'.runId with
      | none => rfl
      | some u =>
          rw [hrun, hrun'] at h
          exact absurd h.symm u.text_ne_company
  | some u =>
      cases hrun' : e'.runId with
      | none =>
          rw [hrun, hrun'] at h
          exact absurd h u.text_ne_company
      | some u' =>
          rw [hrun, hrun'] at h
          exact congrArg some (UuidText.value_eq_of_text_eq h)

namespace EventLog

open OutboxPublisher

variable {s : EventLog}

/-- An event of a run is found by its number. -/
theorem Inv.eq_of_sequence_eq (h : s.Inv) {e e' : EventRow} (he : e ∈ s.world.db.events)
    (he' : e' ∈ s.world.db.events) {runId : Uuid} (hrun : e.runId = some runId)
    (hrun' : e'.runId = some runId) (hsequence : e.runSequence = e'.runSequence) : e = e' := by
  have hnodup : ((s.world.db.events.filter fun e => e.runId = some runId).map sequenceOf).Nodup :=
    List.pairwise_map.mpr ((h.increasing runId).imp fun hlt => hlt.ne)
  apply Table.eq_of_key_eq hnodup
  · exact List.mem_filter.mpr ⟨he, decide_eq_true hrun⟩
  · exact List.mem_filter.mpr ⟨he', decide_eq_true hrun'⟩
  · rw [sequenceOf, hsequence, sequenceOf]

/-- Two committed events never share a key. -/
theorem eventId_eq_of_keyOf_eq (h : s.Inv) (hcompany : s.CompanyUnnumbered)
    {m m' : OutboxMessageRow} (hm : m ∈ s.world.db.outboxMessages)
    (hm' : m' ∈ s.world.db.outboxMessages) (hkey : keyOf m = keyOf m') :
    m.eventId = m'.eventId := by
  obtain ⟨e, he, hcarries⟩ := h.intact.orphan m hm
  obtain ⟨e', he', hcarries'⟩ := h.intact.orphan m' hm'
  obtain ⟨hrun, hsequence⟩ := parts_eq hkey
  have hruns : e.runId = e'.runId := by
    rw [← hcarries.runId, ← hcarries'.runId]
    exact Envelope.runId_eq hrun
  rw [Envelope.sequencePart, Envelope.sequencePart, hcarries.runSequence, hcarries.eventId,
    hcarries'.runSequence, hcarries'.eventId] at hsequence
  rw [hcarries.message, hcarries'.message]
  cases hid : e.runId with
  | none =>
      -- events of the company have no number, so the identifiers are compared
      rw [hcompany.events e he hid, hcompany.events e' he' (hruns ▸ hid)] at hsequence
      exact Uuid.text_injective hsequence
  | some runId =>
      have hid' : e'.runId = some runId := hruns ▸ hid
      obtain ⟨⟨n, hn, -⟩, -⟩ := h.of_mem he hid
      obtain ⟨⟨n', hn', -⟩, -⟩ := h.of_mem he' hid'
      rw [hn, hn'] at hsequence
      have hsame : e.runSequence = e'.runSequence := by
        rw [hn, hn', JsString.decimal_injective hsequence]
      rw [h.eq_of_sequence_eq he he' hid hid' hsame]

end EventLog

end Aico
