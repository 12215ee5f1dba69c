import Aico.Common.CanonicalDigest
import Aico.GateSpike.DecisionCommand

/-!
# What the digest of a command names

The digest of a command is that of its texts after every instant among them was respelled.
It names the command where none of the texts is an instant (`decisionDigest_iff`); a
feedback that is one has the digest of its other spellings.
-/

namespace Aico

namespace GateProof

open JsDate

/-! ## The texts of a command -/

namespace DecisionV1

theorem map_map (d : DecisionV1) (f g f' g' : JsString → JsString) :
    (d.map f g).map f' g' = d.map (f' ∘ f) (g' ∘ g) := by
  cases d <;> simp [map]

end DecisionV1

def ExpectedGate.map (f : JsString → JsString) (e : ExpectedGate) : ExpectedGate :=
  { e with
    runState := f e.runState
    runStage := f e.runStage
    gate := f e.gate
    gateInstanceId := f e.gateInstanceId
    artifactId := f e.artifactId
    artifactVersionId := f e.artifactVersionId
    artifactChecksum := f e.artifactChecksum }

namespace DecisionCommandV1

def texts (c : DecisionCommandV1) : List JsString :=
  [c.commandSchema, c.commandId, c.runId, c.expected.runState, c.expected.runStage,
    c.expected.gate, c.expected.gateInstanceId, c.expected.artifactId,
    c.expected.artifactVersionId, c.expected.artifactChecksum, c.decision.decisionSchema] ++
    c.decision.feedback.toList

def map (f : JsString → JsString) (c : DecisionCommandV1) : DecisionCommandV1 :=
  { commandSchema := f c.commandSchema
    commandId := f c.commandId
    runId := f c.runId
    expected := c.expected.map f
    decision := c.decision.map f f }

theorem map_eq_self_iff {f : JsString → JsString} {c : DecisionCommandV1} :
    c.map f = c ↔ ∀ s ∈ c.texts, f s = s := by
  obtain ⟨schema, commandId, runId, ⟨⟩, decision⟩ := c
  cases decision with
  | approve _ feedback =>
      cases feedback <;>
        simp [texts, map, ExpectedGate.map, DecisionV1.map, DecisionV1.decisionSchema,
          DecisionV1.feedback, and_assoc]
  | requestRevision _ feedback =>
      simp [texts, map, ExpectedGate.map, DecisionV1.map, DecisionV1.decisionSchema,
        DecisionV1.feedback, and_assoc]

theorem map_map (c : DecisionCommandV1) (f g : JsString → JsString) :
    (c.map f).map g = c.map (g ∘ f) := by
  simp [map, ExpectedGate.map, DecisionV1.map_map]

theorem texts_map (c : DecisionCommandV1) (f : JsString → JsString) :
    (c.map f).texts = c.texts.map f := by
  obtain ⟨schema, commandId, runId, expected, decision⟩ := c
  cases decision with
  | approve _ feedback =>
      cases feedback <;>
        simp [texts, map, ExpectedGate.map, DecisionV1.map, DecisionV1.decisionSchema,
          DecisionV1.feedback]
  | requestRevision _ feedback =>
      simp [texts, map, ExpectedGate.map, DecisionV1.map, DecisionV1.decisionSchema,
        DecisionV1.feedback]

theorem eq_map_respell {d : DecisionCommandV1} (h : ∀ s ∈ (d.map respell).texts, Settled s) :
    d.map respell = d := by
  rw [map_eq_self_iff]
  intro s hs
  have hmem : respell s ∈ (d.map respell).texts := by
    rw [texts_map]
    exact List.mem_map_of_mem hs
  exact ((h _ hmem).eq_of_respell_eq rfl).symm

end DecisionCommandV1

/-! ## Reading a command off its document -/

theorem ExpectedGate.eq_of_json {e e' : ExpectedGate}
    (h : Json.EqUpToKeyOrder e.json e'.json) : e = e' := by
  have hvalues := Json.values_of_object h rfl (by simp)
  obtain ⟨⟩ := e
  obtain ⟨⟩ := e'
  simpa using hvalues

theorem DecisionV1.eq_of_json {d d' : DecisionV1}
    (h : Json.EqUpToKeyOrder d.json d'.json) : d = d' := by
  have hvalues := Json.values_of_object h rfl (by simp)
  have hne : js "APPROVE" ≠ js "REQUEST_REVISION" := js_injective.ne (by simp)
  have hfeedback (s : JsString) : Json.normalize (.orNull .str (some s)) = .str s :=
    Json.normalize_str s
  cases d with
  | approve schema feedback =>
      cases d' with
      | approve schema' feedback' =>
          cases feedback <;> cases feedback' <;>
            simp_all [type, decisionSchema, DecisionV1.feedback, Json.orNull]
      | requestRevision => simp [type, Decision.text, Json.text, hne] at hvalues
  | requestRevision schema feedback =>
      cases d' with
      | approve => simp [type, Decision.text, Json.text, hne.symm] at hvalues
      | requestRevision schema' feedback' =>
          simpa [type, decisionSchema, DecisionV1.feedback, Json.orNull] using hvalues

theorem DecisionCommandV1.eq_of_json {c c' : DecisionCommandV1}
    (h : Json.EqUpToKeyOrder c.json c'.json) : c = c' := by
  have hvalues := Json.values_of_object h rfl (by simp)
  simp only [List.map_cons, List.map_nil, List.cons.injEq, Json.normalize_str, Json.str.injEq,
    and_true] at hvalues
  obtain ⟨hschema, hcommand, hrun, hexpected, hdecision⟩ := hvalues
  have hexpected := ExpectedGate.eq_of_json hexpected
  have hdecision := DecisionV1.eq_of_json hdecision
  obtain ⟨⟩ := c
  obtain ⟨⟩ := c'
  subst hschema hcommand hrun hexpected hdecision
  rfl

/-! ## What is digested -/

@[simp] theorem normalizeCanonicalJson_str (s : JsString) :
    normalizeCanonicalJson (.str s) = .str (respell s) := by
  simp [normalizeCanonicalJson]

@[simp] theorem normalizeCanonicalJson_num (n : JsNumber) :
    normalizeCanonicalJson (.num n) = .num n := by
  simp [normalizeCanonicalJson]

theorem normalizeEntries_eq_map (entries : List (JsString × Json)) :
    normalizeEntries entries = entries.map (Prod.map id normalizeCanonicalJson) := by
  induction entries with
  | nil => simp [normalizeEntries]
  | cons e entries ih =>
      simp only [normalizeEntries, ih, List.map_cons]
      rfl

theorem normalizeCanonicalJson_object (entries : List (String × Json)) :
    normalizeCanonicalJson (.object entries) =
      .object (entries.map (Prod.map id normalizeCanonicalJson)) := by
  simp [Json.object, normalizeCanonicalJson, normalizeEntries_eq_map]

theorem normalizeCanonicalJson_orNull (feedback : Option JsString) :
    normalizeCanonicalJson (.orNull .str feedback) = .orNull .str (feedback.map respell) := by
  cases feedback <;> simp [Json.orNull, normalizeCanonicalJson]

theorem settled_text (decision : Decision) : Settled (js decision.text) := by
  cases decision <;> decide

theorem ExpectedGate.normalizeCanonicalJson_json (e : ExpectedGate) :
    normalizeCanonicalJson e.json = (e.map respell).json := by
  simp [json, map, normalizeCanonicalJson_object]

theorem DecisionV1.normalizeCanonicalJson_json (d : DecisionV1) :
    normalizeCanonicalJson d.json = (d.map respell respell).json := by
  have htype := (settled_text d.type).respell_eq
  cases d <;>
    simp_all [json, normalizeCanonicalJson_object, Json.text, decisionSchema, DecisionV1.feedback,
      type, map, normalizeCanonicalJson_orNull]

theorem DecisionCommandV1.normalizeCanonicalJson_json (c : DecisionCommandV1) :
    normalizeCanonicalJson c.json = (c.map respell).json := by
  simp [json, map, normalizeCanonicalJson_object, ExpectedGate.normalizeCanonicalJson_json,
    DecisionV1.normalizeCanonicalJson_json]

theorem ExpectedGate.wellFormed_json (e : ExpectedGate) : e.json.WellFormed := by
  apply Json.WellFormed.object (by simp)
  simp [Json.wellFormed_str, Json.wellFormed_num]

theorem DecisionV1.wellFormed_json (d : DecisionV1) : d.json.WellFormed := by
  apply Json.WellFormed.object (by simp)
  cases hfeedback : d.feedback <;>
    simp [Json.orNull, Json.text, Json.wellFormed_str, Json.wellFormed_null]

theorem DecisionCommandV1.wellFormed_json (c : DecisionCommandV1) : c.json.WellFormed := by
  apply Json.WellFormed.object (by simp)
  simp [Json.wellFormed_str, ExpectedGate.wellFormed_json, DecisionV1.wellFormed_json]

section Digest

variable {rt : Runtime} {c d : DecisionCommandV1} {m n : ℤ}

theorem decisionBusinessDigest_eq (c : DecisionCommandV1) (m : ℤ) :
    decisionBusinessDigest rt c m =
      rt.canonicalDigest (.object [("command", ((normalizedDecisionCommand c).map respell).json),
        ("if_match", .int m)]) := by
  simp [decisionBusinessDigest, contractDigest, normalizeCanonicalJson_object,
    DecisionCommandV1.normalizeCanonicalJson_json, Json.int]

theorem decisionBusinessDigest_eq_iff (hsha : Function.Injective rt.sha256) :
    decisionBusinessDigest rt c m = decisionBusinessDigest rt d n ↔
      m = n ∧ (normalizedDecisionCommand c).map respell =
        (normalizedDecisionCommand d).map respell := by
  have hwell (c : DecisionCommandV1) (m : ℤ) :
      Json.WellFormed (.object [("command", c.json), ("if_match", .int m)]) := by
    apply Json.WellFormed.object (by simp)
    simp [Json.int, Json.wellFormed_num, DecisionCommandV1.wellFormed_json]
  rw [decisionBusinessDigest_eq, decisionBusinessDigest_eq]
  constructor
  · intro h
    have hvalues := Json.values_of_object
      (Runtime.eqUpToKeyOrder_of_canonicalDigest_eq hsha (hwell _ m) (hwell _ n) h) rfl (by simp)
    simp only [List.map_cons, List.map_nil, List.cons.injEq, Json.int, Json.normalize_num,
      Json.num.injEq, and_true] at hvalues
    obtain ⟨hcommand, hnumber⟩ := hvalues
    exact ⟨JsNumber.ofInt_injective hnumber, DecisionCommandV1.eq_of_json hcommand⟩
  · rintro ⟨rfl, h⟩
    rw [h]

end Digest

/-! ## Which commands the digest names -/

/-- The requests ask for the same, apart from the white space around the feedback. -/
def SameBusiness (r r' : Gate01CommandRequest) : Prop :=
  r.ifMatch = r'.ifMatch ∧
    normalizedDecisionCommand r.command = normalizedDecisionCommand r'.command

/-- The digest of a request tells its command from the commands of all other requests, and so a
receipt under the digest is given back to the requests for that command only. -/
structure NamesCommand (rt : Runtime) (isUuid : JsString → Bool) (r : Gate01CommandRequest) :
    Prop where
  digest : ∀ r', assertCommandEnvelope isUuid r' = .ok () →
    (decisionBusinessDigest rt r.command r.ifMatch =
      decisionBusinessDigest rt r'.command r'.ifMatch ↔ SameBusiness r r')
  receipt : ∀ r' receipts (scope : ReceiptScope) receipt, assertCommandEnvelope isUuid r' = .ok () →
    receipt.requestDigest = decisionBusinessDigest rt r.command r.ifMatch →
    lockReceipt receipts { scope with
      requestDigest := decisionBusinessDigest rt r'.command r'.ifMatch } = .ok (some receipt) →
    SameBusiness r r'

/-- What the `uuid` package documents of `validate`: the texts it accepts are UUIDs, of 36
units. -/
def AcceptsUuids (isUuid : JsString → Bool) : Prop := ∀ s, isUuid s = true → s.length = 36

theorem acceptsUuids_isVersioned : AcceptsUuids Uuid.isVersioned :=
  fun _ => Uuid.length_of_isVersioned

section Naming

variable {rt : Runtime} {isUuid : JsString → Bool} {r r' : Gate01CommandRequest}

theorem requestDigest_of_lockReceipt {receipts : List CommandReceiptRow} {scope : ReceiptScope}
    {receipt : CommandReceiptRow} (h : lockReceipt receipts scope = .ok (some receipt)) :
    receipt.requestDigest = scope.requestDigest := by
  unfold lockReceipt at h
  split at h
  · cases h
  · next found _ =>
      by_cases hdigest : found.requestDigest = scope.requestDigest
      · rw [if_neg (not_not.mpr hdigest)] at h
        cases h
        exact hdigest
      · rw [if_pos hdigest] at h
        cases h

theorem namesCommand_of_settled (hsha : Function.Injective rt.sha256)
    (hsettled : ∀ s ∈ (normalizedDecisionCommand r.command).texts, Settled s) :
    NamesCommand rt isUuid r := by
  have hself : (normalizedDecisionCommand r.command).map respell =
      normalizedDecisionCommand r.command :=
    DecisionCommandV1.map_eq_self_iff.mpr fun s hs => (hsettled s hs).respell_eq
  have hdigest (r' : Gate01CommandRequest) :
      decisionBusinessDigest rt r.command r.ifMatch =
        decisionBusinessDigest rt r'.command r'.ifMatch ↔ SameBusiness r r' := by
    rw [decisionBusinessDigest_eq_iff hsha, hself, SameBusiness]
    apply and_congr_right
    intro _
    constructor
    · intro h
      rw [h]
      apply DecisionCommandV1.eq_map_respell
      rw [← h]
      exact hsettled
    · intro h
      rw [← h, hself]
  refine ⟨fun r' _ => hdigest r', ?_⟩
  intro r' receipts scope receipt _ hreceipt hlock
  exact (hdigest r').mp (hreceipt.symm.trans (requestDigest_of_lockReceipt hlock))

/-- Every text has another spelling, unless it is settled. -/
theorem exists_otherSpelling :
    ∃ f : JsString → JsString, (∀ s, respell (f s) = respell s) ∧ (∀ s, Settled s → f s = s) ∧
      ∀ s, ¬ Settled s → f s ≠ s ∧ JsString.trim (f s) = f s ∧ f s ≠ [] := by
  have hother (s : JsString) : ∃ s', respell s' = respell s ∧ (Settled s → s' = s) ∧
      (¬ Settled s → s' ≠ s ∧ JsString.trim s' = s' ∧ s' ≠ []) := by
    by_cases hs : Settled s
    · exact ⟨s, rfl, fun _ => rfl, fun hnot => absurd hs hnot⟩
    · obtain ⟨s', hne, hsame, t, ht⟩ := exists_respell_eq hs
      exact ⟨s', hsame, fun h => absurd h hs, fun _ => ⟨hne, trim_of_parse ht⟩⟩
  choose f hsame hsettled hunsettled using hother
  exact ⟨f, hsame, hsettled, hunsettled⟩

def Gate01CommandRequest.respelledBy (f : JsString → JsString) (r : Gate01CommandRequest) :
    Gate01CommandRequest :=
  { r with command := (normalizedDecisionCommand r.command).map f }

theorem normalizedDecisionCommand_respelledBy {f : JsString → JsString}
    (htrim : ∀ s, JsString.trim (f (JsString.trim s)) = f (JsString.trim s)) :
    normalizedDecisionCommand (r.respelledBy f).command =
      (normalizedDecisionCommand r.command).map f := by
  obtain ⟨authority, key, correlation, ifMatch, ⟨schema, command, run, expected, decision⟩⟩ := r
  cases decision with
  | approve decisionSchema feedback =>
      cases feedback <;>
        simp [Gate01CommandRequest.respelledBy, normalizedDecisionCommand, DecisionCommandV1.map,
          DecisionV1.map, htrim]
  | requestRevision decisionSchema feedback =>
      simp [Gate01CommandRequest.respelledBy, normalizedDecisionCommand, DecisionCommandV1.map,
        DecisionV1.map, htrim]

/-- The envelope is as good with other spellings of the texts that are not settled. -/
theorem envelopeValid_respelledBy {f : JsString → JsString}
    (huuid : AcceptsUuids isUuid) (hsettled : ∀ s, Settled s → f s = s)
    (htrim : ∀ s, JsString.trim (f (JsString.trim s)) = f (JsString.trim s))
    (hne : ∀ s, JsString.trim s ≠ [] → f (JsString.trim s) ≠ []) (h : EnvelopeValid isUuid r) :
    EnvelopeValid isUuid (r.respelledBy f) := by
  have hid {s : JsString} (hs : isUuid s = true) : isUuid (f s) = true := by
    rw [hsettled s (settled_of_length (by rw [huuid s hs]; omega))]
    exact hs
  constructor
  · exact (congrArg f h.commandSchema).trans (hsettled _ (by decide))
  · exact (congrArg f h.gate).trans (hsettled _ (by decide))
  · exact h.idempotencyKey
  · exact h.correlationId
  · exact hid h.commandId
  · exact hid h.runId
  · exact h.safe
  · exact h.positive
  · obtain ⟨authority, key, correlation, ifMatch, ⟨schema, command, run, expected, decision⟩⟩ := r
    have hfeedback := h.feedback
    cases decision with
    | approve => rfl
    | requestRevision decisionSchema feedback =>
        simp only [hasFeedback, decide_eq_true_eq] at hfeedback
        simpa [Gate01CommandRequest.respelledBy, normalizedDecisionCommand, DecisionCommandV1.map,
          DecisionV1.map, hasFeedback, htrim] using hne feedback hfeedback

/-- The digest of an accepted request names its command exactly when no text of it is an
instant. -/
theorem decisionDigest_iff (hsha : Function.Injective rt.sha256)
    (huuid : AcceptsUuids isUuid) (h : assertCommandEnvelope isUuid r = .ok ()) :
    NamesCommand rt isUuid r ↔ ∀ s ∈ (normalizedDecisionCommand r.command).texts, Settled s := by
  constructor
  · intro hnames
    obtain ⟨f, hsame, hsettled, hunsettled⟩ := exists_otherSpelling
    have htrim (s : JsString) : JsString.trim (f (JsString.trim s)) = f (JsString.trim s) := by
      by_cases hs : Settled (JsString.trim s)
      · rw [hsettled _ hs, JsString.trim_trim]
      · exact (hunsettled _ hs).2.1
    have hne (s : JsString) (hs : JsString.trim s ≠ []) : f (JsString.trim s) ≠ [] := by
      by_cases hset : Settled (JsString.trim s)
      · rwa [hsettled _ hset]
      · exact (hunsettled _ hset).2.2
    have hvalid := envelopeValid_respelledBy huuid hsettled htrim hne
      (assertCommandEnvelope_eq_ok.mp h)
    have hcommand := normalizedDecisionCommand_respelledBy (r := r) htrim
    have hdigest : decisionBusinessDigest rt r.command r.ifMatch =
        decisionBusinessDigest rt (r.respelledBy f).command r.ifMatch := by
      rw [decisionBusinessDigest_eq_iff hsha, hcommand, DecisionCommandV1.map_map]
      have hcomp : respell ∘ f = respell := funext hsame
      rw [hcomp]
      exact ⟨rfl, rfl⟩
    have hbusiness := (hnames.digest _ (assertCommandEnvelope_eq_ok.mpr hvalid)).mp hdigest
    have hfixed := DecisionCommandV1.map_eq_self_iff.mp (hcommand.symm.trans hbusiness.2.symm)
    intro s hs
    by_contra hset
    exact (hunsettled s hset).1 (hfixed s hs)
  · exact namesCommand_of_settled hsha

end Naming

/-! ## A feedback that is an instant -/

def sampleId : JsString := js "0190a6c2-7b3e-7c1a-9f52-3d8e6b4a1c07"

def sampleCommand (feedback : JsString) : DecisionCommandV1 where
  commandSchema := js "founder-decision-command/v1"
  commandId := sampleId
  runId := sampleId
  expected :=
    { runRowVersion := .ofNat 1
      runState := js "AWAITING_BRIEF_APPROVAL"
      runStage := js "PRODUCT"
      gate := js "GATE-01"
      gateInstanceId := sampleId
      gateInstanceRowVersion := .ofNat 1
      artifactId := sampleId
      artifactVersionId := sampleId
      artifactVersion := .ofNat 1
      artifactChecksum := js "c0ffee" }
  decision := .requestRevision (js "revision-decision/v1") feedback

def sampleRequest (feedback : JsString) : Gate01CommandRequest where
  authority := ⟨js "session", js "founder", js "company", none⟩
  idempotencyKey := sampleId
  correlationId := sampleId
  ifMatch := 1
  command := sampleCommand feedback

theorem isVersioned_sampleId : Uuid.isVersioned sampleId = true := by decide

theorem envelope_sampleRequest {feedback : JsString} (h : feedback.trim ≠ []) :
    assertCommandEnvelope Uuid.isVersioned (sampleRequest feedback) = .ok () :=
  assertCommandEnvelope_eq_ok.mpr
    { commandSchema := rfl
      gate := rfl
      idempotencyKey := isVersioned_sampleId
      correlationId := isVersioned_sampleId
      commandId := isVersioned_sampleId
      runId := isVersioned_sampleId
      safe := (by decide : (1 : ℤ) ≤ 2 ^ 53 - 1)
      positive := (by decide : (0 : ℤ) < 1)
      feedback := decide_eq_true h }

/-- A digest function without collisions that agrees with SHA-256 on what is hashed for the
sample. -/
def sampleSha256 : JsString → Digest :=
  Runtime.sha256On
    (decisionBusinessDigest (.sample id) (sampleRequest (js "Shorter")).command 1)
    (js "8b7ea87b05baad4c1f85f8cf21eeeee9efac0e726cc69a265c491c01612b20cf")

/-- The feedback is no instant. -/
theorem decisionDigest_iff_demo :
    NamesCommand (.sample sampleSha256) Uuid.isVersioned (sampleRequest (js "Shorter")) :=
  (decisionDigest_iff (Runtime.sha256On_injective (by decide)) acceptsUuids_isVersioned
    (envelope_sampleRequest (by decide))).mpr (by decide)

/-- Two feedbacks that spell one instant, whatever the platform. -/
theorem decisionDigest_fails :
    ¬ ∃ rt : Runtime, Function.Injective rt.sha256 ∧ ∀ r r',
      assertCommandEnvelope Uuid.isVersioned r = .ok () →
      assertCommandEnvelope Uuid.isVersioned r' = .ok () →
      (decisionBusinessDigest rt r.command r.ifMatch =
        decisionBusinessDigest rt r'.command r'.ifMatch ↔ SameBusiness r r') := by
  rintro ⟨rt, hsha, h⟩
  have hiff := h (sampleRequest (js "2024-01-01T00:00:00Z"))
    (sampleRequest (js "2024-01-01T00:00:00.000Z")) (envelope_sampleRequest (by decide))
    (envelope_sampleRequest (by decide))
  have htrim : (js "2024-01-01T00:00:00Z").trim = js "2024-01-01T00:00:00Z" := by decide
  have htrim' : (js "2024-01-01T00:00:00.000Z").trim = js "2024-01-01T00:00:00.000Z" := by decide
  have hparse : parse (js "2024-01-01T00:00:00Z") = some 63871286400000 := by decide
  have hparse' : parse (js "2024-01-01T00:00:00.000Z") = some 63871286400000 := by decide
  have hrespell : respell (js "2024-01-01T00:00:00Z") = respell (js "2024-01-01T00:00:00.000Z") :=
    (respell_of_some hparse).trans (respell_of_some hparse').symm
  have hbusiness := hiff.mp (by
    rw [decisionBusinessDigest_eq_iff hsha]
    simp [sampleRequest, sampleCommand, normalizedDecisionCommand, DecisionCommandV1.map,
      DecisionV1.map, htrim, htrim', hrespell])
  have hfeedback : js "2024-01-01T00:00:00Z" = js "2024-01-01T00:00:00.000Z" := by
    simpa [sampleRequest, sampleCommand, normalizedDecisionCommand, DecisionV1.map, htrim,
      htrim'] using hbusiness.2
  exact absurd (js_injective hfeedback) (by simp)

end GateProof

end Aico
