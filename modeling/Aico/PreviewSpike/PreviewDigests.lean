import Aico.PreviewSpike.PreviewContracts

/-!
# What the digests of the preview service name

Where SHA-256 has no collisions, a binding digest names the fields under it: the builds of two
equal build tuples have one identifier, two grants with one binding were issued under one key,
and an intent with the digest of another has been used as often.
-/

namespace Aico

namespace PreviewProof

namespace Platform

variable {pf : Platform}

theorem bodyDigest_injective (h : Function.Injective pf.sha256Bytes) :
    Function.Injective pf.bodyDigest := by
  intro body body' hdigest
  exact h (List.append_cancel_left hdigest)

theorem eqUpToKeyOrder_of_digest (hsha : Function.Injective pf.rt.sha256) {v w : Json}
    (hv : v.WellFormed) (hw : w.WellFormed) (h : pf.canonicalDigest v = pf.canonicalDigest w) :
    Json.EqUpToKeyOrder v w :=
  Runtime.eqUpToKeyOrder_of_canonicalDigest_eq hsha hv hw (List.append_cancel_left h)

/-- Without collisions, equal bindings of one domain are those of equal values. -/
theorem values_of_bindingDigest (hsha : Function.Injective pf.rt.sha256) {domain : String}
    {fs gs : List (String × Json)} (hkeys : fs.map Prod.fst = gs.map Prod.fst)
    (hnodup : ("domain" :: fs.map Prod.fst).Nodup) (hfs : ∀ e ∈ fs, e.2.WellFormed)
    (hgs : ∀ e ∈ gs, e.2.WellFormed)
    (h : pf.bindingDigest domain fs = pf.bindingDigest domain gs) :
    fs.map (fun e => Json.normalize e.2) = gs.map fun e => Json.normalize e.2 := by
  have hwell (es : List (String × Json)) (hnodup : ("domain" :: es.map Prod.fst).Nodup)
      (hes : ∀ e ∈ es, e.2.WellFormed) :
      Json.WellFormed (.object (("domain", .text domain) :: es)) :=
    .object hnodup (List.forall_mem_cons.mpr ⟨.str _, hes⟩)
  have hvalues := Json.values_of_object
    (eqUpToKeyOrder_of_digest hsha (hwell fs hnodup hfs) (hwell gs (hkeys ▸ hnodup) hgs) h)
    (congrArg (List.cons "domain") hkeys) hnodup
  exact (List.cons.inj hvalues).2

end Platform

/-! ## Well-formed rows -/

theorem BuildBindingSource.wellFormed_fields (b : BuildBindingSource) :
    ∀ e ∈ b.fields, e.2.WellFormed := by
  simp [fields, Json.nat, Json.wellFormed_str, Json.wellFormed_num]

theorem BuildBindingSource.nodup_fields (b : BuildBindingSource) :
    ("domain" :: b.fields.map Prod.fst).Nodup := by
  change (["domain", "runId", "taskId", "attemptId", "buildId", "buildVersion",
    "buildResultReceiptId", "buildResultReceiptVersion", "buildResultReceiptDigest", "artifactId",
    "artifactVersionId", "artifactVersion", "artifactChecksum", "outputManifestId",
    "outputManifestVersion", "outputManifestDigest", "aggregateDigest"] : List String).Nodup
  decide

theorem RedactionProfileBinding.wellFormed_json (p : RedactionProfileBinding) :
    p.json.WellFormed := by
  apply Json.WellFormed.object (by simp)
  simp [Json.wellFormed_str]

theorem CausalMeta.wellFormed_json (m : CausalMeta) : m.json.WellFormed := by
  apply Json.WellFormed.object (by simp)
  simp [Json.wellFormed_str]

theorem GrantAuthority.wellFormed_boundFields (g : GrantAuthority) :
    ∀ e ∈ g.boundFields, e.2.WellFormed := by
  have hbuild := g.toBuildBindingSource.wellFormed_fields
  simp only [boundFields, List.forall_mem_append]
  refine ⟨hbuild, ?_⟩
  simp [Json.nat, Json.text, Json.wellFormed_str, Json.wellFormed_num,
    RedactionProfileBinding.wellFormed_json, CausalMeta.wellFormed_json]

theorem GrantAuthority.nodup_boundFields (g : GrantAuthority) :
    ("domain" :: g.boundFields.map Prod.fst).Nodup := by
  change (["domain", "runId", "taskId", "attemptId", "buildId", "buildVersion",
    "buildResultReceiptId", "buildResultReceiptVersion", "buildResultReceiptDigest", "artifactId",
    "artifactVersionId", "artifactVersion", "artifactChecksum", "outputManifestId",
    "outputManifestVersion", "outputManifestDigest", "aggregateDigest", "companyId", "grantId",
    "publicGrantId", "issuanceRequestId", "issuanceRequestDigest", "logicalIdempotencyKey",
    "invocationIntentId", "policyDecisionId", "previewId", "previewVersion", "publicPreviewId",
    "host", "environment", "audience", "previewRevocationEpoch", "grantRevocationEpoch",
    "policyVersion", "keyVersion", "nonceDigest", "issuedAt", "notBefore", "expiresAt",
    "redactionProfile", "meta"] : List String).Nodup
  decide

theorem ToolInvocationIntent.wellFormed_json (i : ToolInvocationIntent) : i.json.WellFormed := by
  apply Json.WellFormed.object (by simp [boundFields])
  simp [boundFields, Json.nat, Json.text, Json.wellFormed_str, Json.wellFormed_num]

/-! ## What equal digests have in common -/

section Digests

variable {pf : Platform}

theorem buildId_of_buildTuple (hsha : Function.Injective pf.rt.sha256)
    {b c : BuildBindingSource} (h : pf.buildTuple b = pf.buildTuple c) :
    b.buildId = c.buildId := by
  have hkeys : b.fields.map Prod.fst = c.fields.map Prod.fst := rfl
  have hvalues := Platform.values_of_bindingDigest hsha hkeys b.nodup_fields b.wellFormed_fields
    c.wellFormed_fields h
  simp only [BuildBindingSource.fields, List.map_cons, List.cons.injEq, Json.normalize_str,
    Json.str.injEq] at hvalues
  exact hvalues.2.2.2.1

theorem of_grantBinding (hsha : Function.Injective pf.rt.sha256) {g h : GrantAuthority}
    (heq : pf.grantBinding g = pf.grantBinding h) :
    g.grantId = h.grantId ∧ g.logicalIdempotencyKey = h.logicalIdempotencyKey := by
  have hkeys : g.boundFields.map Prod.fst = h.boundFields.map Prod.fst := rfl
  have hvalues := Platform.values_of_bindingDigest hsha hkeys g.nodup_boundFields
    g.wellFormed_boundFields h.wellFormed_boundFields heq
  simp only [GrantAuthority.boundFields, BuildBindingSource.fields, List.cons_append,
    List.nil_append, List.map_cons, List.cons.injEq, Json.normalize_str, Json.str.injEq] at hvalues
  obtain ⟨-, -, -, -, -, -, -, -, -, -, -, -, -, -, -, -, -, hgrantId, -, -, -, hkey, -⟩ := hvalues
  exact ⟨hgrantId, hkey⟩

theorem used_of_digest (hsha : Function.Injective pf.rt.sha256) {i j : ToolInvocationIntent}
    (h : pf.canonicalDigest i.json = pf.canonicalDigest j.json) : i.used = j.used := by
  have hvalues := Json.values_of_object
    (Platform.eqUpToKeyOrder_of_digest hsha i.wellFormed_json j.wellFormed_json h) rfl
    (by simp [ToolInvocationIntent.boundFields])
  simp only [ToolInvocationIntent.boundFields, List.cons_append, List.nil_append, List.map_cons,
    List.cons.injEq, Json.nat, Json.normalize_num, Json.num.injEq] at hvalues
  obtain ⟨-, -, -, -, -, -, -, -, -, -, hused, -⟩ := hvalues
  exact JsString.decimal_injective (congrArg JsNumber.text hused)

end Digests

end PreviewProof

end Aico
