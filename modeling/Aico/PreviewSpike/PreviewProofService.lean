import Aico.PreviewSpike.PreviewProofState

/-!
# The operations of the preview service

Each operation is a `try` block in `settle`, which also gives the refusal that its `catch`
writes. The block reads and checks first; the tool invocation intent is consumed right
before the effect.
-/

namespace Aico

namespace PreviewProof

open Coroutine

def generatedCsp : String :=
  "default-src 'none'; script-src 'self'; style-src 'self'; img-src 'self' data:; " ++
    "font-src 'self'; media-src 'self'; connect-src 'none'; object-src 'none'; " ++
    "frame-src 'none'; child-src 'none'; worker-src 'none'; manifest-src 'none'; " ++
    "base-uri 'none'; form-action 'none'; frame-ancestors 'none'; " ++
    "sandbox allow-scripts allow-same-origin"

def permissionsPolicy : String :=
  "accelerometer=(), ambient-light-sensor=(), autoplay=(), camera=(), clipboard-read=(), " ++
    "clipboard-write=(), display-capture=(), encrypted-media=(), fullscreen=(), " ++
    "geolocation=(), gyroscope=(), hid=(), magnetometer=(), microphone=(), midi=(), " ++
    "payment=(), picture-in-picture=(), publickey-credentials-create=(), " ++
    "publickey-credentials-get=(), screen-wake-lock=(), serial=(), storage-access=(), " ++
    "usb=(), web-share=(), xr-spatial-tracking=()"

def generatedResponseHeaders : List (String × String) :=
  [("cache-control", "private, no-store, no-transform"), ("cdn-cache-control", "no-store"),
    ("content-security-policy", generatedCsp),
    ("cross-origin-embedder-policy", "require-corp"),
    ("cross-origin-opener-policy", "same-origin"),
    ("cross-origin-resource-policy", "same-origin"), ("expires", "0"),
    ("origin-agent-cluster", "?1"), ("permissions-policy", permissionsPolicy),
    ("pragma", "no-cache"), ("referrer-policy", "no-referrer"),
    ("surrogate-control", "no-store"),
    ("strict-transport-security", "max-age=31536000; includeSubDomains"),
    ("x-content-type-options", "nosniff"), ("x-frame-options", "DENY"),
    ("x-permitted-cross-domain-policies", "none")]

def cacheProfile : Json :=
  .object [("browser", .text "private, no-store, no-transform"), ("cdn", .text "no-store"),
    ("surrogate", .text "no-store"), ("vary", .text "none-authority-before-cache")]

def allowedMediaTypes : List JsString :=
  ["text/html; charset=utf-8", "text/css; charset=utf-8", "text/javascript; charset=utf-8",
    "application/json; charset=utf-8", "image/png", "image/jpeg", "image/gif", "image/webp",
    "image/svg+xml", "image/x-icon", "font/woff2"].map js

def Locals.start : Locals := ⟨none, none⟩

structure VerifiedBuildCopy where
  source : ObjectRecord
  destinationKey : JsString

namespace PreviewProofService

variable (svc : PreviewProofService)

def headerProfileDigest : JsString :=
  svc.platform.canonicalDigest
    (.object (generatedResponseHeaders.map fun h => (h.1, .text h.2)))

def cacheProfileDigest : JsString := svc.platform.canonicalDigest cacheProfile

/-! ## publish -/

abbrev PublicationBound (request : PublicationRequest) (build : BuildAuthority)
    (preview : PreviewAuthority) : Prop :=
  svc.platform.canonicalDigest request.build.json = svc.platform.canonicalDigest build.json ∧
    svc.platform.canonicalDigest request.preview.json =
      svc.platform.canonicalDigest preview.json ∧
    svc.platform.previewBinding preview = preview.bindingSha256 ∧
    svc.platform.buildTuple preview.toBuildBindingSource =
      svc.platform.buildTuple build.toBuildBindingSource ∧
    preview.headerProfileDigest = svc.headerProfileDigest ∧
    preview.cacheProfileDigest = svc.cacheProfileDigest ∧
    svc.platform.canonicalDigest preview.redactionProfile.json =
      svc.platform.canonicalDigest svc.defaultRedactionProfile.json

abbrev EntrySound (entry : ManifestEntry) : Prop :=
  isSafeManifestPath entry.path = true ∧ ¬ js "__aico/" <+: entry.path ∧
    ¬ js ".map" <:+ entry.path ∧ 0 < entry.bytes ∧ entry.mediaType ∈ allowedMediaTypes

abbrev ManifestSound (build : BuildAuthority) : Prop :=
  build.entries ≠ [] ∧
    svc.platform.normalizedManifestDigest build.entries = build.outputManifestDigest ∧
    svc.platform.canonicalDigest (.arr (build.entries.map fun e => .str e.contentSha256)) =
      build.aggregateDigest ∧
    (∀ entry ∈ build.entries, EntrySound entry) ∧
    (build.entries.map fun e => svc.platform.toLowerCase e.path).Nodup

def assertPublicationBindings (request : PublicationRequest) (build : BuildAuthority)
    (preview : PreviewAuthority) : Call ProofError PUnit := do
  ensure (svc.PublicationBound request build preview) (.denied .bindingMismatch true)
  ensure (preview.state = .prepared) (.denied .publicationNotAvailable true)
  let retired ← gets fun s => s.retiredHosts
  ensure (preview.host ∉ retired) (.denied .bindingMismatch true)
  let others ← gets fun s => s.previews.values
  ensure (∀ candidate ∈ others, candidate.previewId ≠ preview.previewId →
    candidate.host ≠ preview.host) (.denied .bindingMismatch true)
  ensure (build.buildResult = .succeeded ∧ build.canceled = false ∧ build.quarantined = false)
    (.denied .buildNotSuccessful true)
  ensure (svc.ManifestSound build) (.denied .integrityFailed true)

abbrev SourceSound (source : ObjectRecord) (entry : ManifestEntry) : Prop :=
  source.state = .available ∧ source.body.length = entry.bytes ∧
    svc.platform.bodyDigest source.body = entry.contentSha256 ∧
    source.objectVersionId = entry.objectVersionId ∧ source.mediaType = entry.mediaType

def verifyCopy (s : PreviewProofState) (build : BuildAuthority) (preview : PreviewAuthority)
    (entry : ManifestEntry) : Except ProofError VerifiedBuildCopy :=
  match s.objects.get (sourceObjectKey build.buildId entry.path) with
  | none => .error (.denied .integrityFailed true)
  | some source =>
      if svc.SourceSound source entry then
        let destinationKey :=
          previewObjectKey preview.previewId preview.previewVersion entry.path
        if s.objects.has destinationKey then .error (.conflict .bindingMismatch)
        else .ok ⟨source, destinationKey⟩
      else .error (.denied .integrityFailed true)

def validateBuildCopy (build : BuildAuthority) (preview : PreviewAuthority) :
    Call ProofError (List VerifiedBuildCopy) := do
  let verified ← gets fun s => build.entries.mapM (svc.verifyCopy s build preview)
  lift verified

def stageCopy (preview : PreviewAuthority) (objects : JsMap JsString ObjectRecord)
    (copy : VerifiedBuildCopy) : JsMap JsString ObjectRecord :=
  objects.set copy.destinationKey
    { copy.source with
      previewId := preview.previewId
      previewVersion := preview.previewVersion
      state := .staging }

def copyVerifiedBuild (verified : List VerifiedBuildCopy) (preview : PreviewAuthority)
    (s : PreviewProofState) : PreviewProofState :=
  { s with objects := verified.foldl (stageCopy preview) s.objects }

def activateObject (objects : JsMap JsString ObjectRecord) (key : JsString) :
    JsMap JsString ObjectRecord :=
  objects.update key fun object => { object with state := .available }

def activateCopies (verified : List VerifiedBuildCopy) (s : PreviewProofState) :
    PreviewProofState :=
  { s with objects := (verified.map (·.destinationKey)).foldl activateObject s.objects }

def setPreview (preview : PreviewAuthority) (s : PreviewProofState) : PreviewProofState :=
  { s with previews := s.previews.set preview.previewId preview }

def doubtfulPreview (preview : PreviewAuthority) : PreviewAuthority :=
  { preview with state := .unknown, rowVersion := preview.rowVersion + 1 }

def availablePreview (preview : PreviewAuthority) : PreviewAuthority :=
  let published := { preview with state := .available, rowVersion := preview.rowVersion + 1 }
  { published with bindingSha256 := svc.platform.previewBinding published }

def publishDoubtful (request : PublicationRequest) (preview : PreviewAuthority)
    (consumption : ToolInvocationConsumption) : Call (ProofError × Locals) ProofReceipt := do
  modify (setPreview (doubtfulPreview preview))
  let receipt ← gets fun s => svc.publicationReceipt s.now request
    ⟨.unknown, .unknownExternalOutcome, true⟩ true (some consumption)
    (some (doubtfulPreview preview))
  modify (store request.toKeyedHeader receipt)
  pure receipt

def publishAvailable (request : PublicationRequest) (preview : PreviewAuthority)
    (verified : List VerifiedBuildCopy) (consumption : ToolInvocationConsumption) :
    Call (ProofError × Locals) ProofReceipt := do
  modify (activateCopies verified)
  modify (setPreview (svc.availablePreview preview))
  within (Locals.mk (some (svc.availablePreview preview)) (some consumption))
    (callHook (.afterEffect .publish) .nothing)
  let receipt ← gets fun s => svc.publicationReceipt s.now request
    ⟨.succeeded, .published, true⟩ true (some consumption)
    (some (svc.availablePreview preview))
  modify (store request.toKeyedHeader receipt)
  pure receipt

def checkPublication (request : PublicationRequest) (company : CompanyAuthority)
    (build : BuildAuthority) (preview : PreviewAuthority) :
    Call ProofError (List VerifiedBuildCopy) := do
  assertCompanyScope company [build.companyId, preview.companyId]
  svc.assertPublicationBindings request build preview
  svc.validateBuildCopy build preview

def publishNew (request : PublicationRequest) (company : CompanyAuthority) :
    Call (ProofError × Locals) ProofReceipt := do
  let build ← within Locals.start (svc.readBuild request.build.buildId .publish .nothing)
  let preview ← within Locals.start (svc.readPreview request.preview.previewId .publish .nothing)
  let verified ← within (Locals.mk (some preview) none)
    (svc.checkPublication request company build preview)
  let consumption ← within (Locals.mk (some preview) none)
    (svc.consumeIntent request.toolInvocation .publish request.toKeyedHeader)
  within (Locals.mk (some preview) (some consumption))
    (callHook (.beforeEffect .publish) (.publication preview))
  modify (copyVerifiedBuild verified preview)
  if svc.faults.publicationUnknownAfterCopy then
    svc.publishDoubtful request preview consumption
  else svc.publishAvailable request preview verified consumption

def publishBody (request : PublicationRequest) : Call (ProofError × Locals) ProofReceipt := do
  let company ← within Locals.start (svc.readCompanyBySubject request.actorSubject .publish)
  match ← within Locals.start (replay request.toKeyedHeader) with
  | some receipt => pure receipt
  | none => svc.publishNew request company

def publish (request : PublicationRequest) : Call ProofError ProofReceipt := do
  svc.assertRequestDigest request.toRequestHeader request.fields
  settle request.toKeyedHeader
    (fun s classified locals => svc.publicationReceipt s.now request classified
      locals.consumption.isSome locals.consumption locals.preview)
    id (svc.publishBody request)

/-! ## issueGrant -/

def previewAvailable (now : JsString) (preview : PreviewAuthority) : Prop :=
  preview.state = .available ∧ svc.platform.reached now preview.expiresAt = false

instance (now : JsString) (preview : PreviewAuthority) :
    Decidable (svc.previewAvailable now preview) :=
  inferInstanceAs (Decidable (_ ∧ _))

def assertPreviewAvailable (preview : PreviewAuthority) : Call ProofError PUnit := do
  let now ← gets fun s => s.now
  ensure (svc.previewAvailable now preview) (.denied .publicationNotAvailable true)

/-- The first grant that is known under the public identifier. -/
def grantOf (s : PreviewProofState) (publicGrantId : JsString) : Option GrantAuthority :=
  s.grants.values.find? fun g => g.publicGrantId = publicGrantId

def grantBase (now : JsString) (request : GrantIssueRequest) (preview : PreviewAuthority)
    (build : BuildAuthority) (company : CompanyAuthority) : GrantAuthority where
  toBuildBindingSource := build.toBuildBindingSource
  companyId := company.companyId
  grantId := svc.platform.deterministicId (request.requestId ++ js ":grant")
  publicGrantId := request.publicGrantId
  issuanceRequestId := request.requestId
  issuanceRequestDigest := request.requestDigest
  logicalIdempotencyKey := request.logicalIdempotencyKey
  invocationIntentId := request.toolInvocation.id
  policyDecisionId := request.toolInvocation.decisionId
  previewId := preview.previewId
  previewVersion := preview.previewVersion
  publicPreviewId := preview.publicPreviewId
  host := preview.host
  environment := preview.environment
  previewRevocationEpoch := preview.revocationEpoch
  grantRevocationEpoch := 1
  policyVersion := preview.policyVersion
  keyVersion := preview.keyVersion
  nonceDigest := svc.platform.canonicalDigest (.str request.nonce)
  issuedAt := now
  notBefore := now
  expiresAt := request.expiresAt
  consumedAt := none
  bindingSha256 := []
  redactionProfile := preview.redactionProfile
  causalMeta := svc.childMeta request.causalMeta .grantIssue
    (request.requestId ++ js ":grant-authority")

def createGrantAuthority (now : JsString) (request : GrantIssueRequest)
    (preview : PreviewAuthority) (build : BuildAuthority) (company : CompanyAuthority) :
    GrantAuthority :=
  let base := svc.grantBase now request preview build company
  { base with bindingSha256 := svc.platform.grantBinding base }

def protectedHeader : Json :=
  .object [("typ", .text "AICO-PREVIEW-GRANT+JWT"), ("alg", .text "EdDSA"),
    ("kid", .str svc.keyId)]

def signGrant (grant : GrantAuthority) (nonce : JsString) : SignedAccessGrant :=
  let claims := Json.object [("audience", .text "PREVIEW_VIEWER"),
    ("opaque_grant_ref", .str grant.publicGrantId), ("nonce", .str nonce),
    ("issued_at", .str grant.issuedAt), ("not_before", .str grant.notBefore),
    ("expires_at", .str grant.expiresAt), ("origin_hostname", .str grant.host),
    ("environment", .text grant.environment.text),
    ("binding_sha256", .str grant.bindingSha256)]
  let signingInput := svc.platform.encode (svc.platform.canonicalJson svc.protectedHeader) ++
    js "." ++ svc.platform.encode (svc.platform.canonicalJson claims)
  { protectedHeader := svc.protectedHeader
    claims := claims
    compact := signingInput ++ js "." ++ svc.platform.ed25519Sign signingInput }

def replayGrant (s : PreviewProofState) (request : GrantIssueRequest) (receipt : ProofReceipt) :
    Option GrantIssueResult :=
  match receipt.detail with
  | .grantIssue (some publicGrantId) _ (some capabilityDigest) =>
      (grantOf s publicGrantId).bind fun storedGrant =>
        let signedGrant := svc.signGrant storedGrant request.nonce
        if svc.platform.canonicalDigest (.str signedGrant.compact) = capabilityDigest then
          some ⟨receipt, some signedGrant⟩
        else none
  | _ => none

def setGrant (grant : GrantAuthority) (s : PreviewProofState) : PreviewProofState :=
  { s with grants := s.grants.set grant.grantId grant }

def checkGrantIssue (request : GrantIssueRequest) (company : CompanyAuthority)
    (preview : PreviewAuthority) (build : BuildAuthority) : Call ProofError GrantAuthority := do
  assertCompanyScope company [preview.companyId, build.companyId]
  svc.assertPreviewAvailable preview
  ensure (request.previewVersion = preview.previewVersion ∧
    Json.unitOrder request.expiresAt preview.expiresAt ≠ .gt) (.denied .bindingMismatch true)
  let known ← gets fun s => grantOf s request.publicGrantId
  ensure (known.isNone = true) (.conflict .idempotencyConflict)
  gets fun s => svc.createGrantAuthority s.now request preview build company

def issueNewGrant (request : GrantIssueRequest) (company : CompanyAuthority) :
    Call (ProofError × Locals) GrantIssueResult := do
  let preview ← within Locals.start (svc.readPreview request.previewId .grantIssue .nothing)
  let build ← within Locals.start (svc.readBuild preview.buildId .grantIssue .nothing)
  let grant ← within Locals.start (svc.checkGrantIssue request company preview build)
  let consumption ← within Locals.start
    (svc.consumeIntent request.toolInvocation .issueGrant request.toKeyedHeader)
  within (Locals.mk none (some consumption)) (callHook (.beforeEffect .grantIssue) .nothing)
  modify (setGrant grant)
  within (Locals.mk none (some consumption)) (callHook (.afterEffect .grantIssue) .nothing)
  let receipt ← gets fun s => svc.grantReceipt s.now request ⟨.succeeded, .grantIssued, true⟩
    true (some consumption) (some grant.publicGrantId) (some grant.bindingSha256)
    (some (svc.platform.canonicalDigest (.str (svc.signGrant grant request.nonce).compact)))
  modify (store request.toKeyedHeader receipt)
  pure ⟨receipt, some (svc.signGrant grant request.nonce)⟩

def issueGrantBody (request : GrantIssueRequest) :
    Call (ProofError × Locals) GrantIssueResult := do
  let company ← within Locals.start (svc.readCompanyBySubject request.actorSubject .grantIssue)
  match ← within Locals.start (replay request.toKeyedHeader) with
  | some receipt => do
      let result ← gets fun s => svc.replayGrant s request receipt
      require result (.denied .authorityStale true, Locals.start)
  | none => svc.issueNewGrant request company

def issueGrant (request : GrantIssueRequest) : Call ProofError GrantIssueResult := do
  svc.assertRequestDigest request.toRequestHeader request.fields
  settle request.toKeyedHeader
    (fun s classified locals => ⟨svc.grantReceipt s.now request classified
      locals.consumption.isSome locals.consumption none none none, none⟩)
    (·.receipt) (svc.issueGrantBody request)

end PreviewProofService

end PreviewProof

end Aico
