import Aico.PreviewSpike.PreviewProofService
import Aico.GateSpike.ConsumerProbe

/-!
# Sessions of the preview service

`exchange` turns a signed grant into a session, once, and `access` serves an object to a
session. Content is served after every authority has been read again: `SessionBound`,
`GrantBound` and `ContentLive` list what must hold of the rows that were read, in the order
in which the service compares them.
-/

namespace Aico

namespace PreviewProof

open Coroutine

namespace PreviewProofService

variable (svc : PreviewProofService)

/-! ## exchange -/

def claimKeys : List String :=
  ["audience", "opaque_grant_ref", "nonce", "issued_at", "not_before", "expires_at",
    "origin_hostname", "environment", "binding_sha256"]

def verifyGrant (compact : JsString) : Option Json :=
  match compact.splitOn 0x2E with
  | [header, payload, signature] =>
      match svc.platform.jsonParse (svc.platform.decode header),
        svc.platform.jsonParse (svc.platform.decode payload) with
      | some parsedHeader, some claims =>
          if svc.platform.canonicalDigest parsedHeader =
                svc.platform.canonicalDigest svc.protectedHeader ∧
              Json.hasExactKeys claimKeys claims = true ∧
              svc.platform.ed25519Verify (header ++ js "." ++ payload) signature = true then
            some claims
          else none
      | _, _ => none
  | _ => none

/-- `claims[name] === value`. -/
def claimIs (claims : Json) (name : String) (value : Json) : Bool :=
  Json.strictEquals (claims.field name) (some value)

abbrev SameOrigin (request : ExchangeRequest) : Prop :=
  request.contentType = js "application/octet-stream" ∧ request.fetchSite = js "same-origin" ∧
    request.origin = js "https://" ++ request.host

/-- `canonicalDigest` of a claim, which is absent for a missing one. -/
def nonceDigest (claims : Json) : Option JsString :=
  (claims.field "nonce").map svc.platform.canonicalDigest

abbrev HostClaimed (request : ExchangeRequest) (claims : Json) (grant : GrantAuthority)
    (preview : PreviewAuthority) : Prop :=
  claimIs claims "origin_hostname" (.str request.host) = true ∧
    claimIs claims "environment" (.text request.environment.text) = true ∧
    claimIs claims "origin_hostname" (.str grant.host) = true ∧
    claimIs claims "environment" (.text grant.environment.text) = true ∧
    claimIs claims "origin_hostname" (.str preview.host) = true ∧
    claimIs claims "environment" (.text preview.environment.text) = true

abbrev ExchangeBound (claims : Json) (grant : GrantAuthority) (preview : PreviewAuthority)
    (build : BuildAuthority) : Prop :=
  claimIs claims "audience" (.text "PREVIEW_VIEWER") = true ∧
    claimIs claims "binding_sha256" (.str grant.bindingSha256) = true ∧
    svc.platform.grantBinding grant = grant.bindingSha256 ∧
    grant.publicPreviewId = preview.publicPreviewId ∧
    grant.previewVersion = preview.previewVersion ∧
    svc.platform.buildTuple grant.toBuildBindingSource =
      svc.platform.buildTuple preview.toBuildBindingSource ∧
    svc.platform.buildTuple grant.toBuildBindingSource =
      svc.platform.buildTuple build.toBuildBindingSource ∧
    svc.nonceDigest claims = some grant.nonceDigest ∧
    grant.policyVersion = preview.policyVersion ∧ grant.keyVersion = preview.keyVersion

abbrev GrantTimely (now : JsString) (grant : GrantAuthority) (preview : PreviewAuthority) :
    Prop :=
  grant.previewRevocationEpoch = preview.revocationEpoch ∧
    svc.platform.precedes now grant.notBefore = false ∧
    svc.platform.reached now grant.expiresAt = false

def assertExchangeBindings (request : ExchangeRequest) (claims : Json) (grant : GrantAuthority)
    (preview : PreviewAuthority) (build : BuildAuthority) : Call ProofError PUnit := do
  ensure (HostClaimed request claims grant preview) (.denied .bindingMismatch true)
  ensure (svc.ExchangeBound claims grant preview build) (.denied .bindingMismatch true)
  svc.assertPreviewAvailable preview
  let now ← gets fun s => s.now
  ensure (svc.GrantTimely now grant preview) (.denied .credentialExpired true)

def signSession (session : SessionAuthority) : JsString :=
  let payload := svc.platform.encode session.sessionId
  payload ++ js "." ++ svc.platform.ed25519Sign payload

def sessionBase (grant : GrantAuthority) : SessionAuthority where
  toBuildBindingSource := grant.toBuildBindingSource
  sessionId := svc.platform.deterministicId (grant.grantId ++ js ":session")
  presentationDigest := svc.platform.canonicalDigest (.text "pending-presentation")
  grantId := grant.grantId
  companyId := grant.companyId
  previewId := grant.previewId
  previewVersion := grant.previewVersion
  publicPreviewId := grant.publicPreviewId
  host := grant.host
  environment := grant.environment
  bindingSha256 := []
  grantBindingSha256 := grant.bindingSha256
  previewRevocationEpoch := grant.previewRevocationEpoch
  grantRevocationEpoch := grant.grantRevocationEpoch
  policyVersion := grant.policyVersion
  keyVersion := grant.keyVersion
  expiresAt := grant.expiresAt
  revoked := false
  redactionProfile := grant.redactionProfile

def createSession (grant : GrantAuthority) : SessionAuthority :=
  let base := svc.sessionBase grant
  { base with bindingSha256 := svc.platform.sessionBinding base }

def presentedSession (grant : GrantAuthority) : SessionAuthority :=
  let session := svc.createSession grant
  { session with
    presentationDigest := svc.platform.canonicalDigest (.str (svc.signSession session)) }

def setSession (session : SessionAuthority) (s : PreviewProofState) : PreviewProofState :=
  { s with sessions := s.sessions.set session.sessionId session }

def claimedGrant (s : PreviewProofState) (claims : Json) : Option GrantAuthority :=
  s.grants.values.find? fun g => claimIs claims "opaque_grant_ref" (.str g.publicGrantId)

def replaySession (s : PreviewProofState) (receipt : ProofReceipt) : Option ExchangeResult :=
  let storedSession :=
    match receipt.detail with
    | .exchange (some sessionId) _ _ => s.sessions.get sessionId
    | _ => none
  match storedSession with
  | some session =>
      if session.presentationDigest = svc.platform.canonicalDigest
          (.str (svc.signSession session)) then
        some ⟨receipt, some (svc.signSession session)⟩
      else none
  | none => if receipt.outcome = .succeeded then none else some ⟨receipt, none⟩

/-- What an exchange reads before it looks for a stored receipt. -/
structure ExchangeRead where
  claims : Json
  grant : GrantAuthority
  preview : PreviewAuthority
  build : BuildAuthority
  company : CompanyAuthority

def readExchange (request : ExchangeRequest) : Call ProofError ExchangeRead := do
  ensure (SameOrigin request) (.denied .credentialInvalid false)
  let claims ← require (svc.verifyGrant request.capability) (.denied .credentialInvalid false)
  svc.authorityRead .exchange .nothing
  let found ← gets fun s => claimedGrant s claims
  let grant ← require found (.denied .resourceNotFound false)
  let preview ← svc.readPreview grant.previewId .exchange .nothing
  let build ← svc.readBuild preview.buildId .exchange .nothing
  let company ← svc.readCompany grant.companyId .exchange
  pure ⟨claims, grant, preview, build, company⟩

def exchangeDoubtful (request : ExchangeRequest) :
    Call ProofError ExchangeResult := do
  let receipt ← gets fun s => svc.exchangeReceipt s.now request
    ⟨.unknown, .unknownExternalOutcome, true⟩ true none none none
  modify (store request.toKeyedHeader receipt)
  pure ⟨receipt, none⟩

def exchangeSession (request : ExchangeRequest) (grant : GrantAuthority) :
    Call ProofError ExchangeResult := do
  modify (setSession (svc.presentedSession grant))
  let receipt ← gets fun s => svc.exchangeReceipt s.now request
    ⟨.succeeded, .grantExchanged, true⟩ true (some (svc.presentedSession grant).sessionId)
    (some "Secure; HttpOnly; SameSite=Strict; Path=/") (some "/")
  modify (store request.toKeyedHeader receipt)
  pure ⟨receipt, some (svc.signSession (svc.presentedSession grant))⟩

def consumedGrant (now : JsString) (grant : GrantAuthority) : GrantAuthority :=
  { grant with consumedAt := some now }

def exchangeNew (request : ExchangeRequest) (read : ExchangeRead) :
    Call ProofError ExchangeResult := do
  assertCompanyScope read.company
    [read.grant.companyId, read.preview.companyId, read.build.companyId]
  svc.assertExchangeBindings request read.claims read.grant read.preview read.build
  callHook .beforeNonceConsume .nothing
  let found ← gets fun s => s.grants.get read.grant.grantId
  let grant ← require found (.denied .resourceNotFound true)
  ensure (grant.consumedAt.isNone = true) (.denied .credentialReplayed true)
  let now ← gets fun s => s.now
  modify (setGrant (consumedGrant now grant))
  callHook .afterNonceConsume .nothing
  if svc.faults.exchangeUnknownAfterNonce then svc.exchangeDoubtful request
  else svc.exchangeSession request (consumedGrant now grant)

def exchangeBody (request : ExchangeRequest) : Call ProofError ExchangeResult := do
  let read ← svc.readExchange request
  match ← replay request.toKeyedHeader with
  | some receipt => do
      let result ← gets fun s => svc.replaySession s receipt
      require result (.denied .authorityStale true)
  | none => svc.exchangeNew request read

def exchange (request : ExchangeRequest) : Call ProofError ExchangeResult := do
  svc.assertRequestDigest request.toRequestHeader request.fields
  settle request.toKeyedHeader
    (fun s classified _ => ⟨svc.exchangeReceipt s.now request classified false none none none,
      none⟩)
    (·.receipt) (within Locals.start (svc.exchangeBody request))

/-! ## access -/

abbrev SurfaceAllowed (request : AccessRequest) : Prop :=
  request.range = none ∧ request.ifNoneMatch = none ∧ ¬ js "/__aico" <+: request.path

def assertRequestSurface (request : AccessRequest) : Call ProofError PUnit := do
  ensure (request.method = .get ∨ request.method = .head) (.denied .methodNotAllowed false)
  ensure (SurfaceAllowed request) (.denied .pathNotAllowed false)

/-- The identifier in a presentation that the key of the service has signed. -/
def presentedSessionId (presentation : JsString) : Option JsString :=
  match presentation.splitOn 0x2E with
  | [payload, signature] =>
      if svc.platform.ed25519Verify payload signature then some (svc.platform.decode payload)
      else none
  | _ => none

def sessionOf (s : PreviewProofState) (presentation : Option JsString) :
    Option SessionAuthority := do
  let presentation ← presentation
  let sessionId ← svc.presentedSessionId presentation
  let session ← s.sessions.get sessionId
  if session.presentationDigest = svc.platform.canonicalDigest (.str presentation) then
    some session
  else none

def pathPart (path : JsString) : JsString := path.takeWhile (· ≠ 0x3F)

def relativePath (path : JsString) : JsString :=
  match path with
  | [] => []
  | u :: rest => if u = 0x2F then rest else u :: rest

def fallbackPath (request : AccessRequest) (build : BuildAuthority) (relative : JsString) :
    Call ProofError JsString :=
  if build.entries.any fun entry => entry.path = relative then pure relative
  else if request.navigation ∧ 0x2E ∉ relative then pure build.entryDocument
  else throw (.denied .pathNotAllowed false)

def resolvePath (request : AccessRequest) (preview : PreviewAuthority) (path : JsString) :
    Call ProofError JsString :=
  if path = js "/" then do
    let build ← svc.readBuild preview.buildId .access .nothing
    pure build.entryDocument
  else do
    ensure (isSafeManifestPath (relativePath path) = true) (.denied .pathNotAllowed false)
    let build ← svc.readBuild preview.buildId .access .nothing
    fallbackPath request build (relativePath path)

def normalizeAccessPath (request : AccessRequest) (preview : PreviewAuthority) :
    Call ProofError JsString := do
  let path ← require (svc.platform.decodeURIComponent (pathPart request.path))
    (.denied .pathNotAllowed false)
  svc.resolvePath request preview path

def cacheKey (preview : PreviewAuthority) (entry : ManifestEntry) : JsString :=
  svc.platform.canonicalJson (.object [("environment", .text preview.environment.text),
    ("publicPreviewId", .str preview.publicPreviewId), ("previewId", .str preview.previewId),
    ("previewVersion", .nat preview.previewVersion),
    ("outputManifestDigest", .str preview.outputManifestDigest),
    ("normalizedPath", .str entry.path), ("objectVersionId", .str entry.objectVersionId),
    ("contentSha256", .str entry.contentSha256),
    ("headerProfileDigest", .str preview.headerProfileDigest)])

abbrev HostBound (request : AccessRequest) (session : SessionAuthority) : Prop :=
  session.host = request.host ∧ session.environment = request.environment

abbrev SessionBound (session : SessionAuthority) (company : CompanyAuthority)
    (preview : PreviewAuthority) (build : BuildAuthority) : Prop :=
  company.status = .active ∧ session.companyId = company.companyId ∧
    preview.companyId = company.companyId ∧ build.companyId = company.companyId ∧
    session.previewId = preview.previewId ∧ session.previewVersion = preview.previewVersion ∧
    session.publicPreviewId = preview.publicPreviewId ∧ session.host = preview.host ∧
    session.environment = preview.environment ∧ session.keyVersion = preview.keyVersion ∧
    svc.platform.buildTuple session.toBuildBindingSource =
      svc.platform.buildTuple preview.toBuildBindingSource ∧
    svc.platform.buildTuple session.toBuildBindingSource =
      svc.platform.buildTuple build.toBuildBindingSource ∧
    session.previewRevocationEpoch = preview.revocationEpoch ∧
    session.policyVersion = preview.policyVersion ∧
    svc.platform.canonicalDigest session.redactionProfile.json =
      svc.platform.canonicalDigest preview.redactionProfile.json ∧
    svc.platform.sessionBinding session = session.bindingSha256 ∧
    preview.buildId = build.buildId ∧ preview.buildVersion = build.buildVersion ∧
    preview.buildResultReceiptDigest = build.buildResultReceiptDigest ∧
    preview.artifactVersionId = build.artifactVersionId ∧
    preview.artifactChecksum = build.artifactChecksum ∧
    preview.outputManifestDigest = build.outputManifestDigest ∧
    svc.platform.previewBinding preview = preview.bindingSha256 ∧
    preview.headerProfileDigest = svc.headerProfileDigest ∧
    preview.cacheProfileDigest = svc.cacheProfileDigest

abbrev GrantBound (grant : GrantAuthority) (session : SessionAuthority)
    (company : CompanyAuthority) (preview : PreviewAuthority) (build : BuildAuthority) : Prop :=
  grant.companyId = company.companyId ∧ grant.companyId = session.companyId ∧
    grant.companyId = preview.companyId ∧ grant.companyId = build.companyId ∧
    grant.previewId = session.previewId ∧ grant.previewId = preview.previewId ∧
    grant.previewVersion = session.previewVersion ∧
    grant.previewVersion = preview.previewVersion ∧
    grant.publicPreviewId = session.publicPreviewId ∧
    grant.publicPreviewId = preview.publicPreviewId ∧
    grant.host = session.host ∧ grant.host = preview.host ∧
    grant.environment = session.environment ∧ grant.environment = preview.environment ∧
    svc.platform.buildTuple grant.toBuildBindingSource =
      svc.platform.buildTuple session.toBuildBindingSource ∧
    svc.platform.buildTuple grant.toBuildBindingSource =
      svc.platform.buildTuple preview.toBuildBindingSource ∧
    svc.platform.buildTuple grant.toBuildBindingSource =
      svc.platform.buildTuple build.toBuildBindingSource ∧
    grant.previewRevocationEpoch = session.previewRevocationEpoch ∧
    grant.previewRevocationEpoch = preview.revocationEpoch ∧
    grant.grantRevocationEpoch = session.grantRevocationEpoch ∧
    grant.policyVersion = session.policyVersion ∧
    grant.policyVersion = preview.policyVersion ∧
    grant.keyVersion = session.keyVersion ∧ grant.keyVersion = preview.keyVersion ∧
    svc.platform.canonicalDigest grant.redactionProfile.json =
      svc.platform.canonicalDigest session.redactionProfile.json ∧
    svc.platform.canonicalDigest grant.redactionProfile.json =
      svc.platform.canonicalDigest preview.redactionProfile.json ∧
    session.grantBindingSha256 = grant.bindingSha256 ∧
    svc.platform.grantBinding grant = grant.bindingSha256

abbrev ContentLive (now : JsString) (session : SessionAuthority) (preview : PreviewAuthority) :
    Prop :=
  session.revoked = false ∧ svc.platform.reached now session.expiresAt = false ∧
    svc.previewAvailable now preview

/-- Whether the rows that were read allow the content to be served. -/
def assertContentAuthority (s : PreviewProofState) (read : ContentRead)
    (build : BuildAuthority) : Except ProofError Unit :=
  if ¬ HostBound read.request read.session then .error (.denied .bindingMismatch true)
  else if ¬ svc.SessionBound read.session read.company read.preview build then
    .error (.denied .bindingMismatch true)
  else
    match s.grants.get read.session.grantId with
    | none => .error (.denied .bindingMismatch true)
    | some grant =>
        if ¬ svc.GrantBound grant read.session read.company read.preview build then
          .error (.denied .bindingMismatch true)
        else if ¬ svc.ContentLive s.now read.session read.preview then
          .error (.denied .publicationNotAvailable true)
        else .ok ()

end PreviewProofService

end PreviewProof

end Aico
