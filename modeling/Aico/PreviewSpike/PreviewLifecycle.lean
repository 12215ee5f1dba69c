import Aico.PreviewSpike.PreviewSessions

/-!
# Serving, revoking and removing previews

`access` serves an object from the cache or from the store and quarantines the preview when
the content is not what the manifest says. `revoke` moves the epoch of a preview, `cleanup`
deletes what is stored for it, and `reconcile` looks into the receipt of an operation that
ended in doubt.
-/

namespace Aico

namespace PreviewProof

open Coroutine

namespace PreviewProofService

variable (svc : PreviewProofService)

/-! ## Content -/

def uniformDenial : AccessResponse where
  status := 404
  code := "resource_not_found"
  headers := generatedResponseHeaders
  mediaType := none
  contentLength := 0
  body := []

def corrupt : Bytes := [0x63, 0x6F, 0x72, 0x72, 0x75, 0x70, 0x74]

def cachedBody (cached : CacheRecord) : Bytes :=
  if svc.faults.corruptCacheOnRead then cached.body ++ corrupt else cached.body

def objectBody (object : ObjectRecord) : Bytes :=
  if svc.faults.corruptObjectOnRead then object.body ++ corrupt else object.body

abbrev CacheSound (cached : CacheRecord) (entry : ManifestEntry) : Prop :=
  svc.platform.bodyDigest (svc.cachedBody cached) = entry.contentSha256 ∧
    cached.contentSha256 = entry.contentSha256 ∧ cached.mediaType = entry.mediaType

abbrev ObjectSound (object : ObjectRecord) (entry : ManifestEntry) : Prop :=
  svc.platform.bodyDigest (svc.objectBody object) = entry.contentSha256 ∧
    object.contentSha256 = entry.contentSha256 ∧
    object.objectVersionId = entry.objectVersionId ∧ object.mediaType = entry.mediaType

/-- The preview as an integrity failure leaves it. -/
def quarantined (preview : PreviewAuthority) : PreviewAuthority :=
  { preview with
    state := .quarantined
    revocationEpoch := preview.revocationEpoch + 1
    rowVersion := preview.rowVersion + 1 }

def quarantine (preview : PreviewAuthority) (reason : ProofReason) {α : Type} :
    Call ProofError α := do
  modify (setPreview (quarantined preview))
  throw (.denied reason true)

def objectOf (s : PreviewProofState) (preview : PreviewAuthority) (entry : ManifestEntry) :
    Option ObjectRecord :=
  (s.objects.get (previewObjectKey preview.previewId preview.previewVersion entry.path)).filter
    fun object => object.state = .available

def serveCached (read : ContentRead) (cached : CacheRecord) : Call ProofError Bytes :=
  if svc.CacheSound cached read.entry then pure (svc.cachedBody cached)
  else quarantine read.preview .cacheIntegrityFailed

def cacheBody (read : ContentRead) (body : Bytes) (s : PreviewProofState) :
    PreviewProofState :=
  { s with
    cache := s.cache.set read.cacheKey
      { key := read.cacheKey
        contentSha256 := read.entry.contentSha256
        mediaType := read.entry.mediaType
        body := body } }

def serveObject (read : ContentRead) : Call ProofError Bytes := do
  let found ← gets fun s => objectOf s read.preview read.entry
  let object ← require found (.denied .resourceNotFound true)
  if svc.ObjectSound object read.entry then do
    modify (cacheBody read (svc.objectBody object))
    pure (svc.objectBody object)
  else quarantine read.preview .integrityFailed

/-- The content an authorised request is served, and where it was found. -/
def serveContent (read : ContentRead) :
    Call (ProofError × CacheResult) (Bytes × CacheResult) := do
  match ← gets fun s => s.cache.get read.cacheKey with
  | some cached => do
      let body ← within CacheResult.hit (svc.serveCached read cached)
      pure (body, .hit)
  | none => do
      let body ← within CacheResult.miss (svc.serveObject read)
      pure (body, .miss)

/-- Whether serving the request would quarantine its preview. -/
def Quarantines (s : PreviewProofState) (read : ContentRead) : Prop :=
  (∃ build ∈ s.builds.get read.preview.buildId,
      svc.assertContentAuthority s read build = .ok ()) ∧
    ((∃ cached ∈ s.cache.get read.cacheKey, ¬ svc.CacheSound cached read.entry) ∨
      s.cache.get read.cacheKey = none ∧
        ∃ object ∈ objectOf s read.preview read.entry, ¬ svc.ObjectSound object read.entry)

/-! ## access -/

def accessAllowed (now : JsString) (read : ContentRead) (content : Bytes × CacheResult) :
    ProofReceipt :=
  svc.accessReceipt now read.request ⟨.allowed, .accessAllowed, true⟩
    { status := 200
      code := "ok"
      headers := generatedResponseHeaders
      mediaType := some read.entry.mediaType
      contentLength := content.1.length
      body := if read.request.method = .head then [] else content.1 }
    content.2 (some (svc.platform.canonicalDigest (.str read.entry.path)))

/-- What `access` reads before the last authority. -/
def readContent (request : AccessRequest) : Call ProofError ContentRead := do
  assertRequestSurface request
  let presented ← gets fun s => svc.sessionOf s request.cookiePresentation
  let session ← require presented (.denied .credentialInvalid false)
  let found ← gets fun s => s.previews.get session.previewId
  let preview ← require found (.denied .resourceNotFound false)
  let normalizedPath ← svc.normalizeAccessPath request preview
  let manifest ← svc.readBuild preview.buildId .access .nothing
  let entry ← require (manifest.entries.find? fun e => e.path = normalizedPath)
    (.denied .pathNotAllowed true)
  let company ← svc.readCompany session.companyId .access
  let currentPreview ← svc.readPreview session.previewId .access .nothing
  pure
    { request := request
      session := session
      company := company
      preview := currentPreview
      entry := entry
      cacheKey := svc.cacheKey preview entry }

def authorizeContent (read : ContentRead) : Call ProofError PUnit := do
  let build ← svc.readBuild read.preview.buildId .access (.content read)
  let authority ← gets fun s => svc.assertContentAuthority s read build
  lift authority

def accessBody (request : AccessRequest) : Call (ProofError × CacheResult) ProofReceipt := do
  let read ← within CacheResult.notChecked (svc.readContent request)
  within CacheResult.notChecked (svc.authorizeContent read)
  let content ← svc.serveContent read
  gets fun s => svc.accessAllowed s.now read content

def access (request : AccessRequest) : Call ProofError ProofReceipt := do
  svc.assertRequestDigest request.toRequestHeader request.fields
  catching (svc.accessBody request) fun thrown => do
    let classified ← require (classify thrown.1) thrown.1
    gets fun s => svc.accessReceipt s.now request classified uniformDenial thrown.2 none

/-! ## revoke -/

abbrev RevocationBound (request : RevocationRequest) (preview : PreviewAuthority) : Prop :=
  request.previewVersion = preview.previewVersion ∧
    request.expectedEpoch = preview.revocationEpoch

def revokedPreview (request : RevocationRequest) (preview : PreviewAuthority) :
    PreviewAuthority :=
  { preview with
    revocationEpoch := preview.revocationEpoch + 1
    state := if request.reason = .expired then .expired else .revoked
    rowVersion := preview.rowVersion + 1 }

def revokeSessions (previewId : JsString) (s : PreviewProofState) : PreviewProofState :=
  { s with
    sessions := s.sessions.mapValues fun session =>
      if session.previewId = previewId then { session with revoked := true } else session }

def checkRevocation (request : RevocationRequest) (company : CompanyAuthority)
    (preview : PreviewAuthority) : Call ProofError PUnit := do
  assertCompanyScope company [preview.companyId]
  ensure (RevocationBound request preview) (.conflict .bindingMismatch)

def commitRevocation (request : RevocationRequest) (preview : PreviewAuthority)
    (consumption : ToolInvocationConsumption) : Call (ProofError × Locals) ProofReceipt := do
  modify (setPreview (revokedPreview request preview))
  modify (revokeSessions preview.previewId)
  within (Locals.mk (some (revokedPreview request preview)) (some consumption))
    (callHook .afterRevocationCommit .nothing)
  let receipt ← gets fun s => svc.revocationReceipt s.now request
    (if svc.faults.revocationUnknownAfterEpoch then ⟨.unknown, .unknownExternalOutcome, true⟩
      else ⟨.succeeded, .revoked, true⟩)
    true (some consumption) (some preview.revocationEpoch)
    (some (revokedPreview request preview).revocationEpoch)
    (some (revokedPreview request preview).state)
  modify (store request.toKeyedHeader receipt)
  pure receipt

def revokeNew (request : RevocationRequest) (company : CompanyAuthority) :
    Call (ProofError × Locals) ProofReceipt := do
  let before ← within Locals.start (svc.readPreview request.previewId .revoke .nothing)
  within (Locals.mk (some before) none) (checkRevocation request company before)
  within (Locals.mk (some before) none) (callHook .beforeRevocationCommit .nothing)
  let preview ← within (Locals.mk (some before) none)
    (svc.readPreview request.previewId .revoke (.revocation request company))
  within (Locals.mk (some preview) none) (checkRevocation request company preview)
  let consumption ← within (Locals.mk (some preview) none)
    (svc.consumeIntent request.toolInvocation .revoke request.toKeyedHeader)
  svc.commitRevocation request preview consumption

def revokeBody (request : RevocationRequest) : Call (ProofError × Locals) ProofReceipt := do
  let company ← within Locals.start (svc.readCompanyBySubject request.actorSubject .revoke)
  match ← within Locals.start (replay request.toKeyedHeader) with
  | some receipt => pure receipt
  | none => svc.revokeNew request company

def revoke (request : RevocationRequest) : Call ProofError ProofReceipt := do
  svc.assertRequestDigest request.toRequestHeader request.fields
  settle request.toKeyedHeader
    (fun s classified locals => svc.revocationReceipt s.now request classified
      locals.consumption.isSome locals.consumption none
      (locals.preview.map (·.revocationEpoch)) (locals.preview.map (·.state)))
    id (svc.revokeBody request)

/-! ## cleanup -/

def removableStates : List PreviewState :=
  [.revoked, .expired, .quarantined, .unknown, .deletePending]

abbrev CleanupBound (request : CleanupRequest) (preview : PreviewAuthority) : Prop :=
  request.previewVersion = preview.previewVersion ∧
    request.expectedEpoch = preview.revocationEpoch ∧ preview.state ∈ removableStates

/-- The keys of the cache that mention the public identifier, in insertion order. -/
def matchingKeys (cache : JsMap JsString CacheRecord) (publicPreviewId : JsString) :
    List JsString :=
  cache.keys.filter fun key => publicPreviewId <:+: key

def ownedKeys (objects : JsMap JsString ObjectRecord) (previewId : JsString) :
    List JsString :=
  (objects.entries.filter fun e => e.2.previewId = previewId).map Prod.fst

def deletedKeys (keys : List JsString) : List JsString :=
  if svc.faults.cleanupPartial then keys.take 1 else keys

def purgedKeys (s : PreviewProofState) (preview : PreviewAuthority) : List JsString :=
  svc.deletedKeys (matchingKeys s.cache preview.publicPreviewId)

def deletedObjectKeys (s : PreviewProofState) (preview : PreviewAuthority) : List JsString :=
  svc.deletedKeys (ownedKeys s.objects preview.previewId)

def removeContent (preview : PreviewAuthority) (s : PreviewProofState) : PreviewProofState :=
  { s with
    cache := (svc.purgedKeys s preview).foldl JsMap.delete s.cache
    objects := (svc.deletedObjectKeys s preview).foldl JsMap.delete s.objects }

def cleanupComplete (preview : PreviewAuthority) (s : PreviewProofState) : Bool :=
  !svc.faults.cleanupUnknown && !svc.faults.cleanupPartial &&
    (ownedKeys s.objects preview.previewId).isEmpty &&
    (matchingKeys s.cache preview.publicPreviewId).isEmpty

def pendingPreview (preview : PreviewAuthority) : PreviewAuthority :=
  { preview with state := .deletePending, rowVersion := preview.rowVersion + 1 }

def cleanedPreview (preview : PreviewAuthority) (complete : Bool) : PreviewAuthority :=
  { pendingPreview preview with
    state := if complete then .purged else .unknown
    rowVersion := (pendingPreview preview).rowVersion + 1 }

def retireHost (preview : PreviewAuthority) (complete : Bool) (s : PreviewProofState) :
    PreviewProofState :=
  if complete then { s with retiredHosts := s.retiredHosts ++ [preview.host] } else s

def removePreview (request : CleanupRequest) (preview : PreviewAuthority)
    (consumption : ToolInvocationConsumption) : Call ProofError ProofReceipt := do
  modify (setPreview (pendingPreview preview))
  let purged ← gets fun s => svc.purgedKeys s preview
  let deleted ← gets fun s => svc.deletedObjectKeys s preview
  modify (svc.removeContent preview)
  let complete ← gets fun s => svc.cleanupComplete preview s
  let remaining ← gets fun s => ownedKeys s.objects preview.previewId
  modify (retireHost preview complete)
  modify (setPreview (cleanedPreview preview complete))
  let receipt ← gets fun s => svc.cleanupReceipt s.now request
    (if complete then ⟨.succeeded, .cleanupComplete, true⟩
      else ⟨.unknown, .cleanupIncomplete, true⟩)
    true (some consumption) (some (cleanedPreview preview complete).state)
    deleted.length purged.length remaining.length (decide (preview.host ∈ s.retiredHosts))
  modify (store request.toKeyedHeader receipt)
  pure receipt

def checkCleanup (request : CleanupRequest) (company : CompanyAuthority)
    (preview : PreviewAuthority) : Call ProofError PUnit := do
  assertCompanyScope company [preview.companyId]
  ensure (CleanupBound request preview) (.denied .bindingMismatch true)

def cleanupNew (request : CleanupRequest) (company : CompanyAuthority) :
    Call (ProofError × Locals) ProofReceipt := do
  let preview ← within Locals.start (svc.readPreview request.previewId .cleanup .nothing)
  within (Locals.mk (some preview) none) (checkCleanup request company preview)
  let consumption ← within (Locals.mk (some preview) none)
    (svc.consumeIntent request.toolInvocation .cleanup request.toKeyedHeader)
  within (Locals.mk (some preview) (some consumption))
    (svc.removePreview request preview consumption)

def cleanupBody (request : CleanupRequest) : Call (ProofError × Locals) ProofReceipt := do
  let company ← within Locals.start (svc.readCompanyBySubject request.actorSubject .cleanup)
  match ← within Locals.start (replay request.toKeyedHeader) with
  | some receipt => pure receipt
  | none => svc.cleanupNew request company

def cleanup (request : CleanupRequest) : Call ProofError ProofReceipt := do
  svc.assertRequestDigest request.toRequestHeader request.fields
  settle request.toKeyedHeader
    (fun s classified locals => svc.cleanupReceipt s.now request classified
      locals.consumption.isSome locals.consumption (locals.preview.map (·.state)) 0 0 0
      (locals.preview.any fun preview => preview.host ∈ s.retiredHosts))
    id (svc.cleanupBody request)

/-! ## reconcile -/

def revocationConfirmed (s : PreviewProofState) (target : ReconciliationTarget)
    (original : ProofReceipt) : Bool :=
  match target, original.detail, original.outcome with
  | .revocation, .revocation previewId _ (some currentEpoch) _, .unknown =>
      (s.previews.get previewId).any fun p =>
        currentEpoch ≤ p.revocationEpoch && (p.state = .revoked || p.state = .expired)
  | _, _, _ => false

def reconciled (request : ReconciliationRequest) (original : ProofReceipt) (confirmed : Bool)
    (consumption : ToolInvocationConsumption) : Call ProofError ProofReceipt := do
  let stillUnknown := decide (original.outcome = .unknown) && !confirmed
  let receipt ← gets fun s => svc.reconciliationReceipt s.now request
    (if stillUnknown then ⟨.unknown, .unknownExternalOutcome, true⟩
      else ⟨.succeeded, .reconciled, true⟩)
    true (some consumption)
    (if stillUnknown then none
      else some (svc.platform.canonicalDigest (original.json svc.platform)))
  modify (store request.toKeyedHeader receipt)
  pure receipt

def reconcileNew (request : ReconciliationRequest) : Call ProofError ProofReceipt := do
  let found ← gets fun s => (s.operationReceipts.get request.originalLogicalKey).filter
    fun stored => stored.requestDigest = request.originalRequestDigest
  let original ← require found (.denied .resourceNotFound true)
  ensure (original.receipt.operation = request.target.targetOperation)
    (.denied .bindingMismatch true)
  svc.authorityRead .reconcile .nothing
  let confirmed ← gets fun s => revocationConfirmed s request.target original.receipt
  let consumption ← svc.consumeIntent request.toolInvocation .reconcile request.toKeyedHeader
  svc.reconciled request original.receipt confirmed consumption

def reconcileBody (request : ReconciliationRequest) : Call ProofError ProofReceipt := do
  match ← replay request.toKeyedHeader with
  | some receipt => pure receipt
  | none => svc.reconcileNew request

def reconcile (request : ReconciliationRequest) : Call ProofError ProofReceipt := do
  svc.assertRequestDigest request.toRequestHeader request.fields
  settle request.toKeyedHeader
    (fun s classified locals => svc.reconciliationReceipt s.now request classified
      locals.consumption.isSome locals.consumption none)
    id (within Locals.start (svc.reconcileBody request))

/-! ## The service -/

def perform (request : OperationRequest) : Call ProofError ProofReceipt :=
  match request with
  | .publish request => svc.publish request
  | .issueGrant request => do
      let result ← svc.issueGrant request
      pure result.receipt
  | .exchange request => do
      let result ← svc.exchange request
      pure result.receipt
  | .access request => svc.access request
  | .revoke request => svc.revoke request
  | .cleanup request => svc.cleanup request
  | .reconcile request => svc.reconcile request

/-- An intent is registered unused. One that is known is registered again as it is. -/
def registerToolInvocationIntent (intent : ToolInvocationIntent) (s : PreviewProofState) :
    PreviewProofState :=
  if intent.maximumUses = 1 ∧ intent.used = 0 ∧
      (∀ existing ∈ s.intents.get intent.id,
        svc.platform.canonicalDigest existing.json = svc.platform.canonicalDigest intent.json)
  then { s with intents := s.intents.set intent.id intent } else s

end PreviewProofService

/-- What the world does to the store of the service. -/
inductive Environs where
  | register (intent : ToolInvocationIntent)
  | setClock (now : JsString)
  | setCompany (companyId : JsString) (status : CompanyStatus)

def setClock (now : JsString) (s : PreviewProofState) : PreviewProofState :=
  { s with now := now }

def setCompany (companyId : JsString) (status : CompanyStatus) (s : PreviewProofState) :
    PreviewProofState :=
  { s with companies := s.companies.update companyId fun c => { c with status := status } }

def PreviewProofService.environs (svc : PreviewProofService) (e : Environs)
    (s : PreviewProofState) : PreviewProofState :=
  match e with
  | .register intent => svc.registerToolInvocationIntent intent s
  | .setClock now => setClock now s
  | .setCompany companyId status => setCompany companyId status s

end PreviewProof

end Aico
