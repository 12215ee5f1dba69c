import Aico.PreviewSpike.PreviewContracts

/-!
# Requests and receipts of the preview service

A request names its own digest, which covers every field but the digest itself, the case
it belongs to, and the digest and the use count of its tool invocation. A receipt has the
fields that all operations share and the fields of its own operation (`ReceiptDetail`).
-/

namespace Aico

namespace PreviewProof

inductive OperationOutcome where
  | succeeded | allowed | denied | conflict | unknown
deriving DecidableEq

def OperationOutcome.text : OperationOutcome → String
  | .succeeded => "SUCCEEDED"
  | .allowed => "ALLOWED"
  | .denied => "DENIED"
  | .conflict => "CONFLICT"
  | .unknown => "UNKNOWN"

inductive ProofReason where
  | published | grantIssued | grantExchanged | accessAllowed | revoked | cleanupComplete
  | reconciled | resourceNotFound | authenticationRequired | tenantMismatch | bindingMismatch
  | buildNotSuccessful | integrityFailed | authorityUnavailable | authorityStale
  | invocationInvalid | invocationAlreadyConsumed | idempotencyConflict | credentialInvalid
  | credentialExpired | credentialReplayed | publicationNotAvailable | methodNotAllowed
  | pathNotAllowed | cacheIntegrityFailed | unknownExternalOutcome | cleanupIncomplete
deriving DecidableEq

def ProofReason.text : ProofReason → String
  | .published => "PUBLISHED"
  | .grantIssued => "GRANT_ISSUED"
  | .grantExchanged => "GRANT_EXCHANGED"
  | .accessAllowed => "ACCESS_ALLOWED"
  | .revoked => "REVOKED"
  | .cleanupComplete => "CLEANUP_COMPLETE"
  | .reconciled => "RECONCILED"
  | .resourceNotFound => "RESOURCE_NOT_FOUND"
  | .authenticationRequired => "AUTHENTICATION_REQUIRED"
  | .tenantMismatch => "TENANT_MISMATCH"
  | .bindingMismatch => "BINDING_MISMATCH"
  | .buildNotSuccessful => "BUILD_NOT_SUCCESSFUL"
  | .integrityFailed => "INTEGRITY_FAILED"
  | .authorityUnavailable => "AUTHORITY_UNAVAILABLE"
  | .authorityStale => "AUTHORITY_STALE"
  | .invocationInvalid => "INVOCATION_INVALID"
  | .invocationAlreadyConsumed => "INVOCATION_ALREADY_CONSUMED"
  | .idempotencyConflict => "IDEMPOTENCY_CONFLICT"
  | .credentialInvalid => "CREDENTIAL_INVALID"
  | .credentialExpired => "CREDENTIAL_EXPIRED"
  | .credentialReplayed => "CREDENTIAL_REPLAYED"
  | .publicationNotAvailable => "PUBLICATION_NOT_AVAILABLE"
  | .methodNotAllowed => "METHOD_NOT_ALLOWED"
  | .pathNotAllowed => "PATH_NOT_ALLOWED"
  | .cacheIntegrityFailed => "CACHE_INTEGRITY_FAILED"
  | .unknownExternalOutcome => "UNKNOWN_EXTERNAL_OUTCOME"
  | .cleanupIncomplete => "CLEANUP_INCOMPLETE"

inductive ProofOperation where
  | publish | grantIssue | exchange | access | revoke | cleanup | reconcile
deriving DecidableEq

def ProofOperation.text : ProofOperation → String
  | .publish => "PUBLISH"
  | .grantIssue => "GRANT_ISSUE"
  | .exchange => "EXCHANGE"
  | .access => "ACCESS"
  | .revoke => "REVOKE"
  | .cleanup => "CLEANUP"
  | .reconcile => "RECONCILE"

/-! ## Requests -/

structure RequestHeader where
  requestId : JsString
  requestDigest : JsString
  causalMeta : CausalMeta

/-- The fields of a request that may be submitted again under its own key. -/
structure KeyedHeader extends RequestHeader where
  logicalIdempotencyKey : JsString

structure PublicationRequest extends KeyedHeader where
  actorSubject : JsString
  build : BuildAuthority
  preview : PreviewAuthority
  toolInvocation : ToolInvocationIntent

structure GrantIssueRequest extends KeyedHeader where
  actorSubject : JsString
  previewId : JsString
  previewVersion : ℕ
  publicGrantId : JsString
  nonce : JsString
  expiresAt : JsString
  toolInvocation : ToolInvocationIntent

structure ExchangeRequest extends KeyedHeader where
  host : JsString
  environment : Environment
  origin : JsString
  contentType : JsString
  fetchSite : JsString
  capability : JsString

inductive AccessMethod where
  | get | head | post | options
deriving DecidableEq

def AccessMethod.text : AccessMethod → String
  | .get => "GET"
  | .head => "HEAD"
  | .post => "POST"
  | .options => "OPTIONS"

structure AccessRequest extends RequestHeader where
  host : JsString
  environment : Environment
  method : AccessMethod
  path : JsString
  navigation : Bool
  cookiePresentation : Option JsString
  range : Option JsString
  ifNoneMatch : Option JsString

inductive RevocationReason where
  | founderRevoked | expired | integrityFailed | securityResponse
deriving DecidableEq

def RevocationReason.text : RevocationReason → String
  | .founderRevoked => "FOUNDER_REVOKED"
  | .expired => "EXPIRED"
  | .integrityFailed => "INTEGRITY_FAILED"
  | .securityResponse => "SECURITY_RESPONSE"

structure RevocationRequest extends KeyedHeader where
  actorSubject : JsString
  previewId : JsString
  previewVersion : ℕ
  expectedEpoch : ℕ
  reason : RevocationReason
  toolInvocation : ToolInvocationIntent

structure CleanupRequest extends KeyedHeader where
  actorSubject : JsString
  previewId : JsString
  previewVersion : ℕ
  expectedEpoch : ℕ
  toolInvocation : ToolInvocationIntent

inductive ReconciliationTarget where
  | publication | grantIssue | exchange | revocation | cleanup
deriving DecidableEq

def ReconciliationTarget.text : ReconciliationTarget → String
  | .publication => "PUBLICATION"
  | .grantIssue => "GRANT_ISSUE"
  | .exchange => "EXCHANGE"
  | .revocation => "REVOCATION"
  | .cleanup => "CLEANUP"

def ReconciliationTarget.targetOperation : ReconciliationTarget → ProofOperation
  | .publication => .publish
  | .grantIssue => .grantIssue
  | .exchange => .exchange
  | .revocation => .revoke
  | .cleanup => .cleanup

structure ReconciliationRequest extends KeyedHeader where
  target : ReconciliationTarget
  originalLogicalKey : JsString
  originalRequestDigest : JsString
  stateChanging : Bool
  toolInvocation : ToolInvocationIntent

inductive OperationRequest where
  | publish (request : PublicationRequest)
  | issueGrant (request : GrantIssueRequest)
  | exchange (request : ExchangeRequest)
  | access (request : AccessRequest)
  | revoke (request : RevocationRequest)
  | cleanup (request : CleanupRequest)
  | reconcile (request : ReconciliationRequest)

/-! ## Request digests -/

def RequestHeader.fields (r : RequestHeader) : List (String × Json) :=
  [("schemaVersion", .nat 1), ("requestId", .str r.requestId), ("meta", r.causalMeta.json)]

def KeyedHeader.fields (r : KeyedHeader) : List (String × Json) :=
  r.toRequestHeader.fields ++ [("logicalIdempotencyKey", .str r.logicalIdempotencyKey)]

def toolInvocationField (i : ToolInvocationIntent) : String × Json :=
  ("toolInvocation", .object i.boundFields)

def PublicationRequest.fields (r : PublicationRequest) : List (String × Json) :=
  r.toKeyedHeader.fields ++ [("actorSubject", .str r.actorSubject), ("build", r.build.json),
    ("preview", r.preview.json), toolInvocationField r.toolInvocation]

def GrantIssueRequest.fields (r : GrantIssueRequest) : List (String × Json) :=
  r.toKeyedHeader.fields ++ [("actorSubject", .str r.actorSubject),
    ("previewId", .str r.previewId), ("previewVersion", .nat r.previewVersion),
    ("publicGrantId", .str r.publicGrantId), ("nonce", .str r.nonce),
    ("expiresAt", .str r.expiresAt), toolInvocationField r.toolInvocation]

def ExchangeRequest.fields (r : ExchangeRequest) : List (String × Json) :=
  r.toKeyedHeader.fields ++ [("host", .str r.host), ("environment", .text r.environment.text),
    ("origin", .str r.origin), ("contentType", .str r.contentType),
    ("fetchSite", .str r.fetchSite), ("capability", .str r.capability)]

def AccessRequest.fields (r : AccessRequest) : List (String × Json) :=
  r.toRequestHeader.fields ++ [("host", .str r.host),
    ("environment", .text r.environment.text), ("method", .text r.method.text),
    ("path", .str r.path), ("navigation", .bool r.navigation),
    ("cookiePresentation", Json.orNull .str r.cookiePresentation),
    ("range", Json.orNull .str r.range), ("ifNoneMatch", Json.orNull .str r.ifNoneMatch)]

def RevocationRequest.fields (r : RevocationRequest) : List (String × Json) :=
  r.toKeyedHeader.fields ++ [("actorSubject", .str r.actorSubject),
    ("previewId", .str r.previewId), ("previewVersion", .nat r.previewVersion),
    ("expectedEpoch", .nat r.expectedEpoch), ("reason", .text r.reason.text),
    toolInvocationField r.toolInvocation]

def CleanupRequest.fields (r : CleanupRequest) : List (String × Json) :=
  r.toKeyedHeader.fields ++ [("actorSubject", .str r.actorSubject),
    ("previewId", .str r.previewId), ("previewVersion", .nat r.previewVersion),
    ("expectedEpoch", .nat r.expectedEpoch), toolInvocationField r.toolInvocation]

def ReconciliationRequest.fields (r : ReconciliationRequest) : List (String × Json) :=
  r.toKeyedHeader.fields ++ [("target", .text r.target.text),
    ("originalLogicalKey", .str r.originalLogicalKey),
    ("originalRequestDigest", .str r.originalRequestDigest),
    ("stateChanging", .bool r.stateChanging), toolInvocationField r.toolInvocation]

def Platform.canonicalRequestDigest (pf : Platform) (fields : List (String × Json)) :
    JsString :=
  pf.canonicalDigest (.object fields)

/-! ## Receipts -/

inductive CacheResult where
  | notChecked | miss | hit
deriving DecidableEq

def CacheResult.text : CacheResult → String
  | .notChecked => "NOT_CHECKED"
  | .miss => "MISS"
  | .hit => "HIT"

structure AccessResponse where
  status : ℕ
  code : String
  headers : List (String × String)
  mediaType : Option JsString
  contentLength : ℕ
  body : Bytes

/-- The fields of a receipt that belong to its operation. -/
inductive ReceiptDetail where
  | publication (previewId host : Option JsString) (state : Option PreviewState)
  | grantIssue (publicGrantId bindingSha256 capabilityDigest : Option JsString)
  | exchange (sessionId : Option JsString) (cookieAttributes redirectPath : Option String)
  | access (response : AccessResponse) (cacheResult : CacheResult)
      (normalizedPathDigest : Option JsString)
  | revocation (previewId : JsString) (previousEpoch currentEpoch : Option ℕ)
      (state : Option PreviewState)
  | cleanup (state : Option PreviewState)
      (deletedObjects purgedCacheEntries remainingObjects : ℕ) (hostTombstoned : Bool)
  | reconciliation (target : ReconciliationTarget) (resolvedReceiptDigest : Option JsString)

def ReceiptDetail.operation : ReceiptDetail → ProofOperation
  | .publication .. => .publish
  | .grantIssue .. => .grantIssue
  | .exchange .. => .exchange
  | .access .. => .access
  | .revocation .. => .revoke
  | .cleanup .. => .cleanup
  | .reconciliation .. => .reconcile

structure ProofReceipt where
  receiptId : JsString
  requestId : JsString
  requestDigest : JsString
  outcome : OperationOutcome
  reason : ProofReason
  replayed : Bool
  currentAuthorityRead : Bool
  effectStarted : Bool
  toolConsumption : Option ToolInvocationConsumption
  redactionProfile : RedactionProfileBinding
  causalMeta : CausalMeta
  occurredAt : JsString
  detailDigest : JsString
  detail : ReceiptDetail

def ProofReceipt.operation (r : ProofReceipt) : ProofOperation := r.detail.operation

def AccessResponse.json (pf : Platform) (r : AccessResponse) : Json :=
  .object [("status", .nat r.status), ("code", .text r.code),
    ("headers", .object (r.headers.map fun h => (h.1, .text h.2))),
    ("mediaType", Json.orNull .str r.mediaType), ("contentLength", .nat r.contentLength),
    ("body", .object [("$bufferSha256", .str (pf.sha256Bytes r.body))])]

def ReceiptDetail.fields (pf : Platform) : ReceiptDetail → List (String × Json)
  | .publication previewId host state =>
      [("previewId", Json.orNull .str previewId), ("host", Json.orNull .str host),
        ("state", Json.orNull (fun s => .text s.text) state)]
  | .grantIssue publicGrantId bindingSha256 capabilityDigest =>
      [("publicGrantId", Json.orNull .str publicGrantId),
        ("bindingSha256", Json.orNull .str bindingSha256),
        ("capabilityDigest", Json.orNull .str capabilityDigest)]
  | .exchange sessionId cookieAttributes redirectPath =>
      [("sessionId", Json.orNull .str sessionId),
        ("cookieAttributes", Json.orNull .text cookieAttributes),
        ("redirectPath", Json.orNull .text redirectPath)]
  | .access response cacheResult normalizedPathDigest =>
      [("response", response.json pf), ("cacheResult", .text cacheResult.text),
        ("normalizedPathDigest", Json.orNull .str normalizedPathDigest)]
  | .revocation previewId previousEpoch currentEpoch state =>
      [("previewId", .str previewId), ("previousEpoch", Json.orNull .nat previousEpoch),
        ("currentEpoch", Json.orNull .nat currentEpoch),
        ("state", Json.orNull (fun s => .text s.text) state)]
  | .cleanup state deletedObjects purgedCacheEntries remainingObjects hostTombstoned =>
      [("state", Json.orNull (fun s => .text s.text) state),
        ("deletedObjects", .nat deletedObjects),
        ("purgedCacheEntries", .nat purgedCacheEntries),
        ("remainingObjects", .nat remainingObjects),
        ("hostTombstoned", .bool hostTombstoned)]
  | .reconciliation target resolvedReceiptDigest =>
      [("target", .text target.text),
        ("resolvedReceiptDigest", Json.orNull .str resolvedReceiptDigest)]

def ProofReceipt.json (pf : Platform) (r : ProofReceipt) : Json :=
  .object ([("schemaVersion", .nat 1), ("receiptId", .str r.receiptId),
    ("operation", .text r.operation.text), ("requestId", .str r.requestId),
    ("requestDigest", .str r.requestDigest), ("outcome", .text r.outcome.text),
    ("reason", .text r.reason.text), ("replayed", .bool r.replayed),
    ("currentAuthorityRead", .bool r.currentAuthorityRead),
    ("effectStarted", .bool r.effectStarted),
    ("toolConsumption", Json.orNull ToolInvocationConsumption.json r.toolConsumption),
    ("redactionProfile", r.redactionProfile.json), ("meta", r.causalMeta.json),
    ("occurredAt", .str r.occurredAt), ("detailDigest", .str r.detailDigest)] ++
    r.detail.fields pf)

structure StoredOperationReceipt where
  requestDigest : JsString
  receipt : ProofReceipt

/-- A grant as it leaves the service. -/
structure SignedAccessGrant where
  protectedHeader : Json
  claims : Json
  compact : JsString

structure GrantIssueResult where
  receipt : ProofReceipt
  grant : Option SignedAccessGrant

structure ExchangeResult where
  receipt : ProofReceipt
  sessionPresentation : Option JsString

end PreviewProof

end Aico
