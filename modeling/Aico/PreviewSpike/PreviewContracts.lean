import Mathlib.Data.List.Infix
import Aico.Foundation.JsMap
import Aico.Schema.Tenant

/-!
# Authorities of the preview service

The rows the service decides on: companies, builds, previews, grants, sessions, objects,
cached bodies and tool invocation intents. A build, a preview, a grant and a session carry
the same sixteen fields that name one successful build (`BuildBindingSource`), and a digest
over them and over the fields of their own is what binds them together.

A text is compared as a text. Where the service reads one as a time it is `Date.parse` of
the platform that says which time it is, and a text that is none compares with nothing.
-/

namespace Aico

namespace PreviewProof

/-- What the service takes from the platform: digests, `Date.parse`, the signatures of its
key, base64url, `JSON.parse`, `decodeURIComponent` and `toLowerCase`. -/
structure Platform where
  rt : Runtime
  sha256Bytes : Bytes → Digest
  dateParse : JsString → Option ℤ
  ed25519Sign : JsString → JsString
  ed25519Verify : JsString → JsString → Bool
  encode : JsString → JsString
  decode : JsString → JsString
  jsonParse : JsString → Option Json
  decodeURIComponent : JsString → Option JsString
  toLowerCase : JsString → JsString

namespace Platform

variable (pf : Platform)

def canonicalJson (value : Json) : JsString :=
  Json.stringify (Json.sortJson pf.rt.localeCompare value)

def canonicalDigest (value : Json) : JsString :=
  js "sha256:" ++ pf.rt.canonicalDigest value

def bodyDigest (value : Bytes) : JsString :=
  js "sha256:" ++ pf.sha256Bytes value

def deterministicId (label : JsString) : JsString :=
  let hex := ((pf.canonicalDigest (.str label)).drop 7).take 32
  hex.take 8 ++ js "-" ++ (hex.drop 8).take 4 ++ js "-4" ++ (hex.drop 13).take 3 ++ js "-8" ++
    (hex.drop 17).take 3 ++ js "-" ++ (hex.drop 20).take 12

/-- `Date.parse(now) >= Date.parse(limit)`. -/
def reached (now limit : JsString) : Bool :=
  match pf.dateParse now, pf.dateParse limit with
  | some n, some l => l ≤ n
  | _, _ => false

/-- `Date.parse(now) < Date.parse(start)`. -/
def precedes (now start : JsString) : Bool :=
  match pf.dateParse now, pf.dateParse start with
  | some n, some t => n < t
  | _, _ => false

end Platform

inductive Environment where
  | localProof | test | staging | production
deriving DecidableEq

def Environment.text : Environment → String
  | .localProof => "LOCAL_PROOF"
  | .test => "TEST"
  | .staging => "STAGING"
  | .production => "PRODUCTION"

inductive PreviewState where
  | prepared | staging | available | revoked | expired | deletePending | purged | quarantined
  | unknown
deriving DecidableEq

def PreviewState.text : PreviewState → String
  | .prepared => "PREPARED"
  | .staging => "STAGING"
  | .available => "AVAILABLE"
  | .revoked => "REVOKED"
  | .expired => "EXPIRED"
  | .deletePending => "DELETE_PENDING"
  | .purged => "PURGED"
  | .quarantined => "QUARANTINED"
  | .unknown => "UNKNOWN"

structure CausalMeta where
  messageId : JsString
  correlationId : JsString
  causationId : JsString
  traceId : JsString
  spanId : JsString
  parentSpanId : JsString
  operationAttemptId : JsString

structure RedactionProfileBinding where
  id : JsString
  version : JsString
  digest : JsString

inductive ToolAction where
  | publish | issueGrant | revoke | cleanup | reconcile
deriving DecidableEq

def ToolAction.text : ToolAction → String
  | .publish => "preview.publish/v1"
  | .issueGrant => "preview.grant.issue/v1"
  | .revoke => "preview.revoke/v1"
  | .cleanup => "preview.cleanup/v1"
  | .reconcile => "preview.reconcile/v1"

structure ToolInvocationIntent where
  id : JsString
  decisionId : JsString
  decisionDigest : JsString
  logicalInvocationKey : JsString
  requestDigest : JsString
  action : ToolAction
  parametersDigest : JsString
  resourceDigest : JsString
  maximumUses : ℕ
  used : ℕ
  expiresAt : JsString

structure ToolInvocationConsumption where
  intentId : JsString
  consumptionId : JsString
  logicalInvocationKey : JsString
  requestDigest : JsString
  consumedAt : JsString

structure ManifestEntry where
  path : JsString
  mediaType : JsString
  bytes : ℕ
  contentSha256 : JsString
  objectVersionId : JsString

/-- The fields that name one successful build. -/
structure BuildBindingSource where
  runId : JsString
  taskId : JsString
  attemptId : JsString
  buildId : JsString
  buildVersion : ℕ
  buildResultReceiptId : JsString
  buildResultReceiptVersion : JsString
  buildResultReceiptDigest : JsString
  artifactId : JsString
  artifactVersionId : JsString
  artifactVersion : ℕ
  artifactChecksum : JsString
  outputManifestId : JsString
  outputManifestVersion : JsString
  outputManifestDigest : JsString
  aggregateDigest : JsString

inductive BuildResult where
  | succeeded | failed
deriving DecidableEq

def BuildResult.text : BuildResult → String
  | .succeeded => "SUCCEEDED"
  | .failed => "FAILED"

structure BuildAuthority extends BuildBindingSource where
  companyId : JsString
  buildResult : BuildResult
  entryDocument : JsString
  entries : List ManifestEntry
  canceled : Bool
  quarantined : Bool
  rowVersion : ℕ

inductive CompanyStatus where
  | active | deleting | deleted
deriving DecidableEq

structure CompanyAuthority where
  companyId : JsString
  founderSubject : JsString
  status : CompanyStatus

structure PreviewAuthority extends BuildBindingSource where
  companyId : JsString
  previewId : JsString
  previewVersion : ℕ
  publicPreviewId : JsString
  publicIdentity : JsString
  host : JsString
  environment : Environment
  state : PreviewState
  availableFrom : JsString
  expiresAt : JsString
  revocationEpoch : ℕ
  policyVersion : JsString
  keyVersion : ℕ
  headerProfileDigest : JsString
  cacheProfileDigest : JsString
  redactionProfile : RedactionProfileBinding
  bindingSha256 : JsString
  rowVersion : ℕ

/-- The audience of every grant is `PREVIEW_VIEWER`. -/
structure GrantAuthority extends BuildBindingSource where
  companyId : JsString
  grantId : JsString
  publicGrantId : JsString
  issuanceRequestId : JsString
  issuanceRequestDigest : JsString
  logicalIdempotencyKey : JsString
  invocationIntentId : JsString
  policyDecisionId : JsString
  previewId : JsString
  previewVersion : ℕ
  publicPreviewId : JsString
  host : JsString
  environment : Environment
  previewRevocationEpoch : ℕ
  grantRevocationEpoch : ℕ
  policyVersion : JsString
  keyVersion : ℕ
  nonceDigest : JsString
  issuedAt : JsString
  notBefore : JsString
  expiresAt : JsString
  consumedAt : Option JsString
  bindingSha256 : JsString
  redactionProfile : RedactionProfileBinding
  causalMeta : CausalMeta

structure SessionAuthority extends BuildBindingSource where
  sessionId : JsString
  presentationDigest : JsString
  grantId : JsString
  companyId : JsString
  previewId : JsString
  previewVersion : ℕ
  publicPreviewId : JsString
  host : JsString
  environment : Environment
  bindingSha256 : JsString
  grantBindingSha256 : JsString
  previewRevocationEpoch : ℕ
  grantRevocationEpoch : ℕ
  policyVersion : JsString
  keyVersion : ℕ
  expiresAt : JsString
  revoked : Bool
  redactionProfile : RedactionProfileBinding

inductive ObjectState where
  | staging | available | deleted | quarantined
deriving DecidableEq

structure ObjectRecord where
  companyId : JsString
  previewId : JsString
  previewVersion : ℕ
  path : JsString
  mediaType : JsString
  objectVersionId : JsString
  contentSha256 : JsString
  body : Bytes
  state : ObjectState

structure CacheRecord where
  key : JsString
  contentSha256 : JsString
  mediaType : JsString
  body : Bytes

/-! ## Digests over the rows -/

def CausalMeta.json (m : CausalMeta) : Json :=
  .object [("messageId", .str m.messageId), ("correlationId", .str m.correlationId),
    ("causationId", .str m.causationId), ("traceId", .str m.traceId), ("spanId", .str m.spanId),
    ("parentSpanId", .str m.parentSpanId), ("operationAttemptId", .str m.operationAttemptId)]

def RedactionProfileBinding.json (p : RedactionProfileBinding) : Json :=
  .object [("id", .str p.id), ("version", .str p.version), ("digest", .str p.digest)]

def ToolInvocationIntent.boundFields (i : ToolInvocationIntent) : List (String × Json) :=
  [("id", .str i.id), ("decisionId", .str i.decisionId),
    ("decisionDigest", .str i.decisionDigest),
    ("logicalInvocationKey", .str i.logicalInvocationKey), ("action", .text i.action.text),
    ("parametersDigest", .str i.parametersDigest), ("resourceDigest", .str i.resourceDigest),
    ("maximumUses", .nat i.maximumUses), ("expiresAt", .str i.expiresAt)]

def ToolInvocationIntent.json (i : ToolInvocationIntent) : Json :=
  .object (i.boundFields ++ [("requestDigest", .str i.requestDigest), ("used", .nat i.used)])

def ToolInvocationConsumption.json (c : ToolInvocationConsumption) : Json :=
  .object [("intentId", .str c.intentId), ("consumptionId", .str c.consumptionId),
    ("logicalInvocationKey", .str c.logicalInvocationKey),
    ("requestDigest", .str c.requestDigest), ("useOrdinal", .nat 1),
    ("consumedAt", .str c.consumedAt)]

def ManifestEntry.json (e : ManifestEntry) : Json :=
  .object [("path", .str e.path), ("mediaType", .str e.mediaType), ("bytes", .nat e.bytes),
    ("contentSha256", .str e.contentSha256), ("objectVersionId", .str e.objectVersionId)]

def BuildBindingSource.fields (b : BuildBindingSource) : List (String × Json) :=
  [("runId", .str b.runId), ("taskId", .str b.taskId), ("attemptId", .str b.attemptId),
    ("buildId", .str b.buildId), ("buildVersion", .nat b.buildVersion),
    ("buildResultReceiptId", .str b.buildResultReceiptId),
    ("buildResultReceiptVersion", .str b.buildResultReceiptVersion),
    ("buildResultReceiptDigest", .str b.buildResultReceiptDigest),
    ("artifactId", .str b.artifactId), ("artifactVersionId", .str b.artifactVersionId),
    ("artifactVersion", .nat b.artifactVersion), ("artifactChecksum", .str b.artifactChecksum),
    ("outputManifestId", .str b.outputManifestId),
    ("outputManifestVersion", .str b.outputManifestVersion),
    ("outputManifestDigest", .str b.outputManifestDigest),
    ("aggregateDigest", .str b.aggregateDigest)]

def BuildAuthority.json (b : BuildAuthority) : Json :=
  .object (b.toBuildBindingSource.fields ++
    [("companyId", .str b.companyId), ("buildResult", .text b.buildResult.text),
      ("entryDocument", .str b.entryDocument),
      ("entries", .arr (b.entries.map ManifestEntry.json)), ("canceled", .bool b.canceled),
      ("quarantined", .bool b.quarantined), ("rowVersion", .nat b.rowVersion)])

def PreviewAuthority.boundFields (p : PreviewAuthority) : List (String × Json) :=
  p.toBuildBindingSource.fields ++
    [("companyId", .str p.companyId), ("previewId", .str p.previewId),
      ("previewVersion", .nat p.previewVersion), ("publicPreviewId", .str p.publicPreviewId),
      ("host", .str p.host), ("environment", .text p.environment.text),
      ("policyVersion", .str p.policyVersion), ("keyVersion", .nat p.keyVersion),
      ("headerProfileDigest", .str p.headerProfileDigest),
      ("cacheProfileDigest", .str p.cacheProfileDigest),
      ("redactionProfile", p.redactionProfile.json)]

def PreviewAuthority.json (p : PreviewAuthority) : Json :=
  .object (p.boundFields ++
    [("publicIdentity", .str p.publicIdentity), ("state", .text p.state.text),
      ("availableFrom", .str p.availableFrom), ("expiresAt", .str p.expiresAt),
      ("revocationEpoch", .nat p.revocationEpoch), ("bindingSha256", .str p.bindingSha256),
      ("rowVersion", .nat p.rowVersion)])

def GrantAuthority.boundFields (g : GrantAuthority) : List (String × Json) :=
  g.toBuildBindingSource.fields ++
    [("companyId", .str g.companyId), ("grantId", .str g.grantId),
      ("publicGrantId", .str g.publicGrantId),
      ("issuanceRequestId", .str g.issuanceRequestId),
      ("issuanceRequestDigest", .str g.issuanceRequestDigest),
      ("logicalIdempotencyKey", .str g.logicalIdempotencyKey),
      ("invocationIntentId", .str g.invocationIntentId),
      ("policyDecisionId", .str g.policyDecisionId), ("previewId", .str g.previewId),
      ("previewVersion", .nat g.previewVersion), ("publicPreviewId", .str g.publicPreviewId),
      ("host", .str g.host), ("environment", .text g.environment.text),
      ("audience", .text "PREVIEW_VIEWER"),
      ("previewRevocationEpoch", .nat g.previewRevocationEpoch),
      ("grantRevocationEpoch", .nat g.grantRevocationEpoch),
      ("policyVersion", .str g.policyVersion), ("keyVersion", .nat g.keyVersion),
      ("nonceDigest", .str g.nonceDigest), ("issuedAt", .str g.issuedAt),
      ("notBefore", .str g.notBefore), ("expiresAt", .str g.expiresAt),
      ("redactionProfile", g.redactionProfile.json), ("meta", g.causalMeta.json)]

def SessionAuthority.boundFields (s : SessionAuthority) : List (String × Json) :=
  s.toBuildBindingSource.fields ++
    [("sessionId", .str s.sessionId), ("grantId", .str s.grantId),
      ("companyId", .str s.companyId), ("previewId", .str s.previewId),
      ("previewVersion", .nat s.previewVersion), ("publicPreviewId", .str s.publicPreviewId),
      ("host", .str s.host), ("environment", .text s.environment.text),
      ("grantBindingSha256", .str s.grantBindingSha256),
      ("previewRevocationEpoch", .nat s.previewRevocationEpoch),
      ("grantRevocationEpoch", .nat s.grantRevocationEpoch),
      ("policyVersion", .str s.policyVersion), ("keyVersion", .nat s.keyVersion),
      ("expiresAt", .str s.expiresAt), ("redactionProfile", s.redactionProfile.json)]

namespace Platform

variable (pf : Platform)

def bindingDigest (domain : String) (fields : List (String × Json)) : JsString :=
  pf.canonicalDigest (.object (("domain", .text domain) :: fields))

def buildTuple (b : BuildBindingSource) : JsString :=
  pf.bindingDigest "aico.successful-build-binding/v1" b.fields

def previewBinding (p : PreviewAuthority) : JsString :=
  pf.bindingDigest "aico.preview-binding/v1" p.boundFields

def grantBinding (g : GrantAuthority) : JsString :=
  pf.bindingDigest "aico.preview-grant-binding/v1" g.boundFields

def sessionBinding (s : SessionAuthority) : JsString :=
  pf.bindingDigest "aico.preview-session-binding/v1" s.boundFields

def normalizedManifestDigest (entries : List ManifestEntry) : JsString :=
  pf.canonicalDigest (.arr ((Json.sortEntries pf.rt.localeCompare
    (entries.map fun e => (e.path, e))).map fun e => e.2.json))

end Platform

def isSafeManifestPath (path : JsString) : Bool :=
  path.length ≠ 0 && path.length ≤ 240 && 0x5C ∉ path && 0 ∉ path &&
    path.head? ≠ some 0x2F && path.head? ≠ some 0x2E && !decide (js "//" <:+: path) &&
    (path.splitOn 0x2F).all fun segment =>
      segment ≠ [] && segment ≠ js "." && segment ≠ js ".."

def sourceObjectKey (buildId path : JsString) : JsString :=
  js "source:" ++ buildId ++ js ":" ++ path

def previewObjectKey (previewId : JsString) (previewVersion : ℕ) (path : JsString) : JsString :=
  js "preview:" ++ previewId ++ js ":" ++ JsString.decimal previewVersion ++ js ":" ++ path

end PreviewProof

end Aico
