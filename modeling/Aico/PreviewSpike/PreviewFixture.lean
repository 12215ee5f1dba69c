import Aico.PreviewSpike.PreviewLifecycle

/-!
# What the service starts from

A service is built from exported state. `Initial` says what the state of a fixture is: every
row stands under its own identifier, every preview is prepared, the stored objects are those
of builds, and nothing has been issued. The sample state has one company with one build of
one file and two prepared previews. Its requests publish a preview, open a session for it,
ask for a file, revoke the preview and clean up after it.
-/

namespace Aico

namespace PreviewProof

/-- The state a service is built from. -/
structure Initial (s : PreviewProofState) : Prop where
  companies : ∀ id c, s.companies.get id = some c → c.companyId = id
  builds : ∀ id b, s.builds.get id = some b → b.buildId = id
  previews : ∀ id p, s.previews.get id = some p → p.previewId = id ∧ p.state = .prepared
  grants : s.grants = .empty
  sessions : s.sessions = .empty
  cache : s.cache = .empty
  intents : s.intents = .empty
  receipts : s.operationReceipts = .empty

/-! ## A sample -/

section Parsing

/-- The entries of an object of texts, from the quote of the first name on. -/
def flatEntries : ℕ → JsString → Option (List (JsString × Json))
  | 0, _ => none
  | fuel + 1, text => do
      let (name, rest) ← JsString.unescape (text.drop 1)
      let (value, rest) ← JsString.unescape (rest.drop 2)
      if rest = [0x7D] then pure [(name, .str value)]
      else do
        let entries ← flatEntries fuel (rest.drop 1)
        pure ((name, .str value) :: entries)

def flatParse (text : JsString) : Option Json := (flatEntries 16 (text.drop 1)).map .obj

/-- The text without its dots. -/
def encodeDots : JsString → JsString
  | [] => []
  | u :: rest =>
      if u = 0x2E then 0x7E :: 0x30 :: encodeDots rest
      else if u = 0x7E then 0x7E :: 0x31 :: encodeDots rest
      else u :: encodeDots rest

def decodeDots : JsString → JsString
  | [] => []
  | [u] => [u]
  | u :: v :: rest =>
      if u = 0x7E then (if v = 0x30 then 0x2E else 0x7E) :: decodeDots rest
      else u :: decodeDots (v :: rest)

def sampleSign (text : JsString) : JsString :=
  JsString.decimal (text.foldl (fun h u => (31 * h + u.toNat) % 65521) 7)

end Parsing

section Sample

variable (sha256 : JsString → Digest)

def samplePlatform : Platform where
  rt := .sample sha256
  sha256Bytes body := body.map fun b => b.toUInt16
  dateParse text := some text.length
  ed25519Sign := sampleSign
  ed25519Verify text signature := signature = sampleSign text
  encode := encodeDots
  decode := decodeDots
  jsonParse := flatParse
  decodeURIComponent := some
  toLowerCase := id

def sampleService : PreviewProofService where
  platform := samplePlatform sha256
  keyId := js "key-1"
  defaultRedactionProfile := ⟨[], [], []⟩
  faults := .none

def sampleBody : Bytes := [0x41]

def sampleEntry : ManifestEntry where
  path := js "a"
  mediaType := js "image/png"
  bytes := 1
  contentSha256 := (samplePlatform sha256).bodyDigest sampleBody
  objectVersionId := []

def sampleBinding : BuildBindingSource where
  runId := []
  taskId := []
  attemptId := []
  buildId := js "build"
  buildVersion := 1
  buildResultReceiptId := []
  buildResultReceiptVersion := []
  buildResultReceiptDigest := []
  artifactId := []
  artifactVersionId := []
  artifactVersion := 1
  artifactChecksum := []
  outputManifestId := []
  outputManifestVersion := []
  outputManifestDigest := (samplePlatform sha256).normalizedManifestDigest [sampleEntry sha256]
  aggregateDigest :=
    (samplePlatform sha256).canonicalDigest (.arr [.str (sampleEntry sha256).contentSha256])

def sampleBuild : BuildAuthority where
  toBuildBindingSource := sampleBinding sha256
  companyId := js "company"
  buildResult := .succeeded
  entryDocument := js "a"
  entries := [sampleEntry sha256]
  canceled := false
  quarantined := false
  rowVersion := 1

def sampleCompany : CompanyAuthority := ⟨js "company", js "founder", .active⟩

def previewBase (previewId publicPreviewId host : JsString) : PreviewAuthority where
  toBuildBindingSource := sampleBinding sha256
  companyId := js "company"
  previewId := previewId
  previewVersion := 1
  publicPreviewId := publicPreviewId
  publicIdentity := []
  host := host
  environment := .test
  state := .prepared
  availableFrom := []
  expiresAt := [0, 0]
  revocationEpoch := 1
  policyVersion := []
  keyVersion := 1
  headerProfileDigest := (sampleService sha256).headerProfileDigest
  cacheProfileDigest := (sampleService sha256).cacheProfileDigest
  redactionProfile := ⟨[], [], []⟩
  bindingSha256 := []
  rowVersion := 1

def previewOf (previewId publicPreviewId host : JsString) : PreviewAuthority :=
  let base := previewBase sha256 previewId publicPreviewId host
  { base with bindingSha256 := (samplePlatform sha256).previewBinding base }

def samplePreview : PreviewAuthority := previewOf sha256 (js "preview") (js "pp_1") (js "host")

def otherPreview : PreviewAuthority := previewOf sha256 (js "other") (js "pp_2") (js "other-host")

def sampleIntent (id : JsString) (action : ToolAction) (requestDigest : JsString) :
    ToolInvocationIntent where
  id := id
  decisionId := []
  decisionDigest := []
  logicalInvocationKey := id
  requestDigest := requestDigest
  action := action
  parametersDigest := []
  resourceDigest := []
  maximumUses := 1
  used := 0
  expiresAt := [0, 0]

def sampleHeader (key requestDigest : JsString) : KeyedHeader where
  requestId := key
  requestDigest := requestDigest
  causalMeta := ⟨[], [], [], [], [], [], []⟩
  logicalIdempotencyKey := key

variable (preview : PreviewAuthority)

def publicationBase (requestDigest : JsString) : PublicationRequest where
  toKeyedHeader := sampleHeader (js "publish-" ++ preview.previewId) requestDigest
  actorSubject := js "founder"
  build := sampleBuild sha256
  preview := preview
  toolInvocation := sampleIntent (js "publish-" ++ preview.previewId) .publish requestDigest

def publicationOf : PublicationRequest :=
  publicationBase sha256 preview
    ((samplePlatform sha256).canonicalRequestDigest (publicationBase sha256 preview []).fields)

def samplePublication : PublicationRequest := publicationOf sha256 (samplePreview sha256)

def grantRequestBase (requestDigest : JsString) : GrantIssueRequest where
  toKeyedHeader := sampleHeader (js "grant-" ++ preview.previewId) requestDigest
  actorSubject := js "founder"
  previewId := preview.previewId
  previewVersion := 1
  publicGrantId := js "pg-" ++ preview.previewId
  nonce := js "nonce"
  expiresAt := [0, 0]
  toolInvocation := sampleIntent (js "grant-" ++ preview.previewId) .issueGrant requestDigest

def grantRequestOf : GrantIssueRequest :=
  grantRequestBase preview
    ((samplePlatform sha256).canonicalRequestDigest (grantRequestBase preview []).fields)

def issuedGrant : GrantAuthority :=
  (sampleService sha256).createGrantAuthority [] (grantRequestOf sha256 preview)
    ((sampleService sha256).availablePreview preview) (sampleBuild sha256) sampleCompany

def issuedSession : SessionAuthority :=
  (sampleService sha256).presentedSession (issuedGrant sha256 preview)

def exchangeBase (requestDigest : JsString) : ExchangeRequest where
  toKeyedHeader := sampleHeader (js "exchange-" ++ preview.previewId) requestDigest
  host := preview.host
  environment := .test
  origin := js "https://" ++ preview.host
  contentType := js "application/octet-stream"
  fetchSite := js "same-origin"
  capability := ((sampleService sha256).signGrant (issuedGrant sha256 preview) (js "nonce")).compact

def exchangeRequestOf : ExchangeRequest :=
  exchangeBase sha256 preview
    ((samplePlatform sha256).canonicalRequestDigest (exchangeBase sha256 preview []).fields)

def accessBase (path requestDigest : JsString) : AccessRequest where
  requestId := js "access"
  requestDigest := requestDigest
  causalMeta := ⟨[], [], [], [], [], [], []⟩
  host := preview.host
  environment := .test
  method := .get
  path := path
  navigation := true
  cookiePresentation := some ((sampleService sha256).signSession (issuedSession sha256 preview))
  range := none
  ifNoneMatch := none

/-- The session of the issued grant asks for the path. -/
def accessRequestOf (path : JsString) : AccessRequest :=
  accessBase sha256 preview path
    ((samplePlatform sha256).canonicalRequestDigest (accessBase sha256 preview path []).fields)

def revocationBase (requestDigest : JsString) : RevocationRequest where
  toKeyedHeader := sampleHeader (js "revoke-" ++ preview.previewId) requestDigest
  actorSubject := js "founder"
  previewId := preview.previewId
  previewVersion := 1
  expectedEpoch := 1
  reason := .founderRevoked
  toolInvocation := sampleIntent (js "revoke-" ++ preview.previewId) .revoke requestDigest

def revocationOf : RevocationRequest :=
  revocationBase preview
    ((samplePlatform sha256).canonicalRequestDigest (revocationBase preview []).fields)

def sampleRevocation : RevocationRequest := revocationOf sha256 (samplePreview sha256)

def cleanupBase (requestDigest : JsString) : CleanupRequest where
  toKeyedHeader := sampleHeader (js "cleanup-" ++ preview.previewId) requestDigest
  actorSubject := js "founder"
  previewId := preview.previewId
  previewVersion := 1
  expectedEpoch := 2
  toolInvocation := sampleIntent (js "cleanup-" ++ preview.previewId) .cleanup requestDigest

def cleanupOf : CleanupRequest :=
  cleanupBase preview
    ((samplePlatform sha256).canonicalRequestDigest (cleanupBase preview []).fields)

def sourceObject : ObjectRecord where
  companyId := js "company"
  previewId := js "build"
  previewVersion := 1
  path := js "a"
  mediaType := js "image/png"
  objectVersionId := []
  contentSha256 := (sampleEntry sha256).contentSha256
  body := sampleBody
  state := .available

def sampleState : PreviewProofState where
  companies := JsMap.empty.set (js "company") sampleCompany
  builds := JsMap.empty.set (js "build") (sampleBuild sha256)
  previews := (JsMap.empty.set (js "preview") (samplePreview sha256)).set (js "other")
    (otherPreview sha256)
  grants := .empty
  sessions := .empty
  objects := JsMap.empty.set (sourceObjectKey (js "build") (js "a")) (sourceObject sha256)
  cache := .empty
  intents := .empty
  operationReceipts := .empty
  retiredHosts := []
  now := []

/-- A map with one entry. -/
theorem get_set_empty {β : Type} {k k' : JsString} {v w : β}
    (h : ((JsMap.empty : JsMap JsString β).set k v).get k' = some w) : k' = k ∧ w = v := by
  rw [JsMap.get_set] at h
  split at h
  · next hk => exact ⟨hk, (Option.some.inj h).symm⟩
  · cases h

theorem initial_sampleState : Initial (sampleState sha256) where
  companies id c h := by
    obtain ⟨rfl, rfl⟩ := get_set_empty h
    rfl
  builds id b h := by
    obtain ⟨rfl, rfl⟩ := get_set_empty h
    rfl
  previews id p h := by
    change ((JsMap.empty.set _ _).set _ _).get id = some p at h
    rw [JsMap.get_set] at h
    split at h
    · next hid =>
        obtain rfl := Option.some.inj h
        exact ⟨hid.symm, rfl⟩
    · obtain ⟨rfl, rfl⟩ := get_set_empty h
      exact ⟨rfl, rfl⟩
  grants := rfl
  sessions := rfl
  cache := rfl
  intents := rfl
  receipts := rfl

end Sample

end PreviewProof

end Aico
