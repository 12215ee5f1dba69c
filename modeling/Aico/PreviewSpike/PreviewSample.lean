import Aico.PreviewSpike.PreviewAnswers
import Aico.PreviewSpike.PreviewRuns
import Aico.PreviewSpike.PreviewSigning

/-!
# Calls of the sample

Whatever the hash function, the calls of the sample find what they need in a state that has the
rows they ask for: a preview is published, a session is opened for it, and its file is served.
-/

namespace Aico

namespace PreviewProof

open Coroutine PreviewProofService

section Sample

variable {sha256 : JsString → Digest} {id publicId host : JsString} {s : PreviewProofState}

/-- The state has the companies, the builds and the clock of the sample. -/
structure Grounded (sha256 : JsString → Digest) (s : PreviewProofState) : Prop where
  companies : s.companies = (sampleState sha256).companies
  builds : s.builds = (sampleState sha256).builds
  now : s.now = []

namespace Grounded

theorem companyOf (h : Grounded sha256 s) :
    PreviewProofService.companyOf s (js "founder") = some sampleCompany := by
  unfold PreviewProofService.companyOf
  rw [h.companies]
  rfl

theorem activeCompany (h : Grounded sha256 s) :
    PreviewProofService.activeCompany s (js "company") = some sampleCompany := by
  unfold PreviewProofService.activeCompany
  rw [h.companies]
  rfl

theorem buildRead (h : Grounded sha256 s) :
    s.builds.get (js "build") = some (sampleBuild sha256) := by
  rw [h.builds]
  rfl

theorem intentFits (h : Grounded sha256 s) {stored supplied : ToolInvocationIntent}
    {action : ToolAction} {header : KeyedHeader} (haction : stored.action = action)
    (honce : stored.maximumUses = 1) (hdigest : stored.requestDigest = header.requestDigest)
    (hkey : stored.logicalInvocationKey = header.logicalIdempotencyKey)
    (hsupplied : stored = supplied) (hexpires : stored.expiresAt = [0, 0]) :
    (sampleService sha256).IntentFits s.now stored supplied action header := by
  refine ⟨haction, honce, hdigest, hkey, ?_, ?_⟩
  · rw [hsupplied]
  · rw [h.now, hexpires]
    rfl

theorem previewAvailable (h : Grounded sha256 s) {preview : PreviewAuthority}
    (hstate : preview.state = .available) (hexpires : preview.expiresAt = [0, 0]) :
    (sampleService sha256).previewAvailable s.now preview := by
  rw [h.now]
  refine ⟨hstate, ?_⟩
  rw [hexpires]
  rfl

end Grounded

/-- No intent and no receipt is known under the key. -/
structure Unused (key : JsString) (s : PreviewProofState) : Prop where
  unanswered : s.operationReceipts.get key = none
  unregistered : s.intents.get key = none

def registered (intent : ToolInvocationIntent) (s : PreviewProofState) : PreviewProofState :=
  { s with intents := s.intents.set intent.id intent }

theorem serviceStep_register {svc : PreviewProofService} {intent : ToolInvocationIntent}
    (honce : intent.maximumUses = 1) (hunused : intent.used = 0)
    (hnew : s.intents.get intent.id = none) :
    serviceStep svc s (.environs (.register intent)) = registered intent s := by
  have hallowed : intent.maximumUses = 1 ∧ intent.used = 0 ∧
      ∀ existing ∈ s.intents.get intent.id, svc.platform.canonicalDigest existing.json =
        svc.platform.canonicalDigest intent.json := by
    refine ⟨honce, hunused, fun existing hexisting => ?_⟩
    rw [hnew] at hexisting
    cases hexisting
  exact if_pos hallowed

/-! ## publish -/

theorem manifestSound_sampleBuild : (sampleService sha256).ManifestSound (sampleBuild sha256) := by
  refine ⟨List.cons_ne_nil _ _, rfl, rfl, ?_, List.nodup_singleton _⟩
  intro entry hentry
  obtain rfl := List.mem_singleton.mp hentry
  have hsafe : isSafeManifestPath (js "a") = true := by decide +kernel
  have hreserved : ¬ js "__aico/" <+: js "a" := by decide +kernel
  have hmap : ¬ js ".map" <:+ js "a" := by decide +kernel
  have hmedia : js "image/png" ∈ allowedMediaTypes := by decide +kernel
  exact ⟨hsafe, hreserved, hmap, Nat.one_pos, hmedia⟩

structure Publishable (sha256 : JsString → Digest) (id publicId host : JsString)
    (s : PreviewProofState) : Prop extends Grounded sha256 s where
  unused : Unused (js "publish-" ++ id) s
  previewRead : s.previews.get id = some (previewOf sha256 id publicId host)
  unretired : host ∉ s.retiredHosts
  others : ∀ candidate ∈ s.previews.values, candidate.previewId ≠ id → candidate.host ≠ host
  source : s.objects.get (sourceObjectKey (js "build") (js "a")) = some (sourceObject sha256)
  free : s.objects.has (previewObjectKey id 1 (js "a")) = false

theorem Publishable.verifyCopy (h : Publishable sha256 id publicId host s) :
    (sampleService sha256).verifyCopy s (sampleBuild sha256) (previewOf sha256 id publicId host)
      (sampleEntry sha256) = .ok ⟨sourceObject sha256, previewObjectKey id 1 (js "a")⟩ := by
  have hsource : s.objects.get (sourceObjectKey (sampleBuild sha256).buildId
      (sampleEntry sha256).path) = some (sourceObject sha256) := h.source
  have hfree : ¬ s.objects.has (previewObjectKey (previewOf sha256 id publicId host).previewId
      (previewOf sha256 id publicId host).previewVersion (sampleEntry sha256).path) = true := by
    rw [Bool.not_eq_true]
    exact h.free
  unfold PreviewProofService.verifyCopy
  rw [hsource]
  dsimp only
  rw [if_pos ⟨rfl, rfl, rfl, rfl, rfl⟩, if_neg hfree]
  rfl

def Publishable.publication (h : Publishable sha256 id publicId host s) :
    Publication (sampleService sha256)
      (registered (publicationOf sha256 (previewOf sha256 id publicId host)).toolInvocation s)
      (publicationOf sha256 (previewOf sha256 id publicId host)) where
  company := sampleCompany
  build := sampleBuild sha256
  preview := previewOf sha256 id publicId host
  verified := [⟨sourceObject sha256, previewObjectKey id 1 (js "a")⟩]
  intent := (publicationOf sha256 (previewOf sha256 id publicId host)).toolInvocation
  digest := rfl
  founder := ⟨rfl, h.companyOf, h.unused.unanswered⟩
  buildRead := h.buildRead
  previewRead := h.previewRead
  scope := List.forall_mem_cons.mpr ⟨rfl, List.forall_mem_singleton.mpr rfl⟩
  bound := ⟨rfl, rfl, rfl, rfl, rfl, rfl, rfl⟩
  prepared := rfl
  host := h.unretired
  others := h.others
  result := ⟨rfl, rfl, rfl⟩
  manifest := manifestSound_sampleBuild
  copies := by
    change [sampleEntry sha256].mapM ((sampleService sha256).verifyCopy s _ _) = _
    rw [List.mapM_cons, h.verifyCopy]
    rfl
  consumable := ⟨JsMap.get_set_self, h.intentFits rfl rfl rfl rfl rfl rfl, rfl⟩

/-- The store after the registration and the publication. -/
def publishedFrom (sha256 : JsString → Digest) (preview : PreviewAuthority)
    (s : PreviewProofState) : PreviewProofState :=
  let request := publicationOf sha256 preview
  let published := (sampleService sha256).availablePreview preview
  let copies := [⟨sourceObject sha256, previewObjectKey preview.previewId 1 (js "a")⟩]
  let receipt := (sampleService sha256).publicationReceipt s.now request
    ⟨.succeeded, .published, true⟩ true
    (some ((sampleService sha256).consumption s.now request.toolInvocation)) (some published)
  { s with
    previews := s.previews.set preview.previewId published
    objects := (activateCopies copies (copyVerifiedBuild copies preview s)).objects
    intents := (registered request.toolInvocation s).intents.set request.toolInvocation.id
      { request.toolInvocation with used := 1 }
    operationReceipts := s.operationReceipts.set request.logicalIdempotencyKey
      ⟨request.requestDigest, receipt⟩ }

theorem Grounded.publishedFrom (h : Grounded sha256 s) (preview : PreviewAuthority) :
    Grounded sha256 (publishedFrom sha256 preview s) :=
  ⟨h.companies, h.builds, h.now⟩

theorem Unused.publishedFrom {key : JsString} (h : Unused key s) (preview : PreviewAuthority)
    (hkey : key ≠ js "publish-" ++ preview.previewId) :
    Unused key (publishedFrom sha256 preview s) where
  unanswered := (JsMap.get_set_of_ne hkey).trans h.unanswered
  unregistered :=
    ((JsMap.get_set_of_ne hkey).trans (JsMap.get_set_of_ne hkey)).trans h.unregistered

theorem Publishable.publication_left (h : Publishable sha256 id publicId host s) :
    h.publication.left = publishedFrom sha256 (previewOf sha256 id publicId host) s := by
  have hpublished : h.publication.published =
      (sampleService sha256).availablePreview (previewOf sha256 id publicId host) := rfl
  have hcopied : h.publication.copied.objects =
      (activateCopies [⟨sourceObject sha256, previewObjectKey id 1 (js "a")⟩]
        (copyVerifiedBuild [⟨sourceObject sha256, previewObjectKey id 1 (js "a")⟩]
          (previewOf sha256 id publicId host) s)).objects := rfl
  rw [Publication.left_eq, hcopied]
  unfold Publication.receipt
  rw [hpublished]
  rfl

/-! ## issueGrant and exchange -/

structure Openable (sha256 : JsString → Digest) (id publicId host : JsString)
    (s : PreviewProofState) : Prop extends Grounded sha256 s where
  unissued : Unused (js "grant-" ++ id) s
  unexchanged : Unused (js "exchange-" ++ id) s
  previewRead : s.previews.get id =
    some ((sampleService sha256).availablePreview (previewOf sha256 id publicId host))
  unknown : grantOf s (js "pg-" ++ id) = none

def Openable.issuance (h : Openable sha256 id publicId host s) :
    Issuance (sampleService sha256)
      (registered (grantRequestOf sha256 (previewOf sha256 id publicId host)).toolInvocation s)
      (grantRequestOf sha256 (previewOf sha256 id publicId host)) where
  company := sampleCompany
  preview := (sampleService sha256).availablePreview (previewOf sha256 id publicId host)
  build := sampleBuild sha256
  intent := (grantRequestOf sha256 (previewOf sha256 id publicId host)).toolInvocation
  digest := rfl
  founder := ⟨rfl, h.companyOf, h.unissued.unanswered⟩
  previewRead := h.previewRead
  buildRead := h.buildRead
  scope := List.forall_mem_cons.mpr ⟨rfl, List.forall_mem_singleton.mpr rfl⟩
  available := h.previewAvailable rfl rfl
  fits := by
    have hexpires : Json.unitOrder [0, 0] [0, 0] ≠ .gt := by decide
    exact ⟨rfl, hexpires⟩
  unknown := h.unknown
  consumable := ⟨JsMap.get_set_self, h.intentFits rfl rfl rfl rfl rfl rfl, rfl⟩

theorem Openable.grant_eq (h : Openable sha256 id publicId host s) :
    h.issuance.grant = issuedGrant sha256 (previewOf sha256 id publicId host) := by
  have hnow : (registered (grantRequestOf sha256
    (previewOf sha256 id publicId host)).toolInvocation s).now = [] := h.now
  unfold Issuance.grant issuedGrant
  rw [hnow]
  rfl

/-- The store after the registration and the issuance. -/
def grantedFrom (sha256 : JsString → Digest) (preview : PreviewAuthority)
    (s : PreviewProofState) : PreviewProofState :=
  let request := grantRequestOf sha256 preview
  let grant := issuedGrant sha256 preview
  let receipt := (sampleService sha256).grantReceipt s.now request
    ⟨.succeeded, .grantIssued, true⟩ true
    (some ((sampleService sha256).consumption s.now request.toolInvocation))
    (some grant.publicGrantId) (some grant.bindingSha256)
    (some ((samplePlatform sha256).canonicalDigest
      (.str ((sampleService sha256).signGrant grant request.nonce).compact)))
  { s with
    grants := s.grants.set grant.grantId grant
    intents := (registered request.toolInvocation s).intents.set request.toolInvocation.id
      { request.toolInvocation with used := 1 }
    operationReceipts := s.operationReceipts.set request.logicalIdempotencyKey
      ⟨request.requestDigest, receipt⟩ }

theorem Openable.issuance_left (h : Openable sha256 id publicId host s) :
    h.issuance.left = grantedFrom sha256 (previewOf sha256 id publicId host) s := by
  rw [Issuance.left_eq]
  unfold Issuance.receipt
  rw [h.grant_eq]
  rfl

/-- The grant that the claims name is the one with their public identifier. -/
theorem claimedGrant_parsedClaims (s : PreviewProofState) (grant : GrantAuthority)
    (nonce : JsString) :
    claimedGrant s (parsedClaims grant nonce) = grantOf s grant.publicGrantId := by
  unfold claimedGrant grantOf
  congr 1
  funext g
  exact decide_eq_decide.mpr eq_comm

theorem Openable.claimed (h : Openable sha256 id publicId host s) :
    claimedGrant (grantedFrom sha256 (previewOf sha256 id publicId host) s)
        (parsedClaims (issuedGrant sha256 (previewOf sha256 id publicId host)) (js "nonce")) =
      some (issuedGrant sha256 (previewOf sha256 id publicId host)) := by
  rw [claimedGrant_parsedClaims]
  exact JsMap.find?_values_set (decide_eq_true rfl) h.unknown

def Openable.exchange (h : Openable sha256 id publicId host s) :
    Exchange (sampleService sha256)
      (grantedFrom sha256 (previewOf sha256 id publicId host) s)
      (exchangeRequestOf sha256 (previewOf sha256 id publicId host)) where
  read :=
    { claims := parsedClaims (issuedGrant sha256 (previewOf sha256 id publicId host)) (js "nonce")
      grant := issuedGrant sha256 (previewOf sha256 id publicId host)
      preview := (sampleService sha256).availablePreview (previewOf sha256 id publicId host)
      build := sampleBuild sha256
      company := sampleCompany }
  grant := issuedGrant sha256 (previewOf sha256 id publicId host)
  digest := rfl
  reads :=
    { origin := ⟨rfl, rfl, rfl⟩
      capability := verifyGrant_signGrant _ _
      readable := rfl
      claimed := h.claimed
      previewRead := h.previewRead
      buildRead := h.buildRead
      companyRead := h.activeCompany }
  unanswered := by
    have hne : js "exchange-" ++ id ≠ js "grant-" ++ id := by
      intro heq
      have hhead : (some 0x65 : Option UInt16) = some 0x67 := congrArg List.head? heq
      cases hhead
    exact (JsMap.get_set_of_ne hne).trans h.unexchanged.unanswered
  scope := List.forall_mem_cons.mpr
    ⟨rfl, List.forall_mem_cons.mpr ⟨rfl, List.forall_mem_singleton.mpr rfl⟩⟩
  hostClaimed := ⟨decide_eq_true rfl, rfl, decide_eq_true rfl, rfl, decide_eq_true rfl, rfl⟩
  bound := ⟨rfl, decide_eq_true rfl, rfl, rfl, rfl, rfl, rfl, rfl, rfl, rfl⟩
  available := h.previewAvailable rfl rfl
  timely := by
    have hnow : (grantedFrom sha256 (previewOf sha256 id publicId host) s).now = [] := h.now
    rw [hnow]
    exact ⟨rfl, rfl, rfl⟩
  current := JsMap.get_set_self
  unconsumed := rfl

/-- The store after the exchange. -/
def exchangedFrom (sha256 : JsString → Digest) (preview : PreviewAuthority)
    (s : PreviewProofState) : PreviewProofState :=
  let request := exchangeRequestOf sha256 preview
  let grant := issuedGrant sha256 preview
  let session := issuedSession sha256 preview
  let receipt := (sampleService sha256).exchangeReceipt s.now request
    ⟨.succeeded, .grantExchanged, true⟩ true (some session.sessionId)
    (some "Secure; HttpOnly; SameSite=Strict; Path=/") (some "/")
  { s with
    grants := s.grants.set grant.grantId (consumedGrant s.now grant)
    sessions := s.sessions.set session.sessionId session
    operationReceipts := s.operationReceipts.set request.logicalIdempotencyKey
      ⟨request.requestDigest, receipt⟩ }

theorem Openable.exchange_left (h : Openable sha256 id publicId host s) :
    h.exchange.left = exchangedFrom sha256 (previewOf sha256 id publicId host)
      (grantedFrom sha256 (previewOf sha256 id publicId host) s) := by
  have hsession : h.exchange.session =
      issuedSession sha256 (previewOf sha256 id publicId host) := rfl
  unfold Exchange.left Exchange.receipt Exchange.entered
  rw [hsession]
  rfl

/-- The store after the issuance and the exchange. -/
def openedFrom (sha256 : JsString → Digest) (preview : PreviewAuthority)
    (s : PreviewProofState) : PreviewProofState :=
  exchangedFrom sha256 preview (grantedFrom sha256 preview s)

theorem Grounded.openedFrom (h : Grounded sha256 s) (preview : PreviewAuthority) :
    Grounded sha256 (openedFrom sha256 preview s) :=
  ⟨h.companies, h.builds, h.now⟩

theorem Unused.openedFrom {key : JsString} (h : Unused key s) (preview : PreviewAuthority)
    (hgrant : key ≠ js "grant-" ++ preview.previewId)
    (hexchange : key ≠ js "exchange-" ++ preview.previewId) :
    Unused key (openedFrom sha256 preview s) where
  unanswered :=
    ((JsMap.get_set_of_ne hexchange).trans (JsMap.get_set_of_ne hgrant)).trans h.unanswered
  unregistered :=
    ((JsMap.get_set_of_ne hgrant).trans (JsMap.get_set_of_ne hgrant)).trans h.unregistered

/-- The keys under which a preview is published and opened. -/
def openingKeys (id : JsString) : List JsString :=
  [js "publish-" ++ id, js "grant-" ++ id, js "exchange-" ++ id]

theorem Unused.opened {key : JsString} (h : Unused key s) (preview : PreviewAuthority)
    (hkey : key ∉ openingKeys preview.previewId) :
    Unused key (PreviewProof.openedFrom sha256 preview
      (PreviewProof.publishedFrom sha256 preview s)) := by
  simp only [openingKeys, List.mem_cons, List.not_mem_nil, or_false, not_or] at hkey
  exact (h.publishedFrom preview hkey.1).openedFrom preview hkey.2.1 hkey.2.2

/-! ## access -/

theorem signSession_presentedSession (svc : PreviewProofService) (grant : GrantAuthority) :
    svc.signSession (svc.presentedSession grant) = svc.signSession (svc.createSession grant) := by
  unfold signSession
  rfl

theorem presentationDigest_presentedSession (svc : PreviewProofService) (grant : GrantAuthority) :
    (svc.presentedSession grant).presentationDigest =
      svc.platform.canonicalDigest (.str (svc.signSession (svc.presentedSession grant))) := by
  rw [signSession_presentedSession]
  rfl

theorem sessionBinding_presentedSession (svc : PreviewProofService) (grant : GrantAuthority) :
    svc.platform.sessionBinding (svc.presentedSession grant) =
      (svc.presentedSession grant).bindingSha256 := by
  have hfields : (svc.presentedSession grant).boundFields = (svc.sessionBase grant).boundFields :=
    rfl
  exact congrArg (svc.platform.bindingDigest "aico.preview-session-binding/v1") hfields

theorem sessionOf_signSession {session : SessionAuthority}
    (hsession : s.sessions.get session.sessionId = some session)
    (hpresented : session.presentationDigest = (samplePlatform sha256).canonicalDigest
      (.str ((sampleService sha256).signSession session))) :
    (sampleService sha256).sessionOf s (some ((sampleService sha256).signSession session)) =
      some session := by
  unfold sessionOf
  change ((sampleService sha256).presentedSessionId _ >>= _) = _
  rw [presentedSessionId_signSession]
  change (s.sessions.get session.sessionId >>= _) = _
  rw [hsession]
  exact if_pos hpresented

theorem normalizeAccessPath_sample {request : AccessRequest} {preview : PreviewAuthority}
    (hpath : request.path = js "/a")
    (hbuild : s.builds.get preview.buildId = some (sampleBuild sha256)) :
    completes ((sampleService sha256).normalizeAccessPath request preview) s =
      (.ok (js "a"), s) := by
  have hsafe : isSafeManifestPath (relativePath (js "/a")) = true := by decide +kernel
  have hplain : (sampleService sha256).platform.decodeURIComponent (pathPart (js "/a")) =
      some (js "/a") := rfl
  unfold normalizeAccessPath resolvePath
  rw [hpath, hplain, completes_bind, completes_require, Prog.require_bind_eq_ok]
  refine ⟨js "/a", rfl, ?_⟩
  rw [if_neg (by decide), completes_bind, completes_ensure, Prog.ensure_bind_eq_ok]
  refine ⟨hsafe, ?_⟩
  rw [completes_bind, Prog.bind_of_ok (completes_readBuild_eq_ok.mpr ⟨rfl, hbuild, rfl⟩)]
  rfl

structure Servable (sha256 : JsString → Digest) (id publicId host : JsString)
    (s : PreviewProofState) : Prop extends Grounded sha256 s where
  sessionRead : s.sessions.get (issuedSession sha256 (previewOf sha256 id publicId host)).sessionId =
    some (issuedSession sha256 (previewOf sha256 id publicId host))
  grantRead : s.grants.get (issuedGrant sha256 (previewOf sha256 id publicId host)).grantId =
    some (consumedGrant [] (issuedGrant sha256 (previewOf sha256 id publicId host)))
  previewRead : s.previews.get id =
    some ((sampleService sha256).availablePreview (previewOf sha256 id publicId host))

theorem Servable.authorized (h : Servable sha256 id publicId host s) :
    (sampleService sha256).assertContentAuthority s
      { request := accessRequestOf sha256 (previewOf sha256 id publicId host) (js "/a")
        session := issuedSession sha256 (previewOf sha256 id publicId host)
        company := sampleCompany
        preview := (sampleService sha256).availablePreview (previewOf sha256 id publicId host)
        entry := sampleEntry sha256
        cacheKey := (sampleService sha256).cacheKey
          ((sampleService sha256).availablePreview (previewOf sha256 id publicId host))
          (sampleEntry sha256) }
      (sampleBuild sha256) = .ok () := by
  have hgrant : s.grants.get
      (issuedSession sha256 (previewOf sha256 id publicId host)).grantId =
      some (consumedGrant [] (issuedGrant sha256 (previewOf sha256 id publicId host))) :=
    h.grantRead
  unfold assertContentAuthority
  rw [if_neg (not_not.mpr ⟨rfl, rfl⟩), if_neg, hgrant]
  · dsimp only
    rw [if_neg, if_neg]
    · rw [not_not, h.now]
      exact ⟨rfl, rfl, rfl, rfl⟩
    · rw [not_not]
      exact ⟨rfl, rfl, rfl, rfl, rfl, rfl, rfl, rfl, rfl, rfl, rfl, rfl, rfl, rfl, rfl, rfl, rfl,
        rfl, rfl, rfl, rfl, rfl, rfl, rfl, rfl, rfl, rfl, rfl⟩
  · rw [not_not]
    exact ⟨rfl, rfl, rfl, rfl, rfl, rfl, rfl, rfl, rfl, rfl, rfl, rfl, rfl, rfl, rfl,
      sessionBinding_presentedSession _ _, rfl, rfl, rfl, rfl, rfl, rfl, rfl, rfl, rfl⟩

def Servable.serving (h : Servable sha256 id publicId host s) :
    Serving (sampleService sha256) s
      (accessRequestOf sha256 (previewOf sha256 id publicId host) (js "/a")) where
  session := issuedSession sha256 (previewOf sha256 id publicId host)
  preview := (sampleService sha256).availablePreview (previewOf sha256 id publicId host)
  build := sampleBuild sha256
  entry := sampleEntry sha256
  company := sampleCompany
  presented := sessionOf_signSession h.sessionRead (presentationDigest_presentedSession _ _)
  previewRead := h.previewRead
  buildRead := h.buildRead
  path := normalizeAccessPath_sample rfl h.buildRead
  listed := rfl
  companyRead := h.activeCompany
  authorized := h.authorized

theorem admitted_sample (preview : PreviewAuthority) :
    Serving.Admitted (sampleService sha256) (accessRequestOf sha256 preview (js "/a")) where
  digest := rfl
  readable := rfl
  method := .inl rfl
  surface := by
    have hpublic : ¬ js "/__aico" <+: js "/a" := by decide
    exact ⟨rfl, rfl, hpublic⟩

/-- The key under which the file of a published preview is cached. -/
def fileKey (sha256 : JsString → Digest) (preview : PreviewAuthority) : JsString :=
  (sampleService sha256).cacheKey ((sampleService sha256).availablePreview preview)
    (sampleEntry sha256)

/-- The copy of the file that a publication has made. -/
def publishedObject (sha256 : JsString → Digest) (id : JsString) : ObjectRecord :=
  { sourceObject sha256 with previewId := id }

theorem Servable.performs_stored (h : Servable sha256 id publicId host s)
    (hcached : s.cache.get (fileKey sha256 (previewOf sha256 id publicId host)) = none)
    (hobject : s.objects.get (previewObjectKey id 1 (js "a")) =
      some (publishedObject sha256 id)) :
    completes ((sampleService sha256).perform (.access
        (accessRequestOf sha256 (previewOf sha256 id publicId host) (js "/a")))) s =
      (.ok ((sampleService sha256).accessAllowed s.now h.serving.read (sampleBody, .miss)),
        cacheBody h.serving.read sampleBody s) := by
  have hfound : objectOf s h.serving.preview h.serving.entry =
      some (publishedObject sha256 id) := by
    have hread : s.objects.get (previewObjectKey h.serving.preview.previewId
        h.serving.preview.previewVersion h.serving.entry.path) =
        some (publishedObject sha256 id) := hobject
    unfold objectOf
    rw [hread]
    rfl
  exact h.serving.performs_stored (admitted_sample _) hcached hfound ⟨rfl, rfl, rfl, rfl⟩

def cachedFile (sha256 : JsString → Digest) (key : JsString) : CacheRecord where
  key := key
  contentSha256 := (sampleEntry sha256).contentSha256
  mediaType := js "image/png"
  body := sampleBody

theorem Servable.performs_cached (h : Servable sha256 id publicId host s) {key : JsString}
    (hcached : s.cache.get (fileKey sha256 (previewOf sha256 id publicId host)) =
      some (cachedFile sha256 key)) :
    completes ((sampleService sha256).perform (.access
        (accessRequestOf sha256 (previewOf sha256 id publicId host) (js "/a")))) s =
      (.ok ((sampleService sha256).accessAllowed s.now h.serving.read (sampleBody, .hit)), s) :=
  h.serving.performs_cached (admitted_sample _) hcached ⟨rfl, rfl, rfl⟩

/-- The key of a cached body tells the public identifier. -/
theorem publicPreviewId_of_cacheKey {svc : PreviewProofService} {preview other : PreviewAuthority}
    {entry otherEntry : ManifestEntry}
    (h : svc.cacheKey preview entry = svc.cacheKey other otherEntry) :
    preview.publicPreviewId = other.publicPreviewId := by
  have hnodup : (["environment", "publicPreviewId", "previewId", "previewVersion",
      "outputManifestDigest", "normalizedPath", "objectVersionId", "contentSha256",
      "headerProfileDigest"] : List String).Nodup := by decide
  have hsame := (fun hwell hwell' => Json.eqUpToKeyOrder_of_sortJson_eq hwell hwell'
      (Json.stringify_injective h))
    (.object hnodup (by simp [Json.nat, Json.text, Json.wellFormed_str, Json.wellFormed_num]))
    (.object hnodup (by simp [Json.nat, Json.text, Json.wellFormed_str, Json.wellFormed_num]))
  have hvalues := Json.values_of_object hsame rfl hnodup
  simp only [List.map_cons, List.cons.injEq, Json.normalize_str, Json.str.injEq] at hvalues
  exact hvalues.2.1

theorem Unused.cacheBody {key : JsString} (h : Unused key s) (read : ContentRead) (body : Bytes) :
    Unused key (cacheBody read body s) :=
  ⟨h.unanswered, h.unregistered⟩

theorem Grounded.cacheBody (h : Grounded sha256 s) (read : ContentRead) (body : Bytes) :
    Grounded sha256 (cacheBody read body s) :=
  ⟨h.companies, h.builds, h.now⟩

/-! ## revoke and cleanup -/

structure Revocable (sha256 : JsString → Digest) (id publicId host : JsString)
    (s : PreviewProofState) : Prop extends Grounded sha256 s where
  unused : Unused (js "revoke-" ++ id) s
  previewRead : s.previews.get id =
    some ((sampleService sha256).availablePreview (previewOf sha256 id publicId host))

def Revocable.revocation (h : Revocable sha256 id publicId host s) :
    Revocation (sampleService sha256)
      (registered (revocationOf sha256 (previewOf sha256 id publicId host)).toolInvocation s)
      (revocationOf sha256 (previewOf sha256 id publicId host)) where
  company := sampleCompany
  preview := (sampleService sha256).availablePreview (previewOf sha256 id publicId host)
  intent := (revocationOf sha256 (previewOf sha256 id publicId host)).toolInvocation
  digest := rfl
  founder := ⟨rfl, h.companyOf, h.unused.unanswered⟩
  previewRead := h.previewRead
  scope := List.forall_mem_singleton.mpr rfl
  bound := ⟨rfl, rfl⟩
  consumable := ⟨JsMap.get_set_self, h.intentFits rfl rfl rfl rfl rfl rfl, rfl⟩

def withdrawnPreview (sha256 : JsString → Digest) (preview : PreviewAuthority) :
    PreviewAuthority :=
  revokedPreview (revocationOf sha256 preview) ((sampleService sha256).availablePreview preview)

/-- The store after the registration and the revocation. -/
def revokedFrom (sha256 : JsString → Digest) (preview : PreviewAuthority)
    (s : PreviewProofState) : PreviewProofState :=
  let request := revocationOf sha256 preview
  let receipt := (sampleService sha256).revocationReceipt s.now request
    ⟨.succeeded, .revoked, true⟩ true
    (some ((sampleService sha256).consumption s.now request.toolInvocation))
    (some preview.revocationEpoch) (some (withdrawnPreview sha256 preview).revocationEpoch)
    (some (withdrawnPreview sha256 preview).state)
  { s with
    previews := s.previews.set preview.previewId (withdrawnPreview sha256 preview)
    sessions := (revokeSessions preview.previewId s).sessions
    intents := (registered request.toolInvocation s).intents.set request.toolInvocation.id
      { request.toolInvocation with used := 1 }
    operationReceipts := s.operationReceipts.set request.logicalIdempotencyKey
      ⟨request.requestDigest, receipt⟩ }

theorem Revocable.revocation_left (h : Revocable sha256 id publicId host s) :
    h.revocation.left = revokedFrom sha256 (previewOf sha256 id publicId host) s := by
  rw [Revocation.left_eq]
  rfl

theorem Grounded.revokedFrom (h : Grounded sha256 s) (preview : PreviewAuthority) :
    Grounded sha256 (revokedFrom sha256 preview s) :=
  ⟨h.companies, h.builds, h.now⟩

theorem Unused.revokedFrom {key : JsString} (h : Unused key s) (preview : PreviewAuthority)
    (hkey : key ≠ js "revoke-" ++ preview.previewId) :
    Unused key (revokedFrom sha256 preview s) where
  unanswered := (JsMap.get_set_of_ne hkey).trans h.unanswered
  unregistered :=
    ((JsMap.get_set_of_ne hkey).trans (JsMap.get_set_of_ne hkey)).trans h.unregistered

structure Removable (sha256 : JsString → Digest) (id publicId host : JsString)
    (s : PreviewProofState) : Prop extends Grounded sha256 s where
  unused : Unused (js "cleanup-" ++ id) s
  previewRead : s.previews.get id =
    some (withdrawnPreview sha256 (previewOf sha256 id publicId host))

def Removable.removal (h : Removable sha256 id publicId host s) :
    Removal (sampleService sha256)
      (registered (cleanupOf sha256 (previewOf sha256 id publicId host)).toolInvocation s)
      (cleanupOf sha256 (previewOf sha256 id publicId host)) where
  company := sampleCompany
  preview := withdrawnPreview sha256 (previewOf sha256 id publicId host)
  intent := (cleanupOf sha256 (previewOf sha256 id publicId host)).toolInvocation
  digest := rfl
  founder := ⟨rfl, h.companyOf, h.unused.unanswered⟩
  previewRead := h.previewRead
  scope := List.forall_mem_singleton.mpr rfl
  bound := by
    have hstate : PreviewState.revoked ∈ removableStates := by decide
    exact ⟨rfl, rfl, hstate⟩
  consumable := ⟨JsMap.get_set_self, h.intentFits rfl rfl rfl rfl rfl rfl, rfl⟩

/-! ## What serves a session stays -/

theorem Servable.cacheBody (h : Servable sha256 id publicId host s) (read : ContentRead)
    (body : Bytes) : Servable sha256 id publicId host (cacheBody read body s) where
  toGrounded := h.toGrounded.cacheBody _ _
  sessionRead := h.sessionRead
  grantRead := h.grantRead
  previewRead := h.previewRead

theorem Servable.registered (h : Servable sha256 id publicId host s)
    (intent : ToolInvocationIntent) :
    Servable sha256 id publicId host (registered intent s) where
  toGrounded := ⟨h.companies, h.builds, h.now⟩
  sessionRead := h.sessionRead
  grantRead := h.grantRead
  previewRead := h.previewRead

theorem Servable.revokedFrom (h : Servable sha256 id publicId host s)
    (preview : PreviewAuthority) (hother : id ≠ preview.previewId) :
    Servable sha256 id publicId host (revokedFrom sha256 preview s) where
  toGrounded := h.toGrounded.revokedFrom _
  sessionRead := by
    refine JsMap.get_mapValues.trans ?_
    rw [h.sessionRead, Option.map_some]
    exact congrArg some (if_neg hother)
  grantRead := h.grantRead
  previewRead := (JsMap.get_set_of_ne hother).trans h.previewRead

/-! ## Runs of the sample -/

section Run

variable (sha256) (preview : PreviewAuthority)

def publishes : List Happening :=
  [.environs (.register (publicationOf sha256 preview).toolInvocation),
    .request (.publish (publicationOf sha256 preview))]

def withdraws : List Happening :=
  [.environs (.register (revocationOf sha256 preview).toolInvocation),
    .request (.revoke (revocationOf sha256 preview))]

def opens : List Happening :=
  [.environs (.register (grantRequestOf sha256 preview).toolInvocation),
    .request (.issueGrant (grantRequestOf sha256 preview)),
    .request (.exchange (exchangeRequestOf sha256 preview))]

end Run

theorem Publishable.run (h : Publishable sha256 id publicId host s) :
    Transition.run (serviceStep (sampleService sha256)) s
        (publishes sha256 (previewOf sha256 id publicId host)) =
      publishedFrom sha256 (previewOf sha256 id publicId host) s := by
  unfold publishes
  rw [Transition.run_cons, Transition.run_cons, Transition.run_nil,
    serviceStep_register rfl rfl h.unused.unregistered]
  exact (serviceStep_of_run h.publication.performs).trans h.publication_left

theorem Openable.run (h : Openable sha256 id publicId host s) :
    Transition.run (serviceStep (sampleService sha256)) s
        (opens sha256 (previewOf sha256 id publicId host)) =
      openedFrom sha256 (previewOf sha256 id publicId host) s := by
  unfold opens
  rw [Transition.run_cons, Transition.run_cons, Transition.run_cons, Transition.run_nil,
    serviceStep_register rfl rfl h.unissued.unregistered, serviceStep_of_run h.issuance.performs,
    h.issuance_left]
  exact (serviceStep_of_run h.exchange.performs).trans h.exchange_left

theorem Revocable.run (h : Revocable sha256 id publicId host s) :
    Transition.run (serviceStep (sampleService sha256)) s
        (withdraws sha256 (previewOf sha256 id publicId host)) =
      revokedFrom sha256 (previewOf sha256 id publicId host) s := by
  unfold withdraws
  rw [Transition.run_cons, Transition.run_cons, Transition.run_nil,
    serviceStep_register rfl rfl h.unused.unregistered]
  exact (serviceStep_of_run h.revocation.performs).trans h.revocation_left

theorem Removable.register (h : Removable sha256 id publicId host s) :
    serviceStep (sampleService sha256) s (.environs (.register
        (cleanupOf sha256 (previewOf sha256 id publicId host)).toolInvocation)) =
      registered (cleanupOf sha256 (previewOf sha256 id publicId host)).toolInvocation s :=
  serviceStep_register rfl rfl h.unused.unregistered

/-- Who has just exchanged a grant is served. -/
theorem Openable.servable (h : Openable sha256 id publicId host s) :
    Servable sha256 id publicId host
      (openedFrom sha256 (previewOf sha256 id publicId host) s) where
  toGrounded := h.toGrounded.openedFrom _
  sessionRead := JsMap.get_set_self
  grantRead := by
    have hnow : (grantedFrom sha256 (previewOf sha256 id publicId host) s).now = [] := h.now
    refine JsMap.get_set_self.trans ?_
    rw [hnow]
  previewRead := h.previewRead

section First

variable (sha256)

theorem unused_sampleState (key : JsString) : Unused key (sampleState sha256) := ⟨rfl, rfl⟩

theorem publishable_sample :
    Publishable sha256 (js "preview") (js "pp_1") (js "host") (sampleState sha256) where
  toGrounded := ⟨rfl, rfl, rfl⟩
  unused := unused_sampleState sha256 _
  previewRead := rfl
  unretired := List.not_mem_nil
  others := by
    intro candidate hcandidate hne
    change candidate ∈ [samplePreview sha256, otherPreview sha256] at hcandidate
    simp only [List.mem_cons, List.not_mem_nil, or_false] at hcandidate
    obtain rfl | rfl := hcandidate
    · exact absurd rfl hne
    · have hhosts : js "other-host" ≠ js "host" := by decide
      exact hhosts
  source := rfl
  free := rfl

def publishedState : PreviewProofState :=
  publishedFrom sha256 (samplePreview sha256) (sampleState sha256)

theorem unused_publishedState {key : JsString} (hkey : key ≠ js "publish-" ++ js "preview") :
    Unused key (publishedState sha256) :=
  (unused_sampleState sha256 key).publishedFrom (samplePreview sha256) hkey

theorem openable_sample :
    Openable sha256 (js "preview") (js "pp_1") (js "host") (publishedState sha256) where
  toGrounded := (publishable_sample sha256).toGrounded.publishedFrom _
  unissued := unused_publishedState sha256 (by decide)
  unexchanged := unused_publishedState sha256 (by decide)
  previewRead := rfl
  unknown := rfl

def openedState : PreviewProofState :=
  openedFrom sha256 (samplePreview sha256) (publishedState sha256)

theorem run_opened : Transition.run (serviceStep (sampleService sha256)) (sampleState sha256)
    (publishes sha256 (samplePreview sha256) ++ opens sha256 (samplePreview sha256)) =
      openedState sha256 := by
  rw [Transition.run_append]
  exact (congrArg (Transition.run _ · _) (publishable_sample sha256).run).trans
    (openable_sample sha256).run

theorem servable_sample : Servable sha256 (js "preview") (js "pp_1") (js "host")
    (openedState sha256) :=
  (openable_sample sha256).servable

theorem performs_sampleAccess :
    completes ((sampleService sha256).perform
        (.access (accessRequestOf sha256 (samplePreview sha256) (js "/a")))) (openedState sha256) =
      (.ok ((sampleService sha256).accessAllowed [] (servable_sample sha256).serving.read
          (sampleBody, .miss)),
        cacheBody (servable_sample sha256).serving.read sampleBody (openedState sha256)) :=
  (servable_sample sha256).performs_stored rfl rfl

def servedState : PreviewProofState :=
  cacheBody (servable_sample sha256).serving.read sampleBody (openedState sha256)

theorem unused_servedState {key : JsString} (hkey : key ∉ openingKeys (js "preview")) :
    Unused key (servedState sha256) :=
  ((unused_sampleState sha256 key).opened (samplePreview sha256) hkey).cacheBody _ _

theorem publishable_other :
    Publishable sha256 (js "other") (js "pp_2") (js "other-host") (servedState sha256) where
  toGrounded := (servable_sample sha256).toGrounded.cacheBody _ _
  unused := unused_servedState sha256 (by decide)
  previewRead := rfl
  unretired := List.not_mem_nil
  others := by
    intro candidate hcandidate hne
    change candidate ∈ [(sampleService sha256).availablePreview (samplePreview sha256),
      otherPreview sha256] at hcandidate
    simp only [List.mem_cons, List.not_mem_nil, or_false] at hcandidate
    obtain rfl | rfl := hcandidate
    · have hhosts : js "host" ≠ js "other-host" := by decide
      exact hhosts
    · exact absurd rfl hne
  source := rfl
  free := rfl

def otherPublishedState : PreviewProofState :=
  publishedFrom sha256 (otherPreview sha256) (servedState sha256)

theorem grantOf_other : grantOf (otherPublishedState sha256) (js "pg-other") = none := by
  refine List.find?_eq_none.mpr fun grant hgrant => ?_
  obtain ⟨grantId, hget⟩ := JsMap.mem_values.mp hgrant
  have hgrants : (otherPublishedState sha256).grants = (JsMap.empty.set
      (issuedGrant sha256 (samplePreview sha256)).grantId
      (issuedGrant sha256 (samplePreview sha256))).set
      (issuedGrant sha256 (samplePreview sha256)).grantId
      (consumedGrant [] (issuedGrant sha256 (samplePreview sha256))) := rfl
  have hnames : ¬ decide (js "pg-preview" = js "pg-other") = true := by decide
  rw [hgrants, JsMap.get_set] at hget
  split at hget
  · obtain rfl := Option.some.inj hget
    exact hnames
  · obtain ⟨-, rfl⟩ := get_set_empty hget
    exact hnames

theorem openable_other :
    Openable sha256 (js "other") (js "pp_2") (js "other-host") (otherPublishedState sha256) where
  toGrounded := (publishable_other sha256).toGrounded.publishedFrom _
  unissued := (unused_servedState sha256 (by decide)).publishedFrom
    (otherPreview sha256) (by
      have hkeys : js "grant-" ++ js "other" ≠ js "publish-" ++ js "other" := by decide
      exact hkeys)
  unexchanged := (unused_servedState sha256 (by decide)).publishedFrom
    (otherPreview sha256) (by
      have hkeys : js "exchange-" ++ js "other" ≠ js "publish-" ++ js "other" := by decide
      exact hkeys)
  previewRead := rfl
  unknown := grantOf_other sha256

def otherOpenedState : PreviewProofState :=
  openedFrom sha256 (otherPreview sha256) (otherPublishedState sha256)

theorem servable_other : Servable sha256 (js "other") (js "pp_2") (js "other-host")
    (otherOpenedState sha256) :=
  (openable_other sha256).servable

theorem fileKey_other :
    fileKey sha256 (otherPreview sha256) ≠ fileKey sha256 (samplePreview sha256) := by
  intro h
  have hpublicIds : js "pp_2" ≠ js "pp_1" := by decide
  exact hpublicIds (publicPreviewId_of_cacheKey h)

theorem performs_otherAccess :
    completes ((sampleService sha256).perform
        (.access (accessRequestOf sha256 (otherPreview sha256) (js "/a"))))
        (otherOpenedState sha256) =
      (.ok ((sampleService sha256).accessAllowed [] (servable_other sha256).serving.read
          (sampleBody, .miss)),
        cacheBody (servable_other sha256).serving.read sampleBody (otherOpenedState sha256)) :=
  (servable_other sha256).performs_stored (JsMap.get_set_of_ne (fileKey_other sha256)) rfl

def otherServedState : PreviewProofState :=
  cacheBody (servable_other sha256).serving.read sampleBody (otherOpenedState sha256)

theorem unused_otherServedState {key : JsString} (hkey : key ∉ openingKeys (js "preview"))
    (hother : key ∉ openingKeys (js "other")) : Unused key (otherServedState sha256) :=
  ((unused_servedState sha256 hkey).opened (otherPreview sha256) hother).cacheBody _ _

theorem revocable_sample :
    Revocable sha256 (js "preview") (js "pp_1") (js "host") (otherServedState sha256) where
  toGrounded := (servable_other sha256).toGrounded.cacheBody _ _
  unused := unused_otherServedState sha256 (by decide) (by decide)
  previewRead := rfl

def withdrawnState : PreviewProofState :=
  revokedFrom sha256 (samplePreview sha256) (otherServedState sha256)

theorem removable_sample :
    Removable sha256 (js "preview") (js "pp_1") (js "host") (withdrawnState sha256) where
  toGrounded := (revocable_sample sha256).toGrounded.revokedFrom _
  unused := (unused_otherServedState sha256 (by decide) (by decide)).revokedFrom
    (samplePreview sha256) (by
      have hkeys : js "cleanup-" ++ js "preview" ≠ js "revoke-" ++ js "preview" := by decide
      exact hkeys)
  previewRead := rfl

/-- Both previews are published, opened and read, the first one is revoked, and its cleanup is
registered. -/
def sampleHistory : List Happening :=
  publishes sha256 (samplePreview sha256) ++ opens sha256 (samplePreview sha256) ++
    [.request (.access (accessRequestOf sha256 (samplePreview sha256) (js "/a")))] ++
    publishes sha256 (otherPreview sha256) ++ opens sha256 (otherPreview sha256) ++
    [.request (.access (accessRequestOf sha256 (otherPreview sha256) (js "/a")))] ++
    withdraws sha256 (samplePreview sha256) ++
    [.environs (.register (cleanupOf sha256 (samplePreview sha256)).toolInvocation)]

def uncleanState : PreviewProofState :=
  registered (cleanupOf sha256 (samplePreview sha256)).toolInvocation (withdrawnState sha256)

theorem run_sampleHistory :
    Transition.run (serviceStep (sampleService sha256)) (sampleState sha256)
      (sampleHistory sha256) = uncleanState sha256 := by
  let step := serviceStep (sampleService sha256)
  have hserved : Transition.run step (openedState sha256)
      [.request (.access (accessRequestOf sha256 (samplePreview sha256) (js "/a")))] =
      servedState sha256 := serviceStep_of_run (performs_sampleAccess sha256)
  have hpublished : Transition.run step (servedState sha256)
      (publishes sha256 (otherPreview sha256)) = otherPublishedState sha256 :=
    (publishable_other sha256).run
  have hopened : Transition.run step (otherPublishedState sha256)
      (opens sha256 (otherPreview sha256)) = otherOpenedState sha256 :=
    (openable_other sha256).run
  have hotherServed : Transition.run step (otherOpenedState sha256)
      [.request (.access (accessRequestOf sha256 (otherPreview sha256) (js "/a")))] =
      otherServedState sha256 := serviceStep_of_run (performs_otherAccess sha256)
  have hwithdrawn : Transition.run step (otherServedState sha256)
      (withdraws sha256 (samplePreview sha256)) = withdrawnState sha256 :=
    (revocable_sample sha256).run
  unfold sampleHistory
  rw [Transition.run_append, Transition.run_append, Transition.run_append, Transition.run_append,
    Transition.run_append, Transition.run_append, run_opened, hserved, hpublished, hopened,
    hotherServed, hwithdrawn, Transition.run_cons, Transition.run_nil]
  exact (removable_sample sha256).register

theorem cached_uncleanState :
    (uncleanState sha256).cache.get (fileKey sha256 (otherPreview sha256)) =
      some (cachedFile sha256 (fileKey sha256 (otherPreview sha256))) :=
  JsMap.get_set_self

theorem servable_uncleanState :
    Servable sha256 (js "other") (js "pp_2") (js "other-host") (uncleanState sha256) := by
  have hids : js "other" ≠ js "preview" := by decide
  exact (((servable_other sha256).cacheBody _ _).revokedFrom (samplePreview sha256) hids).registered
    (cleanupOf sha256 (samplePreview sha256)).toolInvocation

end First

end Sample

end PreviewProof

end Aico
