import Aico.Foundation.Calls
import Aico.Foundation.Transition
import Aico.PreviewSpike.BrowserResponses

/-!
# The browser adapter

`handle` classifies a request, dispatches it and writes an entry of evidence. It awaits the
callback that authorizes content or exchanges a capability, and it awaits `dispatch` itself,
so other requests are handled in between, and what an entry counts is the difference of two
totals. A callback may answer anything or throw. An adapter is what the constructor has
checked: a host, its origin and a fixture whose digests are right.
-/

namespace Aico

namespace BrowserHttp

structure HostileFixtureAsset where
  path : JsString
  mediaType : JsString
  body : Bytes
  sha256 : JsString
deriving DecidableEq

structure HostileStaticFixture where
  schemaVersion : ℕ
  fixtureId : JsString
  documentPath : JsString
  assets : JsMap JsString HostileFixtureAsset

def allowedMediaTypes : List JsString :=
  [js "application/javascript", js "application/json", js "image/svg+xml", js "text/css",
    js "text/html"]

/-! ## The constructor -/

def isNameUnit (u : UInt16) : Bool := isDigitUnit u || isLowerUnit u

def isCanonicalHost (pf : BrowserPlatform) (value : JsString) : Bool :=
  value = pf.toLowerCase value && value.length ≤ 253 && value.all isHostUnit &&
    value.head?.any isNameUnit && value.getLast?.any isNameUnit && !decide (js ".." <:+: value) &&
    0x2E ∈ value

def fixtureMarker (pf : BrowserPlatform) (fixture : HostileStaticFixture) (marker : JsString) :
    Bool :=
  (fixture.assets.get fixture.documentPath).any fun asset =>
    decide (marker <:+: pf.decodeUtf8 asset.body)

def markers : List JsString :=
  [js "data-aico-probe=\"NAVIGATION\"", js "data-aico-probe=\"OPENER\"",
    js "data-aico-probe=\"DOWNLOAD\"", js "data-aico-probe=\"PRIVATE_CONTROL_REQUEST\""]

/-- Whether the asset is bound to its path, and its digest is the digest of its bytes. -/
def isBoundAsset (pf : BrowserPlatform) (path : JsString) (asset : HostileFixtureAsset) : Bool :=
  asset.path = path && path.head? = some 0x2F && asset.mediaType ∈ allowedMediaTypes &&
    pf.digest asset.body = asset.sha256

def isValidFixture (pf : BrowserPlatform) (fixture : HostileStaticFixture) : Bool :=
  fixture.schemaVersion = 1 && fixture.fixtureId = js "aico-007-hostile-static/v1" &&
    (fixture.assets.entries.all fun e => isBoundAsset pf e.1 e.2) &&
    markers.all (fixtureMarker pf fixture)

structure BrowserHttpAdapterOptions where
  canonicalHost : JsString
  canonicalOrigin : Option JsString
  fixture : HostileStaticFixture
  controls : Option ProofControls
  authorize : Bool
  exchange : Bool

/-- An adapter, with what its constructor has checked. A callback is a flag: what it does is
an answer of the outside. -/
structure DeterministicBrowserHttpAdapter where
  platform : BrowserPlatform
  canonicalHost : JsString
  canonicalOrigin : JsString
  fixture : HostileStaticFixture
  controls : ProofControls
  authorizeCallback : Bool
  exchangeCallback : Bool
  host_valid : isCanonicalHost platform canonicalHost = true
  origin_valid : canonicalOrigin = js "https://" ++ canonicalHost
  fixture_valid : isValidFixture platform fixture = true

/-- The constructor. It throws unless everything is valid. -/
def createBrowserHttpAdapter (pf : BrowserPlatform) (options : BrowserHttpAdapterOptions) :
    Option DeterministicBrowserHttpAdapter :=
  let expected := js "https://" ++ options.canonicalHost
  if hhost : isCanonicalHost pf options.canonicalHost = true then
    if horigin : options.canonicalOrigin.getD expected = expected then
      if hfixture : isValidFixture pf options.fixture = true then
        some
          { platform := pf
            canonicalHost := options.canonicalHost
            canonicalOrigin := options.canonicalOrigin.getD expected
            fixture := options.fixture
            controls := options.controls.getD defaultProofControls
            authorizeCallback := options.authorize
            exchangeCallback := options.exchange
            host_valid := hhost
            origin_valid := horigin
            fixture_valid := hfixture }
      else none
    else none
  else none

/-! ## Evidence -/

structure MutableTotals where
  requests : ℕ
  allowed : ℕ
  denied : ℕ
  authorizationCalls : ℕ
  exchangeCalls : ℕ
  objectReads : ℕ
  generatedBytes : ℕ

def emptyTotals : MutableTotals := ⟨0, 0, 0, 0, 0, 0, 0⟩

inductive DecisionClass where
  | allow
  | deny
deriving DecidableEq

structure BrowserHttpEvidenceEntry where
  sequence : ℕ
  requestClass : RequestClass
  methodClass : MethodClass
  pathClass : PathClass
  hostClass : HostClass
  originClass : OriginClass
  fetchSiteClass : FetchSiteClass
  decision : DecisionClass
  reasonClass : JsString
  status : ℕ
  policyProfile : PolicyProfile
  policyHeaderDigest : JsString
  authorizationCalls : ℤ
  exchangeCalls : ℤ
  objectReads : ℤ
  generatedBytes : ℕ

structure AdapterState where
  evidence : List BrowserHttpEvidenceEntry
  totals : MutableTotals

def AdapterState.initial : AdapterState where
  evidence := []
  totals := emptyTotals

def resetEvidence (_ : AdapterState) : AdapterState := .initial

structure DispatchResult where
  response : BrowserHttpResponse
  decision : DecisionClass
  reasonClass : JsString
  policyProfile : PolicyProfile
  generatedBytes : ℕ

/-! ## Callbacks -/

inductive AccessMethod where
  | get
  | head
deriving DecidableEq

structure BrowserAuthorizationInput where
  method : AccessMethod
  canonicalHost : JsString
  canonicalOrigin : JsString
  normalizedPath : JsString
  sessionPresentation : JsString
  fetchSite : Option JsString
  fetchMode : Option JsString
  fetchDestination : Option JsString

inductive BrowserAuthorizationDecision where
  | allowed
  | denied (reasonClass : JsString)

structure BrowserExchangeInput where
  canonicalHost : JsString
  canonicalOrigin : JsString
  capability : JsString
  fetchSite : Option JsString
  fetchMode : Option JsString
  fetchDestination : Option JsString

/-- A life time that is no safe integer is `none`. -/
inductive BrowserExchangeDecision where
  | allowed (sessionPresentation : JsString) (maxAgeSeconds : Option (Option ℤ))
      (redirectPath : Option JsString)
  | denied (reasonClass : JsString)

/-- Where a request waits. -/
inductive AdapterStop where
  | authorizing (input : BrowserAuthorizationInput)
  | exchanging (input : BrowserExchangeInput)
  | dispatched

inductive CallbackAnswer where
  | authorization (decision : BrowserAuthorizationDecision)
  | exchange (decision : BrowserExchangeDecision)
  | threw
  | resumed

def AdapterStop.fits : AdapterStop → CallbackAnswer → Bool
  | .authorizing _, .authorization _ => true
  | .authorizing _, .threw => true
  | .exchanging _, .exchange _ => true
  | .exchanging _, .threw => true
  | .dispatched, .resumed => true
  | _, _ => false

/-- A callback has thrown. -/
inductive AdapterError where
  | callback

abbrev HandleCall (α : Type) : Type := Coroutine AdapterState CallbackAnswer AdapterStop AdapterError α

open Coroutine

def CallbackAnswer.authorization? : CallbackAnswer → Option BrowserAuthorizationDecision
  | .authorization decision => some decision
  | _ => none

def CallbackAnswer.exchange? : CallbackAnswer → Option BrowserExchangeDecision
  | .exchange decision => some decision
  | _ => none

/-- Await a callback. What is no answer of it was thrown. -/
def ask {α : Type} (stop : AdapterStop) (read : CallbackAnswer → Option α) : HandleCall α := do
  let answer ← pause stop
  Coroutine.require (read answer) .callback

def consult {α : Type} (stop : AdapterStop) (read : CallbackAnswer → Option α) :
    HandleCall (Option α) :=
  catching (some <$> ask stop read) fun _ => pure none

def countTotals (f : MutableTotals → MutableTotals) : HandleCall PUnit :=
  modify fun s => { s with totals := f s.totals }

/-- The page that sends the capability of the fragment to the exchange. -/
def bootstrapScript : String :=
  "(() => \x7b\n  const c = location.hash.slice(1);\n" ++
  "  history.replaceState(null, '', location.pathname);\n  fetch('/__aico/exchange', \x7b\n" ++
  "    method: 'POST',\n    headers: \x7b 'content-type': 'application/octet-stream' \x7d,\n" ++
  "    body: c,\n    credentials: 'same-origin',\n    cache: 'no-store',\n" ++
  "    redirect: 'manual',\n  \x7d).finally(() => location.replace('/'));\n\x7d)();"

def bootstrapHtml : String :=
  "<!doctype html>\n<html lang=\"en\">\n<head><meta charset=\"utf-8\">" ++
  "<meta name=\"viewport\" content=\"width=device-width, initial-scale=1\">" ++
  "<title>Opening preview</title></head>\n<body><p>Opening preview...</p><script>" ++
  bootstrapScript ++ "</script></body>\n</html>\n"

def exchangeContentType : JsString := js "application/octet-stream"

namespace DeterministicBrowserHttpAdapter

variable (a : DeterministicBrowserHttpAdapter)

/-! ## Dispatching -/

def unavailable (reasonClass : JsString) (policyProfile : PolicyProfile := .generatedV1) :
    DispatchResult where
  response :=
    { status := 404
      headers := (policyHeaders policyProfile a.controls).assign
        [(js "Content-Length", js "0"), (js "Clear-Site-Data", clearSiteData)]
      body := [] }
  decision := .deny
  reasonClass := reasonClass
  policyProfile := policyProfile
  generatedBytes := 0

def generated (request : NormalizedRequest) (mediaType : JsString) (body : Bytes)
    (reasonClass : JsString) : DispatchResult where
  response := response 200 .generatedV1 mediaType body (request.method = js "HEAD") a.controls
  decision := .allow
  reasonClass := reasonClass
  policyProfile := .generatedV1
  generatedBytes := if request.method = js "HEAD" then 0 else body.length

def weakenedWorkerContent (request : NormalizedRequest) : DispatchResult :=
  a.generated request (js "application/javascript")
    (bufferFrom (js "self.addEventListener('fetch', () => undefined);\n")) (js "WEAK_WORKER_ROUTE")

def weakenedReservedRoute : DispatchResult where
  response :=
    { status := 204
      headers := (policyHeaders .generatedV1 a.controls).assign [(js "Content-Length", js "0")]
      body := [] }
  decision := .allow
  reasonClass := js "WEAK_RESERVED_ROUTE"
  policyProfile := .generatedV1
  generatedBytes := 0

def weakenedUnsafeRequest (request : NormalizedRequest) (path : JsString) :
    HandleCall DispatchResult :=
  match (a.fixture.assets.get path).or (a.fixture.assets.get (js "/")) with
  | none => pure (a.unavailable (js "OBJECT_UNAVAILABLE"))
  | some asset => do
      countTotals fun t => { t with objectReads := t.objectReads + 1 }
      pure (a.generated request asset.mediaType asset.body (js "WEAK_METHOD_PATH"))

/-- Whether the request asks for a part of a representation, or on a condition. -/
def hasRepresentationHeader (headers : Headers) : Bool :=
  hasHeader headers (js "range") || hasConditionalHeader headers

def isReadMethod (method : JsString) : Bool := method = js "GET" || method = js "HEAD"

def bootstrap (request : NormalizedRequest) : DispatchResult :=
  if a.controls.methodPathAndReferrerSafety && !isReadMethod request.method then
    a.unavailable (js "METHOD_DENIED") .bootstrapV1
  else if a.controls.methodPathAndReferrerSafety && hasRepresentationHeader request.headers then
    a.unavailable (js "REPRESENTATION_DENIED") .bootstrapV1
  else
    { response := response 200 .bootstrapV1 (js "text/html") (bufferFrom (js bootstrapHtml))
        (request.method = js "HEAD") a.controls
      decision := .allow
      reasonClass := js "BOOTSTRAP_FIXED"
      policyProfile := .bootstrapV1
      generatedBytes := 0 }

def setCookie (sessionPresentation : JsString) (maxAge : ℕ) : JsString :=
  authCookieName ++ js "=" ++ sessionPresentation ++
    (if a.controls.cookieIsolation then js "; Secure; HttpOnly; SameSite=Strict; Path=/; Max-Age="
      else js "; Domain=.preview.test; SameSite=None; Path=/; Max-Age=") ++ JsString.decimal maxAge

def exchanged : BrowserExchangeDecision → DispatchResult
  | .denied reasonClass => a.unavailable reasonClass .bootstrapV1
  | .allowed sessionPresentation maxAgeSeconds redirectPath =>
      if !safePresentation sessionPresentation then
        a.unavailable (js "SESSION_PRESENTATION_DENIED") .bootstrapV1
      else
        match maxAgeSeconds.getD (some 60) with
        | none => a.unavailable (js "SESSION_LIFETIME_DENIED") .bootstrapV1
        | some maxAge =>
            if maxAge < 1 ∨ 86400 < maxAge then
              a.unavailable (js "SESSION_LIFETIME_DENIED") .bootstrapV1
            else if redirectPath.any (· ≠ js "/") then
              a.unavailable (js "REDIRECT_PATH_DENIED") .bootstrapV1
            else
              { response :=
                  { status := 303
                    headers := (policyHeaders .bootstrapV1 a.controls).assign
                      [(js "Content-Length", js "0"), (js "Location", js "/"),
                        (js "Set-Cookie", a.setCookie sessionPresentation maxAge.toNat)]
                    body := [] }
                decision := .allow
                reasonClass := js "EXCHANGE_ALLOWED"
                policyProfile := .bootstrapV1
                generatedBytes := 0 }

def exchangeInput (request : NormalizedRequest) : BrowserExchangeInput where
  canonicalHost := a.canonicalHost
  canonicalOrigin := a.canonicalOrigin
  capability := a.platform.decodeUtf8 request.body
  fetchSite := firstHeader request.headers (js "sec-fetch-site")
  fetchMode := firstHeader request.headers (js "sec-fetch-mode")
  fetchDestination := firstHeader request.headers (js "sec-fetch-dest")

def originClass (request : NormalizedRequest) : OriginClass :=
  classifyOrigin a.platform (request.headers.get (js "origin")) a.canonicalOrigin

def cookie (request : NormalizedRequest) : CookieResult :=
  parsePresentationCookie (request.headers.get (js "cookie")) a.controls.cookieIsolation

def exchange (request : NormalizedRequest) : HandleCall DispatchResult :=
  let deny (reasonClass : JsString) : HandleCall DispatchResult :=
    pure (a.unavailable reasonClass .bootstrapV1)
  if request.method ≠ js "POST" then deny (js "METHOD_DENIED")
  else if a.controls.originAndHostIsolation ∧ a.originClass request ≠ .exact then
    deny (js "ORIGIN_DENIED")
  else if a.controls.originAndHostIsolation ∧
      firstHeader request.headers (js "sec-fetch-site") ≠ some (js "same-origin") then
    deny (js "FETCH_METADATA_DENIED")
  else if firstHeader request.headers (js "content-type") ≠ some exchangeContentType then
    deny (js "CONTENT_TYPE_DENIED")
  else if request.body.length = 0 ∨ maxRequestBodyBytes < request.body.length then
    deny (js "BODY_DENIED")
  else
    match a.cookie request with
    | .error reasonClass => deny reasonClass
    | .ok _ =>
        if !a.exchangeCallback then deny (js "EXCHANGE_UNAVAILABLE")
        else do
          countTotals fun t => { t with exchangeCalls := t.exchangeCalls + 1 }
          let decision ← consult (.exchanging (a.exchangeInput request)) CallbackAnswer.exchange?
          match decision with
          | none => deny (js "EXCHANGE_UNAVAILABLE")
          | some decision => pure (a.exchanged decision)

def authorizationInput (request : NormalizedRequest) (path sessionPresentation : JsString) :
    BrowserAuthorizationInput where
  method := if request.method = js "HEAD" then .head else .get
  canonicalHost := a.canonicalHost
  canonicalOrigin := a.canonicalOrigin
  normalizedPath := path
  sessionPresentation := sessionPresentation
  fetchSite := firstHeader request.headers (js "sec-fetch-site")
  fetchMode := firstHeader request.headers (js "sec-fetch-mode")
  fetchDestination := firstHeader request.headers (js "sec-fetch-dest")

/-- Whether the bytes of the asset are still the ones that its digest is of. -/
def isIntact (asset : HostileFixtureAsset) : Bool :=
  asset.mediaType ∈ allowedMediaTypes && a.platform.digest asset.body = asset.sha256

/-- The answer from the asset that was read for an authorized request. -/
def served (request : NormalizedRequest) : Option HostileFixtureAsset → DispatchResult
  | none => a.unavailable (js "OBJECT_UNAVAILABLE")
  | some asset =>
      if a.controls.scriptAndMimeIntegrity && !a.isIntact asset then
        a.unavailable (js "INTEGRITY_DENIED")
      else a.generated request asset.mediaType asset.body (js "CONTENT_ALLOWED")

def decided (request : NormalizedRequest) (path : JsString) :
    BrowserAuthorizationDecision → HandleCall DispatchResult
  | .denied reasonClass => pure (a.unavailable reasonClass)
  | .allowed => do
      countTotals fun t => { t with objectReads := t.objectReads + 1 }
      pure (a.served request (a.fixture.assets.get path))

/-- Ask the callback. What it throws is a denial. -/
def authorized (request : NormalizedRequest) (path sessionPresentation : JsString) :
    HandleCall DispatchResult := do
  countTotals fun t => { t with authorizationCalls := t.authorizationCalls + 1 }
  let decision ← consult
    (.authorizing (a.authorizationInput request path sessionPresentation))
    CallbackAnswer.authorization?
  match decision with
  | none => pure (a.unavailable (js "AUTHORITY_UNAVAILABLE"))
  | some decision => a.decided request path decision

def content (request : NormalizedRequest) (path : JsString) : HandleCall DispatchResult :=
  let deny (reasonClass : JsString) : HandleCall DispatchResult :=
    pure (a.unavailable reasonClass)
  let fetchSite := firstHeader request.headers (js "sec-fetch-site")
  if !a.controls.methodPathAndReferrerSafety ∧
      (request.method ≠ js "GET" ∨ hasRepresentationHeader request.headers = true) then
    a.weakenedUnsafeRequest request path
  else if a.controls.methodPathAndReferrerSafety ∧ isReadMethod request.method = false then
    deny (js "METHOD_DENIED")
  else if a.controls.methodPathAndReferrerSafety ∧
      hasRepresentationHeader request.headers = true then
    deny (js "REPRESENTATION_DENIED")
  else if a.controls.originAndHostIsolation ∧
      (a.originClass request = .malformed ∨ a.originClass request = .mismatch) then
    deny (js "ORIGIN_DENIED")
  else if a.controls.originAndHostIsolation ∧
      (fetchSite = some (js "cross-site") ∨ fetchSite = some (js "same-site")) then
    deny (js "FETCH_METADATA_DENIED")
  else
    match a.cookie request with
    | .error reasonClass => deny reasonClass
    | .ok none => deny (CookieResult.reasonClass (.ok none))
    | .ok (some sessionPresentation) =>
        if !a.controls.cookieIsolation then a.decided request path .allowed
        else if !a.authorizeCallback then deny (js "AUTHORITY_UNAVAILABLE")
        else a.authorized request path sessionPresentation

/-- A path that belongs to the platform or could control a worker. -/
def reservedRoute (request : NormalizedRequest) : DispatchResult :=
  if request.target.requestClass = .workerControl ∧ !a.controls.storageAndWorkerIsolation then
    a.weakenedWorkerContent request
  else if request.target.requestClass = .reserved ∧ !a.controls.exactCspAndTargetDenial then
    a.weakenedReservedRoute
  else a.unavailable (js "RESERVED_ROUTE")

def route (request : NormalizedRequest) (path : JsString) : HandleCall DispatchResult :=
  if request.target.relaxedUnsafe ∧ !a.controls.methodPathAndReferrerSafety then
    a.weakenedUnsafeRequest request path
  else if path = bootstrapPath then pure (a.bootstrap request)
  else if path = exchangePath then a.exchange request
  else if request.target.requestClass = .reserved ∨
      request.target.requestClass = .workerControl then pure (a.reservedRoute request)
  else a.content request path

def hostClass (request : NormalizedRequest) : HostClass :=
  classifyHost (request.headers.get (js "host")) a.canonicalHost

def dispatch (request : NormalizedRequest) : HandleCall DispatchResult :=
  if a.controls.originAndHostIsolation ∧ a.hostClass request ≠ .exact then
    pure (a.unavailable (js "HOST_DENIED"))
  else if !request.target.valid then pure (a.unavailable (js "PATH_DENIED"))
  else
    match request.target.normalizedPath with
    | none => pure (a.unavailable (js "PATH_DENIED"))
    | some path => a.route request path

/-! ## Handling -/

def normalized (input : BrowserHttpRequest) : NormalizedRequest :=
  normalizeRequest a.platform input a.fixture.documentPath a.controls.methodPathAndReferrerSafety

def counted (result : DispatchResult) (totals : MutableTotals) : MutableTotals :=
  { totals with
    requests := totals.requests + 1
    allowed := if result.decision = .allow then totals.allowed + 1 else totals.allowed
    denied := if result.decision = .allow then totals.denied else totals.denied + 1
    generatedBytes := totals.generatedBytes + result.generatedBytes }

def evidenceEntry (request : NormalizedRequest) (before : MutableTotals) (result : DispatchResult)
    (s : AdapterState) : BrowserHttpEvidenceEntry where
  sequence := s.evidence.length + 1
  requestClass := request.target.requestClass
  methodClass := methodClass request.method
  pathClass := request.target.pathClass
  hostClass := a.hostClass request
  originClass := a.originClass request
  fetchSiteClass := classifyFetchSite (firstHeader request.headers (js "sec-fetch-site"))
  decision := result.decision
  reasonClass := safeReasonClass result.reasonClass
  status := result.response.status
  policyProfile := result.policyProfile
  policyHeaderDigest := policyHeaderDigest a.platform result.response.headers result.policyProfile
    a.controls
  authorizationCalls := (s.totals.authorizationCalls : ℤ) - before.authorizationCalls
  exchangeCalls := (s.totals.exchangeCalls : ℤ) - before.exchangeCalls
  objectReads := (s.totals.objectReads : ℤ) - before.objectReads
  generatedBytes := result.generatedBytes

def recorded (request : NormalizedRequest) (before : MutableTotals) (result : DispatchResult)
    (s : AdapterState) : AdapterState where
  evidence := s.evidence ++ [a.evidenceEntry request before result s]
  totals := counted result s.totals

def handle (input : BrowserHttpRequest) : HandleCall BrowserHttpResponse := do
  let request := a.normalized input
  let before ← gets AdapterState.totals
  let result ← catching (a.dispatch request) fun _ => pure (a.unavailable (js "ADAPTER_FAILURE"))
  let _ ← pause .dispatched
  modify (a.recorded request before result)
  pure result.response

end DeterministicBrowserHttpAdapter

/-! ## Requests side by side -/

inductive BrowserAction where
  | handle (input : BrowserHttpRequest)
  | answer (n : ℕ) (answer : CallbackAnswer)
  | resetEvidence

abbrev BrowserSystem : Type :=
  Calls AdapterState CallbackAnswer AdapterStop AdapterError BrowserHttpResponse BrowserHttpRequest

/-- An answer goes to a request that waits for one of its kind. -/
def DeterministicBrowserHttpAdapter.step (a : DeterministicBrowserHttpAdapter)
    (s : BrowserSystem) : BrowserAction → BrowserSystem
  | .handle input => s.start input (a.handle input)
  | .answer n answer => if (s.point n).any (·.fits answer) then s.answer n answer else s
  | .resetEvidence => s.update resetEvidence

def DeterministicBrowserHttpAdapter.after (a : DeterministicBrowserHttpAdapter)
    (actions : List BrowserAction) : BrowserSystem :=
  Transition.run a.step (Calls.idle .initial) actions

end BrowserHttp

end Aico
