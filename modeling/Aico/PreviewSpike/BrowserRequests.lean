import Aico.Foundation.JsMap
import Aico.Json.Canonical
import Aico.Schema.Tenant

/-!
# Requests at the boundary of a browser

What the browser adapter reads off a request: its method, its target, its headers and the
session that its cookie presents. A target is classified before anything else is done with
it, and a path that is not written in its plain form is rejected, unless the control for
that is off. The cookie header is parsed strictly: it is rejected as a whole for one pair
that is malformed, and for a second pair with the name of the session.
-/

namespace Aico

namespace BrowserHttp

/-- The controls that the adapter reads. -/
structure ProofControls where
  originAndHostIsolation : Bool
  cookieIsolation : Bool
  storageAndWorkerIsolation : Bool
  openerNavigationAndFrameIsolation : Bool
  exactCspAndTargetDenial : Bool
  scriptAndMimeIntegrity : Bool
  methodPathAndReferrerSafety : Bool

def defaultProofControls : ProofControls where
  originAndHostIsolation := true
  cookieIsolation := true
  storageAndWorkerIsolation := true
  openerNavigationAndFrameIsolation := true
  exactCspAndTargetDenial := true
  scriptAndMimeIntegrity := true
  methodPathAndReferrerSafety := true

/-- What `new URL` makes of a text. -/
structure ParsedUrl where
  origin : JsString
  username : JsString
  password : JsString

structure BrowserPlatform where
  toLowerCase : JsString → JsString
  toUpperCase : JsString → JsString
  localeCompare : JsString → JsString → Ordering
  parseUrl : JsString → Option ParsedUrl
  decodeUtf8 : Bytes → JsString
  sha256 : Bytes → JsString

namespace BrowserPlatform

variable (pf : BrowserPlatform)

def digest (bytes : Bytes) : JsString := js "sha256:" ++ pf.sha256 bytes

end BrowserPlatform

/-- A lone surrogate is replaced when a text is written as UTF-8. -/
def toWellFormed : JsString → JsString
  | [] => []
  | [u] => if JsString.isHighSurrogate u || JsString.isLowSurrogate u then [0xFFFD] else [u]
  | u :: v :: rest =>
      if JsString.isHighSurrogate u && JsString.isLowSurrogate v then u :: v :: toWellFormed rest
      else if JsString.isHighSurrogate u || JsString.isLowSurrogate u then
        0xFFFD :: toWellFormed (v :: rest)
      else u :: toWellFormed (v :: rest)

/-- `Buffer.from(text, 'utf8')`. -/
def bufferFrom (text : JsString) : Bytes := (Json.utf8 (toWellFormed text)).map UInt8.ofNat

def maxCookieHeaderBytes : ℕ := 2048
def maxRequestBodyBytes : ℕ := 4096
def maxRequestTargetBytes : ℕ := 2048

def authCookieName : JsString := js "__Host-aico_preview"
def bootstrapPath : JsString := js "/__aico/bootstrap"
def exchangePath : JsString := js "/__aico/exchange"

/-! ## Requests -/

inductive HeaderInputValue where
  | one (value : JsString)
  | many (values : List JsString)
  | undefined

inductive RequestBody where
  | absent
  | bytes (body : Bytes)
  | text (body : JsString)

/-- A request as it arrives. The headers are listed in the order of their object. -/
structure BrowserHttpRequest where
  method : JsString
  target : JsString
  headers : List (JsString × HeaderInputValue)
  body : RequestBody

inductive RequestClass where
  | bootstrap
  | exchange
  | fixture
  | invalid
  | reserved
  | unknown
  | workerControl
deriving DecidableEq

inductive PathClass where
  | bootstrap
  | document
  | exchange
  | fixtureAsset
  | invalid
  | other
  | reservedPlatform
  | workerControl
deriving DecidableEq

structure TargetClassification where
  valid : Bool
  normalizedPath : Option JsString
  pathClass : PathClass
  requestClass : RequestClass
  relaxedUnsafe : Bool := false

abbrev Headers := JsMap JsString (List JsString)

structure NormalizedRequest where
  method : JsString
  target : TargetClassification
  headers : Headers
  body : Bytes

/-! ## Units -/

def isDigitUnit (u : UInt16) : Bool := 0x30 ≤ u && u ≤ 0x39
def isLowerUnit (u : UInt16) : Bool := 0x61 ≤ u && u ≤ 0x7A
def isUpperUnit (u : UInt16) : Bool := 0x41 ≤ u && u ≤ 0x5A

/-- The marks that may stand in the name of a header or of a cookie. -/
def tokenMarks : JsString := js "!#$%&'*+.^_`|~-"

def isHeaderNameUnit (u : UInt16) : Bool := u ∈ tokenMarks || isDigitUnit u || isLowerUnit u

def isCookieNameUnit (u : UInt16) : Bool := isHeaderNameUnit u || isUpperUnit u

def isPresentationUnit (u : UInt16) : Bool :=
  u ∈ js "._~-" || isDigitUnit u || isLowerUnit u || isUpperUnit u

def isHostUnit (u : UInt16) : Bool := u ∈ js ".-" || isDigitUnit u || isLowerUnit u

def safePresentation (value : JsString) : Bool :=
  1 ≤ value.length && value.length ≤ 1024 && value.all isPresentationUnit

/-! ## Targets -/

def isWorkerControlPath (path : JsString) : Bool :=
  path = js "/sw.js" || path = js "/service-worker.js" || path = js "/manifest.webmanifest" ||
    (js "/sw.js").isSuffixOf path || (js "/service-worker.js").isSuffixOf path

def containsDisallowedTargetCodePoint (target : JsString) : Bool :=
  target.any fun u => u = 0x5C || u = 0x25 || u ≤ 0x1F || u = 0x7F

/-- A target that is rejected, or is read as `/` where paths are not checked. -/
def rejectedTarget (strictPathSafety : Bool) : TargetClassification :=
  if !strictPathSafety then
    { valid := true
      normalizedPath := some (js "/")
      pathClass := .document
      requestClass := .fixture
      relaxedUnsafe := true }
  else
    { valid := false
      normalizedPath := none
      pathClass := .invalid
      requestClass := .invalid }

def pathPart (target : JsString) : JsString := target.takeWhile (· ≠ 0x3F)

def isDotSegment (segment : JsString) : Bool :=
  segment = [] || segment = js "." || segment = js ".."

def classifyPath (documentPath path : JsString) : TargetClassification :=
  if path = bootstrapPath then ⟨true, some path, .bootstrap, .bootstrap, false⟩
  else if path = exchangePath then ⟨true, some path, .exchange, .exchange, false⟩
  else if isWorkerControlPath path then ⟨true, some path, .workerControl, .workerControl, false⟩
  else if path = js "/__aico" || (js "/__aico/").isPrefixOf path then
    ⟨true, some path, .reservedPlatform, .reserved, false⟩
  else if path = js "/" || path = documentPath then ⟨true, some path, .document, .fixture, false⟩
  else if (js "/assets/").isPrefixOf path then ⟨true, some path, .fixtureAsset, .fixture, false⟩
  else ⟨true, some path, .other, .unknown, false⟩

def classifyTarget (target documentPath : JsString) (strictPathSafety : Bool) :
    TargetClassification :=
  if maxRequestTargetBytes < (Json.utf8 target).length || target.head? ≠ some 0x2F ||
      0x23 ∈ target || containsDisallowedTargetCodePoint target then
    rejectedTarget strictPathSafety
  else
    let path := pathPart target
    if decide (js "//" <:+: path) || (1 < path.length && path.getLast? = some 0x2F) then
      rejectedTarget strictPathSafety
    else if path ≠ js "/" && ((path.splitOn 0x2F).drop 1).any isDotSegment then
      rejectedTarget strictPathSafety
    else classifyPath documentPath path

/-! ## Headers -/

def isHeaderName (name : JsString) : Bool := name ≠ [] && name.all isHeaderNameUnit

def HeaderInputValue.values : HeaderInputValue → Option (List JsString)
  | .one value => some [value]
  | .many values => some values
  | .undefined => none

/-- The values of names that are spelled differently are collected under one name. -/
def addHeader (pf : BrowserPlatform) (headers : Headers) (entry : JsString × HeaderInputValue) :
    Headers :=
  let name := pf.toLowerCase (JsString.trim entry.1)
  match entry.2.values with
  | none => headers
  | some values =>
      if isHeaderName name then headers.set name ((headers.get name).getD [] ++ values)
      else headers

def RequestBody.buffer : RequestBody → Bytes
  | .absent => []
  | .bytes body => body
  | .text body => bufferFrom body

def normalizeRequest (pf : BrowserPlatform) (input : BrowserHttpRequest) (documentPath : JsString)
    (strictPathSafety : Bool) : NormalizedRequest where
  method := pf.toUpperCase (JsString.trim input.method)
  target := classifyTarget input.target documentPath strictPathSafety
  headers := input.headers.foldl (addHeader pf) .empty
  body := input.body.buffer

def firstHeader (headers : Headers) (name : JsString) : Option JsString :=
  match headers.get name with
  | some [value] => some value
  | _ => none

def hasHeader (headers : Headers) (name : JsString) : Bool :=
  ((headers.get name).getD []).length ≠ 0

def hasConditionalHeader (headers : Headers) : Bool :=
  [js "if-match", js "if-modified-since", js "if-none-match", js "if-range",
    js "if-unmodified-since"].any (hasHeader headers)

inductive HostClass where
  | exact
  | malformed
  | mismatch
  | missing
deriving DecidableEq

def isHostText (value : JsString) : Bool :=
  match value.splitOn 0x3A with
  | [name] => name ≠ [] && name.all isHostUnit
  | [name, port] => name ≠ [] && name.all isHostUnit && 1 ≤ port.length && port.length ≤ 5 &&
      port.all isDigitUnit
  | _ => false

def classifyHost (values : Option (List JsString)) (canonicalHost : JsString) : HostClass :=
  match values with
  | none => .missing
  | some [] => .missing
  | some [value] =>
      if !isHostText value then .malformed
      else if value = canonicalHost then .exact else .mismatch
  | some _ => .malformed

inductive OriginClass where
  | absent
  | exact
  | malformed
  | mismatch
deriving DecidableEq

def isOriginText (pf : BrowserPlatform) (value : JsString) : Bool :=
  match pf.parseUrl value with
  | some parsed => parsed.origin = value && parsed.username = [] && parsed.password = []
  | none => false

def classifyOrigin (pf : BrowserPlatform) (values : Option (List JsString))
    (canonicalOrigin : JsString) : OriginClass :=
  match values with
  | none => .absent
  | some [] => .absent
  | some [value] =>
      if !isOriginText pf value then .malformed
      else if value = canonicalOrigin then .exact else .mismatch
  | some _ => .malformed

inductive FetchSiteClass where
  | absent
  | crossSite
  | none
  | sameOrigin
  | sameSite
  | other
deriving DecidableEq

def classifyFetchSite (value : Option JsString) : FetchSiteClass :=
  match value with
  | .none => .absent
  | some value =>
      if value = js "cross-site" then .crossSite
      else if value = js "none" then .none
      else if value = js "same-origin" then .sameOrigin
      else if value = js "same-site" then .sameSite
      else .other

inductive MethodClass where
  | get
  | head
  | options
  | post
  | other
deriving DecidableEq

def methodClass (method : JsString) : MethodClass :=
  if method = js "GET" then .get
  else if method = js "HEAD" then .head
  else if method = js "OPTIONS" then .options
  else if method = js "POST" then .post
  else .other

/-! ## The session cookie -/

/-- The reason class of an answer that is not given. A header that is accepted may present no
session. -/
abbrev CookieResult := Except JsString (Option JsString)

def CookieResult.reasonClass : CookieResult → JsString
  | .ok (some _) => js "COOKIE_VALID"
  | .ok none => js "COOKIE_ABSENT"
  | .error reasonClass => reasonClass

def parsePair (pair : JsString) : Option (JsString × JsString) :=
  let trimmed := JsString.trim pair
  let name := trimmed.takeWhile (· ≠ 0x3D)
  let value := trimmed.drop (name.length + 1)
  if 0x3D ∈ trimmed ∧ name ≠ [] ∧ name.all isCookieNameUnit = true ∧
      safePresentation value = true then some (name, value)
  else none

/-- The loop over the pairs, with the session that was found before them. -/
def parsePairs : List JsString → Option JsString → CookieResult
  | [], presentation => .ok presentation
  | pair :: rest, presentation =>
      match parsePair pair with
      | none => .error (js "COOKIE_HEADER_MALFORMED")
      | some (name, value) =>
          if name ≠ authCookieName then parsePairs rest presentation
          else if presentation ≠ none then .error (js "COOKIE_AUTH_DUPLICATE")
          else parsePairs rest (some value)

/-- Every text after the name of the session, where cookies are not isolated. -/
def cookieCandidates (values : List JsString) : List JsString :=
  let opening := authCookieName ++ js "="
  let pairs := ((js ";").intercalate values).splitOn 0x3B
  ((((pairs.map JsString.trim).filter opening.isPrefixOf).map (·.drop opening.length)).filter
    safePresentation)

def parsePresentationCookie (values : Option (List JsString)) (strictIsolation : Bool) :
    CookieResult :=
  match values with
  | none => .ok none
  | some [] => .ok none
  | some values =>
      if !strictIsolation then .ok (cookieCandidates values).getLast?
      else
        match values with
        | [header] =>
            if maxCookieHeaderBytes < (Json.utf8 header).length then
              .error (js "COOKIE_HEADER_OVERSIZED")
            else parsePairs (header.splitOn 0x3B) none
        | _ => .error (js "COOKIE_HEADER_DUPLICATE")

/-! ## Reason classes -/

def isReasonUnit (u : UInt16) : Bool := isUpperUnit u || isDigitUnit u || u = 0x5F

def safeReasonClass (value : JsString) : JsString :=
  if (value.head?.any isUpperUnit && value.length ≤ 48 && value.all isReasonUnit) = true then value
  else js "UNSAFE_REASON_CLASS"

end BrowserHttp

end Aico
