import Aico.PreviewSpike.BrowserRequests

/-!
# Responses at the boundary of a browser

Every response carries the policy headers of its profile. They depend on the profile and
on the controls alone, and no header that a response adds has the name of one of them, so
the digest of the policy headers of a response is the digest of its profile.
-/

namespace Aico

namespace BrowserHttp

inductive PolicyProfile where
  | bootstrapV1
  | generatedV1
deriving DecidableEq

abbrev ResponseHeaders := JsMap JsString JsString

structure BrowserHttpResponse where
  status : ℕ
  headers : ResponseHeaders
  body : Bytes

/-! ## Content security policies -/

def bootstrapScriptSha256 : String := "0K99yYE6jYGRdI008pEtqIua6cTps5n1zRKB0UzSqJA="

def generatedCsp : JsString := js
  ("default-src 'none'; script-src 'self'; style-src 'self'; img-src 'self' data:; " ++
    "font-src 'self'; media-src 'self'; connect-src 'none'; object-src 'none'; " ++
    "frame-src 'none'; child-src 'none'; worker-src 'none'; manifest-src 'none'; " ++
    "base-uri 'none'; form-action 'none'; frame-ancestors 'none'; " ++
    "sandbox allow-scripts allow-same-origin")

def bootstrapCsp : JsString := js
  ("default-src 'none'; script-src 'sha256-" ++ bootstrapScriptSha256 ++ "'; " ++
    "style-src 'none'; img-src 'none'; font-src 'none'; media-src 'none'; " ++
    "connect-src 'self'; object-src 'none'; frame-src 'none'; child-src 'none'; " ++
    "worker-src 'none'; manifest-src 'none'; base-uri 'none'; form-action 'none'; " ++
    "frame-ancestors 'none'; sandbox allow-scripts allow-same-origin")

/-- Whether the policy is the frozen one. -/
def hasExactCsp (controls : ProofControls) : Bool :=
  controls.storageAndWorkerIsolation && controls.openerNavigationAndFrameIsolation &&
    controls.exactCspAndTargetDenial && controls.scriptAndMimeIntegrity &&
    controls.methodPathAndReferrerSafety

def sandboxTokens (controls : ProofControls) : List String :=
  ["allow-scripts", "allow-same-origin"] ++
    if !controls.openerNavigationAndFrameIsolation then
      ["allow-downloads", "allow-forms", "allow-popups", "allow-top-navigation"]
    else if !controls.methodPathAndReferrerSafety then ["allow-downloads"]
    else []

/-- The directives that a weakened policy of either profile ends with, after what the
profile has of its own. -/
def weakenedDirectives (controls : ProofControls) (own : List String) (connect : String) :
    JsString :=
  js ("; ".intercalate (own ++ [
    if controls.exactCspAndTargetDenial then connect else "connect-src *",
    if controls.exactCspAndTargetDenial then "object-src 'none'" else "object-src *",
    if controls.exactCspAndTargetDenial then "frame-src 'none'" else "frame-src *",
    if controls.exactCspAndTargetDenial then "child-src 'none'" else "child-src *",
    if controls.storageAndWorkerIsolation then "worker-src 'none'" else "worker-src 'self'",
    if controls.storageAndWorkerIsolation then "manifest-src 'none'" else "manifest-src 'self'",
    "base-uri 'none'",
    if controls.exactCspAndTargetDenial then "form-action 'none'" else "form-action *",
    if controls.openerNavigationAndFrameIsolation then "frame-ancestors 'none'"
    else "frame-ancestors *",
    "sandbox " ++ " ".intercalate (sandboxTokens controls)]))

def generatedCspForControls (controls : ProofControls) : JsString :=
  if hasExactCsp controls then generatedCsp
  else weakenedDirectives controls
    ["default-src 'none'",
      if controls.scriptAndMimeIntegrity then "script-src 'self'"
      else "script-src 'self' 'unsafe-inline' 'unsafe-eval' https:",
      "style-src 'self'", "img-src 'self' data:", "font-src 'self'", "media-src 'self'"]
    "connect-src 'none'"

def bootstrapCspForControls (controls : ProofControls) : JsString :=
  if hasExactCsp controls then bootstrapCsp
  else weakenedDirectives controls
    ["default-src 'none'",
      if controls.scriptAndMimeIntegrity then "script-src 'sha256-" ++ bootstrapScriptSha256 ++ "'"
      else "script-src 'sha256-" ++ bootstrapScriptSha256 ++ "' 'unsafe-inline'",
      "style-src 'none'", "img-src 'none'", "font-src 'none'", "media-src 'none'"]
    "connect-src 'self'"

/-! ## Policy headers -/

def securityHeaders : List (JsString × JsString) :=
  [(js "Strict-Transport-Security", js "max-age=31536000; includeSubDomains"),
    (js "Cross-Origin-Opener-Policy", js "same-origin"),
    (js "Cross-Origin-Embedder-Policy", js "require-corp"),
    (js "Cross-Origin-Resource-Policy", js "same-origin"),
    (js "Origin-Agent-Cluster", js "?1"),
    (js "Referrer-Policy", js "no-referrer"),
    (js "X-Content-Type-Options", js "nosniff"),
    (js "X-Frame-Options", js "DENY"),
    (js "X-Permitted-Cross-Domain-Policies", js "none"),
    (js "Permissions-Policy", js
      ("accelerometer=(), ambient-light-sensor=(), autoplay=(), camera=(), " ++
        "clipboard-read=(), clipboard-write=(), display-capture=(), encrypted-media=(), " ++
        "fullscreen=(), geolocation=(), gyroscope=(), hid=(), magnetometer=(), " ++
        "microphone=(), midi=(), payment=(), picture-in-picture=(), " ++
        "publickey-credentials-create=(), publickey-credentials-get=(), " ++
        "screen-wake-lock=(), serial=(), storage-access=(), usb=(), web-share=(), " ++
        "xr-spatial-tracking=()"))]

def cacheHeaders : List (JsString × JsString) :=
  [(js "Cache-Control", js "private, no-store, no-transform"), (js "Pragma", js "no-cache"),
    (js "Expires", js "0"), (js "CDN-Cache-Control", js "no-store"),
    (js "Surrogate-Control", js "no-store")]

def clearSiteData : JsString := js "\"cache\", \"cookies\", \"storage\""

def unlessControl (control : Bool) (f : ResponseHeaders → ResponseHeaders)
    (headers : ResponseHeaders) : ResponseHeaders :=
  if control then headers else f headers

def securityHeadersForControls (controls : ProofControls) : ResponseHeaders :=
  let headers : ResponseHeaders := JsMap.empty.assign securityHeaders
  let headers := unlessControl controls.originAndHostIsolation (fun headers =>
    (headers.delete (js "Strict-Transport-Security")).assign
      [(js "Cross-Origin-Embedder-Policy", js "unsafe-none"),
        (js "Cross-Origin-Resource-Policy", js "cross-origin")]) headers
  let headers := unlessControl controls.openerNavigationAndFrameIsolation (fun headers =>
    headers.assign [(js "Cross-Origin-Opener-Policy", js "unsafe-none"),
      (js "X-Frame-Options", js "SAMEORIGIN")]) headers
  let headers := unlessControl controls.exactCspAndTargetDenial (fun headers =>
    headers.assign [(js "Access-Control-Allow-Origin", js "*")]) headers
  let headers := unlessControl controls.scriptAndMimeIntegrity (fun headers =>
    headers.delete (js "X-Content-Type-Options")) headers
  unlessControl controls.methodPathAndReferrerSafety (fun headers =>
    headers.assign [(js "Referrer-Policy", js "unsafe-url")]) headers

def policyHeaders (profile : PolicyProfile) (controls : ProofControls) : ResponseHeaders :=
  let csp : ResponseHeaders := JsMap.empty.set (js "Content-Security-Policy") <|
    match profile with
    | .bootstrapV1 => bootstrapCspForControls controls
    | .generatedV1 => generatedCspForControls controls
  (csp.assign (securityHeadersForControls controls).entries).assign cacheHeaders

def response (status : ℕ) (profile : PolicyProfile) (mediaType : JsString) (body : Bytes)
    (head : Bool) (controls : ProofControls) : BrowserHttpResponse where
  status := status
  headers := (policyHeaders profile controls).assign
    [(js "Content-Type", mediaType), (js "Content-Length", JsString.decimal body.length)]
  body := if head then [] else body

def policyLines (pf : BrowserPlatform) (headers : ResponseHeaders) (names : List JsString) :
    List JsString :=
  names.map fun name => pf.toLowerCase name ++ js ":" ++ (headers.get name).getD []

/-- The digest of the policy headers of a response, under the names of its profile. -/
def policyHeaderDigest (pf : BrowserPlatform) (headers : ResponseHeaders) (profile : PolicyProfile)
    (controls : ProofControls) : JsString :=
  let names := (policyHeaders profile controls).keys.mergeSort
    fun left right => (pf.localeCompare left right).isLE
  pf.digest (bufferFrom ((js "\n").intercalate (policyLines pf headers names) ++ js "\n"))

/-! ## What every response carries -/

def policyNames : List JsString :=
  [js "Content-Security-Policy", js "Access-Control-Allow-Origin"] ++
    securityHeaders.map Prod.fst ++ cacheHeaders.map Prod.fst

def addedNames : List JsString :=
  [js "Content-Type", js "Content-Length", js "Clear-Site-Data", js "Location", js "Set-Cookie"]

theorem addedNames_apart : ∀ name ∈ addedNames, name ∉ policyNames := by
  decide

theorem keys_unlessControl {control : Bool} {f : ResponseHeaders → ResponseHeaders}
    {headers : ResponseHeaders} (h : ∀ name ∈ headers.keys, name ∈ policyNames)
    (hf : ∀ name ∈ (f headers).keys, name ∈ policyNames ∨ name ∈ headers.keys) :
    ∀ name ∈ (unlessControl control f headers).keys, name ∈ policyNames := by
  intro name hname
  unfold unlessControl at hname
  split at hname
  · exact h name hname
  · exact (hf name hname).elim id (h name)

theorem keys_unlessControl_assign {control : Bool} {entries : List (JsString × JsString)}
    {headers : ResponseHeaders} (h : ∀ name ∈ headers.keys, name ∈ policyNames)
    (hentries : ∀ name ∈ entries.map Prod.fst, name ∈ policyNames) :
    ∀ name ∈ (unlessControl control (fun headers => headers.assign entries) headers).keys,
      name ∈ policyNames :=
  keys_unlessControl h fun _ hname =>
    (JsMap.mem_keys_assign.mp hname).imp (hentries _) id

theorem keys_securityHeadersForControls (controls : ProofControls) :
    ∀ name ∈ (securityHeadersForControls controls).keys, name ∈ policyNames := by
  have hstart : ∀ name ∈ (JsMap.empty.assign securityHeaders).keys, name ∈ policyNames := by
    intro name hname
    rcases JsMap.mem_keys_assign.mp hname with h | h
    · exact List.mem_append_left _ (List.mem_append_right _ h)
    · cases h
  unfold securityHeadersForControls
  apply keys_unlessControl_assign
  · apply keys_unlessControl
    · apply keys_unlessControl_assign
      · apply keys_unlessControl_assign
        · apply keys_unlessControl hstart
          intro name hname
          rcases JsMap.mem_keys_assign.mp hname with h | h
          · have hnames : ∀ name ∈ [js "Cross-Origin-Embedder-Policy",
                js "Cross-Origin-Resource-Policy"], name ∈ policyNames := by decide
            exact .inl (hnames name h)
          · exact .inr (JsMap.mem_keys_delete h)
        · decide
      · decide
    · exact fun _ hname => .inr (JsMap.mem_keys_delete hname)
  · decide

theorem keys_policyHeaders (profile : PolicyProfile) (controls : ProofControls) :
    ∀ name ∈ (policyHeaders profile controls).keys, name ∈ policyNames := by
  intro name hname
  rcases JsMap.mem_keys_assign.mp hname with h | h
  · exact List.mem_append_right _ h
  · rcases JsMap.mem_keys_assign.mp h with h | h
    · exact keys_securityHeadersForControls controls name h
    · rcases JsMap.mem_keys_set.mp h with rfl | h
      · decide
      · cases h

/-- Headers that begin with the policy headers of the profile, and none of them replaced. -/
def CarriesPolicy (profile : PolicyProfile) (controls : ProofControls)
    (headers : ResponseHeaders) : Prop :=
  ∀ name ∈ (policyHeaders profile controls).keys,
    headers.get name = (policyHeaders profile controls).get name

theorem carriesPolicy_assign (profile : PolicyProfile) (controls : ProofControls)
    {entries : List (JsString × JsString)} (h : ∀ name ∈ entries.map Prod.fst, name ∈ addedNames) :
    CarriesPolicy profile controls ((policyHeaders profile controls).assign entries) := by
  intro name hname
  apply JsMap.get_assign_of_not_mem
  intro hadded
  exact addedNames_apart name (h name hadded) (keys_policyHeaders profile controls name hname)

theorem CarriesPolicy.policyHeaderDigest_eq {profile : PolicyProfile} {controls : ProofControls}
    {headers : ResponseHeaders} (h : CarriesPolicy profile controls headers)
    (pf : BrowserPlatform) :
    policyHeaderDigest pf headers profile controls =
      policyHeaderDigest pf (policyHeaders profile controls) profile controls := by
  have hlines : ∀ names : List JsString,
      (∀ name ∈ names, name ∈ (policyHeaders profile controls).keys) →
      policyLines pf headers names = policyLines pf (policyHeaders profile controls) names := by
    intro names hnames
    refine List.map_congr_left fun name hname => ?_
    rw [h name (hnames name hname)]
  unfold policyHeaderDigest
  simp only
  rw [hlines]
  intro name hname
  exact (List.mergeSort_perm _ _).mem_iff.mp hname

end BrowserHttp

end Aico
