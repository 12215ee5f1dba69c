import Aico.PreviewSpike.BrowserDialogues

/-!
# What an answer rests on

A response of the adapter is one of two fixed denials, or it is backed: the fixed page of
the bootstrap, the redirect of an exchange that the callback has allowed, or the bytes at a
plain path, which the callback has allowed to the session that the cookie presents. Five of
the controls are what this rests on, and it fails without any one of them.
-/

namespace Aico

namespace BrowserHttp

/-- A path that is written as it is meant: nothing in it is escaped, and no segment is empty
or leads upwards. -/
structure IsPlainPath (path : JsString) : Prop where
  rooted : path.head? = some 0x2F
  unescaped : ∀ u ∈ path, u ≠ 0x25 ∧ u ≠ 0x5C ∧ 0x1F < u ∧ u ≠ 0x7F ∧ u ≠ 0x3F ∧ u ≠ 0x23
  segments : path = js "/" ∨ ∀ segment ∈ (path.splitOn 0x2F).drop 1, isDotSegment segment = false

/-- A path that is neither the platform's nor one that a worker is loaded from. -/
def IsPublicPath (path : JsString) : Prop :=
  path ≠ js "/__aico" ∧ ¬ js "/__aico/" <+: path ∧ isWorkerControlPath path = false

theorem mem_pathPart {target : JsString} {u : UInt16} (h : u ∈ pathPart target) :
    u ∈ target ∧ u ≠ 0x3F :=
  ⟨(List.takeWhile_prefix _).subset h, by simpa using List.mem_takeWhile_imp h⟩

theorem head?_pathPart {target : JsString} (h : target.head? = some 0x2F) :
    (pathPart target).head? = some 0x2F := by
  cases target with
  | nil => cases h
  | cons u rest =>
      obtain rfl : u = 0x2F := Option.some.inj h
      rfl

/-- The classification of a path keeps it and says what kind of path it is. -/
theorem classifyPath_spec (documentPath path : JsString) :
    (classifyPath documentPath path).valid = true ∧
      (classifyPath documentPath path).normalizedPath = some path ∧
      (path ≠ bootstrapPath → path ≠ exchangePath →
        (classifyPath documentPath path).requestClass ≠ .reserved →
        (classifyPath documentPath path).requestClass ≠ .workerControl → IsPublicPath path) := by
  unfold classifyPath IsPublicPath
  split_ifs <;> simp_all

theorem isPlainPath_of_checks {target : JsString} (hrooted : target.head? = some 0x2F)
    (hfragment : 0x23 ∉ target) (hunits : containsDisallowedTargetCodePoint target = false)
    (hsegments : (pathPart target ≠ js "/" &&
      (((pathPart target).splitOn 0x2F).drop 1).any isDotSegment) = false) :
    IsPlainPath (pathPart target) where
  rooted := head?_pathPart hrooted
  unescaped u hu := by
    obtain ⟨hmem, hquery⟩ := mem_pathPart hu
    have hunit := List.any_eq_false.mp hunits u hmem
    simp only [Bool.or_eq_true, decide_eq_true_eq, not_or] at hunit
    refine ⟨hunit.1.1.2, hunit.1.1.1, UInt16.not_le.mp hunit.1.2, hunit.2, hquery, ?_⟩
    rintro rfl
    exact hfragment hmem
  segments := by
    by_cases hroot : pathPart target = js "/"
    · exact .inl hroot
    · refine .inr fun segment hmem => ?_
      have hnone : (((pathPart target).splitOn 0x2F).drop 1).any isDotSegment = false := by
        simpa [hroot] using hsegments
      simpa using List.any_eq_false.mp hnone segment hmem

theorem classifyTarget_strict {target documentPath : JsString}
    (hvalid : (classifyTarget target documentPath true).valid = true) :
    IsPlainPath (pathPart target) ∧
      classifyTarget target documentPath true = classifyPath documentPath (pathPart target) := by
  unfold classifyTarget at hvalid ⊢
  split at hvalid
  · cases hvalid
  · next htarget =>
      simp only at hvalid ⊢
      split at hvalid
      · cases hvalid
      · next hshape =>
          split at hvalid
          · cases hvalid
          · next hsegments =>
              have hchecks := htarget
              simp only [Bool.or_eq_true, decide_eq_true_eq, not_or, not_lt, not_not] at hchecks
              obtain ⟨⟨⟨-, hrooted⟩, hfragment⟩, hunits⟩ := hchecks
              refine ⟨isPlainPath_of_checks hrooted hfragment (by simpa using hunits)
                (by simpa using hsegments), ?_⟩
              rw [if_neg htarget, if_neg hshape, if_neg hsegments]

/-! ## Backed responses -/

/-- The controls that the backing of a response rests on. -/
structure ProofControls.Guards (controls : ProofControls) : Prop where
  originAndHostIsolation : controls.originAndHostIsolation = true
  cookieIsolation : controls.cookieIsolation = true
  storageAndWorkerIsolation : controls.storageAndWorkerIsolation = true
  exactCspAndTargetDenial : controls.exactCspAndTargetDenial = true
  methodPathAndReferrerSafety : controls.methodPathAndReferrerSafety = true

namespace DeterministicBrowserHttpAdapter

variable (a : DeterministicBrowserHttpAdapter)

/-- The two responses of a denial. They tell nothing but the profile. -/
def unavailableResponse (profile : PolicyProfile) : BrowserHttpResponse :=
  (a.unavailable [] profile).response

/-- What a response other than a denial rests on, after the dialogue of its dispatch. -/
inductive Backed (input : BrowserHttpRequest) : Dialogue → BrowserHttpResponse → Prop
  | page (host : a.hostClass (a.normalized input) = .exact)
      (path : pathPart input.target = bootstrapPath) :
      Backed input [] (response 200 .bootstrapV1 (js "text/html") (bufferFrom (js bootstrapHtml))
        ((a.normalized input).method = js "HEAD") a.controls)
  | redirect (offers : a.Offers (a.normalized input)) (decision : BrowserExchangeDecision)
      (allowed : (a.exchanged decision).decision = .allow) :
      Backed input [(.exchanging (a.exchangeInput (a.normalized input)), .exchange decision)]
        (a.exchanged decision).response
  | content (sessionPresentation : JsString) (asset : HostileFixtureAsset)
      (presents : a.Presents (a.normalized input) (pathPart input.target) sessionPresentation)
      (plain : IsPlainPath (pathPart input.target)) (isPublic : IsPublicPath (pathPart input.target))
      (found : a.fixture.assets.get (pathPart input.target) = some asset)
      (intact : a.isIntact asset = true) :
      Backed input
        [(.authorizing (a.authorizationInput (a.normalized input) (pathPart input.target)
            sessionPresentation), .authorization .allowed)]
        (response 200 .generatedV1 asset.mediaType asset.body
          ((a.normalized input).method = js "HEAD") a.controls)

/-- A request that has been answered by a denial or by a response that is backed. -/
def Mediated (e : EndedCall CallbackAnswer AdapterStop AdapterError BrowserHttpResponse
    BrowserHttpRequest) : Prop :=
  ∃ dialogue response, e.told = dialogue ++ [(.dispatched, .resumed)] ∧ e.result = .ok response ∧
    ((∃ profile, response = a.unavailableResponse profile) ∨ a.Backed e.tag dialogue response)

variable {a}

/-- The assets of an adapter are intact, as its constructor has checked. -/
theorem isIntact_of_found {path : JsString} {asset : HostileFixtureAsset}
    (h : a.fixture.assets.get path = some asset) : a.isIntact asset = true := by
  have hvalid := a.fixture_valid
  simp only [isValidFixture, Bool.and_eq_true, List.all_eq_true] at hvalid
  have hbound := hvalid.1.2 (path, asset) (JsMap.get_eq_some_iff.mp h)
  simp only [isBoundAsset, Bool.and_eq_true] at hbound
  simp only [isIntact, Bool.and_eq_true]
  exact ⟨hbound.1.2, hbound.2⟩

/-- A decision of the exchange is a redirect or a denial. -/
theorem exchanged_cases (decision : BrowserExchangeDecision) :
    (a.exchanged decision).decision = .allow ∨
      (a.exchanged decision).response = a.unavailableResponse .bootstrapV1 := by
  unfold exchanged
  split
  · exact .inr rfl
  · split
    · exact .inr rfl
    · split
      · exact .inr rfl
      · split_ifs
        · exact .inr rfl
        · exact .inr rfl
        · exact .inl rfl

/-- The page is shown or denied. -/
theorem bootstrap_cases (request : NormalizedRequest) :
    (a.bootstrap request).response = a.unavailableResponse .bootstrapV1 ∨
      (a.bootstrap request).response = response 200 .bootstrapV1 (js "text/html")
        (bufferFrom (js bootstrapHtml)) (request.method = js "HEAD") a.controls := by
  unfold bootstrap
  split_ifs
  · exact .inl rfl
  · exact .inl rfl
  · exact .inr rfl

theorem served_cases (request : NormalizedRequest) (path : JsString) :
    (a.served request (a.fixture.assets.get path)).response = a.unavailableResponse .generatedV1 ∨
      ∃ asset, a.fixture.assets.get path = some asset ∧
        (a.served request (a.fixture.assets.get path)).response =
          response 200 .generatedV1 asset.mediaType asset.body (request.method = js "HEAD")
            a.controls := by
  cases hfound : a.fixture.assets.get path with
  | none => exact .inl rfl
  | some asset =>
      refine .inr ⟨asset, rfl, ?_⟩
      simp [served, isIntact_of_found hfound, generated]

/-- With paths checked, the path of a valid target is the plain path that was sent. -/
theorem target_normalized {input : BrowserHttpRequest} {path : JsString}
    (hstrict : a.controls.methodPathAndReferrerSafety = true)
    (hvalid : (a.normalized input).target.valid = true)
    (hpath : (a.normalized input).target.normalizedPath = some path) :
    path = pathPart input.target ∧ IsPlainPath path ∧
      (path ≠ bootstrapPath → path ≠ exchangePath →
        (a.normalized input).target.requestClass ≠ .reserved →
        (a.normalized input).target.requestClass ≠ .workerControl → IsPublicPath path) := by
  have htarget : (a.normalized input).target =
      classifyTarget input.target a.fixture.documentPath true := by
    rw [← hstrict]
    rfl
  rw [htarget] at hvalid hpath ⊢
  obtain ⟨hplain, hclass⟩ := classifyTarget_strict hvalid
  obtain ⟨-, hsame, hpublic⟩ := classifyPath_spec a.fixture.documentPath (pathPart input.target)
  rw [hclass] at hpath ⊢
  obtain rfl : pathPart input.target = path := Option.some.inj (hsame.symm.trans hpath)
  exact ⟨rfl, hplain, hpublic⟩

theorem backed_of_answers (hguards : a.controls.Guards) {input : BrowserHttpRequest}
    {dialogue : Dialogue} {result : DispatchResult}
    (h : a.Answers (a.normalized input) dialogue result) :
    (∃ profile, result.response = a.unavailableResponse profile) ∨
      a.Backed input dialogue result.response := by
  cases h with
  | denied _ reasonClass profile => exact .inl ⟨profile, rfl⟩
  | unchecked off => exact absurd hguards.cookieIsolation (by simp [off])
  | unsafeRequest off => exact absurd hguards.methodPathAndReferrerSafety (by simp [off])
  | worker off => exact absurd hguards.storageAndWorkerIsolation (by simp [off])
  | reserved off => exact absurd hguards.exactCspAndTargetDenial (by simp [off])
  | page host target =>
      rcases bootstrap_cases (a := a) (a.normalized input) with h | h
      · exact .inl ⟨_, h⟩
      · rw [h]
        obtain ⟨hpath, -⟩ := target_normalized hguards.methodPathAndReferrerSafety target.1 target.2
        exact .inr (.page (host hguards.originAndHostIsolation) hpath.symm)
  | redirect offers decision =>
      rcases exchanged_cases (a := a) decision with hallowed | h
      · exact .inr (.redirect offers decision hallowed)
      · exact .inl ⟨_, h⟩
  | content path sessionPresentation presents =>
      obtain ⟨rfl, hplain, hpublic⟩ := target_normalized hguards.methodPathAndReferrerSafety
        presents.target.1 presents.target.2
      rcases served_cases (a := a) (a.normalized input) (pathPart input.target) with h | ⟨asset, hfound, h⟩
      · exact .inl ⟨_, h⟩
      · rw [h]
        obtain ⟨hbootstrap, hexchange, hreserved, hworker⟩ := presents.unreserved
        exact .inr (.content sessionPresentation asset presents hplain
          (hpublic hbootstrap hexchange hreserved hworker) hfound (isIntact_of_found hfound))

theorem mediated_after_of_guards (hguards : a.controls.Guards) (actions : List BrowserAction) :
    ∀ e ∈ (a.after actions).ended, a.Mediated e := by
  intro e he
  obtain ⟨s₀, s, dialogue, result, before, htold, hresult, hanswers, -⟩ :=
    (holds_after actions).ended e he
  exact ⟨dialogue, result.response, htold, hresult, backed_of_answers hguards hanswers⟩

end DeterministicBrowserHttpAdapter

/-! ## Without one of the controls -/

namespace BrowserDemo

def lowerUnit (u : UInt16) : UInt16 := if isUpperUnit u then u + 0x20 else u
def upperUnit (u : UInt16) : UInt16 := if isLowerUnit u then u - 0x20 else u

/-- A platform for texts of seven bits, where an origin is a scheme and a host. -/
def platform : BrowserPlatform where
  toLowerCase text := text.map lowerUnit
  toUpperCase text := text.map upperUnit
  localeCompare := Json.unitOrder
  parseUrl text :=
    if js "https://" <+: text ∧ (text.drop 8).all isHostUnit = true then some ⟨text, [], []⟩
    else none
  decodeUtf8 bytes := bytes.map UInt8.toUInt16
  sha256 bytes := Runtime.foldDigest (bytes.map UInt8.toUInt16)

def documentBody : Bytes :=
  bufferFrom (js "<a " ++ (js "></a><a ").intercalate markers ++ js "></a>")

def document : HostileFixtureAsset where
  path := js "/index.html"
  mediaType := js "text/html"
  body := documentBody
  sha256 := platform.digest documentBody

def fixture : HostileStaticFixture where
  schemaVersion := 1
  fixtureId := js "aico-007-hostile-static/v1"
  documentPath := js "/index.html"
  assets := JsMap.empty.set (js "/index.html") document

def host : JsString := js "a.test"

def adapter (controls : ProofControls) : DeterministicBrowserHttpAdapter where
  platform := platform
  canonicalHost := host
  canonicalOrigin := js "https://a.test"
  fixture := fixture
  controls := controls
  authorizeCallback := true
  exchangeCallback := true
  host_valid := by decide +kernel
  origin_valid := by decide +kernel
  fixture_valid := by decide +kernel

def get (target hostName : JsString) (cookies : List JsString) : BrowserHttpRequest where
  method := js "GET"
  target := target
  headers := [(js "host", .one hostName), (js "cookie", .many cookies)]
  body := .absent

def stray (controls : ProofControls) : BrowserHttpRequest :=
  if !controls.methodPathAndReferrerSafety then
    { get (js "/index.html") host [] with method := js "DELETE" }
  else if !controls.cookieIsolation then
    get (js "/index.html") host [js "__Host-aico_preview=forged"]
  else if !controls.storageAndWorkerIsolation then get (js "/sw.js") host []
  else if !controls.exactCspAndTargetDenial then get (js "/__aico/private") host []
  else get bootstrapPath (js "b.test") []

def strayActions (controls : ProofControls) : List BrowserAction :=
  [.handle (stray controls), .answer 0 .resumed]

def guards (controls : ProofControls) : Bool :=
  controls.originAndHostIsolation && controls.cookieIsolation &&
    controls.storageAndWorkerIsolation && controls.exactCspAndTargetDenial &&
    controls.methodPathAndReferrerSafety

/-- Whether the answer is no denial, and nothing was asked for it. -/
def isStray (a : DeterministicBrowserHttpAdapter)
    (e : EndedCall CallbackAnswer AdapterStop AdapterError BrowserHttpResponse
      BrowserHttpRequest) : Bool :=
  e.told.length = 1 && (match e.result with
    | .ok response => response.status ≠ 404
    | .error _ => false) &&
    !(a.hostClass (a.normalized e.tag) = .exact && pathPart e.tag.target = bootstrapPath)

theorem stray_answered : ∀ c₁ c₂ c₃ c₄ c₅ c₆ c₇ : Bool,
    guards ⟨c₁, c₂, c₃, c₄, c₅, c₆, c₇⟩ = false →
      ((adapter ⟨c₁, c₂, c₃, c₄, c₅, c₆, c₇⟩).after
        (strayActions ⟨c₁, c₂, c₃, c₄, c₅, c₆, c₇⟩)).ended.any
          (isStray (adapter ⟨c₁, c₂, c₃, c₄, c₅, c₆, c₇⟩)) = true := by
  decide +kernel

theorem guards_eq_true {controls : ProofControls} : guards controls = true ↔ controls.Guards := by
  unfold guards
  simp only [Bool.and_eq_true]
  constructor
  · rintro ⟨⟨⟨⟨horigin, hcookie⟩, hstorage⟩, hcsp⟩, hmethod⟩
    exact ⟨horigin, hcookie, hstorage, hcsp, hmethod⟩
  · rintro ⟨horigin, hcookie, hstorage, hcsp, hmethod⟩
    exact ⟨⟨⟨⟨horigin, hcookie⟩, hstorage⟩, hcsp⟩, hmethod⟩

theorem not_mediated_of_isStray {a : DeterministicBrowserHttpAdapter}
    {e : EndedCall CallbackAnswer AdapterStop AdapterError BrowserHttpResponse BrowserHttpRequest}
    (h : isStray a e = true) : ¬ a.Mediated e := by
  rintro ⟨dialogue, response, htold, hresult, hcases⟩
  simp only [isStray, htold, hresult, Bool.and_eq_true, decide_eq_true_eq, Bool.not_eq_true',
    List.length_append, List.length_singleton, Nat.add_eq_right, List.length_eq_zero_iff] at h
  obtain ⟨⟨rfl, hstatus⟩, hpage⟩ := h
  rcases hcases with ⟨profile, rfl⟩ | hbacked
  · exact hstatus rfl
  · cases hbacked with
    | page host path => simp [host, path] at hpage

end BrowserDemo

namespace DeterministicBrowserHttpAdapter

/-- Every answer of every run is a denial or backed, whatever the callbacks answer and
however the requests interleave, if and only if these five controls are on. -/
theorem mediated_iff (controls : ProofControls) :
    (∀ a : DeterministicBrowserHttpAdapter, a.controls = controls →
      ∀ actions, ∀ e ∈ (a.after actions).ended, a.Mediated e) ↔ controls.Guards := by
  constructor
  · intro hall
    by_contra hguards
    have hoff : BrowserDemo.guards controls = false := by
      rw [← BrowserDemo.guards_eq_true] at hguards
      simpa using hguards
    obtain ⟨e, he, hstray⟩ := List.any_eq_true.mp
      (BrowserDemo.stray_answered _ _ _ _ _ _ _ hoff)
    exact BrowserDemo.not_mediated_of_isStray hstray (hall _ rfl _ e he)
  · rintro hguards a rfl
    exact mediated_after_of_guards hguards

end DeterministicBrowserHttpAdapter

end BrowserHttp

end Aico
