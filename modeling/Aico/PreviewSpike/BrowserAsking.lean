import Mathlib.Data.Bool.AllAny
import Aico.PreviewSpike.BrowserCookies

/-!
# Which requests the callback decides

Under the controls the adapter asks the callback about a request exactly when the request
`AsksFor` content: it has the host, a plain public path with a query behind it perhaps, a read
method, and one cookie header with one session in it; it asks for no part and on no condition,
and it comes from no other origin or site. This is said of the target, of the headers and of
the cookies as they were sent. That the code's own classifications come to it is proved one
field at a time.
-/

namespace Aico

namespace BrowserHttp

/-! ## Targets -/

/-- A plain path, with a query behind it perhaps. Nothing is escaped in the query either. -/
structure IsPlainTarget (target path : JsString) : Prop where
  size : (Json.utf8 target).length ≤ maxRequestTargetBytes
  shape : target = path ∨ ∃ query, target = path ++ 0x3F :: query
  units : ∀ u ∈ target, u ≠ 0x25 ∧ u ≠ 0x5C ∧ 0x1F < u ∧ u ≠ 0x7F ∧ u ≠ 0x23
  plain : IsPlainPath path

theorem nil_mem_segments_of_slashes {before after : JsString} :
    [] ∈ ((before ++ 0x2F :: 0x2F :: after).splitOn 0x2F).drop 1 := by
  obtain ⟨first, rest, hsplit⟩ := List.exists_cons_of_ne_nil (List.splitOn_ne_nil 0x2F before)
  have hempty : (0x2F :: after : JsString).splitOn 0x2F = [] :: after.splitOn 0x2F := by
    rw [← List.nil_append (0x2F :: after), List.splitOn_append_cons_self]
    rfl
  rw [List.splitOn_append_cons_self, hsplit, hempty]
  simp

/-- After a slash at the end there is an empty segment. -/
theorem nil_mem_segments_of_trailing {before : JsString} :
    [] ∈ ((before ++ [0x2F]).splitOn 0x2F).drop 1 := by
  obtain ⟨first, rest, hsplit⟩ := List.exists_cons_of_ne_nil (List.splitOn_ne_nil 0x2F before)
  rw [List.splitOn_append_cons_self, hsplit]
  simp

namespace IsPlainPath

variable {path : JsString}

theorem noEmptySegment (h : IsPlainPath path) :
    path = js "/" ∨ [] ∉ (path.splitOn 0x2F).drop 1 := by
  refine h.segments.imp_right fun hsegments hmem => ?_
  have hdot := hsegments [] hmem
  simp [isDotSegment] at hdot

theorem noDoubleSlash (h : IsPlainPath path) : ¬ js "//" <:+: path := by
  rintro ⟨before, after, hpath⟩
  have heq : path = before ++ 0x2F :: 0x2F :: after := by
    rw [← hpath, List.append_assoc]
    rfl
  obtain hroot | hnone := h.noEmptySegment
  · rw [hroot] at heq
    have hlength := congrArg List.length heq
    simp at hlength
    have hone : (js "/").length = 1 := by decide
    omega
  · rw [heq] at hnone
    exact hnone nil_mem_segments_of_slashes

theorem noTrailingSlash (h : IsPlainPath path) :
    ¬ (1 < path.length ∧ path.getLast? = some 0x2F) := by
  rintro ⟨hlength, hlast⟩
  obtain ⟨before, heq⟩ := List.getLast?_eq_some_iff.mp hlast
  obtain hroot | hnone := h.noEmptySegment
  · rw [hroot] at hlength
    revert hlength
    decide
  · rw [heq] at hnone
    exact hnone nil_mem_segments_of_trailing

end IsPlainPath

theorem IsPlainTarget.pathPart_eq {target path : JsString} (h : IsPlainTarget target path) :
    pathPart target = path := by
  have hquery : 0x3F ∉ path := fun hmem => (h.plain.unescaped _ hmem).2.2.2.2.1 rfl
  obtain rfl | ⟨query, rfl⟩ := h.shape
  · refine List.takeWhile_eq_self_iff.mpr fun u hu => ?_
    exact decide_eq_true (ne_of_mem_of_not_mem hu hquery)
  · exact takeWhile_before hquery

theorem containsDisallowedTargetCodePoint_eq_false {target : JsString} :
    containsDisallowedTargetCodePoint target = false ↔
      ∀ u ∈ target, u ≠ 0x25 ∧ u ≠ 0x5C ∧ 0x1F < u ∧ u ≠ 0x7F := by
  simp only [containsDisallowedTargetCodePoint, List.any_eq_false, Bool.or_eq_true,
    decide_eq_true_eq, not_or, UInt16.not_le]
  grind

theorem classifyTarget_valid_iff {target documentPath path : JsString} :
    (classifyTarget target documentPath true).valid = true ∧
        (classifyTarget target documentPath true).normalizedPath = some path ↔
      IsPlainTarget target path := by
  constructor
  · rintro ⟨hvalid, hpath⟩
    obtain ⟨hplain, hclass⟩ := classifyTarget_strict hvalid
    obtain ⟨-, hsame, -⟩ := classifyPath_spec documentPath (pathPart target)
    rw [hclass, hsame] at hpath
    obtain rfl := Option.some.inj hpath
    unfold classifyTarget at hvalid
    split at hvalid
    · cases hvalid
    next htarget =>
      simp only [Bool.or_eq_true, decide_eq_true_eq, not_or, not_lt, not_not,
        Bool.not_eq_true] at htarget
      obtain ⟨⟨⟨hsize, -⟩, hfragment⟩, hunits⟩ := htarget
      refine ⟨hsize, ?_, fun u hu => ?_, hplain⟩
      · by_cases hquery : 0x3F ∈ target
        · exact .inr ⟨_, (takeWhile_append_drop hquery).symm⟩
        · refine .inl (List.takeWhile_eq_self_iff.mpr fun u hu => ?_).symm
          exact decide_eq_true (ne_of_mem_of_not_mem hu hquery)
      · obtain ⟨hescape, hbackslash, hcontrol, hdelete⟩ :=
          containsDisallowedTargetCodePoint_eq_false.mp hunits u hu
        exact ⟨hescape, hbackslash, hcontrol, hdelete, ne_of_mem_of_not_mem hu hfragment⟩
  · intro h
    have hfragment : 0x23 ∉ target := fun hmem => (h.units _ hmem).2.2.2.2 rfl
    have hunits : containsDisallowedTargetCodePoint target = false :=
      containsDisallowedTargetCodePoint_eq_false.mpr fun u hu =>
        ⟨(h.units u hu).1, (h.units u hu).2.1, (h.units u hu).2.2.1, (h.units u hu).2.2.2.1⟩
    have hrooted : target.head? = some 0x2F := by
      have hpath := h.plain.rooted
      obtain rfl | ⟨query, rfl⟩ := h.shape
      · exact hpath
      · rw [List.head?_append, hpath]
        rfl
    have hdots : ¬ (path ≠ js "/" ∧ ((path.splitOn 0x2F).drop 1).any isDotSegment = true) := by
      rintro ⟨hne, hany⟩
      obtain ⟨segment, hmem, hdot⟩ := List.any_eq_true.mp hany
      rw [h.plain.segments.resolve_left hne segment hmem] at hdot
      cases hdot
    have hclass : classifyTarget target documentPath true = classifyPath documentPath path := by
      unfold classifyTarget
      rw [if_neg (by simp [h.size, hrooted, hfragment, hunits]), h.pathPart_eq]
      simp only
      rw [if_neg, if_neg]
      · simpa using hdots
      · have hslashes := h.plain.noDoubleSlash
        have hlast := h.plain.noTrailingSlash
        simp only [Bool.or_eq_true, Bool.and_eq_true, decide_eq_true_eq, not_or]
        exact ⟨hslashes, hlast⟩
    rw [hclass]
    obtain ⟨hvalid, hsame, -⟩ := classifyPath_spec documentPath path
    exact ⟨hvalid, hsame⟩

theorem classifyPath_of_public {documentPath path : JsString} (h : IsPublicPath path) :
    path ≠ bootstrapPath ∧ path ≠ exchangePath ∧
      (classifyPath documentPath path).requestClass ≠ .reserved ∧
      (classifyPath documentPath path).requestClass ≠ .workerControl := by
  obtain ⟨hreserved, hprefix, hworker⟩ := h
  have hbootstrap : path ≠ bootstrapPath := by
    rintro rfl
    exact hprefix (by decide)
  have hexchange : path ≠ exchangePath := by
    rintro rfl
    exact hprefix (by decide)
  refine ⟨hbootstrap, hexchange, ?_⟩
  have hnotPrefix : (js "/__aico/").isPrefixOf path = false := by
    rw [← Bool.not_eq_true, List.isPrefixOf_iff_prefix]
    exact hprefix
  unfold classifyPath
  rw [if_neg hbootstrap, if_neg hexchange, if_neg (by simp [hworker]),
    if_neg (by simp [hreserved, hnotPrefix])]
  split_ifs <;> simp

/-! ## Headers -/

/-- The request has no value for the header. -/
def Lacks (headers : Headers) (name : JsString) : Prop := (headers.get name).getD [] = []

instance (headers : Headers) (name : JsString) : Decidable (Lacks headers name) :=
  inferInstanceAs (Decidable ((headers.get name).getD [] = []))

/-- The headers that ask for a part of a representation, or on a condition. -/
def representationHeaders : List JsString :=
  [js "range", js "if-match", js "if-modified-since", js "if-none-match", js "if-range",
    js "if-unmodified-since"]

def ReadsAsOrigin (pf : BrowserPlatform) (value : JsString) : Prop :=
  ∃ parsed, pf.parseUrl value = some parsed ∧ parsed.origin = value ∧ parsed.username = [] ∧
    parsed.password = []

variable {headers : Headers} {name value : JsString}

theorem hasHeader_eq_false : hasHeader headers name = false ↔ Lacks headers name := by
  simp [hasHeader, Lacks]

theorem hasRepresentationHeader_eq_false :
    DeterministicBrowserHttpAdapter.hasRepresentationHeader headers = false ↔
      ∀ name ∈ representationHeaders, Lacks headers name := by
  simp only [DeterministicBrowserHttpAdapter.hasRepresentationHeader, hasConditionalHeader,
    Bool.or_eq_false_iff, List.any_eq_false, Bool.not_eq_true, hasHeader_eq_false,
    representationHeaders, List.forall_mem_cons]

theorem firstHeader_eq_some : firstHeader headers name = some value ↔
    headers.get name = some [value] := by
  unfold firstHeader
  split
  · next single heq =>
      rw [heq]
      simp
  · next hnot =>
      refine iff_of_false (by simp) fun h => hnot value h

theorem isOriginText_iff {pf : BrowserPlatform} : isOriginText pf value = true ↔
    ReadsAsOrigin pf value := by
  unfold isOriginText ReadsAsOrigin
  cases pf.parseUrl value with
  | none => simp
  | some parsed => simp [and_assoc]

/-- No other origin: none at all, or the canonical one, where that reads as an origin. -/
theorem classifyOrigin_iff {pf : BrowserPlatform} {canonicalOrigin : JsString} :
    classifyOrigin pf (headers.get name) canonicalOrigin ≠ .malformed ∧
        classifyOrigin pf (headers.get name) canonicalOrigin ≠ .mismatch ↔
      Lacks headers name ∨
        headers.get name = some [canonicalOrigin] ∧ ReadsAsOrigin pf canonicalOrigin := by
  unfold classifyOrigin Lacks
  rw [← isOriginText_iff]
  match headers.get name with
  | none => simp
  | some [] => simp
  | some [value] =>
      by_cases hvalue : value = canonicalOrigin
      · subst hvalue
        cases horigin : isOriginText pf value <;> simp [horigin]
      · cases horigin : isOriginText pf value <;> simp [horigin, hvalue]
  | some (_ :: _ :: _) => simp

namespace DeterministicBrowserHttpAdapter

variable {a : DeterministicBrowserHttpAdapter} {request : NormalizedRequest}

theorem isHostText_canonicalHost (a : DeterministicBrowserHttpAdapter) :
    isHostText a.canonicalHost = true := by
  have hvalid := a.host_valid
  simp only [isCanonicalHost, Bool.and_eq_true] at hvalid
  obtain ⟨⟨⟨⟨⟨-, hunits⟩, hfirst⟩, -⟩, -⟩, -⟩ := hvalid
  have hcolon : 0x3A ∉ a.canonicalHost := fun hmem =>
    absurd (List.all_eq_true.mp hunits _ hmem) (by decide)
  have hne : a.canonicalHost ≠ [] := by
    intro hnil
    rw [hnil] at hfirst
    cases hfirst
  unfold isHostText
  rw [List.splitOn_eq_singleton hcolon]
  simp [hne, hunits]

theorem hostClass_eq_exact :
    a.hostClass request = .exact ↔ request.headers.get (js "host") = some [a.canonicalHost] := by
  unfold hostClass classifyHost
  match request.headers.get (js "host") with
  | none => simp
  | some [] => simp
  | some [value] =>
      by_cases hvalue : value = a.canonicalHost
      · subst hvalue
        simp [isHostText_canonicalHost a]
      · cases hhost : isHostText value <;> simp [hhost, hvalue]
  | some (_ :: _ :: _) => simp

def PresentsSession (headers : Headers) (sessionPresentation : JsString) : Prop :=
  ∃ header cookies, headers.get (js "cookie") = some [header] ∧
    (Json.utf8 header).length ≤ maxCookieHeaderBytes ∧
    (header.splitOn 0x3B).map JsString.trim = cookies.map cookieText ∧
    (∀ cookie ∈ cookies, IsCookie cookie) ∧ sessions cookies = [sessionPresentation]

theorem cookie_eq_some (hcookie : a.controls.cookieIsolation = true)
    {sessionPresentation : JsString} : a.cookie request = .ok (some sessionPresentation) ↔
      PresentsSession request.headers sessionPresentation := by
  unfold cookie PresentsSession
  rw [hcookie]
  match request.headers.get (js "cookie") with
  | none => simp [parsePresentationCookie]
  | some [] => simp [parsePresentationCookie]
  | some [header] =>
      rw [parsePresentationCookie_eq_ok]
      simp
  | some (_ :: _ :: _) => simp [parsePresentationCookie]

/-! ## Requests -/

/-- A request for content that is the callback's to decide. -/
structure AsksFor (a : DeterministicBrowserHttpAdapter) (input : BrowserHttpRequest)
    (path sessionPresentation : JsString) : Prop where
  host : (a.normalized input).headers.get (js "host") = some [a.canonicalHost]
  target : IsPlainTarget input.target path
  isPublic : IsPublicPath path
  method : (a.normalized input).method = js "GET" ∨ (a.normalized input).method = js "HEAD"
  whole : ∀ name ∈ representationHeaders, Lacks (a.normalized input).headers name
  origin : Lacks (a.normalized input).headers (js "origin") ∨
    (a.normalized input).headers.get (js "origin") = some [a.canonicalOrigin] ∧
      ReadsAsOrigin a.platform a.canonicalOrigin
  site : ∀ site ∈ [js "cross-site", js "same-site"],
    (a.normalized input).headers.get (js "sec-fetch-site") ≠ some [site]
  session : PresentsSession (a.normalized input).headers sessionPresentation

/-- What the code has read of a request before it asks is that the request asks for content. -/
theorem presents_iff (hguards : a.controls.Guards) {input : BrowserHttpRequest}
    {path sessionPresentation : JsString} :
    a.Presents (a.normalized input) path sessionPresentation ↔
      a.AsksFor input path sessionPresentation := by
  have htarget : (a.normalized input).target =
      classifyTarget input.target a.fixture.documentPath true := by
    rw [← hguards.methodPathAndReferrerSafety]
    rfl
  have hmethod : isReadMethod (a.normalized input).method = true ↔
      (a.normalized input).method = js "GET" ∨ (a.normalized input).method = js "HEAD" := by
    simp [isReadMethod]
  constructor
  · intro h
    obtain ⟨hread, hwhole⟩ := h.method hguards.methodPathAndReferrerSafety
    obtain ⟨hcross, hsame⟩ := h.fetchSite hguards.originAndHostIsolation
    obtain ⟨-, -, hpublic⟩ := target_normalized hguards.methodPathAndReferrerSafety
      h.target.1 h.target.2
    obtain ⟨hbootstrap, hexchange, hreserved, hworker⟩ := h.unreserved
    exact
      { host := hostClass_eq_exact.mp (h.host hguards.originAndHostIsolation)
        target := classifyTarget_valid_iff.mp (htarget ▸ h.target)
        isPublic := hpublic hbootstrap hexchange hreserved hworker
        method := hmethod.mp hread
        whole := hasRepresentationHeader_eq_false.mp hwhole
        origin := classifyOrigin_iff.mp (h.origin hguards.originAndHostIsolation)
        site := by
          simp only [List.forall_mem_cons, List.not_mem_nil, false_implies, implies_true,
            and_true, ne_eq, ← firstHeader_eq_some]
          exact ⟨hcross, hsame⟩
        session := (cookie_eq_some hguards.cookieIsolation).mp h.cookie }
  · intro h
    have hvalid : (classifyTarget input.target a.fixture.documentPath true).valid = true ∧
        (classifyTarget input.target a.fixture.documentPath true).normalizedPath = some path :=
      classifyTarget_valid_iff.mpr h.target
    have hsites := h.site
    simp only [List.forall_mem_cons, List.not_mem_nil, false_implies, implies_true, and_true,
      ne_eq, ← firstHeader_eq_some] at hsites
    have hclass : (a.normalized input).target = classifyPath a.fixture.documentPath path := by
      rw [htarget, (classifyTarget_strict hvalid.1).2, h.target.pathPart_eq]
    exact
      { host := fun _ => hostClass_eq_exact.mpr h.host
        target := htarget ▸ hvalid
        unreserved := hclass ▸ classifyPath_of_public h.isPublic
        method := fun _ => ⟨hmethod.mpr h.method, hasRepresentationHeader_eq_false.mpr h.whole⟩
        origin := fun _ => classifyOrigin_iff.mpr h.origin
        fetchSite := fun _ => hsites
        cookie := (cookie_eq_some hguards.cookieIsolation).mpr h.session }

theorem dispatch_of_presents (hguards : a.controls.Guards) (hcallback : a.authorizeCallback = true)
    {path sessionPresentation : JsString} (h : a.Presents request path sessionPresentation) :
    a.dispatch request = a.authorized request path sessionPresentation := by
  obtain ⟨hbootstrap, hexchange, hreserved, hworker⟩ := h.unreserved
  obtain ⟨hmethod, hrepresentation⟩ := h.method hguards.methodPathAndReferrerSafety
  obtain ⟨hmalformed, hmismatch⟩ := h.origin hguards.originAndHostIsolation
  obtain ⟨hcross, hsame⟩ := h.fetchSite hguards.originAndHostIsolation
  have hcontent : a.content request path = a.authorized request path sessionPresentation := by
    simp [content, hguards.methodPathAndReferrerSafety, hguards.cookieIsolation, hmethod,
      hrepresentation, hmalformed, hmismatch, hcross, hsame, h.cookie, hcallback]
  have hroute : a.route request path = a.content request path := by
    simp [route, hguards.methodPathAndReferrerSafety, hbootstrap, hexchange, hreserved, hworker]
  simp [dispatch, h.host hguards.originAndHostIsolation, h.target.1, h.target.2, hroute, hcontent]

end DeterministicBrowserHttpAdapter

namespace BrowserDemo

/-- A request with a query, and another cookie beside the session. -/
def asking : BrowserHttpRequest :=
  get (js "/index.html?theme=dark") host [js "theme=dark; __Host-aico_preview=session"]

def escaping : BrowserHttpRequest :=
  { asking with target := js "/index.html?theme=%41" }

theorem asksFor_asking :
    (adapter defaultProofControls).AsksFor asking (js "/index.html") (js "session") where
  host := by decide +kernel
  target :=
    { size := by decide +kernel
      shape := .inr ⟨js "theme=dark", by decide⟩
      units := List.all_iff_forall_prop.mp (by decide +kernel)
      plain := ⟨by decide, List.all_iff_forall_prop.mp (by decide +kernel), .inr (by decide)⟩ }
  isPublic := ⟨by decide, by decide, by decide⟩
  method := .inl (by decide +kernel)
  whole := by decide +kernel
  origin := .inl (by decide +kernel)
  site := by decide +kernel
  session := by
    refine ⟨js "theme=dark; __Host-aico_preview=session",
      [(js "theme", js "dark"), (authCookieName, js "session")], by decide +kernel,
      by decide +kernel, by decide +kernel, ?_, by decide +kernel⟩
    simp only [List.forall_mem_cons, List.not_mem_nil, false_implies, implies_true, and_true]
    exact ⟨⟨by decide, by decide, by decide⟩, ⟨by decide, by decide, by decide⟩⟩

end BrowserDemo

end BrowserHttp

end Aico
