import Aico.PreviewSpike.BrowserMediation

/-!
# The session in the cookie header

`parsePresentationCookie` inverts the header that a browser sends: what it accepts are
cookies with safe values, one of them at most with the name of the session. So a session
that an exchange has set is presented as it was set, also where cookies are not isolated.
-/

namespace Aico

namespace BrowserHttp

/-! ## Cookies -/

/-- A cookie whose name is a token and whose value is safe to present. -/
structure IsCookie (cookie : JsString × JsString) : Prop where
  name_ne_nil : cookie.1 ≠ []
  nameUnits : cookie.1.all isCookieNameUnit = true
  safe : safePresentation cookie.2 = true

def cookieText (cookie : JsString × JsString) : JsString := cookie.1 ++ 0x3D :: cookie.2

def cookieHeader (cookies : List (JsString × JsString)) : JsString :=
  (js "; ").intercalate (cookies.map cookieText)

def sessions (cookies : List (JsString × JsString)) : List JsString :=
  (cookies.filter fun cookie => cookie.1 = authCookieName).map Prod.snd

theorem units_of_isCookieNameUnit {u : UInt16} (h : isCookieNameUnit u = true) :
    0x21 ≤ u ∧ u ≤ 0x7E ∧ u ≠ 0x3B ∧ u ≠ 0x3D := by
  have hmarks : tokenMarks.all (fun u => 0x21 ≤ u ∧ u ≤ 0x7E ∧ u ≠ 0x3B ∧ u ≠ 0x3D) = true := by
    decide
  simp only [isCookieNameUnit, isHeaderNameUnit, isDigitUnit, isLowerUnit, isUpperUnit,
    Bool.or_eq_true, Bool.and_eq_true, decide_eq_true_eq] at h
  rcases h with ((h | h) | h) | h
  · exact of_decide_eq_true (List.all_eq_true.mp hmarks u h)
  all_goals
    simp only [UInt16.le_iff_toNat_le, ne_eq, ← UInt16.toNat_inj] at h ⊢
    simp at h ⊢
    omega

theorem isCookieNameUnit_of_isPresentationUnit {u : UInt16} (h : isPresentationUnit u = true) :
    isCookieNameUnit u = true := by
  have hmarks : (js "._~-").all (fun u => u ∈ tokenMarks) = true := by decide
  simp only [isPresentationUnit, isCookieNameUnit, isHeaderNameUnit, Bool.or_eq_true,
    decide_eq_true_eq] at h ⊢
  rcases h with ((h | h) | h) | h
  · exact .inl (.inl (.inl (of_decide_eq_true (List.all_eq_true.mp hmarks u h))))
  · exact .inl (.inl (.inr h))
  · exact .inl (.inr h)
  · exact .inr h

theorem isWhitespace_of_bounds {u : UInt16} (h : 0x21 ≤ u ∧ u ≤ 0x7E) :
    JsString.isWhitespace u = false := by
  simp only [JsString.isWhitespace, Bool.or_eq_false_iff, Bool.and_eq_false_iff,
    decide_eq_false_iff_not, UInt16.le_iff_toNat_le, ← UInt16.toNat_inj] at h ⊢
  simp at h ⊢
  omega

theorem IsCookie.units {cookie : JsString × JsString} (h : IsCookie cookie) :
    ∀ u ∈ cookieText cookie, 0x21 ≤ u ∧ u ≤ 0x7E ∧ u ≠ 0x3B := by
  intro u hu
  rcases List.mem_append.mp hu with hname | hvalue
  · obtain ⟨hlower, hupper, hsemicolon, -⟩ :=
      units_of_isCookieNameUnit (List.all_eq_true.mp h.nameUnits u hname)
    exact ⟨hlower, hupper, hsemicolon⟩
  · rcases List.mem_cons.mp hvalue with rfl | hvalue
    · decide
    · have hsafe := h.safe
      simp only [safePresentation, Bool.and_eq_true] at hsafe
      obtain ⟨hlower, hupper, hsemicolon, -⟩ := units_of_isCookieNameUnit
        (isCookieNameUnit_of_isPresentationUnit (List.all_eq_true.mp hsafe.2 u hvalue))
      exact ⟨hlower, hupper, hsemicolon⟩

theorem IsCookie.name_not_mem {cookie : JsString × JsString} (h : IsCookie cookie) :
    0x3D ∉ cookie.1 := fun hmem =>
  (units_of_isCookieNameUnit (List.all_eq_true.mp h.nameUnits _ hmem)).2.2.2 rfl

theorem IsCookie.trim {cookie : JsString × JsString} (h : IsCookie cookie) :
    JsString.trim (cookieText cookie) = cookieText cookie := by
  have hunits : ∀ u ∈ cookieText cookie, JsString.isWhitespace u = false := fun u hu =>
    isWhitespace_of_bounds ⟨(h.units u hu).1, (h.units u hu).2.1⟩
  have hkeep : ∀ s : JsString, (∀ u ∈ s, JsString.isWhitespace u = false) →
      s.dropWhile JsString.isWhitespace = s := by
    intro s hs
    cases s with
    | nil => rfl
    | cons u rest => exact List.dropWhile_cons_of_neg (by simp [hs u List.mem_cons_self])
  rw [JsString.trim, hkeep _ hunits, hkeep _ fun u hu => hunits u (List.mem_reverse.mp hu),
    List.reverse_reverse]

/-! ## Parsing -/

/-- A text with a unit in it is what stands before the first one, and what stands after. -/
theorem takeWhile_append_drop {s : JsString} {u : UInt16} (h : u ∈ s) :
    s.takeWhile (· ≠ u) ++ u :: s.drop ((s.takeWhile (· ≠ u)).length + 1) = s := by
  induction s with
  | nil => cases h
  | cons v rest ih =>
      by_cases hv : v = u
      · simp [hv]
      · have hmem : u ∈ rest := (List.mem_cons.mp h).resolve_left (Ne.symm hv)
        simpa [hv] using ih hmem

theorem takeWhile_before {before after : JsString} {u : UInt16} (h : u ∉ before) :
    (before ++ u :: after).takeWhile (· ≠ u) = before := by
  have hpos : ∀ v ∈ before, decide (v ≠ u) = true := fun v hv =>
    decide_eq_true (ne_of_mem_of_not_mem hv h)
  rw [List.takeWhile_append_of_pos hpos]
  simp

/-- A pair is well formed if it is the text of a cookie, up to white space around it. -/
theorem parsePair_eq_some {pair : JsString} {cookie : JsString × JsString} :
    parsePair pair = some cookie ↔
      IsCookie cookie ∧ JsString.trim pair = cookieText cookie := by
  unfold parsePair
  constructor
  · intro h
    simp only at h
    split at h
    · next hpair =>
        obtain ⟨hmem, hname, hunits, hsafe⟩ := hpair
        obtain rfl := Option.some.inj h
        exact ⟨⟨hname, hunits, hsafe⟩, (takeWhile_append_drop hmem).symm⟩
    · cases h
  · rintro ⟨hcookie, htrim⟩
    have hname : (cookieText cookie).takeWhile (· ≠ 0x3D) = cookie.1 :=
      takeWhile_before hcookie.name_not_mem
    have hvalue : (cookieText cookie).drop (cookie.1.length + 1) = cookie.2 := by
      simp [cookieText, ← List.drop_drop]
    have hmem : 0x3D ∈ cookieText cookie := by simp [cookieText]
    simp only [htrim, hname, hvalue]
    exact if_pos ⟨hmem, hcookie.name_ne_nil, hcookie.nameUnits, hcookie.safe⟩

theorem exists_map_parsePair_cons {pair : JsString} {rest : List JsString}
    {cookie : JsString × JsString} (h : parsePair pair = some cookie)
    {P : List (JsString × JsString) → Prop} :
    (∃ cookies, (pair :: rest).map parsePair = cookies.map some ∧ P cookies) ↔
      ∃ cookies, rest.map parsePair = cookies.map some ∧ P (cookie :: cookies) := by
  constructor
  · rintro ⟨cookies, hmap, hP⟩
    cases cookies with
    | nil => cases hmap
    | cons first cookies =>
        rw [List.map_cons, List.map_cons, h] at hmap
        obtain ⟨hfirst, hrest⟩ := List.cons.inj hmap
        obtain rfl := Option.some.inj hfirst
        exact ⟨cookies, hrest, hP⟩
  · rintro ⟨cookies, hmap, hP⟩
    exact ⟨cookie :: cookies, by rw [List.map_cons, List.map_cons, h, hmap], hP⟩

/-- The loop accepts well-formed pairs with one session at most, the earlier one included. -/
theorem parsePairs_eq_ok {pairs : List JsString} {start presentation : Option JsString} :
    parsePairs pairs start = .ok presentation ↔
      ∃ cookies, pairs.map parsePair = cookies.map some ∧
        start.toList ++ sessions cookies = presentation.toList := by
  induction pairs generalizing start with
  | nil =>
      constructor
      · intro h
        obtain rfl : start = presentation := Except.ok.inj h
        exact ⟨[], rfl, List.append_nil _⟩
      · rintro ⟨cookies, hmap, hpresentation⟩
        obtain rfl : cookies = [] := List.map_eq_nil_iff.mp hmap.symm
        cases start <;> cases presentation <;> simp_all [sessions, parsePairs]
  | cons pair rest ih =>
      cases hpair : parsePair pair with
      | none =>
          refine iff_of_false (by simp [parsePairs, hpair]) ?_
          rintro ⟨cookies, hmap, -⟩
          cases cookies <;> simp [hpair] at hmap
      | some cookie =>
          obtain ⟨name, value⟩ := cookie
          rw [exists_map_parsePair_cons hpair]
          simp only [parsePairs, hpair]
          by_cases hname : name = authCookieName
          · cases start with
            | none => simpa [hname, sessions] using @ih (some value)
            | some earlier =>
                cases presentation <;> simp [hname, sessions]
          · simpa [hname, sessions] using ih

theorem map_parsePair_eq {pairs : List JsString} {cookies : List (JsString × JsString)} :
    pairs.map parsePair = cookies.map some ↔
      pairs.map JsString.trim = cookies.map cookieText ∧ ∀ cookie ∈ cookies, IsCookie cookie := by
  induction pairs generalizing cookies with
  | nil => cases cookies <;> simp
  | cons pair rest ih =>
      cases cookies with
      | nil => simp
      | cons cookie cookies =>
          simp only [List.map_cons, List.cons.injEq, parsePair_eq_some, ih, List.forall_mem_cons]
          tauto

/-- What a header is accepted for. -/
theorem parsePresentationCookie_eq_ok {header : JsString} {presentation : Option JsString} :
    parsePresentationCookie (some [header]) true = .ok presentation ↔
      (Json.utf8 header).length ≤ maxCookieHeaderBytes ∧
        ∃ cookies, (header.splitOn 0x3B).map JsString.trim = cookies.map cookieText ∧
          (∀ cookie ∈ cookies, IsCookie cookie) ∧ sessions cookies = presentation.toList := by
  have hloop : parsePairs (header.splitOn 0x3B) none = .ok presentation ↔
      ∃ cookies, (header.splitOn 0x3B).map JsString.trim = cookies.map cookieText ∧
        (∀ cookie ∈ cookies, IsCookie cookie) ∧ sessions cookies = presentation.toList := by
    rw [parsePairs_eq_ok]
    simp only [map_parsePair_eq, Option.toList_none, List.nil_append, and_assoc]
  by_cases hsize : maxCookieHeaderBytes < (Json.utf8 header).length
  · refine iff_of_false (by simp [parsePresentationCookie, hsize]) fun h => ?_
    exact absurd h.1 (Nat.not_le.mpr hsize)
  · have hparse : parsePresentationCookie (some [header]) true =
        parsePairs (header.splitOn 0x3B) none := by
      simp [parsePresentationCookie, hsize]
    rw [hparse, hloop]
    exact (and_iff_right (Nat.not_lt.mp hsize)).symm

/-! ## Headers of a browser -/

theorem cookieHeader_cons (cookie : JsString × JsString) (cookies : List (JsString × JsString)) :
    cookieHeader (cookie :: cookies) =
      [0x3B].intercalate (cookieText cookie :: cookies.map fun c => 0x20 :: cookieText c) := by
  induction cookies generalizing cookie with
  | nil => simp [cookieHeader]
  | cons next cookies ih =>
      have hnext : cookieHeader (cookie :: next :: cookies) =
          cookieText cookie ++ js "; " ++ cookieHeader (next :: cookies) := by
        simp [cookieHeader]
      rw [hnext, ih next, List.map_cons, List.intercalate_cons_cons]
      cases cookies with
      | nil => simp; rfl
      | cons last cookies => simp [List.intercalate_cons_cons]; rfl

theorem splitOn_cookieHeader {cookies : List (JsString × JsString)} (hne : cookies ≠ [])
    (h : ∀ cookie ∈ cookies, IsCookie cookie) :
    ((cookieHeader cookies).splitOn 0x3B).map JsString.trim = cookies.map cookieText := by
  obtain ⟨cookie, rest, rfl⟩ := List.exists_cons_of_ne_nil hne
  have hsemicolon : ∀ c ∈ cookie :: rest, 0x3B ∉ cookieText c := fun c hc hmem =>
    ((h c hc).units _ hmem).2.2 rfl
  have hspace : ∀ c ∈ rest, JsString.trim (0x20 :: cookieText c) = cookieText c := fun c hc =>
    (h c (List.mem_cons_of_mem _ hc)).trim
  rw [cookieHeader_cons, List.splitOn_intercalate]
  · rw [List.map_cons, (h cookie List.mem_cons_self).trim, List.map_map]
    exact congrArg (cookieText cookie :: ·) (List.map_congr_left hspace)
  · refine List.forall_mem_cons.mpr ⟨hsemicolon cookie List.mem_cons_self, ?_⟩
    refine List.forall_mem_map.mpr fun c hc hmem => ?_
    rcases List.mem_cons.mp hmem with hspace | hmem
    · exact absurd hspace (by decide)
    · exact hsemicolon c (List.mem_cons_of_mem _ hc) hmem
  · exact List.cons_ne_nil _ _

/-- The cookies of a header can be told from it. -/
theorem eq_of_map_cookieText {cookies cookies' : List (JsString × JsString)}
    (h : ∀ cookie ∈ cookies, IsCookie cookie) (h' : ∀ cookie ∈ cookies', IsCookie cookie)
    (heq : cookies.map cookieText = cookies'.map cookieText) : cookies = cookies' := by
  have hread : ∀ cookies : List (JsString × JsString), (∀ cookie ∈ cookies, IsCookie cookie) →
      (cookies.map cookieText).map parsePair = cookies.map some := by
    intro cookies h
    refine map_parsePair_eq.mpr ⟨?_, h⟩
    rw [List.map_map]
    exact List.map_congr_left fun cookie hcookie => (h cookie hcookie).trim
  apply List.map_injective_iff.mpr (Option.some_injective _)
  rw [← hread cookies h, heq, hread cookies' h']

/-- A header of a browser is accepted for the session that is among the cookies, unless
there are two. -/
theorem parse_cookieHeader {cookies : List (JsString × JsString)} (hne : cookies ≠ [])
    (h : ∀ cookie ∈ cookies, IsCookie cookie)
    (hsize : (Json.utf8 (cookieHeader cookies)).length ≤ maxCookieHeaderBytes)
    {presentation : Option JsString} :
    parsePresentationCookie (some [cookieHeader cookies]) true = .ok presentation ↔
      sessions cookies = presentation.toList := by
  rw [parsePresentationCookie_eq_ok, and_iff_right hsize, splitOn_cookieHeader hne h]
  constructor
  · rintro ⟨cookies', htexts, h', hsessions⟩
    rwa [eq_of_map_cookieText h h' htexts]
  · exact fun hsessions => ⟨cookies, rfl, h, hsessions⟩

/-- The text of a cookie starts with the name of the session and the separator where that is
the name of the cookie. -/
theorem opening_isPrefixOf {cookie : JsString × JsString} (h : IsCookie cookie) :
    (authCookieName ++ js "=").isPrefixOf (cookieText cookie) = true ↔
      cookie.1 = authCookieName := by
  have hopening : authCookieName ++ js "=" = authCookieName ++ [0x3D] := rfl
  rw [List.isPrefixOf_iff_prefix, hopening]
  constructor
  · rintro ⟨rest, hrest⟩
    rw [List.append_assoc, List.singleton_append] at hrest
    have hname : (cookieText cookie).takeWhile (· ≠ 0x3D) = cookie.1 :=
      takeWhile_before h.name_not_mem
    rw [← hname, ← hrest]
    exact takeWhile_before (by decide)
  · intro hname
    exact ⟨cookie.2, by rw [cookieText, hname, List.append_assoc, List.singleton_append]⟩

theorem cookieCandidates_cookieHeader {cookies : List (JsString × JsString)} (hne : cookies ≠ [])
    (h : ∀ cookie ∈ cookies, IsCookie cookie) :
    cookieCandidates [cookieHeader cookies] = sessions cookies := by
  unfold cookieCandidates sessions
  rw [List.intercalate_singleton]
  dsimp only
  rw [splitOn_cookieHeader hne h]
  clear hne
  induction cookies with
  | nil => rfl
  | cons cookie cookies ih =>
      obtain ⟨hcookie, hcookies⟩ := List.forall_mem_cons.mp h
      have hrest := ih hcookies
      by_cases hname : cookie.1 = authCookieName
      · have hvalue : (cookieText cookie).drop (authCookieName ++ js "=").length = cookie.2 := by
          rw [cookieText, hname, List.length_append, ← List.drop_drop, List.drop_left]
          rfl
        rw [List.map_cons, List.filter_cons_of_pos ((opening_isPrefixOf hcookie).mpr hname),
          List.map_cons, hvalue, List.filter_cons_of_pos hcookie.safe, hrest,
          List.filter_cons_of_pos (by simpa using hname), List.map_cons]
      · rw [List.map_cons,
          List.filter_cons_of_neg fun hprefix => hname ((opening_isPrefixOf hcookie).mp hprefix),
          hrest, List.filter_cons_of_neg (by simpa using hname)]

theorem parse_cookieHeader_session {cookies : List (JsString × JsString)} (hne : cookies ≠ [])
    (h : ∀ cookie ∈ cookies, IsCookie cookie)
    (hsize : (Json.utf8 (cookieHeader cookies)).length ≤ maxCookieHeaderBytes)
    {sessionPresentation : JsString} (hsessions : sessions cookies = [sessionPresentation])
    (strictIsolation : Bool) :
    parsePresentationCookie (some [cookieHeader cookies]) strictIsolation =
      .ok (some sessionPresentation) := by
  cases strictIsolation with
  | true => exact (parse_cookieHeader hne h hsize).mpr hsessions
  | false =>
      change Except.ok (cookieCandidates [cookieHeader cookies]).getLast? = _
      rw [cookieCandidates_cookieHeader hne h, hsessions]
      rfl

/-! ## A session that was set -/

/-- The name and the value that a browser keeps of a `Set-Cookie` header. -/
def storedCookie (text : JsString) : JsString × JsString :=
  let pair := text.takeWhile (· ≠ 0x3B)
  (pair.takeWhile (· ≠ 0x3D), pair.drop ((pair.takeWhile (· ≠ 0x3D)).length + 1))

theorem isCookie_session {sessionPresentation : JsString}
    (h : safePresentation sessionPresentation = true) :
    IsCookie (authCookieName, sessionPresentation) := by
  have hname : authCookieName ≠ [] ∧ authCookieName.all isCookieNameUnit = true := by decide
  exact ⟨hname.1, hname.2, h⟩

theorem storedCookie_setCookie (a : DeterministicBrowserHttpAdapter)
    {sessionPresentation : JsString} (h : safePresentation sessionPresentation = true) (maxAge : ℕ) :
    storedCookie (a.setCookie sessionPresentation maxAge) =
      (authCookieName, sessionPresentation) := by
  have hcookie := isCookie_session h
  obtain ⟨attributes, htext⟩ : ∃ attributes, a.setCookie sessionPresentation maxAge =
      cookieText (authCookieName, sessionPresentation) ++ 0x3B :: attributes := by
    unfold DeterministicBrowserHttpAdapter.setCookie cookieText
    split
    · exact ⟨js " Secure; HttpOnly; SameSite=Strict; Path=/; Max-Age=" ++
        JsString.decimal maxAge, by simp; rfl⟩
    · exact ⟨js " Domain=.preview.test; SameSite=None; Path=/; Max-Age=" ++
        JsString.decimal maxAge, by simp; rfl⟩
  have hpair : (a.setCookie sessionPresentation maxAge).takeWhile (· ≠ 0x3B) =
      cookieText (authCookieName, sessionPresentation) := by
    rw [htext]
    exact takeWhile_before fun hmem => (hcookie.units _ hmem).2.2 rfl
  have hname : (cookieText (authCookieName, sessionPresentation)).takeWhile (· ≠ 0x3D) =
      authCookieName := takeWhile_before hcookie.name_not_mem
  have hvalue : (cookieText (authCookieName, sessionPresentation)).drop
      (authCookieName.length + 1) = sessionPresentation := by
    simp [cookieText, ← List.drop_drop]
  simp only [storedCookie, hpair, hname, hvalue]

namespace DeterministicBrowserHttpAdapter

variable {a : DeterministicBrowserHttpAdapter} {request : NormalizedRequest}

theorem get_setCookie_assign (profile : PolicyProfile) (controls : ProofControls)
    {entries : List (JsString × JsString)} (h : js "Set-Cookie" ∉ entries.map Prod.fst) :
    ((policyHeaders profile controls).assign entries).get (js "Set-Cookie") = none := by
  rw [JsMap.get_assign_of_not_mem h]
  refine Option.eq_none_iff_forall_not_mem.mpr fun text htext => ?_
  exact absurd (keys_policyHeaders profile controls _ (JsMap.mem_keys.mpr ⟨text, htext⟩))
    (by decide)

theorem get_setCookie_response (status : ℕ) (profile : PolicyProfile) (mediaType : JsString)
    (body : Bytes) (head : Bool) (controls : ProofControls) :
    (response status profile mediaType body head controls).headers.get (js "Set-Cookie") =
      none := by
  refine get_setCookie_assign profile controls ?_
  have hnames : js "Set-Cookie" ∉ [js "Content-Type", js "Content-Length"] := by decide
  exact hnames

theorem get_setCookie_unavailable (reasonClass : JsString) (profile : PolicyProfile) :
    (a.unavailable reasonClass profile).response.headers.get (js "Set-Cookie") = none :=
  get_setCookie_assign profile a.controls (by decide)

theorem get_setCookie_served (asset : Option HostileFixtureAsset) :
    (a.served request asset).response.headers.get (js "Set-Cookie") = none := by
  unfold served
  split
  · exact get_setCookie_unavailable _ _
  · split_ifs
    · exact get_setCookie_unavailable _ _
    · exact get_setCookie_response _ _ _ _ _ _

theorem setCookie_of_exchanged {decision : BrowserExchangeDecision} {text : JsString}
    (h : (a.exchanged decision).response.headers.get (js "Set-Cookie") = some text) :
    ∃ sessionPresentation maxAgeSeconds redirectPath maxAge,
      decision = .allowed sessionPresentation maxAgeSeconds redirectPath ∧
        safePresentation sessionPresentation = true ∧
          text = a.setCookie sessionPresentation maxAge := by
  have hdenied : ∀ reasonClass, (a.unavailable reasonClass .bootstrapV1).response.headers.get
      (js "Set-Cookie") ≠ some text := by
    intro reasonClass hget
    rw [get_setCookie_unavailable] at hget
    cases hget
  cases decision with
  | denied reasonClass => exact absurd h (hdenied reasonClass)
  | allowed sessionPresentation maxAgeSeconds redirectPath =>
      unfold exchanged at h
      simp only at h
      split at h
      · exact absurd h (hdenied _)
      · next hsafe =>
          split at h
          · exact absurd h (hdenied _)
          · next maxAge _ =>
              split_ifs at h
              · exact absurd h (hdenied _)
              · exact absurd h (hdenied _)
              · obtain rfl := Option.some.inj (JsMap.get_set_self.symm.trans h)
                exact ⟨sessionPresentation, maxAgeSeconds, redirectPath, maxAge.toNat, rfl,
                  by simpa using hsafe, rfl⟩

theorem setCookie_of_answers {dialogue : Dialogue} {result : DispatchResult} {text : JsString}
    (h : a.Answers request dialogue result)
    (htext : result.response.headers.get (js "Set-Cookie") = some text) :
    ∃ sessionPresentation maxAgeSeconds redirectPath maxAge,
      dialogue = [(.exchanging (a.exchangeInput request),
          .exchange (.allowed sessionPresentation maxAgeSeconds redirectPath))] ∧
        safePresentation sessionPresentation = true ∧
          text = a.setCookie sessionPresentation maxAge := by
  have hnone : ∀ {response : BrowserHttpResponse},
      response.headers.get (js "Set-Cookie") = none →
        response.headers.get (js "Set-Cookie") ≠ some text := by
    intro response hget hsome
    rw [hget] at hsome
    cases hsome
  cases h with
  | denied _ reasonClass profile => exact absurd htext (hnone (get_setCookie_unavailable _ _))
  | page host target =>
      rcases bootstrap_cases (a := a) request with h | h
      · exact absurd (h ▸ htext) (hnone (get_setCookie_unavailable _ _))
      · exact absurd (h ▸ htext) (hnone (get_setCookie_response _ _ _ _ _ _))
  | redirect offers decision =>
      obtain ⟨sessionPresentation, maxAgeSeconds, redirectPath, maxAge, rfl, hsafe, htext⟩ :=
        setCookie_of_exchanged htext
      exact ⟨sessionPresentation, maxAgeSeconds, redirectPath, maxAge, rfl, hsafe, htext⟩
  | content path sessionPresentation presents =>
      exact absurd htext (hnone (get_setCookie_served _))
  | unchecked off path => exact absurd htext (hnone (get_setCookie_served _))
  | unsafeRequest off asset => exact absurd htext (hnone (get_setCookie_response _ _ _ _ _ _))
  | worker off => exact absurd htext (hnone (get_setCookie_response _ _ _ _ _ _))
  | reserved off =>
      exact absurd htext (hnone (get_setCookie_assign .generatedV1 a.controls (by decide)))

/-- A session that a response of a run sets was allowed by the callback, and a browser that
sends it back, among whatever other cookies it has, presents it. -/
theorem session_presented (actions : List BrowserAction)
    {e : EndedCall CallbackAnswer AdapterStop AdapterError BrowserHttpResponse BrowserHttpRequest}
    (he : e ∈ (a.after actions).ended) {response : BrowserHttpResponse}
    (hresult : e.result = .ok response) {text : JsString}
    (htext : response.headers.get (js "Set-Cookie") = some text) :
    ∃ sessionPresentation maxAgeSeconds redirectPath,
      (.exchanging (a.exchangeInput (a.normalized e.tag)),
          .exchange (.allowed sessionPresentation maxAgeSeconds redirectPath)) ∈ e.told ∧
        ∀ before after : List (JsString × JsString),
          (∀ cookie ∈ before ++ after, IsCookie cookie ∧ cookie.1 ≠ authCookieName) →
          (Json.utf8 (cookieHeader (before ++ storedCookie text :: after))).length ≤
            maxCookieHeaderBytes →
          ∀ request : NormalizedRequest, request.headers.get (js "cookie") =
              some [cookieHeader (before ++ storedCookie text :: after)] →
            a.cookie request = .ok (some sessionPresentation) := by
  obtain ⟨s₀, s, dialogue, result, totals, htold, hr, hanswers, -⟩ :=
    (holds_after actions).ended e he
  obtain rfl : response = result.response := Except.ok.inj (hresult.symm.trans hr)
  obtain ⟨sessionPresentation, maxAgeSeconds, redirectPath, maxAge, rfl, hsafe, rfl⟩ :=
    setCookie_of_answers hanswers htext
  refine ⟨sessionPresentation, maxAgeSeconds, redirectPath, by simp [htold], ?_⟩
  intro before after hothers hsize request hheader
  rw [storedCookie_setCookie a hsafe] at hsize hheader
  have hcookies : ∀ cookie ∈ before ++ (authCookieName, sessionPresentation) :: after,
      IsCookie cookie := by
    intro cookie hmem
    rcases List.mem_append.mp hmem with hmem | hmem
    · exact (hothers cookie (List.mem_append_left _ hmem)).1
    · rcases List.mem_cons.mp hmem with rfl | hmem
      · exact isCookie_session hsafe
      · exact (hothers cookie (List.mem_append_right _ hmem)).1
  have hnone : ∀ cookies : List (JsString × JsString),
      (∀ cookie ∈ cookies, cookie.1 ≠ authCookieName) →
        cookies.filter (fun cookie => cookie.1 = authCookieName) = [] := fun cookies h =>
    List.filter_eq_nil_iff.mpr fun cookie hmem => by simpa using h cookie hmem
  have hsessions : sessions (before ++ (authCookieName, sessionPresentation) :: after) =
      [sessionPresentation] := by
    rw [sessions, List.filter_append, hnone before fun cookie hmem =>
      (hothers cookie (List.mem_append_left _ hmem)).2]
    rw [List.nil_append, List.filter_cons_of_pos (by simp), hnone after fun cookie hmem =>
      (hothers cookie (List.mem_append_right _ hmem)).2]
    rfl
  rw [cookie, hheader]
  exact parse_cookieHeader_session (by simp) hcookies hsize hsessions _

end DeterministicBrowserHttpAdapter

namespace BrowserDemo

def exchanges : List BrowserAction :=
  [.handle
      { method := js "POST"
        target := exchangePath
        headers := [(js "host", .one host), (js "origin", .one (js "https://a.test")),
          (js "sec-fetch-site", .one (js "same-origin")),
          (js "content-type", .one exchangeContentType)]
        body := .bytes [0x61] },
    .answer 0 (.exchange (.allowed (js "session") none none)), .answer 0 .resumed]

def exchangeCall : EndedCall CallbackAnswer AdapterStop AdapterError BrowserHttpResponse
    BrowserHttpRequest :=
  ((adapter defaultProofControls).after exchanges).ended.head (by decide +kernel)

/-- A request of the browser that has kept the session between two other cookies. -/
def returning : NormalizedRequest :=
  (adapter defaultProofControls).normalized
    (get (js "/index.html") host [js "theme=dark; __Host-aico_preview=session; lang=en"])

theorem session_presented_demo :
    (.exchanging ((adapter defaultProofControls).exchangeInput
          ((adapter defaultProofControls).normalized exchangeCall.tag)),
        .exchange (.allowed (js "session") none none)) ∈ exchangeCall.told ∧
      (adapter defaultProofControls).cookie returning = .ok (some (js "session")) := by
  have hended : exchangeCall ∈ ((adapter defaultProofControls).after exchanges).ended :=
    List.head_mem _
  have hresult : exchangeCall.result =
      .ok ((adapter defaultProofControls).exchanged (.allowed (js "session") none none)).response :=
    rfl
  have htext : ((adapter defaultProofControls).exchanged
      (.allowed (js "session") none none)).response.headers.get (js "Set-Cookie") =
        some ((adapter defaultProofControls).setCookie (js "session") 60) := rfl
  obtain ⟨sessionPresentation, maxAgeSeconds, redirectPath, hmem, hpresented⟩ :=
    DeterministicBrowserHttpAdapter.session_presented (a := adapter defaultProofControls) exchanges
      hended hresult htext
  have htold : exchangeCall.told =
      [(.exchanging ((adapter defaultProofControls).exchangeInput
          ((adapter defaultProofControls).normalized exchangeCall.tag)),
        .exchange (.allowed (js "session") none none)), (.dispatched, .resumed)] := rfl
  have hsession : sessionPresentation = js "session" ∧ maxAgeSeconds = none ∧
      redirectPath = none := by
    rw [htold] at hmem
    simpa using hmem
  obtain ⟨rfl, rfl, rfl⟩ := hsession
  refine ⟨hmem, hpresented [(js "theme", js "dark")] [(js "lang", js "en")] ?_ ?_ _ ?_⟩
  · intro cookie hcookie
    have hcases : cookie = (js "theme", js "dark") ∨ cookie = (js "lang", js "en") := by
      simpa using hcookie
    obtain rfl | rfl := hcases
    · exact ⟨⟨by decide, by decide, by decide⟩, by decide⟩
    · exact ⟨⟨by decide, by decide, by decide⟩, by decide⟩
  · decide +kernel
  · decide +kernel

end BrowserDemo

end BrowserHttp

end Aico
