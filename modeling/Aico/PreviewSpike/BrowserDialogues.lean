import Aico.PreviewSpike.BrowserHttpAdapter

/-!
# Dialogues with the callbacks

What a request was told while it was dispatched says what it is answered. `Answers` lists
the answers, with the controls that are off where an answer needs that, and `Presents` is
what a request has shown before the callback is asked about it. `Stops` and `Handled` say
what becomes of the totals and of the evidence from one stop to the next.
-/

namespace Aico

namespace BrowserHttp

open Coroutine

abbrev Dialogue : Type := List (AdapterStop × CallbackAnswer)

def Fitting (stop : AdapterStop) (answer : CallbackAnswer) : Prop := stop.fits answer = true

def BrowserAuthorizationDecision.reads : BrowserAuthorizationDecision → ℕ
  | .allowed => 1
  | .denied _ => 0

def callPrices : Calls.Prices CallbackAnswer AdapterStop (ℕ × ℕ) where
  stop
    | .authorizing _ => (1, 0)
    | .exchanging _ => (0, 1)
    | .dispatched => 0
  answer _ _ := 0

def readPrices : Calls.Prices CallbackAnswer AdapterStop ℕ where
  stop _ := 0
  answer
    | .authorizing _, .authorization decision => decision.reads
    | _, _ => 0

namespace DeterministicBrowserHttpAdapter

variable (a : DeterministicBrowserHttpAdapter)

/-- What the adapter has read of a request that may ask for content. -/
structure Presents (request : NormalizedRequest) (path sessionPresentation : JsString) : Prop where
  host : a.controls.originAndHostIsolation = true → a.hostClass request = .exact
  target : request.target.valid = true ∧ request.target.normalizedPath = some path
  unreserved : path ≠ bootstrapPath ∧ path ≠ exchangePath ∧
    request.target.requestClass ≠ .reserved ∧ request.target.requestClass ≠ .workerControl
  method : a.controls.methodPathAndReferrerSafety = true →
    isReadMethod request.method = true ∧ hasRepresentationHeader request.headers = false
  origin : a.controls.originAndHostIsolation = true →
    a.originClass request ≠ .malformed ∧ a.originClass request ≠ .mismatch
  fetchSite : a.controls.originAndHostIsolation = true →
    firstHeader request.headers (js "sec-fetch-site") ≠ some (js "cross-site") ∧
      firstHeader request.headers (js "sec-fetch-site") ≠ some (js "same-site")
  cookie : a.cookie request = .ok (some sessionPresentation)

/-- What the adapter has read of a request that may exchange a capability. -/
structure Offers (request : NormalizedRequest) : Prop where
  host : a.controls.originAndHostIsolation = true → a.hostClass request = .exact
  target : request.target.valid = true ∧ request.target.normalizedPath = some exchangePath
  method : request.method = js "POST"
  origin : a.controls.originAndHostIsolation = true → a.originClass request = .exact
  fetchSite : a.controls.originAndHostIsolation = true →
    firstHeader request.headers (js "sec-fetch-site") = some (js "same-origin")
  contentType : firstHeader request.headers (js "content-type") = some exchangeContentType
  body : 0 < request.body.length ∧ request.body.length ≤ maxRequestBodyBytes
  cookie : ∃ presentation, a.cookie request = .ok presentation

/-- What a request is answered after a dialogue. -/
inductive Answers (request : NormalizedRequest) : Dialogue → DispatchResult → Prop
  | denied (told : Dialogue) (reasonClass : JsString) (profile : PolicyProfile) :
      Answers request told (a.unavailable reasonClass profile)
  | page (host : a.controls.originAndHostIsolation = true → a.hostClass request = .exact)
      (target : request.target.valid = true ∧
        request.target.normalizedPath = some bootstrapPath) :
      Answers request [] (a.bootstrap request)
  | redirect (offers : a.Offers request) (decision : BrowserExchangeDecision) :
      Answers request [(.exchanging (a.exchangeInput request), .exchange decision)]
        (a.exchanged decision)
  | content (path sessionPresentation : JsString)
      (presents : a.Presents request path sessionPresentation) :
      Answers request
        [(.authorizing (a.authorizationInput request path sessionPresentation),
          .authorization .allowed)]
        (a.served request (a.fixture.assets.get path))
  | unchecked (off : a.controls.cookieIsolation = false) (path : JsString) :
      Answers request [] (a.served request (a.fixture.assets.get path))
  | unsafeRequest (off : a.controls.methodPathAndReferrerSafety = false)
      (asset : HostileFixtureAsset) :
      Answers request [] (a.generated request asset.mediaType asset.body (js "WEAK_METHOD_PATH"))
  | worker (off : a.controls.storageAndWorkerIsolation = false) :
      Answers request [] (a.weakenedWorkerContent request)
  | reserved (off : a.controls.exactCspAndTargetDenial = false) :
      Answers request [] a.weakenedReservedRoute

/-- Some objects were read. With both controls they are the ones that were authorized. -/
def Reads (told : Dialogue) (s₀ s : AdapterState) : Prop :=
  ∃ reads : ℕ,
    s = { s₀ with totals := { s₀.totals with objectReads := s₀.totals.objectReads + reads } } ∧
      (a.controls.cookieIsolation = true → a.controls.methodPathAndReferrerSafety = true →
        reads = readPrices.due told)

def Stops (request : NormalizedRequest) (told : Dialogue) (s₀ : AdapterState) :
    AdapterStop → AdapterState → Prop
  | .authorizing authorization, s =>
      (told = [] ∧ s = { s₀ with
        totals := { s₀.totals with authorizationCalls := s₀.totals.authorizationCalls + 1 } }) ∧
        ∃ path sessionPresentation, a.Presents request path sessionPresentation ∧
          authorization = a.authorizationInput request path sessionPresentation
  | .exchanging exchange, s =>
      (told = [] ∧ s = { s₀ with
        totals := { s₀.totals with exchangeCalls := s₀.totals.exchangeCalls + 1 } }) ∧
        a.Offers request ∧ exchange = a.exchangeInput request
  | .dispatched, s => a.Reads told s₀ s

/-- A program that is only told what one stop waits for. -/
abbrev Tells {α : Type} (request : NormalizedRequest)
    (P : Dialogue → AdapterState → AdapterState → Prop) (p : HandleCall α)
    (Q : Dialogue → AdapterState → Except AdapterError α → AdapterState → Prop) : Prop :=
  Coroutine.Tells Fitting (a.Stops request) P p Q

/-- Nothing was told and nothing was counted. -/
def Fresh (told : Dialogue) (s₀ s : AdapterState) : Prop := told = [] ∧ s = s₀

/-- What a dispatch comes to: it returns an answer, and it may have read an object. -/
def Returns (request : NormalizedRequest) (told : Dialogue) (s₀ : AdapterState)
    (r : Except AdapterError DispatchResult) (s : AdapterState) : Prop :=
  ∃ result, r = .ok result ∧ a.Answers request told result ∧ a.Reads told s₀ s

variable {a} {request : NormalizedRequest}

theorem reads_zero {told : Dialogue} {s : AdapterState} (h : readPrices.due told = 0) :
    a.Reads told s s :=
  ⟨0, rfl, fun _ _ => h.symm⟩

theorem returns_pure {P : Dialogue → AdapterState → AdapterState → Prop} {result : DispatchResult}
    (h : ∀ told s₀ s, P told s₀ s → a.Answers request told result ∧ a.Reads told s₀ s) :
    a.Tells request P (pure result : HandleCall DispatchResult) (a.Returns request) :=
  .pure fun told s₀ s hP => ⟨result, rfl, h told s₀ s hP⟩

theorem fresh_pure {result : DispatchResult} (h : a.Answers request [] result) :
    a.Tells request Fresh (pure result : HandleCall DispatchResult) (a.Returns request) := by
  refine returns_pure ?_
  rintro told s₀ s ⟨rfl, rfl⟩
  exact ⟨h, reads_zero rfl⟩

theorem fresh_unavailable (reasonClass : JsString) (profile : PolicyProfile) :
    a.Tells request Fresh (pure (a.unavailable reasonClass profile) : HandleCall DispatchResult)
      (a.Returns request) :=
  fresh_pure (.denied [] reasonClass profile)

theorem tells_countTotals {α : Type} {P P' : Dialogue → AdapterState → AdapterState → Prop}
    {f : MutableTotals → MutableTotals} {p : HandleCall α}
    {Q : Dialogue → AdapterState → Except AdapterError α → AdapterState → Prop}
    (hf : ∀ told s₀ s, P told s₀ s → P' told s₀ { s with totals := f s.totals })
    (hp : a.Tells request P' p Q) : a.Tells request P (countTotals f >>= fun _ => p) Q :=
  fun told s₀ _ hP => hp told s₀ _ (hf told s₀ _ hP)

theorem tells_countRead {p : HandleCall DispatchResult} {result : DispatchResult}
    {told : Dialogue} (hanswers : a.Answers request told result)
    (hdue : a.controls.cookieIsolation = true → a.controls.methodPathAndReferrerSafety = true →
      readPrices.due told = 1) (hp : p = pure result) :
    a.Tells request (fun told' s₀ s => told' = told ∧ s = s₀)
      (countTotals (fun t => { t with objectReads := t.objectReads + 1 }) >>= fun _ => p)
      (a.Returns request) := by
  subst hp
  rintro told' s₀ s ⟨rfl, rfl⟩
  exact ⟨result, rfl, hanswers, 1, rfl, fun hcookie hmethod => (hdue hcookie hmethod).symm⟩

/-- A callback that has thrown has decided nothing. -/
theorem consult_eq {α : Type} (stop : AdapterStop) (read : CallbackAnswer → Option α) :
    consult stop read = pause stop >>= fun answer => pure (read answer) := by
  have hrest : ∀ answer s,
      Course.catching (fun _ : AdapterError => (pure none : HandleCall (Option α)))
        (((Coroutine.require (read answer) .callback : HandleCall α) s).bind
          fun decision => pure (some decision)) = .done (.ok (read answer)) s := by
    intro answer s
    cases read answer with
    | none => rfl
    | some decision => rfl
  funext s
  exact congrArg (Course.paused stop s) (funext fun answer => funext fun s' => hrest answer s')

/-- A callback is asked once, and the rest goes on from its answer. -/
theorem consult_tells {α β : Type} {stop : AdapterStop} {read : CallbackAnswer → Option α}
    {f : Option α → HandleCall β}
    {Q : Dialogue → AdapterState → Except AdapterError β → AdapterState → Prop}
    (hf : ∀ answer, a.Tells request (fun told s₀ s => told = [(stop, answer)] ∧ s = s₀)
      (f (read answer)) Q) :
    a.Tells request (fun told s₀ s => told = [] ∧ a.Stops request told s₀ stop s) (consult stop read >>= f) Q := by
  rw [consult_eq]
  rintro told s₀ s ⟨rfl, hstop⟩
  exact ⟨hstop, fun answer s' _ => hf answer _ s' s' ⟨rfl, rfl⟩⟩

/-- After a callback was asked, the answer may be what it does not pay for. -/
theorem heard_pure {stop : AdapterStop} {answer : CallbackAnswer} {result : DispatchResult}
    (h : a.Answers request [(stop, answer)] result)
    (hunpaid : readPrices.due [(stop, answer)] = 0) :
    a.Tells request (fun told s₀ s => told = [(stop, answer)] ∧ s = s₀)
      (pure result : HandleCall DispatchResult) (a.Returns request) := by
  refine returns_pure ?_
  rintro told s₀ s ⟨rfl, rfl⟩
  exact ⟨h, reads_zero hunpaid⟩

theorem decided_tells {told : Dialogue} {path : JsString} {decision : BrowserAuthorizationDecision}
    (h : decision = .allowed →
      a.Answers request told (a.served request (a.fixture.assets.get path)))
    (hdue : a.controls.cookieIsolation = true → a.controls.methodPathAndReferrerSafety = true →
      readPrices.due told = decision.reads) :
    a.Tells request (fun told' s₀ s => told' = told ∧ s = s₀) (a.decided request path decision)
      (a.Returns request) := by
  cases decision with
  | denied reasonClass =>
      refine returns_pure ?_
      rintro told' s₀ s ⟨rfl, rfl⟩
      exact ⟨.denied told' reasonClass .generatedV1, 0, rfl,
        fun hcookie hmethod => (hdue hcookie hmethod).symm⟩
  | allowed => exact tells_countRead (h rfl) hdue rfl

theorem authorized_tells {path sessionPresentation : JsString}
    (h : a.Presents request path sessionPresentation) :
    a.Tells request Fresh (a.authorized request path sessionPresentation) (a.Returns request) := by
  unfold authorized
  refine tells_countTotals ?_ (consult_tells fun answer => ?_)
  · rintro told s₀ s ⟨rfl, rfl⟩
    exact ⟨rfl, ⟨rfl, rfl⟩, path, sessionPresentation, h, rfl⟩
  · cases answer with
    | authorization decision =>
        refine decided_tells (fun hallowed => ?_) fun _ _ => rfl
        rw [hallowed]
        exact .content path sessionPresentation h
    | _ => exact heard_pure (.denied _ _ .generatedV1) rfl

theorem exchange_tells
    (host : a.controls.originAndHostIsolation = true → a.hostClass request = .exact)
    (target : request.target.valid = true ∧ request.target.normalizedPath = some exchangePath) :
    a.Tells request Fresh (a.exchange request) (a.Returns request) := by
  unfold exchange
  refine .ite (fun _ => fresh_unavailable _ _) fun hmethod => ?_
  refine .ite (fun _ => fresh_unavailable _ _) fun horigin => ?_
  refine .ite (fun _ => fresh_unavailable _ _) fun hfetchSite => ?_
  refine .ite (fun _ => fresh_unavailable _ _) fun hcontentType => ?_
  refine .ite (fun _ => fresh_unavailable _ _) fun hbody => ?_
  cases hcookie : a.cookie request with
  | error reasonClass => exact fresh_unavailable _ _
  | ok presentation =>
      have offers : a.Offers request :=
        { host := host
          target := target
          method := not_not.mp hmethod
          origin := fun h => not_not.mp fun hne => horigin ⟨h, hne⟩
          fetchSite := fun h => not_not.mp fun hne => hfetchSite ⟨h, hne⟩
          contentType := not_not.mp hcontentType
          body := by omega
          cookie := ⟨presentation, hcookie⟩ }
      refine .ite (fun _ => fresh_unavailable _ _) fun _ => ?_
      refine tells_countTotals ?_ (consult_tells fun answer => ?_)
      · rintro told s₀ s ⟨rfl, rfl⟩
        exact ⟨rfl, ⟨rfl, rfl⟩, offers, rfl⟩
      · cases answer with
        | exchange decision => exact heard_pure (.redirect offers decision) rfl
        | _ => exact heard_pure (.denied _ _ .bootstrapV1) rfl

theorem weakenedUnsafeRequest_tells (off : a.controls.methodPathAndReferrerSafety = false)
    (path : JsString) :
    a.Tells request Fresh (a.weakenedUnsafeRequest request path) (a.Returns request) := by
  unfold weakenedUnsafeRequest
  split
  · exact fresh_unavailable _ _
  · next asset _ =>
      exact tells_countRead (.unsafeRequest off asset) (fun _ hmethod => by simp [off] at hmethod) rfl

theorem content_tells {path : JsString}
    (host : a.controls.originAndHostIsolation = true → a.hostClass request = .exact)
    (target : request.target.valid = true ∧ request.target.normalizedPath = some path)
    (unreserved : path ≠ bootstrapPath ∧ path ≠ exchangePath ∧
      request.target.requestClass ≠ .reserved ∧ request.target.requestClass ≠ .workerControl) :
    a.Tells request Fresh (a.content request path) (a.Returns request) := by
  unfold content
  refine .ite (fun h => weakenedUnsafeRequest_tells (by simpa using h.1) path) fun _ => ?_
  refine .ite (fun _ => fresh_unavailable _ _) fun hmethod => ?_
  refine .ite (fun _ => fresh_unavailable _ _) fun hrepresentation => ?_
  refine .ite (fun _ => fresh_unavailable _ _) fun horigin => ?_
  refine .ite (fun _ => fresh_unavailable _ _) fun hfetchSite => ?_
  cases hcookie : a.cookie request with
  | error reasonClass => exact fresh_unavailable _ _
  | ok presentation =>
      cases presentation with
      | none => exact fresh_unavailable _ _
      | some sessionPresentation =>
          refine .ite (fun hoff => ?_) fun _ => ?_
          · have off : a.controls.cookieIsolation = false := by simpa using hoff
            exact decided_tells (fun _ => .unchecked off path)
              fun hon => Bool.noConfusion (hon.symm.trans off)
          · refine .ite (fun _ => fresh_unavailable _ _) fun _ => ?_
            apply authorized_tells
            exact
              { host := host
                target := target
                unreserved := unreserved
                method := fun h => by simp_all
                origin := fun h => by simp_all
                fetchSite := fun h => by simp_all
                cookie := hcookie }

theorem reservedRoute_answers : a.Answers request [] (a.reservedRoute request) := by
  unfold reservedRoute
  split
  · next h => exact .worker (by simpa using h.2)
  · split
    · next h => exact .reserved (by simpa using h.2)
    · exact .denied _ _ _

theorem route_tells {path : JsString}
    (host : a.controls.originAndHostIsolation = true → a.hostClass request = .exact)
    (target : request.target.valid = true ∧ request.target.normalizedPath = some path) :
    a.Tells request Fresh (a.route request path) (a.Returns request) := by
  unfold route
  refine .ite (fun h => weakenedUnsafeRequest_tells (by simpa using h.2) path) fun _ => ?_
  refine .ite (fun hpath => fresh_pure (.page host (hpath ▸ target))) fun hbootstrap => ?_
  refine .ite (fun hpath => exchange_tells host (hpath ▸ target)) fun hexchange => ?_
  refine .ite (fun _ => fresh_pure reservedRoute_answers) fun hreserved => ?_
  rw [not_or] at hreserved
  exact content_tells host target ⟨hbootstrap, hexchange, hreserved.1, hreserved.2⟩

theorem dispatch_tells : a.Tells request Fresh (a.dispatch request) (a.Returns request) := by
  unfold dispatch
  refine .ite (fun _ => fresh_unavailable _ _) fun hhost => ?_
  refine .ite (fun _ => fresh_unavailable _ _) fun hvalid => ?_
  cases hpath : request.target.normalizedPath with
  | none => exact fresh_unavailable _ _
  | some path =>
      have host : a.controls.originAndHostIsolation = true → a.hostClass request = .exact :=
        fun h => not_not.mp fun hne => hhost ⟨h, hne⟩
      exact route_tells host ⟨by simpa using hvalid, hpath⟩

/-! ## Whole requests -/

variable (a)

/-- What handling a request comes to: the dialogue of its dispatch, the response of the
answer, and the record of it. -/
def Handled (input : BrowserHttpRequest) (told : Dialogue) (s₀ : AdapterState)
    (r : Except AdapterError BrowserHttpResponse) (s : AdapterState) : Prop :=
  ∃ dialogue result before, told = dialogue ++ [(.dispatched, .resumed)] ∧
    r = .ok result.response ∧ a.Answers (a.normalized input) dialogue result ∧
    s = a.recorded (a.normalized input) before result s₀

variable {a}

theorem handle_tells (input : BrowserHttpRequest) :
    a.Tells (a.normalized input) Fresh (a.handle input) (a.Handled input) := by
  unfold handle
  refine .bind (T := fun told s₀ r s => Fresh told s₀ s ∧ r.isOk)
    (.gets fun told s₀ s h => ⟨h, rfl⟩) (fun before => ?_) fun told s₀ e s h => Bool.noConfusion h.2
  refine .bind (T := a.Returns (a.normalized input)) ?_ (fun result => ?_) ?_
  · rintro told s₀ s ⟨hfresh, -⟩
    exact Coroutine.Tells.catching dispatch_tells (fun told s₀ result s h => h)
      (fun e => .pure fun told s₀ s h => by obtain ⟨result, hr, -⟩ := h; cases hr) told s₀ s hfresh
  · refine .bind (T := fun told s₀ r s => s = s₀ ∧ r.isOk ∧ ∃ dialogue,
        told = dialogue ++ [(.dispatched, .resumed)] ∧
          a.Answers (a.normalized input) dialogue result)
      (.pause (fun told s₀ s h => ?_) ?_) (fun answer => ?_) fun told s₀ e s h => Bool.noConfusion h.2.1
    · obtain ⟨result', -, -, hreads⟩ := h
      exact hreads
    · rintro told s₀ s answer s' ⟨result', hresult, hanswers, -⟩ hfits
      obtain rfl := Except.ok.inj hresult
      cases answer with
      | resumed => exact ⟨rfl, rfl, told, rfl, hanswers⟩
      | _ => exact Bool.noConfusion hfits
    · rintro told s₀ s ⟨rfl, -, dialogue, htold, hanswers⟩
      exact ⟨dialogue, result, before, htold, rfl, hanswers, rfl⟩
  · rintro told s₀ e s ⟨result, hresult, -⟩
    cases hresult

/-- What a step does. An answer that no request waits for changes nothing. -/
inductive Steps (s : BrowserSystem) : BrowserAction → BrowserSystem → Prop
  | handle (input : BrowserHttpRequest) : Steps s (.handle input) (s.start input (a.handle input))
  | answer (n : ℕ) (answer : CallbackAnswer) (fits : ∀ stop ∈ s.point n, Fitting stop answer) :
      Steps s (.answer n answer) (s.answer n answer)
  | ignored (n : ℕ) (answer : CallbackAnswer) : Steps s (.answer n answer) s
  | resetEvidence : Steps s .resetEvidence (s.update resetEvidence)

theorem step_steps (s : BrowserSystem) (action : BrowserAction) :
    Steps (a := a) s action (a.step s action) := by
  cases action with
  | handle input => exact .handle input
  | resetEvidence => exact .resetEvidence
  | answer n answer =>
      change Steps s _ (if (s.point n).any (·.fits answer) then s.answer n answer else s)
      split
      · next hfits =>
          refine .answer n answer fun stop hstop => ?_
          simpa [Fitting, Option.mem_def.mp hstop] using hfits
      · exact .ignored n answer

variable (a)

/-- Every request of a system goes on as its dispatch does, and was handled so when it has
been answered. -/
abbrev Holds (s : BrowserSystem) : Prop := Calls.Holds Fitting (fun input => a.Stops (a.normalized input)) a.Handled s

variable {a}

theorem holds_step {s : BrowserSystem} (hs : a.Holds s) (action : BrowserAction) :
    a.Holds (a.step s action) := by
  have hstep := step_steps (a := a) s action
  generalize a.step s action = s' at hstep ⊢
  cases hstep with
  | handle input => exact hs.start (handle_tells input)
  | answer n answer fits => exact hs.answer fits
  | ignored n answer => exact hs
  | resetEvidence => exact hs.update resetEvidence

theorem holds_run {s : BrowserSystem} (hs : a.Holds s) (actions : List BrowserAction) :
    a.Holds (Transition.run a.step s actions) :=
  Transition.run_invariant (P := a.Holds) (fun _ action hs => holds_step hs action) hs actions

theorem holds_after (actions : List BrowserAction) : a.Holds (a.after actions) :=
  holds_run (Calls.Holds.idle _) actions

end DeterministicBrowserHttpAdapter

end BrowserHttp

end Aico
