import Aico.Foundation.NonInterference
import Aico.PreviewSpike.BrowserMediation

/-!
# Assets that nobody was allowed

Two adapters that differ in their assets are compared, over runs in which the callback
allows only paths where the assets are the same. Nothing else of the assets can be told
from the responses, from what the callbacks are asked or from the evidence.
-/

namespace Aico

namespace BrowserHttp

open Coroutine

def allowedPath : AdapterStop → CallbackAnswer → Option JsString
  | .authorizing input, .authorization .allowed => some input.normalizedPath
  | _, _ => none

def AllowsOnly (P : JsString → Prop) (stop : AdapterStop) (answer : CallbackAnswer) : Prop :=
  ∀ path ∈ allowedPath stop answer, P path

def StepAllowsOnly (P : JsString → Prop) (s : BrowserSystem) : BrowserAction → Prop
  | .answer n answer => ∀ stop ∈ s.point n, ∀ path ∈ allowedPath stop answer, P path
  | _ => True

instance (P : JsString → Prop) [DecidablePred P] (s : BrowserSystem) :
    DecidablePred (StepAllowsOnly P s)
  | .handle _ => isTrue trivial
  | .answer n answer =>
      inferInstanceAs (Decidable (∀ stop ∈ s.point n, ∀ path ∈ allowedPath stop answer, P path))
  | .resetEvidence => isTrue trivial

namespace DeterministicBrowserHttpAdapter

variable (a : DeterministicBrowserHttpAdapter)

def withAssets (assets : JsMap JsString HostileFixtureAsset)
    (hvalid : isValidFixture a.platform { a.fixture with assets := assets } = true) :
    DeterministicBrowserHttpAdapter :=
  { a with
    fixture := { a.fixture with assets := assets }
    fixture_valid := hvalid }

variable {a} {P : JsString → Prop} {assets : JsMap JsString HostileFixtureAsset}
  {hvalid : isValidFixture a.platform { a.fixture with assets := assets } = true}
  {request : NormalizedRequest}

/-- A callback is asked the same, and the rest goes on from the same answer. -/
theorem consult_alike {α β : Type} {C : AdapterStop → CallbackAnswer → Prop} {stop : AdapterStop}
    {read : CallbackAnswer → Option α} {f f' : Option α → HandleCall β}
    (hf : ∀ answer, C stop answer → (f (read answer)).Alike C (f' (read answer))) :
    (consult stop read >>= f).Alike C (consult stop read >>= f') := by
  rw [consult_eq]
  exact fun s => ⟨rfl, rfl, fun answer s' hC => hf answer hC s'⟩

theorem decided_alike {C : AdapterStop → CallbackAnswer → Prop} {path : JsString}
    {decision : BrowserAuthorizationDecision}
    (h : decision = .allowed → assets.get path = a.fixture.assets.get path) :
    (a.decided request path decision).Alike C
      ((a.withAssets assets hvalid).decided request path decision) := by
  cases decision with
  | denied reasonClass => exact Alike.refl _
  | allowed =>
      have hsame : (a.withAssets assets hvalid).decided request path .allowed =
          a.decided request path .allowed := by
        change (countTotals _ >>= fun _ => pure (a.served request (assets.get path))) = _
        rw [h rfl]
        rfl
      rw [hsame]
      exact Alike.refl _

theorem authorized_alike {path sessionPresentation : JsString}
    (hassets : ∀ path, P path → assets.get path = a.fixture.assets.get path) :
    (a.authorized request path sessionPresentation).Alike (AllowsOnly P)
      ((a.withAssets assets hvalid).authorized request path sessionPresentation) := by
  unfold authorized
  refine .bind (Alike.refl _) fun _ => consult_alike fun answer hallows => ?_
  cases answer with
  | authorization decision =>
      refine decided_alike fun hallowed => ?_
      rw [hallowed] at hallows
      exact hassets path (hallows path rfl)
  | _ => exact Alike.refl _

theorem content_alike {path : JsString}
    (hcookie : a.controls.cookieIsolation = true)
    (hmethod : a.controls.methodPathAndReferrerSafety = true)
    (hassets : ∀ path, P path → assets.get path = a.fixture.assets.get path) :
    (a.content request path).Alike (AllowsOnly P)
      ((a.withAssets assets hvalid).content request path) := by
  unfold content
  refine .ite (fun h => ?_) fun _ => ?_
  · simp [hmethod] at h
  · refine .ite (fun _ => Alike.refl _) fun _ => ?_
    refine .ite (fun _ => Alike.refl _) fun _ => ?_
    refine .ite (fun _ => Alike.refl _) fun _ => ?_
    refine .ite (fun _ => Alike.refl _) fun _ => ?_
    have hcookies : (a.withAssets assets hvalid).cookie request = a.cookie request := rfl
    rw [hcookies]
    cases a.cookie request with
    | error reasonClass => exact Alike.refl _
    | ok presentation =>
        cases presentation with
        | none => exact Alike.refl _
        | some sessionPresentation =>
            refine .ite (fun hoff => ?_) fun _ => ?_
            · simp [hcookie] at hoff
            · exact .ite (fun _ => Alike.refl _) fun _ => authorized_alike hassets

theorem handle_alike (hcookie : a.controls.cookieIsolation = true)
    (hmethod : a.controls.methodPathAndReferrerSafety = true)
    (hassets : ∀ path, P path → assets.get path = a.fixture.assets.get path)
    (input : BrowserHttpRequest) :
    (a.handle input).Alike (AllowsOnly P) ((a.withAssets assets hvalid).handle input) := by
  have hroute : ∀ request path, (a.route request path).Alike (AllowsOnly P)
      ((a.withAssets assets hvalid).route request path) := by
    intro request path
    unfold route
    refine .ite (fun h => ?_) fun _ => ?_
    · simp [hmethod] at h
    · refine .ite (fun _ => Alike.refl _) fun _ => ?_
      refine .ite (fun _ => Alike.refl _) fun _ => ?_
      exact .ite (fun _ => Alike.refl _) fun _ => content_alike hcookie hmethod hassets
  have hdispatch : ∀ request, (a.dispatch request).Alike (AllowsOnly P)
      ((a.withAssets assets hvalid).dispatch request) := by
    intro request
    unfold dispatch
    refine .ite (fun _ => Alike.refl _) fun _ => ?_
    refine .ite (fun _ => Alike.refl _) fun _ => ?_
    cases request.target.normalizedPath with
    | none => exact Alike.refl _
    | some path => exact hroute request path
  unfold handle
  refine .bind (Alike.refl _) fun before => .bind (.catching (hdispatch _)) fun result => ?_
  exact Alike.refl _

theorem step_alike (hcookie : a.controls.cookieIsolation = true)
    (hmethod : a.controls.methodPathAndReferrerSafety = true)
    (hassets : ∀ path, P path → assets.get path = a.fixture.assets.get path)
    {s s' : BrowserSystem} (h : s.Alike (AllowsOnly P) s') {action : BrowserAction}
    (hallows : StepAllowsOnly P s action) :
    (a.step s action).Alike (AllowsOnly P) ((a.withAssets assets hvalid).step s' action) := by
  cases action with
  | handle input => exact h.start (handle_alike hcookie hmethod hassets input)
  | resetEvidence => exact h.update resetEvidence
  | answer n answer =>
      change Calls.Alike _ (if (s.point n).any (·.fits answer) then s.answer n answer else s)
        (if (s'.point n).any (·.fits answer) then s'.answer n answer else s')
      rw [← h.point n]
      split
      · exact h.answer hallows
      · exact h

/-- Assets that nobody was allowed cannot be told from a run: the responses, what the
callbacks were asked, the evidence and what is still awaited are the same without them. -/
theorem unallowed_unseen (a : DeterministicBrowserHttpAdapter)
    (assets : JsMap JsString HostileFixtureAsset)
    (hvalid : isValidFixture a.platform { a.fixture with assets := assets } = true)
    (hcookie : a.controls.cookieIsolation = true)
    (hmethod : a.controls.methodPathAndReferrerSafety = true) (P : JsString → Prop)
    (hassets : ∀ path, P path → assets.get path = a.fixture.assets.get path)
    (actions : List BrowserAction)
    (hallows : Transition.EachStep a.step (StepAllowsOnly P) (Calls.idle .initial) actions) :
    ((a.withAssets assets hvalid).after actions).ended = (a.after actions).ended ∧
      ((a.withAssets assets hvalid).after actions).store = (a.after actions).store ∧
      ∀ n, ((a.withAssets assets hvalid).after actions).point n = (a.after actions).point n := by
  have hstep : ∀ s s' action, Calls.Alike (AllowsOnly P) s s' → StepAllowsOnly P s action →
      Calls.Alike (AllowsOnly P) (a.step s action)
        ((a.withAssets assets hvalid).step s' action) :=
    fun s s' action h hC => step_alike hcookie hmethod hassets h hC
  have halike := Transition.run_simulates hstep (Calls.Alike.idle .initial) hallows
  exact ⟨halike.ended.symm, halike.store.symm, fun n => (halike.point n).symm⟩

end DeterministicBrowserHttpAdapter

namespace BrowserDemo

/-- A second asset that the document does not lead to. -/
def moreAssets : JsMap JsString HostileFixtureAsset :=
  fixture.assets.set (js "/other.css")
    { path := js "/other.css"
      mediaType := js "text/css"
      body := bufferFrom (js "a")
      sha256 := platform.digest (bufferFrom (js "a")) }

/-- The document is allowed, and the second asset is denied. -/
def reading : List BrowserAction :=
  [.handle (get (js "/index.html") host [js "__Host-aico_preview=session"]),
    .handle (get (js "/other.css") host [js "__Host-aico_preview=session"]),
    .answer 0 (.authorization .allowed), .answer 0 (.authorization (.denied (js "NOT_ALLOWED"))),
    .answer 0 .resumed, .answer 0 .resumed]

theorem unallowed_unseen_demo :
    let a := adapter defaultProofControls
    let a' := a.withAssets moreAssets (by decide +kernel)
    (a.after reading).ended.length = 2 ∧ (a'.after reading).ended = (a.after reading).ended ∧
      (a'.after reading).store = (a.after reading).store ∧
      ∀ n, (a'.after reading).point n = (a.after reading).point n :=
  ⟨by decide +kernel, (adapter defaultProofControls).unallowed_unseen moreAssets (by decide +kernel)
    rfl rfl (· = js "/index.html") (by rintro path rfl; decide +kernel) reading (by decide +kernel)⟩

end BrowserDemo

end BrowserHttp

end Aico
