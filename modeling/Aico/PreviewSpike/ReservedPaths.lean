import Aico.PreviewSpike.HookedCalls
import Aico.PreviewSpike.PreviewFixture

/-!
# Reserved paths

The paths that begin with `/__aico` are reserved. The service looks for the prefix in the
path as it was sent, and decodes it afterwards: a reserved path whose prefix is written with
an escape is routed as any other path, to an entry of the manifest or, for a navigation, to
the entry document. `ShowsReserved` is what a request needs for its path to be refused.
-/

namespace Aico

namespace PreviewProof

open Coroutine

/-- What a call has answered, with the store in which it was made. -/
structure Answered where
  before : PreviewProofState
  request : OperationRequest
  receipt : ProofReceipt

abbrev ServiceJournal : Type :=
  Journal PreviewProofState HookAnswer Stop ProofError Answered

def reservedPrefix : JsString := js "/__aico"

namespace PreviewProofService

variable (svc : PreviewProofService)

/-! ## Runs with their answers -/

def answered (request : OperationRequest) : Call ProofError Answered := do
  let before ← gets id
  let receipt ← svc.perform request
  pure ⟨before, request, receipt⟩

def journalStep (j : ServiceJournal) : HookedAction → ServiceJournal
  | .call request => j.call (svc.answered request)
  | .answer answer => j.answer answer
  | .environs e => j.update (svc.environs e)

def journal (s : PreviewProofState) (actions : List HookedAction) : ServiceJournal :=
  Transition.run svc.journalStep (Journal.idle s) actions

/-! ## What a path is routed to -/

def decodedPath (request : AccessRequest) : Option JsString :=
  svc.platform.decodeURIComponent (pathPart request.path)

def manifestOf (s : PreviewProofState) (request : AccessRequest) : Option BuildAuthority :=
  (svc.sessionOf s request.cookiePresentation).bind fun session =>
    (s.previews.get session.previewId).bind fun preview => s.builds.get preview.buildId

/-- Whether the path is safe, and names an entry of the manifest or is a navigation to the
entry document. -/
def Routed (manifest : BuildAuthority) (request : AccessRequest) (path : JsString) : Prop :=
  isSafeManifestPath (relativePath path) = true ∧
    ((∃ entry ∈ manifest.entries, entry.path = relativePath path) ∨
      request.navigation = true ∧ 0x2E ∉ relativePath path)

def Reserved (request : AccessRequest) : Prop :=
  ∃ path ∈ svc.decodedPath request, reservedPrefix <+: path

/-- A reserved path begins with the prefix as it is sent, or is not routed. -/
def ShowsReserved (s : PreviewProofState) (request : AccessRequest) : Prop :=
  ∀ path ∈ svc.decodedPath request, reservedPrefix <+: path →
    reservedPrefix <+: request.path ∨
      ∀ manifest ∈ svc.manifestOf s request, ¬ Routed manifest request path

/-! ## What an answer promises -/

/-- An entry of the manifest is served, under its path: the entry document, or a safe one. -/
def ServesManifest (s : PreviewProofState) (request : AccessRequest) (receipt : ProofReceipt) :
    Prop :=
  ∃ manifest ∈ svc.manifestOf s request, ∃ entry ∈ manifest.entries,
    (∃ response cacheResult,
      receipt.detail = .access response cacheResult
        (some (svc.platform.canonicalDigest (.str entry.path))) ∧
      response.mediaType = some entry.mediaType) ∧
    (entry.path = manifest.entryDocument ∨ isSafeManifestPath entry.path = true)

/-- A reserved path that shows itself is refused, and what is allowed is in the manifest. -/
def KeepsReserved (a : Answered) : Prop :=
  ∀ request, a.request = .access request →
    (svc.ShowsReserved a.before request → svc.Reserved request →
      a.receipt.outcome ≠ .allowed) ∧
    (a.receipt.outcome = .allowed → svc.ServesManifest a.before request a.receipt)

/-! ## The builds do not change -/

def KeepsBuilds (s s' : PreviewProofState) : Prop := s'.builds = s.builds

instance : IsPreorder PreviewProofState KeepsBuilds where
  refl _ := rfl
  trans _ _ _ h h' := Eq.trans h' h

abbrev AnyStore : PreviewProofState → Prop := fun _ => True

abbrev AnyAnswer : Stop → HookAnswer → PreviewProofState → Prop := fun _ _ _ => True

variable {svc} {ε α : Type}

theorem keepsBooks_builds : KeepsBooks AnyStore KeepsBuilds :=
  fun _ _ _ hbuilds _ => ⟨trivial, hbuilds⟩

theorem keeps_modify {f : PreviewProofState → PreviewProofState}
    (h : ∀ s, (f s).builds = s.builds) :
    Steady AnyStore KeepsBuilds AnyAnswer (modify f : Call ε PUnit) :=
  .modify fun s _ => ⟨trivial, h s⟩

theorem keeps_checkPublication (request : PublicationRequest) (company : CompanyAuthority)
    (build : BuildAuthority) (preview : PreviewAuthority) :
    Steady AnyStore KeepsBuilds AnyAnswer
      (svc.checkPublication request company build preview) := by
  unfold checkPublication assertCompanyScope assertPublicationBindings validateBuildCopy
  refine .bind .ensure fun _ => .bind ?_ fun _ => .bind .gets fun _ => .lift
  refine .bind .ensure fun _ => .bind .ensure fun _ => .bind .gets fun _ => ?_
  exact .bind .ensure fun _ => .bind .gets fun _ => .bind .ensure fun _ =>
    .bind .ensure fun _ => .ensure

theorem keeps_publish (request : PublicationRequest) :
    Steady AnyStore KeepsBuilds AnyAnswer (svc.publish request) := by
  unfold publish assertRequestDigest
  refine .bind .ensure fun _ => steady_settle keepsBooks_builds ?_
  unfold publishBody
  refine .bind (steady_within (steady_readCompanyBySubject _ _)) fun company => ?_
  refine .bind (steady_within (steady_replay _)) fun replayed => ?_
  cases replayed with
  | some receipt => exact .pure
  | none =>
      unfold publishNew
      refine .bind (steady_within (steady_readBuild _ _ _)) fun build => ?_
      refine .bind (steady_within (steady_readPreview _ _ _)) fun preview => ?_
      refine .bind (steady_within (keeps_checkPublication _ _ _ _)) fun verified => ?_
      refine .bind (steady_within (steady_consumeIntent keepsBooks_builds _ _ _)) fun _ => ?_
      refine .bind (steady_within (steady_callHook _ _)) fun _ => ?_
      refine .bind (keeps_modify fun _ => rfl) fun _ => .ite ?_ ?_
      · unfold publishDoubtful
        refine .bind (keeps_modify fun _ => rfl) fun _ => .bind .gets fun _ => ?_
        exact .bind (keeps_modify fun _ => rfl) fun _ => .pure
      · unfold publishAvailable
        refine .bind (keeps_modify fun _ => rfl) fun _ => ?_
        refine .bind (keeps_modify fun _ => rfl) fun _ => ?_
        refine .bind (steady_within (steady_callHook _ _)) fun _ => .bind .gets fun _ => ?_
        exact .bind (keeps_modify fun _ => rfl) fun _ => .pure

theorem keeps_revoke (request : RevocationRequest) :
    Steady AnyStore KeepsBuilds AnyAnswer (svc.revoke request) := by
  have hcheck : ∀ company preview, Steady AnyStore KeepsBuilds AnyAnswer
      (checkRevocation request company preview) := by
    intro company preview
    unfold checkRevocation assertCompanyScope
    exact .bind .ensure fun _ => .ensure
  unfold revoke assertRequestDigest
  refine .bind .ensure fun _ => steady_settle keepsBooks_builds ?_
  unfold revokeBody
  refine .bind (steady_within (steady_readCompanyBySubject _ _)) fun company => ?_
  refine .bind (steady_within (steady_replay _)) fun replayed => ?_
  cases replayed with
  | some receipt => exact .pure
  | none =>
      unfold revokeNew
      refine .bind (steady_within (steady_readPreview _ _ _)) fun before => ?_
      refine .bind (steady_within (hcheck company before)) fun _ => ?_
      refine .bind (steady_within (steady_callHook _ _)) fun _ => ?_
      refine .bind (steady_within (steady_readPreview _ _ _)) fun preview => ?_
      refine .bind (steady_within (hcheck company preview)) fun _ => ?_
      refine .bind (steady_within (steady_consumeIntent keepsBooks_builds _ _ _)) fun _ => ?_
      unfold commitRevocation
      refine .bind (keeps_modify fun _ => rfl) fun _ => .bind (keeps_modify fun _ => rfl) fun _ => ?_
      refine .bind (steady_within (steady_callHook _ _)) fun _ => .bind .gets fun _ => ?_
      exact .bind (keeps_modify fun _ => rfl) fun _ => .pure

theorem retireHost_builds (preview : PreviewAuthority) (complete : Bool)
    (s : PreviewProofState) : (retireHost preview complete s).builds = s.builds := by
  cases complete <;> rfl

theorem keeps_cleanup (request : CleanupRequest) :
    Steady AnyStore KeepsBuilds AnyAnswer (svc.cleanup request) := by
  unfold cleanup assertRequestDigest
  refine .bind .ensure fun _ => steady_settle keepsBooks_builds ?_
  unfold cleanupBody
  refine .bind (steady_within (steady_readCompanyBySubject _ _)) fun company => ?_
  refine .bind (steady_within (steady_replay _)) fun replayed => ?_
  cases replayed with
  | some receipt => exact .pure
  | none =>
      unfold cleanupNew
      refine .bind (steady_within (steady_readPreview _ _ _)) fun preview => ?_
      refine .bind (steady_within ?_) fun _ => ?_
      · unfold checkCleanup assertCompanyScope
        exact .bind .ensure fun _ => .ensure
      refine .bind (steady_within (steady_consumeIntent keepsBooks_builds _ _ _)) fun _ => ?_
      refine steady_within ?_
      unfold removePreview
      refine .bind (keeps_modify fun _ => rfl) fun _ => .bind .gets fun _ => .bind .gets fun _ => ?_
      refine .bind (keeps_modify fun _ => rfl) fun _ => .bind .gets fun _ => .bind .gets fun _ => ?_
      refine .bind (keeps_modify (retireHost_builds preview _)) fun _ => ?_
      refine .bind (keeps_modify fun _ => rfl) fun _ => .bind .gets fun _ => ?_
      exact .bind (keeps_modify fun _ => rfl) fun _ => .pure

/-! ## access -/

/-- The path `p` that the decoded path of the request is resolved to. -/
def RoutesTo (manifest : BuildAuthority) (request : AccessRequest) (path p : JsString) : Prop :=
  path = js "/" ∧ p = manifest.entryDocument ∨
    Routed manifest request path ∧ (p = manifest.entryDocument ∨ p = relativePath path)

/-- The request of a path that is not refused as it is sent resolves to `p`. -/
def ResolvesTo (svc : PreviewProofService) (s : PreviewProofState) (request : AccessRequest)
    (manifest : BuildAuthority) (p : JsString) : Prop :=
  ¬ reservedPrefix <+: request.path ∧ manifest ∈ svc.manifestOf s request ∧
    ∃ path ∈ svc.decodedPath request, RoutesTo manifest request path p

def ReadFor (svc : PreviewProofService) (s : PreviewProofState) (request : AccessRequest)
    (read : ContentRead) : Prop :=
  read.request = request ∧
    ∃ manifest, read.entry ∈ manifest.entries ∧ svc.ResolvesTo s request manifest read.entry.path

theorem reads_build {builds : JsMap JsString BuildAuthority} (buildId : JsString)
    (operation : ProofOperation) (held : Held) :
    Upholds AnyStore KeepsBuilds AnyAnswer (fun s => s.builds = builds)
      (svc.readBuild buildId operation held) fun build s =>
        s.builds = builds ∧ builds.get buildId = some build := by
  unfold readBuild
  have hsteady : Steady AnyStore KeepsBuilds AnyAnswer (svc.authorityRead operation held) :=
    steady_authorityRead operation held
  have hread := hsteady.upholds (P := fun s => s.builds = builds)
    fun s s' h hkeeps => hkeeps.trans h
  refine .bind hread fun _ => .bind_gets fun found => ?_
  refine Upholds.require.weaken (fun _ h => h) fun build s _ h => ⟨h.1.1, ?_⟩
  obtain ⟨⟨hbuilds, hfound⟩, hsome⟩ := h
  rw [← hbuilds, ← hfound, hsome]

theorem routes_normalizeAccessPath {builds : JsMap JsString BuildAuthority}
    (request : AccessRequest) (preview : PreviewAuthority) :
    Upholds AnyStore KeepsBuilds AnyAnswer (fun s => s.builds = builds)
      (svc.normalizeAccessPath request preview) fun p s => s.builds = builds ∧
        ∃ manifest, builds.get preview.buildId = some manifest ∧
          ∃ path ∈ svc.decodedPath request, RoutesTo manifest request path p := by
  unfold normalizeAccessPath
  refine .bind_require fun path hpath => ?_
  unfold resolvePath
  refine .ite (fun hroot => ?_) fun hroot => .bind_ensure fun _ hsafe => ?_
  · refine .bind (reads_build _ _ _) fun manifest => .pure fun s h => ?_
    exact ⟨h.1, manifest, h.2, path, hpath, .inl ⟨hroot, rfl⟩⟩
  · refine .bind (reads_build _ _ _) fun manifest => ?_
    unfold fallbackPath
    refine .ite (fun hentry => .pure fun s h => ?_) fun _ => .ite (fun hfallback => ?_) fun _ => .throw
    · obtain ⟨entry, hmem, heq⟩ := List.any_eq_true.mp hentry
      have hrouted : Routed manifest request path := ⟨hsafe, .inl ⟨entry, hmem, of_decide_eq_true heq⟩⟩
      exact ⟨h.1, manifest, h.2, path, hpath, .inr ⟨hrouted, .inr rfl⟩⟩
    · refine .pure fun s h => ⟨h.1, manifest, h.2, path, hpath, .inr ⟨?_, .inl rfl⟩⟩
      exact ⟨hsafe, .inr hfallback⟩

theorem reads_content {s₀ : PreviewProofState} (request : AccessRequest) :
    Upholds AnyStore KeepsBuilds AnyAnswer (· = s₀) (svc.readContent request)
      fun read _ => svc.ReadFor s₀ request read := by
  unfold readContent
  refine .bind (?_ : Upholds _ _ _ _ _ fun _ s => s = s₀ ∧ SurfaceAllowed request) fun _ => ?_
  · unfold assertRequestSurface
    exact .bind_ensure fun _ _ => .ensure
  refine .bind_gets fun presented => .bind_require fun session hsession => ?_
  refine .bind_gets fun found => .bind_require fun preview hpreview => ?_
  -- the session and its preview are read before any hook runs
  have hpath := (@routes_normalizeAccessPath svc s₀.builds request preview).frame (T := fun _ => ¬ reservedPrefix <+: request.path ∧
      svc.manifestOf s₀ request = s₀.builds.get preview.buildId) fun _ _ h _ => h
  refine .bind (hpath.weaken (fun s h => ?_) fun _ _ _ h => h) fun p => ?_
  · obtain ⟨⟨⟨rfl, hsurface⟩, hpresented⟩, hfound⟩ := h
    refine ⟨⟨hsurface.2.2, ?_⟩, rfl⟩
    rw [manifestOf, ← hpresented, hsession, Option.bind_some, ← hfound, hpreview,
      Option.bind_some]
  have hbuild := (@reads_build svc s₀.builds preview.buildId .access .nothing).frame (T := fun _ => ∃ manifest, s₀.builds.get preview.buildId = some manifest ∧
      svc.ResolvesTo s₀ request manifest p) fun _ _ h _ => h
  refine .bind (hbuild.weaken (fun s h => ?_) fun _ _ _ h => h) fun manifest => ?_
  · obtain ⟨⟨hplain, hmanifest⟩, hbuilds, manifest, hget, hroutes⟩ := h
    exact ⟨⟨manifest, hget, hplain, hmanifest.trans hget, hroutes⟩, hbuilds⟩
  refine .bind_require fun entry hentry => ?_
  have hmem : entry ∈ manifest.entries := List.mem_of_find?_eq_some hentry
  have hp : entry.path = p := by simpa using List.find?_some hentry
  have hkeeps : ∀ s s' : PreviewProofState, (∃ manifest, entry ∈ manifest.entries ∧
      svc.ResolvesTo s₀ request manifest p) → KeepsBuilds s s' →
        ∃ manifest, entry ∈ manifest.entries ∧ svc.ResolvesTo s₀ request manifest p :=
    fun _ _ h _ => h
  refine .bind (((steady_readCompany _ _).upholds hkeeps).weaken (fun s h => ?_)
    fun _ _ _ h => h) fun company => ?_
  · obtain ⟨⟨manifest', hget', hresolves⟩, -, hget⟩ := h
    obtain rfl := Option.some.inj (hget.symm.trans hget')
    exact ⟨manifest, hmem, hresolves⟩
  refine .bind ((steady_readPreview _ _ _).upholds hkeeps) fun current => .pure fun s h => ?_
  exact ⟨rfl, hp ▸ h⟩

theorem keeps_quarantine (preview : PreviewAuthority) (reason : ProofReason) :
    Steady AnyStore KeepsBuilds AnyAnswer (quarantine preview reason : Call ProofError α) := by
  unfold quarantine
  exact .bind (keeps_modify fun _ => rfl) fun _ => .throw

theorem keeps_serveContent (read : ContentRead) :
    Steady AnyStore KeepsBuilds AnyAnswer (svc.serveContent read) := by
  unfold serveContent
  refine .bind .gets fun cached => ?_
  cases cached with
  | some cached =>
      refine .bind (steady_within ?_) fun _ => .pure
      exact .ite .pure (keeps_quarantine _ _)
  | none =>
      refine .bind (steady_within ?_) fun _ => .pure
      unfold serveObject
      refine .bind .gets fun _ => .bind .require fun object => .ite ?_ (keeps_quarantine _ _)
      exact .bind (keeps_modify fun _ => rfl) fun _ => .pure

theorem keeps_authorizeContent (read : ContentRead) :
    Steady AnyStore KeepsBuilds AnyAnswer (svc.authorizeContent read) := by
  unfold authorizeContent
  exact .bind (steady_readBuild _ _ _) fun _ => .bind .gets fun _ => .lift

/-- A refusal is not an allowed access. -/
theorem classify_ne_allowed {e : ProofError} {classified : Classified}
    (h : classify e = some classified) : classified.outcome ≠ .allowed := by
  cases e with
  | denied reason read =>
      obtain rfl := Option.some.inj h
      exact nofun
  | conflict reason =>
      obtain rfl := Option.some.inj h
      exact nofun
  | foreign => cases h

/-- The answer to an access that is allowed resolves the path of the request. -/
def AllowedFor (svc : PreviewProofService) (s : PreviewProofState) (request : AccessRequest)
    (receipt : ProofReceipt) : Prop :=
  receipt.outcome = .allowed → ∃ manifest entry, entry ∈ manifest.entries ∧
    svc.ResolvesTo s request manifest entry.path ∧ ∃ response cacheResult,
      receipt.detail = .access response cacheResult
        (some (svc.platform.canonicalDigest (.str entry.path))) ∧
      response.mediaType = some entry.mediaType

theorem allowed_access {s₀ : PreviewProofState} (request : AccessRequest) :
    Upholds AnyStore KeepsBuilds AnyAnswer (· = s₀) (svc.access request)
      fun receipt _ => svc.AllowedFor s₀ request receipt := by
  unfold access assertRequestDigest
  refine .bind_ensure fun _ _ => .catching ?_ fun thrown => ?_
  · unfold accessBody
    refine .bind (upholds_within (reads_content request)) fun read => ?_
    have hkeeps : ∀ s s' : PreviewProofState, svc.ReadFor s₀ request read → KeepsBuilds s s' →
        svc.ReadFor s₀ request read := fun _ _ h _ => h
    refine .bind ((steady_within (keeps_authorizeContent read)).upholds hkeeps) fun _ => ?_
    refine .bind ((keeps_serveContent read).upholds hkeeps) fun content => .gets fun s _ h => ?_
    obtain ⟨rfl, manifest, hmem, hresolves⟩ := h
    exact fun _ => ⟨manifest, read.entry, hmem, hresolves, _, _, rfl, rfl⟩
  · refine .bind_require fun classified hclassified => .gets fun s _ _ hallowed => ?_
    exact absurd hallowed (classify_ne_allowed hclassified)

theorem KeepsReserved.of_allowed {s : PreviewProofState} {request : AccessRequest}
    {receipt : ProofReceipt} (h : svc.AllowedFor s request receipt) :
    svc.KeepsReserved ⟨s, .access request, receipt⟩ := by
  rintro _ ⟨⟩
  constructor
  · rintro hshows ⟨path, hpath, hreserved⟩ hallowed
    obtain ⟨manifest, entry, -, ⟨hplain, hmanifest, path', hpath', hroutes⟩, -⟩ := h hallowed
    obtain rfl := Option.some.inj (hpath.symm.trans hpath')
    have hnot := (hshows path hpath hreserved).resolve_left hplain manifest hmanifest
    rcases hroutes with ⟨rfl, -⟩ | ⟨hrouted, -⟩
    · exact absurd hreserved (by decide)
    · exact hnot hrouted
  · intro hallowed
    obtain ⟨manifest, entry, hmem, ⟨-, hmanifest, path, -, hroutes⟩, hserved⟩ := h hallowed
    refine ⟨manifest, hmanifest, entry, hmem, hserved, ?_⟩
    rcases hroutes with ⟨-, hentry⟩ | ⟨hrouted, hentry | hentry⟩
    · exact .inl hentry
    · exact .inl hentry
    · exact .inr (hentry ▸ hrouted.1)

/-! ## Runs -/

theorem keeps_answered (s₀ : PreviewProofState) (request : OperationRequest) :
    Upholds AnyStore KeepsBuilds AnyAnswer (· = s₀) (svc.answered request)
      fun a _ => svc.KeepsReserved a := by
  have hother : Steady AnyStore KeepsBuilds AnyAnswer (svc.perform request) →
      (∀ access, request ≠ .access access) →
        Upholds AnyStore KeepsBuilds AnyAnswer (· = s₀) (svc.answered request)
          fun a _ => svc.KeepsReserved a := by
    intro hkeeps hne
    refine .weaken (Upholds.bind Steady.gets fun before => ?_) (fun _ _ => trivial) fun _ _ _ h => h
    exact .bind hkeeps fun receipt => .pure fun s _ access heq => absurd heq (hne access)
  cases request with
  | publish request => exact hother (keeps_publish request) nofun
  | issueGrant request =>
      exact hother (.bind (steady_issueGrant keepsBooks_builds request) fun _ => .pure) nofun
  | exchange request =>
      exact hother (.bind (steady_exchange keepsBooks_builds request) fun _ => .pure) nofun
  | revoke request => exact hother (keeps_revoke request) nofun
  | cleanup request => exact hother (keeps_cleanup request) nofun
  | reconcile request => exact hother (steady_reconcile keepsBooks_builds request) nofun
  | access request =>
      unfold answered
      refine .bind_gets fun before => ?_
      refine .bind (Q := fun receipt _ => before = s₀ ∧ svc.AllowedFor s₀ request receipt) ?_
        fun receipt => .pure fun s hallowed => ?_
      · have hframe := (@allowed_access svc s₀ request).frame
          (T := fun _ => before = s₀) fun _ _ h _ => h
        exact hframe.weaken (fun s hs => ⟨hs.2.trans hs.1, hs.1⟩) fun _ _ _ h => h
      · obtain ⟨rfl, hallowed⟩ := hallowed
        exact KeepsReserved.of_allowed hallowed

theorem environs_builds (svc : PreviewProofService) (e : Environs) (s : PreviewProofState) :
    (svc.environs e s).builds = s.builds := by
  cases e with
  | register intent =>
      change (svc.registerToolInvocationIntent intent s).builds = s.builds
      unfold registerToolInvocationIntent
      split <;> rfl
  | setClock now => rfl
  | setCompany companyId status => rfl

theorem keeps_journalStep {j : ServiceJournal}
    (hj : j.Keeps AnyStore KeepsBuilds AnyAnswer svc.KeepsReserved) (action : HookedAction) :
    (svc.journalStep j action).Keeps AnyStore KeepsBuilds AnyAnswer svc.KeepsReserved := by
  cases action with
  | call request => exact hj.call (keeps_answered j.machine.store request)
  | answer answer => exact hj.answer fun _ _ => trivial
  | environs e => exact hj.update trivial (environs_builds svc e j.machine.store)

/-- In every run, no answer to a reserved path that shows itself is allowed, and every
allowed answer serves an entry of the manifest of its preview: the entry document, or one
under a safe path. -/
theorem reservedRefused_after (svc : PreviewProofService) (s : PreviewProofState)
    (actions : List HookedAction) :
    ∀ a ∈ (svc.journal s actions).returned, svc.KeepsReserved a := by
  have hkeeps : (svc.journal s actions).Keeps AnyStore KeepsBuilds AnyAnswer
      svc.KeepsReserved :=
    Transition.run_invariant (P := Journal.Keeps AnyStore KeepsBuilds AnyAnswer svc.KeepsReserved)
      (fun _ action hj => keeps_journalStep hj action)
      (Journal.keeps_idle trivial) actions
  exact hkeeps.2

/-! ## An escaped path -/

def hexDigit (u : UInt16) : Option UInt16 :=
  if 0x30 ≤ u ∧ u ≤ 0x39 then some (u - 0x30)
  else if 0x41 ≤ u ∧ u ≤ 0x46 then some (u - 0x37)
  else if 0x61 ≤ u ∧ u ≤ 0x66 then some (u - 0x57)
  else none

def escaped (high low : UInt16) : Option UInt16 := do
  let high ← hexDigit high
  let low ← hexDigit low
  if high < 8 then some (16 * high + low) else none

/-- `decodeURIComponent` on paths whose escapes are of characters of seven bits. -/
def percentDecode : JsString → Option JsString
  | [] => some []
  | [u] => if u = 0x25 then none else some [u]
  | [u, v] => if u = 0x25 ∨ v = 0x25 then none else some [u, v]
  | u :: high :: low :: rest =>
      if u = 0x25 then do
        let decoded ← escaped high low
        let path ← percentDecode rest
        pure (decoded :: path)
      else do
        let path ← percentDecode (high :: low :: rest)
        pure (u :: path)

def escapingService : PreviewProofService :=
  let service := sampleService fun _ => []
  { service with platform := { service.platform with decodeURIComponent := percentDecode } }

/-- A navigation to `/__aico` that escapes its first underscore. -/
def demoAccess : AccessRequest :=
  accessRequestOf (fun _ => []) (samplePreview fun _ => []) (js "/%5F_aico")

def undisturbed (request : OperationRequest) : List HookedAction :=
  .call request :: List.replicate 10 (.answer .returned)

/-- The sample preview is published, a grant is issued and exchanged, and the session asks
for the path. -/
def demoAccesses : List HookedAction :=
  let preview := samplePreview fun _ => []
  let publication := publicationOf (fun _ => []) preview
  let issue := grantRequestOf (fun _ => []) preview
  [.environs (.register publication.toolInvocation), .environs (.register issue.toolInvocation)] ++
    undisturbed (.publish publication) ++ undisturbed (.issueGrant issue) ++
    undisturbed (.exchange (exchangeRequestOf (fun _ => []) preview)) ++
    undisturbed (.access demoAccess)

def isAllowed (a : Answered) : Bool :=
  match a.request with
  | .access request =>
      decide (request.path = demoAccess.path ∧ a.receipt.outcome = .allowed)
  | _ => false

theorem demoAccesses_returned :
    (escapingService.journal (sampleState fun _ => []) demoAccesses).returned.any isAllowed =
      true := by
  decide +kernel

/-- The answer serves an entry of the manifest. -/
theorem reservedRefused_after_demo :
    ∃ a ∈ (escapingService.journal (sampleState fun _ => []) demoAccesses).returned,
      isAllowed a = true ∧ escapingService.KeepsReserved a := by
  obtain ⟨a, ha, hallowed⟩ := List.any_eq_true.mp demoAccesses_returned
  exact ⟨a, ha, hallowed, reservedRefused_after escapingService _ _ a ha⟩

/-- The escaped path is served, as the entry document. -/
theorem reservedRefused_fails : ¬ ∀ (svc : PreviewProofService) (s : PreviewProofState),
    Initial s → ∀ (actions : List HookedAction), ∀ a ∈ (svc.journal s actions).returned,
      ∀ request, a.request = .access request → svc.Reserved request →
        a.receipt.outcome ≠ .allowed := by
  intro h
  obtain ⟨a, ha, hallowed⟩ := List.any_eq_true.mp demoAccesses_returned
  have hrefused := h escapingService _ (initial_sampleState fun _ => []) demoAccesses a ha
  unfold isAllowed at hallowed
  split at hallowed
  · next request heq =>
      obtain ⟨hpath, houtcome⟩ := of_decide_eq_true hallowed
      refine hrefused request heq ⟨js "/__aico", ?_, by decide⟩ houtcome
      rw [decodedPath, hpath]
      decide
  · cases hallowed

end PreviewProofService

end PreviewProof

end Aico
