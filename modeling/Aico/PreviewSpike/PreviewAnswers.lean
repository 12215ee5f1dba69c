import Aico.PreviewSpike.PreviewOutcomes

/-!
# What a call needs for its effect

What `Publication`, `Issuance` and so on say that a call has read and checked is enough for its
effect.
-/

namespace Aico

namespace PreviewProof

open Coroutine PreviewProofService

variable {svc : PreviewProofService} {s s' : PreviewProofState} {ρ : Type}

theorem settle_of_ok {header : KeyedHeader}
    {refusal : PreviewProofState → Classified → Locals → ρ} {receiptOf : ρ → ProofReceipt}
    {body : Call (ProofError × Locals) ρ} {result : ρ}
    (h : completes body s = (.ok result, s')) :
    completes (settle header refusal receiptOf body) s = (.ok result, s') := by
  unfold settle
  rw [completes_catching, Prog.catching_of_ok h]

theorem within_bind_of_ok {κ α β : Type} {locals : κ} {p : Call ProofError α}
    {f : α → Call (ProofError × κ) β} {a : α} {s₁ : PreviewProofState}
    (h : completes p s = (.ok a, s₁)) :
    completes (within locals p >>= f) s = completes (f a) s₁ := by
  rw [completes_bind, Prog.bind_of_ok (within_of_ok h)]

section Answered

variable {header : KeyedHeader} {subject : JsString} {operation : ProofOperation}
  {again : ProofReceipt → Call (ProofError × Locals) ρ}
  {new : CompanyAuthority → Call (ProofError × Locals) ρ} {company : CompanyAuthority}

theorem Founder.answered_eq (h : Founder svc s header subject company) :
    completes (answered svc header subject operation again new) s = completes (new company) s := by
  unfold answered
  rw [within_bind_of_ok (completes_readCompanyBySubject_eq_ok.mpr ⟨h.readable, h.company, rfl⟩),
    within_bind_of_ok (completes_replay_eq_ok.mpr ⟨rfl, .inl ⟨h.unanswered, rfl⟩⟩)]

end Answered

theorem Publication.performs {request : PublicationRequest} (p : Publication svc s request) :
    completes (svc.perform (.publish request)) s = (.ok p.receipt, p.left) := by
  have hnew : completes (svc.publishNew request p.company) s = (.ok p.receipt, p.left) := by
    unfold publishNew
    rw [within_bind_of_ok (completes_readBuild_eq_ok.mpr ⟨p.founder.readable, p.buildRead, rfl⟩),
      within_bind_of_ok (completes_readPreview_eq_ok.mpr ⟨p.founder.readable, p.previewRead, rfl⟩),
      within_bind_of_ok (checkPublication_eq_ok.mpr ⟨p.scope, p.bound, p.prepared, p.host, p.others,
        p.result, p.manifest, p.copies, rfl⟩),
      within_bind_of_ok (completes_consumeIntent_eq_ok.mpr ⟨p.intent, p.consumable, rfl, rfl⟩)]
    simp only [completes_bind, completes_within_callHook, Prog.pure_bind, completes_modify,
      Prog.modify_bind_eq_ok]
    unfold publishDoubtful publishAvailable Publication.left Publication.receipt
      Publication.published Publication.copied
    cases svc.faults.publicationUnknownAfterCopy <;> rfl
  change completes (svc.publish request) s = _
  unfold publish assertRequestDigest
  rw [completes_bind, completes_ensure, Prog.ensure_bind_eq_ok]
  exact ⟨p.digest, settle_of_ok (p.founder.answered_eq.trans hnew)⟩

theorem Issuance.performs {request : GrantIssueRequest} (i : Issuance svc s request) :
    completes (svc.perform (.issueGrant request)) s = (.ok i.receipt, i.left) := by
  have hnew : completes (svc.issueNewGrant request i.company) s =
      (.ok ⟨i.receipt, some (svc.signGrant i.grant request.nonce)⟩, i.left) := by
    unfold issueNewGrant
    rw [within_bind_of_ok (completes_readPreview_eq_ok.mpr ⟨i.founder.readable, i.previewRead, rfl⟩),
      within_bind_of_ok (completes_readBuild_eq_ok.mpr ⟨i.founder.readable, i.buildRead, rfl⟩),
      within_bind_of_ok (checkGrantIssue_eq_ok.mpr ⟨i.scope, i.available, i.fits, i.unknown, rfl,
        rfl⟩),
      within_bind_of_ok (completes_consumeIntent_eq_ok.mpr ⟨i.intent, i.consumable, rfl, rfl⟩)]
    rfl
  have hissue : completes (svc.issueGrant request) s =
      (.ok ⟨i.receipt, some (svc.signGrant i.grant request.nonce)⟩, i.left) := by
    unfold issueGrant assertRequestDigest
    rw [completes_bind, completes_ensure, Prog.ensure_bind_eq_ok]
    exact ⟨i.digest, settle_of_ok (i.founder.answered_eq.trans hnew)⟩
  unfold perform
  rw [completes_bind, Prog.bind_of_ok hissue]
  rfl

theorem ExchangeReads.completes {request : ExchangeRequest} {read : ExchangeRead}
    (h : ExchangeReads svc s request read) :
    PreviewProof.completes (svc.readExchange request) s = (.ok read, s) := by
  unfold readExchange
  simp only [completes_bind, completes_ensure, completes_require, completes_gets, completes_pure,
    completes_authorityRead, Prog.gets_bind_eq_ok, Prog.ensure_bind_eq_ok,
    Prog.require_bind_eq_ok]
  refine ⟨h.origin, read.claims, h.capability, h.readable, read.grant, h.claimed, ?_⟩
  rw [Prog.bind_of_ok (completes_readPreview_eq_ok.mpr ⟨h.readable, h.previewRead, rfl⟩),
    Prog.bind_of_ok (completes_readBuild_eq_ok.mpr ⟨h.readable, h.buildRead, rfl⟩),
    Prog.bind_of_ok (completes_readCompany_eq_ok.mpr ⟨h.readable, h.companyRead, rfl⟩)]
  rfl

theorem Exchange.performs {request : ExchangeRequest} (x : Exchange svc s request) :
    completes (svc.perform (.exchange request)) s = (.ok x.receipt, x.left) := by
  have hnew : ∃ session, completes (svc.exchangeNew request x.read) s =
      (.ok ⟨x.receipt, session⟩, x.left) := by
    unfold exchangeNew assertExchangeBindings assertPreviewAvailable assertCompanyScope
    simp only [completes_bind, completes_ensure, completes_gets, completes_callHook,
      completes_require, completes_modify, Prog.bind_assoc, Prog.pure_bind,
      Prog.gets_bind_eq_ok, Prog.ensure_bind_eq_ok, Prog.require_bind_eq_ok,
      Prog.modify_bind_eq_ok, Option.isNone_iff_eq_none]
    unfold Exchange.left Exchange.receipt Exchange.entered exchangeDoubtful exchangeSession
    cases svc.faults.exchangeUnknownAfterNonce
    · exact ⟨_, x.scope, x.hostClaimed, x.bound, x.available, x.timely, x.grant, x.current,
        x.unconsumed, rfl⟩
    · exact ⟨_, x.scope, x.hostClaimed, x.bound, x.available, x.timely, x.grant, x.current,
        x.unconsumed, rfl⟩
  obtain ⟨session, hnew⟩ := hnew
  have hbody : completes (svc.exchangeBody request) s = (.ok ⟨x.receipt, session⟩, x.left) := by
    unfold exchangeBody
    rw [completes_bind, Prog.bind_of_ok x.reads.completes, completes_bind,
      Prog.bind_of_ok (completes_replay_eq_ok.mpr ⟨rfl, .inl ⟨x.unanswered, rfl⟩⟩)]
    exact hnew
  have hexchange : completes (svc.exchange request) s = (.ok ⟨x.receipt, session⟩, x.left) := by
    unfold exchange assertRequestDigest
    rw [completes_bind, completes_ensure, Prog.ensure_bind_eq_ok]
    exact ⟨x.digest, settle_of_ok (within_of_ok hbody)⟩
  unfold perform
  rw [completes_bind, Prog.bind_of_ok hexchange]
  rfl

theorem scoped_of {company : CompanyAuthority} {companyIds : List JsString} {c : Prop}
    [Decidable c] {e : ProofError} (hscope : ∀ companyId ∈ companyIds, companyId = company.companyId)
    (hc : c) :
    completes (do assertCompanyScope company companyIds; ensure c e) s = (.ok ⟨⟩, s) := by
  unfold assertCompanyScope
  rw [completes_bind, completes_ensure, Prog.ensure_bind_eq_ok, completes_ensure,
    Prog.ensure_eq_ok]
  exact ⟨hscope, hc, rfl⟩

theorem Revocation.performs {request : RevocationRequest} (r : Revocation svc s request) :
    completes (svc.perform (.revoke request)) s = (.ok r.receipt, r.left) := by
  have hread {held : Held} : completes (svc.readPreview request.previewId .revoke held) s =
      (.ok r.preview, s) :=
    completes_readPreview_eq_ok.mpr ⟨r.founder.readable, r.previewRead, rfl⟩
  have hnew : completes (svc.revokeNew request r.company) s = (.ok r.receipt, r.left) := by
    have hcheck : completes (checkRevocation request r.company r.preview) s = (.ok ⟨⟩, s) :=
      scoped_of r.scope r.bound
    unfold revokeNew
    rw [within_bind_of_ok hread, within_bind_of_ok hcheck, completes_bind,
      completes_within_callHook, Prog.pure_bind, within_bind_of_ok hread,
      within_bind_of_ok hcheck,
      within_bind_of_ok (completes_consumeIntent_eq_ok.mpr ⟨r.intent, r.consumable, rfl, rfl⟩)]
    rfl
  change completes (svc.revoke request) s = _
  unfold revoke assertRequestDigest
  rw [completes_bind, completes_ensure, Prog.ensure_bind_eq_ok]
  exact ⟨r.digest, settle_of_ok (r.founder.answered_eq.trans hnew)⟩

theorem Removal.performs {request : CleanupRequest} (r : Removal svc s request) :
    completes (svc.perform (.cleanup request)) s = (.ok r.receipt, r.left) := by
  have hnew : completes (svc.cleanupNew request r.company) s = (.ok r.receipt, r.left) := by
    have hcheck : completes (checkCleanup request r.company r.preview) s = (.ok ⟨⟩, s) :=
      scoped_of r.scope r.bound
    unfold cleanupNew
    rw [within_bind_of_ok
        (completes_readPreview_eq_ok.mpr ⟨r.founder.readable, r.previewRead, rfl⟩),
      within_bind_of_ok hcheck,
      within_bind_of_ok (completes_consumeIntent_eq_ok.mpr ⟨r.intent, r.consumable, rfl, rfl⟩)]
    rw [completes_within_eq_ok]
    unfold removePreview
    simp only [completes_bind, completes_modify, completes_gets, completes_pure,
      Prog.modify_bind_eq_ok, Prog.gets_bind_eq_ok, Prog.pure_eq_ok]
    have hnow : r.retired.now = s.now := now_retireHost _ _
    unfold Removal.left Removal.receipt
    rw [← hnow]
    exact ⟨rfl, rfl⟩
  change completes (svc.cleanup request) s = _
  unfold cleanup assertRequestDigest
  rw [completes_bind, completes_ensure, Prog.ensure_bind_eq_ok]
  exact ⟨r.digest, settle_of_ok (r.founder.answered_eq.trans hnew)⟩

namespace Serving

variable {request : AccessRequest}

/-- The request is one that the service answers. -/
structure Admitted (svc : PreviewProofService) (request : AccessRequest) : Prop where
  digest : svc.platform.canonicalRequestDigest request.fields = request.requestDigest
  readable : svc.faults.authorityUnavailable = false
  method : request.method = .get ∨ request.method = .head
  surface : SurfaceAllowed request

theorem completes_readContent (v : Serving svc s request) (h : Admitted svc request) :
    completes (svc.readContent request) s = (.ok v.read, s) := by
  unfold readContent assertRequestSurface
  simp only [completes_bind, completes_ensure, completes_gets, completes_require, completes_pure,
    Prog.bind_assoc, Prog.ensure_bind_eq_ok, Prog.gets_bind_eq_ok, Prog.require_bind_eq_ok]
  refine ⟨h.method, h.surface, v.session, v.presented, v.preview, v.previewRead, ?_⟩
  rw [Prog.bind_of_ok v.path,
    Prog.bind_of_ok (completes_readBuild_eq_ok.mpr ⟨h.readable, v.buildRead, rfl⟩)]
  rw [Prog.require_bind_eq_ok]
  refine ⟨v.entry, v.listed, ?_⟩
  rw [Prog.bind_of_ok (completes_readCompany_eq_ok.mpr ⟨h.readable, v.companyRead, rfl⟩),
    Prog.bind_of_ok (completes_readPreview_eq_ok.mpr ⟨h.readable, v.previewRead, rfl⟩)]
  rfl

theorem completes_authorizeContent (v : Serving svc s request) (h : Admitted svc request) :
    completes (svc.authorizeContent v.read) s = (.ok ⟨⟩, s) := by
  have hbuild : completes (svc.readBuild v.read.preview.buildId .access (.content v.read)) s =
      (.ok v.build, s) :=
    completes_readBuild_eq_ok.mpr ⟨h.readable, v.buildRead, rfl⟩
  unfold authorizeContent
  rw [completes_bind, Prog.bind_of_ok hbuild, completes_bind, completes_gets,
    Prog.gets_bind_eq_ok, completes_lift, Prog.lift_eq_ok]
  exact ⟨v.authorized, rfl⟩

theorem performs_of_served (v : Serving svc s request) (h : Admitted svc request)
    {content : Bytes × CacheResult}
    (hserved : completes (svc.serveContent v.read) s = (.ok content, s')) :
    completes (svc.perform (.access request)) s =
      (.ok (svc.accessAllowed s'.now v.read content), s') := by
  have hbody : completes (svc.accessBody request) s =
      (.ok (svc.accessAllowed s'.now v.read content), s') := by
    unfold accessBody
    rw [within_bind_of_ok (v.completes_readContent h),
      within_bind_of_ok (v.completes_authorizeContent h), completes_bind,
      Prog.bind_of_ok hserved]
    rfl
  change completes (svc.access request) s = _
  unfold access assertRequestDigest
  rw [completes_bind, completes_ensure, Prog.ensure_bind_eq_ok, completes_catching,
    Prog.catching_of_ok hbody]
  exact ⟨h.digest, rfl⟩

theorem performs_cached (v : Serving svc s request) (h : Admitted svc request)
    {cached : CacheRecord} (hcached : s.cache.get v.read.cacheKey = some cached)
    (hsound : svc.CacheSound cached v.read.entry) :
    completes (svc.perform (.access request)) s =
      (.ok (svc.accessAllowed s.now v.read (svc.cachedBody cached, .hit)), s) := by
  refine v.performs_of_served h ?_
  unfold serveContent
  rw [completes_bind, completes_gets, Prog.gets_bind_apply, hcached]
  have hserve : completes (svc.serveCached v.read cached) s = (.ok (svc.cachedBody cached), s) := by
    unfold serveCached
    rw [if_pos hsound]
    rfl
  change completes (within CacheResult.hit (svc.serveCached v.read cached) >>= _) s = _
  rw [within_bind_of_ok hserve]
  rfl

theorem performs_stored (v : Serving svc s request) (h : Admitted svc request)
    {object : ObjectRecord} (hcached : s.cache.get v.read.cacheKey = none)
    (hobject : objectOf s v.preview v.entry = some object)
    (hsound : svc.ObjectSound object v.entry) :
    completes (svc.perform (.access request)) s =
      (.ok (svc.accessAllowed s.now v.read (svc.objectBody object, .miss)),
        cacheBody v.read (svc.objectBody object) s) := by
  have hobjectServed : completes (svc.serveObject v.read) s =
      (.ok (svc.objectBody object), cacheBody v.read (svc.objectBody object) s) :=
    serveObject_of_sound hobject hsound
  have hserved : completes (svc.serveContent v.read) s =
      (.ok (svc.objectBody object, .miss), cacheBody v.read (svc.objectBody object) s) := by
    unfold serveContent
    rw [completes_bind, completes_gets, Prog.gets_bind_apply, hcached]
    change completes (within CacheResult.miss (svc.serveObject v.read) >>= _) s = _
    rw [within_bind_of_ok hobjectServed]
    rfl
  exact v.performs_of_served h hserved

end Serving

end PreviewProof

end Aico
