import Aico.PreviewSpike.PreviewEffects

/-!
# What the later operations do

The same for revocations, removals, reconciliations and accesses. `Ran` has one constructor
for each way in which a completed call ends, over all seven operations.
-/

namespace Aico

namespace PreviewProof

open Coroutine PreviewProofService

variable {svc : PreviewProofService} {s s' : PreviewProofState}

/-! ## One condition on a preview of the company -/

section Scoped

variable {company : CompanyAuthority} {companyIds : List JsString} {c : Prop} [Decidable c]
  {e : ProofError}

theorem checks_scoped (he : Denies e) :
    Checks (do assertCompanyScope company companyIds; ensure c e) :=
  .bind (.assertCompanyScope _ _) fun _ => .ensure _ he

theorem scoped_eq_ok {u : PUnit}
    (h : completes (do assertCompanyScope company companyIds; ensure c e) s = (.ok u, s')) :
    (∀ companyId ∈ companyIds, companyId = company.companyId) ∧ c ∧ s' = s := by
  unfold assertCompanyScope at h
  rwa [completes_bind, completes_ensure, Prog.ensure_bind_eq_ok, completes_ensure,
    Prog.ensure_eq_ok] at h

end Scoped

/-! ## revoke -/

structure Revocation (svc : PreviewProofService) (s : PreviewProofState)
    (request : RevocationRequest) where
  company : CompanyAuthority
  preview : PreviewAuthority
  intent : ToolInvocationIntent
  digest : svc.platform.canonicalRequestDigest request.fields = request.requestDigest
  founder : Founder svc s request.toKeyedHeader request.actorSubject company
  previewRead : s.previews.get request.previewId = some preview
  scope : ∀ companyId ∈ [preview.companyId], companyId = company.companyId
  bound : RevocationBound request preview
  consumable : svc.Consumable s request.toolInvocation .revoke request.toKeyedHeader intent

namespace Revocation

variable {request : RevocationRequest}

def revoked (r : Revocation svc s request) : PreviewAuthority := revokedPreview request r.preview

def receipt (r : Revocation svc s request) : ProofReceipt :=
  svc.revocationReceipt s.now request
    (if svc.faults.revocationUnknownAfterEpoch then ⟨.unknown, .unknownExternalOutcome, true⟩
      else ⟨.succeeded, .revoked, true⟩)
    true (some (svc.consumption s.now r.intent)) (some r.preview.revocationEpoch)
    (some r.revoked.revocationEpoch) (some r.revoked.state)

def left (r : Revocation svc s request) : PreviewProofState :=
  store request.toKeyedHeader r.receipt
    (revokeSessions r.preview.previewId (setPreview r.revoked (consume r.intent s)))

theorem left_eq (r : Revocation svc s request) :
    r.left =
      { s with
        previews := s.previews.set r.preview.previewId r.revoked
        sessions := (revokeSessions r.preview.previewId s).sessions
        intents := s.intents.set r.intent.id { r.intent with used := 1 }
        operationReceipts := s.operationReceipts.set request.logicalIdempotencyKey
          ⟨request.requestDigest, r.receipt⟩ } := rfl

end Revocation

theorem revokeNew_eq_ok {request : RevocationRequest} {company : CompanyAuthority}
    {receipt : ProofReceipt}
    (hdigest : svc.platform.canonicalRequestDigest request.fields = request.requestDigest)
    (hfounder : Founder svc s request.toKeyedHeader request.actorSubject company)
    (h : completes (svc.revokeNew request company) s = (.ok receipt, s')) :
    ∃ r : Revocation svc s request, receipt = r.receipt ∧ s' = r.left := by
  unfold revokeNew at h
  rw [completes_bind, within_bind_eq_ok] at h
  obtain ⟨before, s₁, hbefore, h⟩ := h
  obtain ⟨-, hbefore, rfl⟩ := completes_readPreview_eq_ok.mp hbefore
  rw [completes_bind, within_bind_eq_ok] at h
  obtain ⟨_, s₂, hcheck, h⟩ := h
  obtain ⟨hscope, hbound, rfl⟩ := scoped_eq_ok hcheck
  rw [completes_bind, completes_within_callHook, Prog.pure_bind, completes_bind,
    within_bind_eq_ok] at h
  obtain ⟨preview, s₃, hpreview, h⟩ := h
  obtain ⟨-, hpreview, rfl⟩ := completes_readPreview_eq_ok.mp hpreview
  obtain rfl := Option.some.inj (hbefore.symm.trans hpreview)
  rw [completes_bind, within_bind_eq_ok] at h
  obtain ⟨_, s₄, hcheck', h⟩ := h
  obtain ⟨-, -, rfl⟩ := scoped_eq_ok hcheck'
  rw [completes_bind, within_bind_eq_ok] at h
  obtain ⟨consumption, s₅, hconsume, h⟩ := h
  obtain ⟨intent, hconsumable, rfl, rfl⟩ := completes_consumeIntent_eq_ok.mp hconsume
  refine ⟨⟨company, before, intent, hdigest, hfounder, hpreview, hscope, hbound, hconsumable⟩, ?_⟩
  unfold commitRevocation at h
  simp only [completes_bind, completes_within_callHook, Prog.pure_bind, completes_modify,
    completes_gets, completes_pure, Prog.modify_bind_eq_ok, Prog.gets_bind_eq_ok,
    Prog.pure_eq_ok] at h
  obtain ⟨rfl, rfl⟩ := h
  exact ⟨rfl, rfl⟩

theorem atomic_revokeNew (request : RevocationRequest) (company : CompanyAuthority) :
    Prog.Atomic Refusing (completes (svc.revokeNew request company)) := by
  unfold revokeNew
  refine atomic_check_bind (.readPreview _ _ _) rfl fun before => ?_
  refine atomic_check_bind (checks_scoped (denies_conflict _)) rfl fun _ => ?_
  refine atomic_check_bind (.callHook _ _) rfl fun _ => ?_
  refine atomic_check_bind (.readPreview _ _ _) rfl fun preview => ?_
  refine atomic_check_bind (checks_scoped (denies_conflict _)) rfl fun _ => ?_
  refine atomic_consume_bind rfl fun consumption => ?_
  unfold commitRevocation
  simp only [completes_bind, completes_within_callHook, completes_modify, completes_gets,
    completes_pure]
  refine .bind (.modify _) fun _ => .bind (.modify _) fun _ => .bind (.pure _) fun _ => ?_
  exact .bind (.gets _) fun _ => .bind (.modify _) fun _ => .pure _

theorem revoke_cases {request : RevocationRequest} {receipt : ProofReceipt}
    (h : completes (svc.revoke request) s = (.ok receipt, s')) :
    Settled s request.toKeyedHeader receipt s' ∨
      ∃ r : Revocation svc s request, receipt = r.receipt ∧ s' = r.left := by
  unfold revoke assertRequestDigest at h
  rw [completes_bind, completes_ensure, Prog.ensure_bind_eq_ok] at h
  refine (settled_or_new (fun company => atomic_revokeNew request company) ?_ h.2).imp_right ?_
  · intro e classified locals he hlocals
    unfold revocationReceipt
    rw [hlocals]
    exact refusal_receiptBase he
  · rintro ⟨company, hfounder, hnew⟩
    exact revokeNew_eq_ok h.1 hfounder hnew

/-! ## cleanup -/

structure Removal (svc : PreviewProofService) (s : PreviewProofState)
    (request : CleanupRequest) where
  company : CompanyAuthority
  preview : PreviewAuthority
  intent : ToolInvocationIntent
  digest : svc.platform.canonicalRequestDigest request.fields = request.requestDigest
  founder : Founder svc s request.toKeyedHeader request.actorSubject company
  previewRead : s.previews.get request.previewId = some preview
  scope : ∀ companyId ∈ [preview.companyId], companyId = company.companyId
  bound : CleanupBound request preview
  consumable : svc.Consumable s request.toolInvocation .cleanup request.toKeyedHeader intent

namespace Removal

variable {request : CleanupRequest}

/-- The store before anything is deleted. -/
def pending (r : Removal svc s request) : PreviewProofState :=
  setPreview (pendingPreview r.preview) (consume r.intent s)

def emptied (r : Removal svc s request) : PreviewProofState :=
  svc.removeContent r.preview r.pending

def complete (r : Removal svc s request) : Bool := svc.cleanupComplete r.preview r.emptied

def retired (r : Removal svc s request) : PreviewProofState :=
  setPreview (cleanedPreview r.preview r.complete) (retireHost r.preview r.complete r.emptied)

def receipt (r : Removal svc s request) : ProofReceipt :=
  svc.cleanupReceipt s.now request
    (if r.complete then ⟨.succeeded, .cleanupComplete, true⟩
      else ⟨.unknown, .cleanupIncomplete, true⟩)
    true (some (svc.consumption s.now r.intent)) (some (cleanedPreview r.preview r.complete).state)
    (svc.deletedObjectKeys r.pending r.preview).length
    (svc.purgedKeys r.pending r.preview).length
    (ownedKeys r.emptied.objects r.preview.previewId).length
    (decide (r.preview.host ∈ r.retired.retiredHosts))

def left (r : Removal svc s request) : PreviewProofState :=
  store request.toKeyedHeader r.receipt r.retired

def cleaned (r : Removal svc s request) : PreviewAuthority := cleanedPreview r.preview r.complete

theorem left_eq (r : Removal svc s request) :
    r.left =
      { s with
        previews := (s.previews.set r.preview.previewId (pendingPreview r.preview)).set
          r.preview.previewId r.cleaned
        cache := r.emptied.cache
        objects := r.emptied.objects
        retiredHosts := (retireHost r.preview r.complete r.emptied).retiredHosts
        intents := s.intents.set r.intent.id { r.intent with used := 1 }
        operationReceipts := s.operationReceipts.set request.logicalIdempotencyKey
          ⟨request.requestDigest, r.receipt⟩ } := by
  unfold left retired cleaned
  cases r.complete <;> rfl

end Removal

@[simp] theorem now_retireHost (preview : PreviewAuthority) (complete : Bool) :
    (retireHost preview complete s).now = s.now := by
  unfold retireHost
  split <;> rfl

theorem cleanupNew_eq_ok {request : CleanupRequest} {company : CompanyAuthority}
    {receipt : ProofReceipt}
    (hdigest : svc.platform.canonicalRequestDigest request.fields = request.requestDigest)
    (hfounder : Founder svc s request.toKeyedHeader request.actorSubject company)
    (h : completes (svc.cleanupNew request company) s = (.ok receipt, s')) :
    ∃ r : Removal svc s request, receipt = r.receipt ∧ s' = r.left := by
  unfold cleanupNew at h
  rw [completes_bind, within_bind_eq_ok] at h
  obtain ⟨preview, s₁, hpreview, h⟩ := h
  obtain ⟨-, hpreview, rfl⟩ := completes_readPreview_eq_ok.mp hpreview
  rw [completes_bind, within_bind_eq_ok] at h
  obtain ⟨_, s₂, hcheck, h⟩ := h
  obtain ⟨hscope, hbound, rfl⟩ := scoped_eq_ok hcheck
  rw [completes_bind, within_bind_eq_ok] at h
  obtain ⟨consumption, s₃, hconsume, h⟩ := h
  obtain ⟨intent, hconsumable, rfl, rfl⟩ := completes_consumeIntent_eq_ok.mp hconsume
  let r : Removal svc s₂ request :=
    ⟨company, preview, intent, hdigest, hfounder, hpreview, hscope, hbound, hconsumable⟩
  refine ⟨r, ?_⟩
  rw [completes_within_eq_ok] at h
  unfold removePreview at h
  simp only [completes_bind, completes_modify, completes_gets, completes_pure,
    Prog.modify_bind_eq_ok, Prog.gets_bind_eq_ok, Prog.pure_eq_ok] at h
  have hnow : r.retired.now = s₂.now := now_retireHost _ _
  obtain ⟨rfl, rfl⟩ := h
  unfold Removal.left Removal.receipt
  rw [← hnow]
  exact ⟨rfl, rfl⟩

theorem atomic_cleanupNew (request : CleanupRequest) (company : CompanyAuthority) :
    Prog.Atomic Refusing (completes (svc.cleanupNew request company)) := by
  unfold cleanupNew
  refine atomic_check_bind (.readPreview _ _ _) rfl fun preview => ?_
  refine atomic_check_bind (checks_scoped (denies_denied _ _)) rfl fun _ => ?_
  refine atomic_consume_bind rfl fun consumption => ?_
  rw [completes_within]
  apply Prog.Total.catching
  unfold removePreview
  simp only [completes_bind, completes_modify, completes_gets, completes_pure]
  refine .bind (.modify _) fun _ => .bind (.gets _) fun _ => .bind (.gets _) fun _ => ?_
  refine .bind (.modify _) fun _ => .bind (.gets _) fun _ => .bind (.gets _) fun _ => ?_
  refine .bind (.modify _) fun _ => .bind (.modify _) fun _ => ?_
  exact .bind (.gets _) fun _ => .bind (.modify _) fun _ => .pure _

theorem cleanup_cases {request : CleanupRequest} {receipt : ProofReceipt}
    (h : completes (svc.cleanup request) s = (.ok receipt, s')) :
    Settled s request.toKeyedHeader receipt s' ∨
      ∃ r : Removal svc s request, receipt = r.receipt ∧ s' = r.left := by
  unfold cleanup assertRequestDigest at h
  rw [completes_bind, completes_ensure, Prog.ensure_bind_eq_ok] at h
  refine (settled_or_new (fun company => atomic_cleanupNew request company) ?_ h.2).imp_right ?_
  · intro e classified locals he hlocals
    unfold cleanupReceipt
    rw [hlocals]
    exact refusal_receiptBase he
  · rintro ⟨company, hfounder, hnew⟩
    exact cleanupNew_eq_ok h.1 hfounder hnew

/-! ## reconcile -/

structure Reconciliation (svc : PreviewProofService) (s : PreviewProofState)
    (request : ReconciliationRequest) where
  original : StoredOperationReceipt
  intent : ToolInvocationIntent
  digest : svc.platform.canonicalRequestDigest request.fields = request.requestDigest
  readable : svc.faults.authorityUnavailable = false
  unanswered : s.operationReceipts.get request.logicalIdempotencyKey = none
  found : ((s.operationReceipts.get request.originalLogicalKey).filter fun stored =>
    stored.requestDigest = request.originalRequestDigest) = some original
  operation : original.receipt.operation = request.target.targetOperation
  consumable : svc.Consumable s request.toolInvocation .reconcile request.toKeyedHeader intent

namespace Reconciliation

variable {request : ReconciliationRequest}

def stillUnknown (r : Reconciliation svc s request) : Bool :=
  decide (r.original.receipt.outcome = .unknown) &&
    !revocationConfirmed s request.target r.original.receipt

def receipt (r : Reconciliation svc s request) : ProofReceipt :=
  svc.reconciliationReceipt s.now request
    (if r.stillUnknown then ⟨.unknown, .unknownExternalOutcome, true⟩
      else ⟨.succeeded, .reconciled, true⟩)
    true (some (svc.consumption s.now r.intent))
    (if r.stillUnknown then none
      else some (svc.platform.canonicalDigest (r.original.receipt.json svc.platform)))

def left (r : Reconciliation svc s request) : PreviewProofState :=
  store request.toKeyedHeader r.receipt (consume r.intent s)

theorem left_eq (r : Reconciliation svc s request) :
    r.left =
      { s with
        intents := s.intents.set r.intent.id { r.intent with used := 1 }
        operationReceipts := s.operationReceipts.set request.logicalIdempotencyKey
          ⟨request.requestDigest, r.receipt⟩ } := rfl

end Reconciliation

theorem reconcileNew_eq_ok {request : ReconciliationRequest} {receipt : ProofReceipt}
    (hdigest : svc.platform.canonicalRequestDigest request.fields = request.requestDigest)
    (hunanswered : s.operationReceipts.get request.logicalIdempotencyKey = none)
    (h : completes (svc.reconcileNew request) s = (.ok receipt, s')) :
    ∃ r : Reconciliation svc s request, receipt = r.receipt ∧ s' = r.left := by
  unfold reconcileNew at h
  simp only [completes_bind, completes_gets, completes_require, completes_ensure,
    completes_authorityRead, Prog.gets_bind_eq_ok, Prog.require_bind_eq_ok,
    Prog.ensure_bind_eq_ok] at h
  obtain ⟨original, hfound, hoperation, hreadable, h⟩ := h
  rw [Prog.bind_eq_ok] at h
  obtain ⟨consumption, s₁, hconsume, h⟩ := h
  obtain ⟨intent, hconsumable, rfl, rfl⟩ := completes_consumeIntent_eq_ok.mp hconsume
  refine ⟨⟨original, intent, hdigest, hreadable, hunanswered, hfound, hoperation, hconsumable⟩,
    ?_⟩
  unfold reconciled at h
  simp only [completes_bind, completes_gets, completes_modify, completes_pure,
    Prog.gets_bind_eq_ok, Prog.modify_bind_eq_ok, Prog.pure_eq_ok] at h
  obtain ⟨rfl, rfl⟩ := h
  exact ⟨rfl, rfl⟩

theorem atomic_reconcileBody (request : ReconciliationRequest) :
    Prog.Atomic Denies (completes (svc.reconcileBody request)) := by
  unfold reconcileBody
  refine (Checks.replay _).atomic_bind fun replayed => ?_
  cases replayed with
  | some receipt => exact .pure _
  | none =>
      change Prog.Atomic Denies (completes (svc.reconcileNew request))
      unfold reconcileNew
      refine (Checks.gets _).atomic_bind fun _ => ?_
      refine (Checks.require _ (denies_denied _ _)).atomic_bind fun original => ?_
      refine (Checks.ensure _ (denies_denied _ _)).atomic_bind fun _ => ?_
      refine (Checks.authorityRead _ _ _).atomic_bind fun _ => (Checks.gets _).atomic_bind fun _ => ?_
      rw [completes_bind]
      refine .bind_total (atomic_consumeIntent _ _ _) fun consumption => ?_
      unfold reconciled
      simp only [completes_bind, completes_gets, completes_modify, completes_pure]
      exact .bind (.gets _) fun _ => .bind (.modify _) fun _ => .pure _

theorem reconcile_cases {request : ReconciliationRequest} {receipt : ProofReceipt}
    (h : completes (svc.reconcile request) s = (.ok receipt, s')) :
    Settled s request.toKeyedHeader receipt s' ∨
      ∃ r : Reconciliation svc s request, receipt = r.receipt ∧ s' = r.left := by
  unfold reconcile assertRequestDigest at h
  rw [completes_bind, completes_ensure, Prog.ensure_bind_eq_ok] at h
  obtain ⟨result, hresult, hbody⟩ | ⟨e, locals, classified, -, hlocals, he, hresult, rfl⟩ :=
    settle_cases (atomic_within _ rfl (atomic_reconcileBody request)) h.2
  · obtain rfl := Except.ok.inj hresult
    rw [completes_within_eq_ok] at hbody
    unfold reconcileBody at hbody
    rw [completes_bind, Prog.bind_eq_ok] at hbody
    obtain ⟨replayed, s₁, hreplay, hnew⟩ := hbody
    obtain ⟨rfl, ⟨hnone, rfl⟩ | ⟨stored, hstored, hdigest, rfl⟩⟩ :=
      completes_replay_eq_ok.mp hreplay
    · exact .inr (reconcileNew_eq_ok h.1 hnone hnew)
    · obtain ⟨rfl, rfl⟩ := Prog.pure_eq_ok.mp hnew
      exact .inl (.replayed hstored hdigest)
  · obtain rfl := Except.ok.inj hresult
    refine .inl (.refused ?_)
    unfold reconciliationReceipt
    rw [hlocals]
    exact refusal_receiptBase he

/-! ## access -/

structure Serving (svc : PreviewProofService) (s : PreviewProofState) (request : AccessRequest)
    where
  session : SessionAuthority
  preview : PreviewAuthority
  build : BuildAuthority
  entry : ManifestEntry
  company : CompanyAuthority
  presented : svc.sessionOf s request.cookiePresentation = some session
  previewRead : s.previews.get session.previewId = some preview
  buildRead : s.builds.get preview.buildId = some build
  path : completes (svc.normalizeAccessPath request preview) s = (.ok entry.path, s)
  listed : (build.entries.find? fun e => e.path = entry.path) = some entry
  companyRead : activeCompany s session.companyId = some company
  authorized : svc.assertContentAuthority s
    ⟨request, session, company, preview, entry, svc.cacheKey preview entry⟩ build = .ok ()

def Serving.read {request : AccessRequest} (v : Serving svc s request) : ContentRead where
  request := request
  session := v.session
  company := v.company
  preview := v.preview
  entry := v.entry
  cacheKey := svc.cacheKey v.preview v.entry

/-- How an access ends. -/
inductive Accessed (svc : PreviewProofService) (s : PreviewProofState) (request : AccessRequest) :
    ProofReceipt → PreviewProofState → Prop
  | denied {receipt : ProofReceipt} (h : Refusal receipt) : Accessed svc s request receipt s
  | quarantined {receipt : ProofReceipt} (v : Serving svc s request)
      (hquarantines : svc.Quarantines s v.read) (h : Refusal receipt) :
      Accessed svc s request receipt (setPreview (quarantined v.preview) s)
  | cached (v : Serving svc s request) {cached : CacheRecord}
      (hcached : s.cache.get v.read.cacheKey = some cached)
      (hsound : svc.CacheSound cached v.entry) :
      Accessed svc s request (svc.accessAllowed s.now v.read (svc.cachedBody cached, .hit)) s
  | stored (v : Serving svc s request) {object : ObjectRecord}
      (hobject : objectOf s v.preview v.entry = some object)
      (hsound : svc.ObjectSound object v.entry) :
      Accessed svc s request (svc.accessAllowed s.now v.read (svc.objectBody object, .miss))
        (cacheBody v.read (svc.objectBody object) s)

theorem checks_resolvePath (request : AccessRequest) (preview : PreviewAuthority)
    (path : JsString) : Checks (svc.resolvePath request preview path) := by
  unfold resolvePath
  refine .ite (.bind (.readBuild _ _ _) fun _ => .pure _) ?_
  refine .bind (.ensure _ rfl) fun _ => .bind (.readBuild _ _ _) fun build => ?_
  unfold fallbackPath
  exact .ite (.pure _) (.ite (.pure _) (.throw rfl))

theorem checks_normalizeAccessPath (request : AccessRequest) (preview : PreviewAuthority) :
    Checks (svc.normalizeAccessPath request preview) := by
  unfold normalizeAccessPath
  exact .bind (.require _ rfl) fun path => checks_resolvePath request preview path

theorem checks_readContent (request : AccessRequest) : Checks (svc.readContent request) := by
  unfold readContent assertRequestSurface
  refine .bind (.bind (.ensure _ rfl) fun _ => .ensure _ rfl) fun _ => ?_
  refine .bind (.gets _) fun _ => .bind (.require _ rfl) fun session => ?_
  refine .bind (.gets _) fun _ => .bind (.require _ rfl) fun preview => ?_
  refine .bind (checks_normalizeAccessPath request preview) fun path => ?_
  refine .bind (.readBuild _ _ _) fun build => .bind (.require _ rfl) fun entry => ?_
  exact .bind (.readCompany _ _) fun company => .bind (.readPreview _ _ _) fun _ => .pure _

theorem denies_of_assertContentAuthority {read : ContentRead} {build : BuildAuthority}
    {e : ProofError} (h : svc.assertContentAuthority s read build = .error e) : Denies e := by
  unfold assertContentAuthority at h
  split at h
  · obtain rfl := Except.error.inj h
    rfl
  split at h
  · obtain rfl := Except.error.inj h
    rfl
  split at h
  · obtain rfl := Except.error.inj h
    rfl
  split at h
  · obtain rfl := Except.error.inj h
    rfl
  split at h
  · obtain rfl := Except.error.inj h
    rfl
  · cases h

theorem checks_authorizeContent (read : ContentRead) : Checks (svc.authorizeContent read) := by
  unfold authorizeContent
  refine .bind (.readBuild _ _ _) fun build => ?_
  apply Checks.gets_lift
  intro s e h
  exact denies_of_assertContentAuthority h

theorem authorizeContent_eq_ok {read : ContentRead} {u : PUnit}
    (h : completes (svc.authorizeContent read) s = (.ok u, s')) :
    ∃ build, s.builds.get read.preview.buildId = some build ∧
      svc.assertContentAuthority s read build = .ok () ∧ s' = s := by
  unfold authorizeContent at h
  rw [completes_bind, Prog.bind_eq_ok] at h
  obtain ⟨build, s₁, hbuild, h⟩ := h
  obtain ⟨-, hbuild, rfl⟩ := completes_readBuild_eq_ok.mp hbuild
  rw [completes_bind, completes_gets, Prog.gets_bind_eq_ok, completes_lift, Prog.lift_eq_ok] at h
  exact ⟨build, hbuild, h.1, h.2⟩

theorem readContent_eq_ok {request : AccessRequest} {read : ContentRead}
    (h : completes (svc.readContent request) s = (.ok read, s')) {build : BuildAuthority}
    (hbuild : s.builds.get read.preview.buildId = some build)
    (hauthorized : svc.assertContentAuthority s read build = .ok ()) :
    (∃ v : Serving svc s request, read = v.read) ∧ s' = s := by
  unfold readContent assertRequestSurface at h
  simp only [completes_bind, completes_ensure, completes_gets, completes_require, completes_pure,
    Prog.bind_assoc, Prog.ensure_bind_eq_ok, Prog.gets_bind_eq_ok, Prog.require_bind_eq_ok] at h
  obtain ⟨-, -, session, hsession, preview, hpreview, h⟩ := h
  rw [Prog.bind_eq_ok] at h
  obtain ⟨path, s₁, hpath, h⟩ := h
  obtain rfl := (checks_normalizeAccessPath request preview).reading.eq_of_run hpath
  rw [Prog.bind_eq_ok] at h
  obtain ⟨manifest, s₂, hmanifest, h⟩ := h
  obtain ⟨-, hmanifest, rfl⟩ := completes_readBuild_eq_ok.mp hmanifest
  rw [Prog.require_bind_eq_ok] at h
  obtain ⟨entry, hentry, h⟩ := h
  rw [Prog.bind_eq_ok] at h
  obtain ⟨company, s₃, hcompany, h⟩ := h
  obtain ⟨-, hcompany, rfl⟩ := completes_readCompany_eq_ok.mp hcompany
  rw [Prog.bind_eq_ok] at h
  obtain ⟨current, s₄, hcurrent, h⟩ := h
  obtain ⟨-, hcurrent, rfl⟩ := completes_readPreview_eq_ok.mp hcurrent
  obtain rfl := Option.some.inj (hpreview.symm.trans hcurrent)
  obtain ⟨rfl, rfl⟩ := Prog.pure_eq_ok.mp h
  have hname : entry.path = path := by simpa using List.find?_some hentry
  obtain rfl := hname
  obtain rfl := Option.some.inj (hmanifest.symm.trans hbuild)
  exact ⟨⟨⟨session, preview, manifest, entry, company, hsession, hpreview, hmanifest, hpath, hentry,
    hcompany, hauthorized⟩, rfl⟩, rfl⟩

/-- Content is served, or it is missing, or it is corrupt and its preview is quarantined. -/
inductive Served (svc : PreviewProofService) (s : PreviewProofState) (read : ContentRead) :
    Except (ProofError × CacheResult) (Bytes × CacheResult) → PreviewProofState → Prop
  | missing {e : ProofError × CacheResult} (h : Denies e.1) : Served svc s read (.error e) s
  | corrupt {e : ProofError × CacheResult} (h : Denies e.1)
      (hcorrupt : (∃ cached ∈ s.cache.get read.cacheKey, ¬ svc.CacheSound cached read.entry) ∨
        s.cache.get read.cacheKey = none ∧
          ∃ object ∈ objectOf s read.preview read.entry, ¬ svc.ObjectSound object read.entry) :
      Served svc s read (.error e) (setPreview (quarantined read.preview) s)
  | cached {cached : CacheRecord} (hcached : s.cache.get read.cacheKey = some cached)
      (hsound : svc.CacheSound cached read.entry) :
      Served svc s read (.ok (svc.cachedBody cached, .hit)) s
  | stored {object : ObjectRecord} (hobject : objectOf s read.preview read.entry = some object)
      (hsound : svc.ObjectSound object read.entry) :
      Served svc s read (.ok (svc.objectBody object, .miss))
        (cacheBody read (svc.objectBody object) s)

section ServeObject

variable {read : ContentRead} {object : ObjectRecord}

theorem serveObject_of_none (h : objectOf s read.preview read.entry = none) :
    completes (svc.serveObject read) s = (.error (.denied .resourceNotFound true), s) := by
  unfold serveObject
  rw [completes_bind, completes_gets, Prog.gets_bind_apply, h]
  rfl

theorem serveObject_of_sound (h : objectOf s read.preview read.entry = some object)
    (hsound : svc.ObjectSound object read.entry) :
    completes (svc.serveObject read) s =
      (.ok (svc.objectBody object), cacheBody read (svc.objectBody object) s) := by
  unfold serveObject
  rw [completes_bind, completes_gets, Prog.gets_bind_apply, h]
  change completes (if svc.ObjectSound object read.entry then _ else _) s = _
  rw [if_pos hsound]
  rfl

theorem serveObject_of_corrupt (h : objectOf s read.preview read.entry = some object)
    (hcorrupt : ¬ svc.ObjectSound object read.entry) :
    completes (svc.serveObject read) s =
      (.error (.denied .integrityFailed true), setPreview (quarantined read.preview) s) := by
  unfold serveObject
  rw [completes_bind, completes_gets, Prog.gets_bind_apply, h]
  change completes (if svc.ObjectSound object read.entry then _ else _) s = _
  rw [if_neg hcorrupt]
  rfl

end ServeObject

theorem serveContent_cases {read : ContentRead}
    {r : Except (ProofError × CacheResult) (Bytes × CacheResult)}
    (h : completes (svc.serveContent read) s = (r, s')) : Served svc s read r s' := by
  unfold serveContent at h
  rw [completes_bind, completes_gets, Prog.gets_bind_apply] at h
  cases hcached : s.cache.get read.cacheKey with
  | some cached =>
      simp only [hcached, completes_bind, completes_within, serveCached] at h
      by_cases hsound : svc.CacheSound cached read.entry
      · rw [if_pos hsound] at h
        obtain ⟨rfl, rfl⟩ := Prod.mk.inj h
        exact .cached hcached hsound
      · rw [if_neg hsound] at h
        obtain ⟨rfl, rfl⟩ := Prod.mk.inj h
        exact .corrupt rfl (.inl ⟨cached, hcached, hsound⟩)
  | none =>
      simp only [hcached, completes_bind] at h
      cases hobject : objectOf s read.preview read.entry with
      | none =>
          rw [Prog.bind_of_error (within_of_error (serveObject_of_none hobject))] at h
          obtain ⟨rfl, rfl⟩ := Prod.mk.inj h
          exact .missing rfl
      | some object =>
          by_cases hsound : svc.ObjectSound object read.entry
          · rw [Prog.bind_of_ok (within_of_ok (serveObject_of_sound hobject hsound))] at h
            obtain ⟨rfl, rfl⟩ := Prod.mk.inj h
            exact .stored hobject hsound
          · rw [Prog.bind_of_error
              (within_of_error (serveObject_of_corrupt hobject hsound))] at h
            obtain ⟨rfl, rfl⟩ := Prod.mk.inj h
            exact .corrupt rfl (.inr ⟨hcached, object, hobject, hsound⟩)

theorem atomic_within_check {p : Call ProofError α} (locals : CacheResult) (hp : Checks p) :
    Prog.Atomic (fun thrown : ProofError × CacheResult => Denies thrown.1)
      (completes (within locals p)) := by
  rw [completes_within]
  exact hp.atomic.mapError fun e he => he

theorem accessBody_error {request : AccessRequest} {e : ProofError × CacheResult}
    (h : completes (svc.accessBody request) s = (.error e, s')) :
    Denies e.1 ∧ (s' = s ∨ ∃ v : Serving svc s request, svc.Quarantines s v.read ∧
      s' = setPreview (quarantined v.preview) s) := by
  unfold accessBody at h
  rw [completes_bind, Prog.bind_eq_error] at h
  obtain hread | ⟨read, s₁, hread, h⟩ := h
  · obtain ⟨rfl, he⟩ := atomic_within_check _ (checks_readContent request) _ _ _ hread
    exact ⟨he, .inl rfl⟩
  rw [completes_within_eq_ok] at hread
  obtain rfl := (checks_readContent request).reading.eq_of_run hread
  rw [completes_bind, Prog.bind_eq_error] at h
  obtain hauthorize | ⟨_, s₂, hauthorize, h⟩ := h
  · obtain ⟨rfl, he⟩ := atomic_within_check _ (checks_authorizeContent read) _ _ _ hauthorize
    exact ⟨he, .inl rfl⟩
  rw [completes_within_eq_ok] at hauthorize
  obtain ⟨build, hbuild, hauthorized, rfl⟩ := authorizeContent_eq_ok hauthorize
  obtain ⟨⟨v, rfl⟩, -⟩ := readContent_eq_ok hread hbuild hauthorized
  rw [completes_bind, Prog.bind_eq_error] at h
  obtain hserve | ⟨content, s₃, -, h⟩ := h
  · cases serveContent_cases hserve with
    | missing he => exact ⟨he, .inl rfl⟩
    | corrupt he hcorrupt =>
        exact ⟨he, .inr ⟨v, ⟨⟨build, hbuild, hauthorized⟩, hcorrupt⟩, rfl⟩⟩
  · rw [completes_gets] at h
    cases h

theorem accessBody_eq_ok {request : AccessRequest} {receipt : ProofReceipt}
    (h : completes (svc.accessBody request) s = (.ok receipt, s')) :
    Accessed svc s request receipt s' := by
  unfold accessBody at h
  rw [completes_bind, within_bind_eq_ok] at h
  obtain ⟨read, s₁, hread, h⟩ := h
  rw [completes_bind, within_bind_eq_ok] at h
  obtain ⟨_, s₂, hauthorize, h⟩ := h
  obtain ⟨build, hbuild, hauthorized, rfl⟩ := authorizeContent_eq_ok hauthorize
  obtain rfl := (checks_readContent request).reading.eq_of_run hread
  obtain ⟨⟨v, rfl⟩, -⟩ := readContent_eq_ok hread hbuild hauthorized
  rw [completes_bind, Prog.bind_eq_ok] at h
  obtain ⟨content, s₃, hserve, h⟩ := h
  rw [completes_gets, Prog.gets_eq_ok] at h
  obtain ⟨rfl, rfl⟩ := h
  cases serveContent_cases hserve with
  | cached hcached hsound => exact .cached v hcached hsound
  | stored hobject hsound => exact .stored v hobject hsound

theorem access_cases {request : AccessRequest} {receipt : ProofReceipt}
    (h : completes (svc.access request) s = (.ok receipt, s')) :
    Accessed svc s request receipt s' := by
  unfold access assertRequestDigest at h
  rw [completes_bind, completes_ensure, Prog.ensure_bind_eq_ok, completes_catching] at h
  obtain ⟨-, h⟩ := h
  rcases hbody : completes (svc.accessBody request) s with ⟨e | receipt', s₁⟩
  · rw [Prog.catching_of_error hbody] at h
    obtain ⟨he, hleft⟩ := accessBody_error hbody
    obtain ⟨classified, hclassified⟩ := Option.isSome_iff_exists.mp he
    simp only [hclassified, completes_bind, completes_require, completes_gets,
      Prog.require_bind_eq_ok, Option.some.injEq, exists_eq_left', Prog.gets_eq_ok] at h
    obtain ⟨rfl, rfl⟩ := h
    have hrefusal : Refusal (svc.accessReceipt s'.now request classified uniformDenial e.2 none) :=
      refusal_receiptBase hclassified
    obtain rfl | ⟨v, hquarantines, rfl⟩ := hleft
    · exact .denied hrefusal
    · exact .quarantined v hquarantines hrefusal
  · rw [Prog.catching_of_ok hbody] at h
    obtain ⟨hreceipt, rfl⟩ := Prod.mk.inj h
    obtain rfl := Except.ok.inj hreceipt
    exact accessBody_eq_ok hbody

/-! ## Any operation -/

def OperationRequest.header : OperationRequest → Option KeyedHeader
  | .publish request => some request.toKeyedHeader
  | .issueGrant request => some request.toKeyedHeader
  | .exchange request => some request.toKeyedHeader
  | .access _ => none
  | .revoke request => some request.toKeyedHeader
  | .cleanup request => some request.toKeyedHeader
  | .reconcile request => some request.toKeyedHeader

/-- How a completed call ends that returns a receipt. -/
inductive Ran (svc : PreviewProofService) (s : PreviewProofState) :
    OperationRequest → ProofReceipt → PreviewProofState → Prop
  | settled {request : OperationRequest} {header : KeyedHeader} {receipt : ProofReceipt}
      {s' : PreviewProofState} (hheader : request.header = some header)
      (h : Settled s header receipt s') : Ran svc s request receipt s'
  | published {request : PublicationRequest} (p : Publication svc s request) :
      Ran svc s (.publish request) p.receipt p.left
  | issued {request : GrantIssueRequest} (i : Issuance svc s request) :
      Ran svc s (.issueGrant request) i.receipt i.left
  | exchanged {request : ExchangeRequest} (x : Exchange svc s request) :
      Ran svc s (.exchange request) x.receipt x.left
  | accessed {request : AccessRequest} {receipt : ProofReceipt} {s' : PreviewProofState}
      (h : Accessed svc s request receipt s') : Ran svc s (.access request) receipt s'
  | revoked {request : RevocationRequest} (r : Revocation svc s request) :
      Ran svc s (.revoke request) r.receipt r.left
  | removed {request : CleanupRequest} (r : Removal svc s request) :
      Ran svc s (.cleanup request) r.receipt r.left
  | reconciled {request : ReconciliationRequest} (r : Reconciliation svc s request) :
      Ran svc s (.reconcile request) r.receipt r.left

theorem perform_cases {request : OperationRequest} {receipt : ProofReceipt}
    (h : completes (svc.perform request) s = (.ok receipt, s')) :
    Ran svc s request receipt s' := by
  cases request with
  | publish request =>
      obtain hsettled | ⟨p, rfl, rfl⟩ := publish_cases h
      · exact .settled rfl hsettled
      · exact .published p
  | issueGrant request =>
      unfold perform at h
      rw [completes_bind, Prog.bind_eq_ok] at h
      obtain ⟨result, s₁, hissue, h⟩ := h
      obtain ⟨rfl, rfl⟩ := Prog.pure_eq_ok.mp h
      obtain hsettled | ⟨i, hreceipt, rfl⟩ := issueGrant_cases hissue
      · exact .settled rfl hsettled
      · rw [hreceipt]
        exact .issued i
  | exchange request =>
      unfold perform at h
      rw [completes_bind, Prog.bind_eq_ok] at h
      obtain ⟨result, s₁, hexchange, h⟩ := h
      obtain ⟨rfl, rfl⟩ := Prog.pure_eq_ok.mp h
      obtain hsettled | ⟨x, hreceipt, rfl⟩ := exchange_cases hexchange
      · exact .settled rfl hsettled
      · rw [hreceipt]
        exact .exchanged x
  | access request => exact .accessed (access_cases h)
  | revoke request =>
      obtain hsettled | ⟨r, rfl, rfl⟩ := revoke_cases h
      · exact .settled rfl hsettled
      · exact .revoked r
  | cleanup request =>
      obtain hsettled | ⟨r, rfl, rfl⟩ := cleanup_cases h
      · exact .settled rfl hsettled
      · exact .removed r
  | reconcile request =>
      obtain hsettled | ⟨r, rfl, rfl⟩ := reconcile_cases h
      · exact .settled rfl hsettled
      · exact .reconciled r

/-- A `try` block with its `catch` throws nothing. -/
theorem error_of_settle {ρ : Type} {header : KeyedHeader} {fields : List (String × Json)}
    {refusal : PreviewProofState → Classified → Locals → ρ} {receiptOf : ρ → ProofReceipt}
    {body : Call (ProofError × Locals) ρ} {e : ProofError}
    (hbody : Prog.Atomic Refusing (completes body))
    (h : completes (do
      svc.assertRequestDigest header.toRequestHeader fields
      settle header refusal receiptOf body) s = (.error e, s')) : s' = s := by
  rw [completes_bind, Prog.bind_eq_error] at h
  obtain hdigest | ⟨_, s₁, -, hsettle⟩ := h
  · exact (Checks.ensure _ (denies_conflict _)).reading.eq_of_run hdigest
  · obtain ⟨result, hresult, -⟩ | ⟨_, _, _, -, -, -, hresult, -⟩ := settle_cases hbody hsettle
    · cases hresult
    · cases hresult

theorem error_of_receipt {ρ : Type} {p : Call ProofError ρ} {f : ρ → ProofReceipt}
    {e : ProofError}
    (h : completes (do let result ← p; pure (f result)) s = (.error e, s')) :
    completes p s = (.error e, s') := by
  rw [completes_bind, Prog.bind_eq_error] at h
  obtain herror | ⟨_, _, -, hpure⟩ := h
  · exact herror
  · cases hpure

theorem access_error {request : AccessRequest} {e : ProofError}
    (h : completes (svc.access request) s = (.error e, s')) : s' = s := by
  unfold access at h
  rw [completes_bind, Prog.bind_eq_error] at h
  obtain hdigest | ⟨_, s₁, -, h⟩ := h
  · exact (Checks.ensure _ (denies_conflict _)).reading.eq_of_run hdigest
  rw [completes_catching] at h
  rcases hbody : completes (svc.accessBody request) s₁ with ⟨thrown | receipt, s₂⟩
  · rw [Prog.catching_of_error hbody] at h
    obtain ⟨classified, hclassified⟩ := Option.isSome_iff_exists.mp (accessBody_error hbody).1
    simp only [hclassified, completes_bind, completes_require, completes_gets] at h
    cases h
  · rw [Prog.catching_of_ok hbody] at h
    cases h

/-- A call that throws has changed nothing. -/
theorem perform_error {request : OperationRequest} {e : ProofError}
    (h : completes (svc.perform request) s = (.error e, s')) : s' = s := by
  cases request with
  | publish request =>
      exact error_of_settle (atomic_answered (fun _ => .pure _) fun company =>
        atomic_publishNew request company) h
  | issueGrant request =>
      exact error_of_settle (atomic_answered (atomic_reissue request) fun company =>
        atomic_issueNewGrant request company) (error_of_receipt h)
  | exchange request =>
      exact error_of_settle (atomic_within _ rfl (atomic_exchangeBody request))
        (error_of_receipt h)
  | access request => exact access_error h
  | revoke request =>
      exact error_of_settle (atomic_answered (fun _ => .pure _) fun company =>
        atomic_revokeNew request company) h
  | cleanup request =>
      exact error_of_settle (atomic_answered (fun _ => .pure _) fun company =>
        atomic_cleanupNew request company) h
  | reconcile request =>
      exact error_of_settle (atomic_within _ rfl (atomic_reconcileBody request)) h

end PreviewProof

end Aico
