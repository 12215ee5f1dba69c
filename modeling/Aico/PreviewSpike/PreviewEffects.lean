import Aico.PreviewSpike.PreviewCalls

/-!
# What a completed call does

A call that runs to completion is refused, is answered with a stored receipt, or has its
effect. A `Publication`, an `Issuance` and so on are what a call has read before its effect,
with the checks that it passed, and its `left` is the store after the effect. The intent is
consumed in that store, so a call that is refused has consumed none.
-/

namespace Aico

namespace PreviewProof

open Coroutine PreviewProofService

variable {svc : PreviewProofService} {s s' : PreviewProofState} {α β ρ : Type}

/-! ## The `try` block and its `catch` -/

/-- A read or a check before the intent is consumed. -/
theorem atomic_check_bind {p : Call ProofError α} {f : α → Call (ProofError × Locals) β}
    {locals : Locals} (hp : Checks p) (hlocals : locals.consumption = none)
    (hf : ∀ a, Prog.Atomic Refusing (completes (f a))) :
    Prog.Atomic Refusing (completes (within locals p >>= f)) := by
  rw [completes_bind]
  exact .bind (reading_within locals hp.reading) (atomic_within locals hlocals hp.atomic) hf

/-- Nothing fails after the intent is consumed. -/
theorem atomic_consume_bind {supplied : ToolInvocationIntent} {action : ToolAction}
    {header : KeyedHeader} {f : ToolInvocationConsumption → Call (ProofError × Locals) β}
    {locals : Locals} (hlocals : locals.consumption = none)
    (hf : ∀ c, Prog.Total (completes (f c))) :
    Prog.Atomic Refusing
      (completes (within locals (svc.consumeIntent supplied action header) >>= f)) := by
  rw [completes_bind]
  exact .bind_total (atomic_within locals hlocals (atomic_consumeIntent _ _ _)) hf

/-- A `try` block ends, or it throws before it has changed anything and is refused. -/
theorem settle_cases {header : KeyedHeader} {refusal : PreviewProofState → Classified → Locals → ρ}
    {receiptOf : ρ → ProofReceipt} {body : Call (ProofError × Locals) ρ}
    (hbody : Prog.Atomic Refusing (completes body)) {r : Except ProofError ρ}
    (h : completes (settle header refusal receiptOf body) s = (r, s')) :
    (∃ result, r = .ok result ∧ completes body s = (.ok result, s')) ∨
      ∃ e locals classified, completes body s = (.error (e, locals), s) ∧
        locals.consumption = none ∧ classify e = some classified ∧
        r = .ok (refusal s classified locals) ∧
        s' = storeIfStable header (receiptOf (refusal s classified locals)) s := by
  unfold settle at h
  rw [completes_catching] at h
  rcases hrun : completes body s with ⟨⟨e, locals⟩ | result, s₁⟩
  · obtain ⟨rfl, hdenies, hlocals⟩ := hbody s (e, locals) s₁ hrun
    obtain ⟨classified, hclassified⟩ := Option.isSome_iff_exists.mp hdenies
    rw [Prog.catching_of_error hrun] at h
    simp only [hclassified, completes_bind, completes_require, completes_gets, completes_modify,
      completes_pure] at h
    obtain ⟨rfl, rfl⟩ := Prod.mk.inj h
    exact .inr ⟨e, locals, classified, rfl, hlocals, hclassified, rfl, rfl⟩
  · rw [Prog.catching_of_ok hrun] at h
    obtain ⟨rfl, rfl⟩ := Prod.mk.inj h
    exact .inl ⟨result, rfl, rfl⟩

@[simp] theorem completes_within_callHook {κ : Type} {locals : κ} (hook : ProofHook) (held : Held) :
    completes (within locals (callHook hook held)) = pure ⟨⟩ := by
  rw [completes_within, completes_callHook]
  rfl

theorem within_of_ok {κ : Type} {locals : κ} {p : Call ProofError α} {a : α}
    (h : completes p s = (.ok a, s')) : completes (within locals p) s = (.ok a, s') := by
  rw [completes_within, Prog.catching_of_ok h]

theorem within_of_error {κ : Type} {locals : κ} {p : Call ProofError α} {e : ProofError}
    (h : completes p s = (.error e, s')) :
    completes (within locals p) s = (.error (e, locals), s') := by
  rw [completes_within, Prog.catching_of_error h]
  rfl

theorem within_bind_eq_ok {κ : Type} {locals : κ} {p : Call ProofError α}
    {f : α → Prog PreviewProofState (ProofError × κ) β} {b : β} :
    (completes (within locals p) >>= f) s = (.ok b, s') ↔
      ∃ a s₁, completes p s = (.ok a, s₁) ∧ f a s₁ = (.ok b, s') := by
  simp only [Prog.bind_eq_ok, completes_within_eq_ok]

/-! ## Calls that are answered without an effect -/

structure Refusal (receipt : ProofReceipt) : Prop where
  outcome : receipt.outcome = .denied ∨ receipt.outcome = .conflict
  replayed : receipt.replayed = false
  consumption : receipt.toolConsumption = none

/-- A call is refused, or it is answered with the receipt stored under its key. -/
inductive Settled (s : PreviewProofState) (header : KeyedHeader) :
    ProofReceipt → PreviewProofState → Prop
  | refused {receipt : ProofReceipt} (h : Refusal receipt) :
      Settled s header receipt (storeIfStable header receipt s)
  | replayed {stored : StoredOperationReceipt}
      (hstored : s.operationReceipts.get header.logicalIdempotencyKey = some stored)
      (hdigest : stored.requestDigest = header.requestDigest) :
      Settled s header { stored.receipt with replayed := true } s

theorem outcome_of_classify {e : ProofError} {classified : Classified}
    (h : classify e = some classified) :
    classified.outcome = .denied ∨ classified.outcome = .conflict := by
  cases e with
  | denied reason read =>
      obtain rfl := Option.some.inj h
      exact .inl rfl
  | conflict reason =>
      obtain rfl := Option.some.inj h
      exact .inr rfl
  | foreign => cases h

/-- A receipt of a refused call, whatever its operation. -/
theorem refusal_receiptBase {now : JsString} {header : RequestHeader} {e : ProofError}
    {classified : Classified} {effectStarted : Bool} {detail : ReceiptDetail}
    (h : classify e = some classified) :
    Refusal (svc.receiptBase now header classified effectStarted none detail) where
  outcome := outcome_of_classify h
  replayed := rfl
  consumption := rfl

/-- An operation of a founder: the company of the subject is read, and then the receipt that
is stored under the key. -/
def answered {ρ : Type} (svc : PreviewProofService) (header : KeyedHeader) (subject : JsString)
    (operation : ProofOperation) (again : ProofReceipt → Call (ProofError × Locals) ρ)
    (new : CompanyAuthority → Call (ProofError × Locals) ρ) : Call (ProofError × Locals) ρ := do
  let company ← within Locals.start (svc.readCompanyBySubject subject operation)
  match ← within Locals.start (replay header) with
  | some receipt => again receipt
  | none => new company

structure Founder (svc : PreviewProofService) (s : PreviewProofState) (header : KeyedHeader)
    (subject : JsString) (company : CompanyAuthority) : Prop where
  readable : svc.faults.authorityUnavailable = false
  company : companyOf s subject = some company
  unanswered : s.operationReceipts.get header.logicalIdempotencyKey = none

section Answered

variable {header : KeyedHeader} {subject : JsString} {operation : ProofOperation}
  {again : ProofReceipt → Call (ProofError × Locals) ρ}
  {new : CompanyAuthority → Call (ProofError × Locals) ρ}

theorem atomic_answered (hagain : ∀ receipt, Prog.Atomic Refusing (completes (again receipt)))
    (hnew : ∀ company, Prog.Atomic Refusing (completes (new company))) :
    Prog.Atomic Refusing (completes (answered svc header subject operation again new)) := by
  unfold answered
  refine atomic_check_bind (.readCompanyBySubject _ _) rfl fun company => ?_
  refine atomic_check_bind (.replay _) rfl fun replayed => ?_
  cases replayed with
  | some receipt => exact hagain receipt
  | none => exact hnew company

theorem answered_eq_ok {result : ρ}
    (h : completes (answered svc header subject operation again new) s = (.ok result, s')) :
    (∃ stored, s.operationReceipts.get header.logicalIdempotencyKey = some stored ∧
        stored.requestDigest = header.requestDigest ∧
        completes (again { stored.receipt with replayed := true }) s = (.ok result, s')) ∨
      ∃ company, Founder svc s header subject company ∧
        completes (new company) s = (.ok result, s') := by
  unfold answered at h
  rw [completes_bind, within_bind_eq_ok] at h
  obtain ⟨company, s₁, hcompany, h⟩ := h
  obtain ⟨hreadable, hcompany, rfl⟩ := completes_readCompanyBySubject_eq_ok.mp hcompany
  rw [completes_bind, within_bind_eq_ok] at h
  obtain ⟨replayed, s₂, hreplay, h⟩ := h
  obtain ⟨rfl, ⟨hnone, rfl⟩ | ⟨stored, hstored, hdigest, rfl⟩⟩ := completes_replay_eq_ok.mp hreplay
  · exact .inr ⟨company, ⟨hreadable, hcompany, hnone⟩, h⟩
  · exact .inl ⟨stored, hstored, hdigest, h⟩

theorem settled_or_new {refusal : PreviewProofState → Classified → Locals → ProofReceipt}
    {new : CompanyAuthority → Call (ProofError × Locals) ProofReceipt} {receipt : ProofReceipt}
    (hnew : ∀ company, Prog.Atomic Refusing (completes (new company)))
    (hrefusal : ∀ e classified locals, classify e = some classified →
      locals.consumption = none → Refusal (refusal s classified locals))
    (h : completes (settle header refusal id (answered svc header subject operation pure new)) s =
      (.ok receipt, s')) :
    Settled s header receipt s' ∨
      ∃ company, Founder svc s header subject company ∧
        completes (new company) s = (.ok receipt, s') := by
  obtain ⟨result, hresult, hbody⟩ | ⟨e, locals, classified, -, hlocals, he, hresult, rfl⟩ :=
    settle_cases (atomic_answered (fun _ => .pure _) hnew) h
  · obtain rfl := Except.ok.inj hresult
    obtain ⟨stored, hstored, hdigest, hpure⟩ | hgoes := answered_eq_ok hbody
    · obtain ⟨rfl, rfl⟩ := Prog.pure_eq_ok.mp hpure
      exact .inl (.replayed hstored hdigest)
    · exact .inr hgoes
  · obtain rfl := Except.ok.inj hresult
    exact .inl (.refused (hrefusal e classified locals he hlocals))

end Answered

/-! ## publish -/

/-- What a publication has read and checked before its effect. -/
structure Publication (svc : PreviewProofService) (s : PreviewProofState)
    (request : PublicationRequest) where
  company : CompanyAuthority
  build : BuildAuthority
  preview : PreviewAuthority
  verified : List VerifiedBuildCopy
  intent : ToolInvocationIntent
  digest : svc.platform.canonicalRequestDigest request.fields = request.requestDigest
  founder : Founder svc s request.toKeyedHeader request.actorSubject company
  buildRead : s.builds.get request.build.buildId = some build
  previewRead : s.previews.get request.preview.previewId = some preview
  scope : ∀ companyId ∈ [build.companyId, preview.companyId], companyId = company.companyId
  bound : svc.PublicationBound request build preview
  prepared : preview.state = .prepared
  host : preview.host ∉ s.retiredHosts
  others : ∀ candidate ∈ s.previews.values, candidate.previewId ≠ preview.previewId →
    candidate.host ≠ preview.host
  result : build.buildResult = .succeeded ∧ build.canceled = false ∧ build.quarantined = false
  manifest : svc.ManifestSound build
  copies : build.entries.mapM (svc.verifyCopy s build preview) = .ok verified
  consumable : svc.Consumable s request.toolInvocation .publish request.toKeyedHeader intent

namespace Publication

variable {request : PublicationRequest}

def published (p : Publication svc s request) : PreviewAuthority :=
  if svc.faults.publicationUnknownAfterCopy then doubtfulPreview p.preview
  else svc.availablePreview p.preview

def receipt (p : Publication svc s request) : ProofReceipt :=
  svc.publicationReceipt s.now request
    (if svc.faults.publicationUnknownAfterCopy then ⟨.unknown, .unknownExternalOutcome, true⟩
      else ⟨.succeeded, .published, true⟩)
    true (some (svc.consumption s.now p.intent)) (some p.published)

/-- The store with the copies of the build; those of a doubtful publication stay staged. -/
def copied (p : Publication svc s request) : PreviewProofState :=
  if svc.faults.publicationUnknownAfterCopy then
    copyVerifiedBuild p.verified p.preview (consume p.intent s)
  else
    activateCopies p.verified (copyVerifiedBuild p.verified p.preview (consume p.intent s))

def left (p : Publication svc s request) : PreviewProofState :=
  store request.toKeyedHeader p.receipt (setPreview p.published p.copied)

theorem left_eq (p : Publication svc s request) :
    p.left =
      { s with
        previews := s.previews.set p.preview.previewId p.published
        objects := p.copied.objects
        intents := s.intents.set p.intent.id { p.intent with used := 1 }
        operationReceipts := s.operationReceipts.set request.logicalIdempotencyKey
          ⟨request.requestDigest, p.receipt⟩ } := by
  unfold left copied published
  cases svc.faults.publicationUnknownAfterCopy <;> rfl

end Publication

theorem denies_of_verifyCopy {build : BuildAuthority} {preview : PreviewAuthority}
    {entry : ManifestEntry} {e : ProofError}
    (h : svc.verifyCopy s build preview entry = .error e) : Denies e := by
  unfold verifyCopy at h
  split at h
  · obtain rfl := Except.error.inj h
    rfl
  · split at h
    · dsimp only at h
      split at h
      · obtain rfl := Except.error.inj h
        rfl
      · cases h
    · obtain rfl := Except.error.inj h
      rfl

theorem verifyCopy_eq_ok {build : BuildAuthority} {preview : PreviewAuthority}
    {entry : ManifestEntry} {copy : VerifiedBuildCopy}
    (h : svc.verifyCopy s build preview entry = .ok copy) :
    s.objects.get (sourceObjectKey build.buildId entry.path) = some copy.source ∧
      svc.SourceSound copy.source entry ∧
      copy.destinationKey = previewObjectKey preview.previewId preview.previewVersion entry.path ∧
      s.objects.has copy.destinationKey = false := by
  unfold verifyCopy at h
  split at h
  · cases h
  · next source hsource =>
      split at h
      · next hsound =>
          dsimp only at h
          split at h
          · cases h
          · next hfree =>
              obtain rfl := Except.ok.inj h
              exact ⟨hsource, hsound, rfl, Bool.eq_false_iff.mpr hfree⟩
      · cases h

theorem checks_checkPublication (request : PublicationRequest) (company : CompanyAuthority)
    (build : BuildAuthority) (preview : PreviewAuthority) :
    Checks (svc.checkPublication request company build preview) := by
  unfold checkPublication assertPublicationBindings validateBuildCopy
  refine .bind (.assertCompanyScope _ _) fun _ => .bind ?_ fun _ => ?_
  · refine .bind (.ensure _ rfl) fun _ => .bind (.ensure _ rfl) fun _ => ?_
    refine .bind (.gets _) fun _ => .bind (.ensure _ rfl) fun _ => ?_
    refine .bind (.gets _) fun _ => .bind (.ensure _ rfl) fun _ => ?_
    exact .bind (.ensure _ rfl) fun _ => .ensure _ rfl
  · apply Checks.gets_lift
    intro s e h
    obtain ⟨entry, -, hentry⟩ := Except.exists_mem_of_mapM_eq_error h
    exact denies_of_verifyCopy hentry

theorem checkPublication_eq_ok {request : PublicationRequest} {company : CompanyAuthority}
    {build : BuildAuthority} {preview : PreviewAuthority} {verified : List VerifiedBuildCopy} :
    completes (svc.checkPublication request company build preview) s = (.ok verified, s') ↔
      (∀ companyId ∈ [build.companyId, preview.companyId], companyId = company.companyId) ∧
      svc.PublicationBound request build preview ∧ preview.state = .prepared ∧
      preview.host ∉ s.retiredHosts ∧
      (∀ candidate ∈ s.previews.values, candidate.previewId ≠ preview.previewId →
        candidate.host ≠ preview.host) ∧
      (build.buildResult = .succeeded ∧ build.canceled = false ∧ build.quarantined = false) ∧
      svc.ManifestSound build ∧
      build.entries.mapM (svc.verifyCopy s build preview) = .ok verified ∧ s' = s := by
  unfold checkPublication assertPublicationBindings validateBuildCopy assertCompanyScope
  simp only [completes_bind, completes_gets, completes_ensure, completes_lift, Prog.bind_assoc,
    Prog.gets_bind_eq_ok, Prog.ensure_bind_eq_ok, Prog.lift_eq_ok]

theorem publishNew_eq_ok {request : PublicationRequest} {company : CompanyAuthority}
    {receipt : ProofReceipt}
    (hdigest : svc.platform.canonicalRequestDigest request.fields = request.requestDigest)
    (hfounder : Founder svc s request.toKeyedHeader request.actorSubject company)
    (h : completes (svc.publishNew request company) s = (.ok receipt, s')) :
    ∃ p : Publication svc s request, receipt = p.receipt ∧ s' = p.left := by
  unfold publishNew at h
  rw [completes_bind, within_bind_eq_ok] at h
  obtain ⟨build, s₁, hbuild, h⟩ := h
  obtain ⟨-, hbuild, rfl⟩ := completes_readBuild_eq_ok.mp hbuild
  rw [completes_bind, within_bind_eq_ok] at h
  obtain ⟨preview, s₂, hpreview, h⟩ := h
  obtain ⟨-, hpreview, rfl⟩ := completes_readPreview_eq_ok.mp hpreview
  rw [completes_bind, within_bind_eq_ok] at h
  obtain ⟨verified, s₃, hcheck, h⟩ := h
  obtain ⟨hscope, hbound, hprepared, hhost, hothers, hresult, hmanifest, hcopies, rfl⟩ :=
    checkPublication_eq_ok.mp hcheck
  rw [completes_bind, within_bind_eq_ok] at h
  obtain ⟨consumption, s₄, hconsume, h⟩ := h
  obtain ⟨intent, hconsumable, rfl, rfl⟩ := completes_consumeIntent_eq_ok.mp hconsume
  let p : Publication svc s₃ request := ⟨company, build, preview, verified, intent, hdigest,
    hfounder, hbuild, hpreview, hscope, hbound, hprepared, hhost, hothers, hresult, hmanifest,
    hcopies, hconsumable⟩
  refine ⟨p, ?_⟩
  simp only [completes_bind, completes_within_callHook, Prog.pure_bind, completes_modify,
    Prog.modify_bind_eq_ok] at h
  cases hfault : svc.faults.publicationUnknownAfterCopy with
  | true =>
      rw [hfault, if_pos rfl] at h
      unfold publishDoubtful at h
      simp only [completes_bind, completes_modify, completes_gets, completes_pure,
        Prog.modify_bind_eq_ok, Prog.gets_bind_eq_ok, Prog.pure_eq_ok] at h
      obtain ⟨rfl, rfl⟩ := h
      simp only [Publication.left, Publication.receipt, Publication.published, Publication.copied,
        hfault, if_true]
      exact ⟨rfl, rfl⟩
  | false =>
      rw [hfault, if_neg Bool.false_ne_true] at h
      unfold publishAvailable at h
      simp only [completes_bind, completes_modify, completes_gets, completes_pure,
        completes_within_callHook, Prog.pure_bind, Prog.modify_bind_eq_ok, Prog.gets_bind_eq_ok,
        Prog.pure_eq_ok] at h
      obtain ⟨rfl, rfl⟩ := h
      simp only [Publication.left, Publication.receipt, Publication.published, Publication.copied,
        hfault, Bool.false_eq_true, if_false]
      exact ⟨rfl, rfl⟩

theorem total_publishDoubtful (request : PublicationRequest) (preview : PreviewAuthority)
    (consumption : ToolInvocationConsumption) :
    Prog.Total (completes (svc.publishDoubtful request preview consumption)) := by
  unfold publishDoubtful
  simp only [completes_bind, completes_modify, completes_gets, completes_pure]
  exact .bind (.modify _) fun _ => .bind (.gets _) fun _ => .bind (.modify _) fun _ => .pure _

theorem total_publishAvailable (request : PublicationRequest) (preview : PreviewAuthority)
    (verified : List VerifiedBuildCopy) (consumption : ToolInvocationConsumption) :
    Prog.Total (completes (svc.publishAvailable request preview verified consumption)) := by
  unfold publishAvailable
  simp only [completes_bind, completes_modify, completes_gets, completes_pure,
    completes_within_callHook]
  refine .bind (.modify _) fun _ => .bind (.modify _) fun _ => .bind (.pure _) fun _ => ?_
  exact .bind (.gets _) fun _ => .bind (.modify _) fun _ => .pure _

theorem atomic_publishNew (request : PublicationRequest) (company : CompanyAuthority) :
    Prog.Atomic Refusing (completes (svc.publishNew request company)) := by
  unfold publishNew
  refine atomic_check_bind (.readBuild _ _ _) rfl fun build => ?_
  refine atomic_check_bind (.readPreview _ _ _) rfl fun preview => ?_
  refine atomic_check_bind (checks_checkPublication _ _ _ _) rfl fun verified => ?_
  refine atomic_consume_bind rfl fun consumption => ?_
  simp only [completes_bind, completes_within_callHook, completes_modify]
  refine .bind (.pure _) fun _ => .bind (.modify _) fun _ => ?_
  split
  · exact total_publishDoubtful _ _ _
  · exact total_publishAvailable _ _ _ _

theorem publish_cases {request : PublicationRequest} {receipt : ProofReceipt}
    (h : completes (svc.publish request) s = (.ok receipt, s')) :
    Settled s request.toKeyedHeader receipt s' ∨
      ∃ p : Publication svc s request, receipt = p.receipt ∧ s' = p.left := by
  unfold publish assertRequestDigest at h
  rw [completes_bind, completes_ensure, Prog.ensure_bind_eq_ok] at h
  refine (settled_or_new (fun company => atomic_publishNew request company) ?_ h.2).imp_right ?_
  · intro e classified locals he hlocals
    unfold publicationReceipt
    rw [hlocals]
    exact refusal_receiptBase he
  · rintro ⟨company, hfounder, hnew⟩
    exact publishNew_eq_ok h.1 hfounder hnew

/-! ## issueGrant -/

structure Issuance (svc : PreviewProofService) (s : PreviewProofState)
    (request : GrantIssueRequest) where
  company : CompanyAuthority
  preview : PreviewAuthority
  build : BuildAuthority
  intent : ToolInvocationIntent
  digest : svc.platform.canonicalRequestDigest request.fields = request.requestDigest
  founder : Founder svc s request.toKeyedHeader request.actorSubject company
  previewRead : s.previews.get request.previewId = some preview
  buildRead : s.builds.get preview.buildId = some build
  scope : ∀ companyId ∈ [preview.companyId, build.companyId], companyId = company.companyId
  available : svc.previewAvailable s.now preview
  fits : request.previewVersion = preview.previewVersion ∧
    Json.unitOrder request.expiresAt preview.expiresAt ≠ .gt
  unknown : grantOf s request.publicGrantId = none
  consumable : svc.Consumable s request.toolInvocation .issueGrant request.toKeyedHeader intent

namespace Issuance

variable {request : GrantIssueRequest}

def grant (i : Issuance svc s request) : GrantAuthority :=
  svc.createGrantAuthority s.now request i.preview i.build i.company

def receipt (i : Issuance svc s request) : ProofReceipt :=
  svc.grantReceipt s.now request ⟨.succeeded, .grantIssued, true⟩ true
    (some (svc.consumption s.now i.intent)) (some i.grant.publicGrantId)
    (some i.grant.bindingSha256)
    (some (svc.platform.canonicalDigest (.str (svc.signGrant i.grant request.nonce).compact)))

def left (i : Issuance svc s request) : PreviewProofState :=
  store request.toKeyedHeader i.receipt (setGrant i.grant (consume i.intent s))

theorem left_eq (i : Issuance svc s request) :
    i.left =
      { s with
        grants := s.grants.set i.grant.grantId i.grant
        intents := s.intents.set i.intent.id { i.intent with used := 1 }
        operationReceipts := s.operationReceipts.set request.logicalIdempotencyKey
          ⟨request.requestDigest, i.receipt⟩ } := rfl

end Issuance

theorem checks_checkGrantIssue (request : GrantIssueRequest) (company : CompanyAuthority)
    (preview : PreviewAuthority) (build : BuildAuthority) :
    Checks (svc.checkGrantIssue request company preview build) := by
  unfold checkGrantIssue assertPreviewAvailable
  refine .bind (.assertCompanyScope _ _) fun _ => ?_
  refine .bind (.bind (.gets _) fun _ => .ensure _ rfl) fun _ => ?_
  exact .bind (.ensure _ rfl) fun _ => .bind (.gets _) fun _ => .bind (.ensure _ rfl) fun _ => .gets _

theorem checkGrantIssue_eq_ok {request : GrantIssueRequest} {company : CompanyAuthority}
    {preview : PreviewAuthority} {build : BuildAuthority} {grant : GrantAuthority} :
    completes (svc.checkGrantIssue request company preview build) s = (.ok grant, s') ↔
      (∀ companyId ∈ [preview.companyId, build.companyId], companyId = company.companyId) ∧
      svc.previewAvailable s.now preview ∧
      (request.previewVersion = preview.previewVersion ∧
        Json.unitOrder request.expiresAt preview.expiresAt ≠ .gt) ∧
      grantOf s request.publicGrantId = none ∧
      grant = svc.createGrantAuthority s.now request preview build company ∧ s' = s := by
  unfold checkGrantIssue assertPreviewAvailable assertCompanyScope
  simp only [completes_bind, completes_gets, completes_ensure, Prog.bind_assoc,
    Prog.gets_bind_eq_ok, Prog.ensure_bind_eq_ok, Prog.gets_eq_ok, Option.isNone_iff_eq_none]

theorem issueNewGrant_eq_ok {request : GrantIssueRequest} {company : CompanyAuthority}
    {result : GrantIssueResult}
    (hdigest : svc.platform.canonicalRequestDigest request.fields = request.requestDigest)
    (hfounder : Founder svc s request.toKeyedHeader request.actorSubject company)
    (h : completes (svc.issueNewGrant request company) s = (.ok result, s')) :
    ∃ i : Issuance svc s request, result.receipt = i.receipt ∧ s' = i.left := by
  unfold issueNewGrant at h
  rw [completes_bind, within_bind_eq_ok] at h
  obtain ⟨preview, s₁, hpreview, h⟩ := h
  obtain ⟨-, hpreview, rfl⟩ := completes_readPreview_eq_ok.mp hpreview
  rw [completes_bind, within_bind_eq_ok] at h
  obtain ⟨build, s₂, hbuild, h⟩ := h
  obtain ⟨-, hbuild, rfl⟩ := completes_readBuild_eq_ok.mp hbuild
  rw [completes_bind, within_bind_eq_ok] at h
  obtain ⟨grant, s₃, hcheck, h⟩ := h
  obtain ⟨hscope, havailable, hfits, hunknown, rfl, rfl⟩ := checkGrantIssue_eq_ok.mp hcheck
  rw [completes_bind, within_bind_eq_ok] at h
  obtain ⟨consumption, s₄, hconsume, h⟩ := h
  obtain ⟨intent, hconsumable, rfl, rfl⟩ := completes_consumeIntent_eq_ok.mp hconsume
  refine ⟨⟨company, preview, build, intent, hdigest, hfounder, hpreview, hbuild, hscope,
    havailable, hfits, hunknown, hconsumable⟩, ?_⟩
  simp only [completes_bind, completes_within_callHook, Prog.pure_bind, completes_modify,
    completes_gets, completes_pure, Prog.modify_bind_eq_ok, Prog.gets_bind_eq_ok,
    Prog.pure_eq_ok] at h
  obtain ⟨rfl, rfl⟩ := h
  exact ⟨rfl, rfl⟩

theorem atomic_issueNewGrant (request : GrantIssueRequest) (company : CompanyAuthority) :
    Prog.Atomic Refusing (completes (svc.issueNewGrant request company)) := by
  unfold issueNewGrant
  refine atomic_check_bind (.readPreview _ _ _) rfl fun preview => ?_
  refine atomic_check_bind (.readBuild _ _ _) rfl fun build => ?_
  refine atomic_check_bind (checks_checkGrantIssue _ _ _ _) rfl fun grant => ?_
  refine atomic_consume_bind rfl fun consumption => ?_
  simp only [completes_bind, completes_within_callHook, completes_modify, completes_gets,
    completes_pure]
  refine .bind (.pure _) fun _ => .bind (.modify _) fun _ => .bind (.pure _) fun _ => ?_
  exact .bind (.gets _) fun _ => .bind (.modify _) fun _ => .pure _

/-- The receipt of a known grant is answered again with its capability. -/
def reissue (svc : PreviewProofService) (request : GrantIssueRequest) (receipt : ProofReceipt) :
    Call (ProofError × Locals) GrantIssueResult := do
  let result ← gets fun s => svc.replayGrant s request receipt
  require result (.denied .authorityStale true, Locals.start)

theorem atomic_reissue (request : GrantIssueRequest) (receipt : ProofReceipt) :
    Prog.Atomic Refusing (completes (reissue svc request receipt)) := by
  unfold reissue
  rw [completes_bind, completes_gets]
  refine .bind (.gets _) (.gets _) fun result => ?_
  rw [completes_require]
  exact .require ⟨rfl, rfl⟩

theorem receipt_of_replayGrant {request : GrantIssueRequest} {receipt : ProofReceipt}
    {result : GrantIssueResult} (h : svc.replayGrant s request receipt = some result) :
    result.receipt = receipt := by
  unfold replayGrant at h
  split at h
  · obtain ⟨grant, -, hgrant⟩ := Option.bind_eq_some_iff.mp h
    dsimp only at hgrant
    split at hgrant
    · obtain rfl := Option.some.inj hgrant
      rfl
    · cases hgrant
  · cases h

theorem issueGrant_cases {request : GrantIssueRequest} {result : GrantIssueResult}
    (h : completes (svc.issueGrant request) s = (.ok result, s')) :
    Settled s request.toKeyedHeader result.receipt s' ∨
      ∃ i : Issuance svc s request, result.receipt = i.receipt ∧ s' = i.left := by
  unfold issueGrant assertRequestDigest at h
  rw [completes_bind, completes_ensure, Prog.ensure_bind_eq_ok] at h
  have hatomic : Prog.Atomic Refusing (completes (svc.issueGrantBody request)) :=
    atomic_answered (atomic_reissue request) fun company => atomic_issueNewGrant request company
  obtain ⟨result', hresult, hbody⟩ | ⟨e, locals, classified, -, hlocals, he, hresult, rfl⟩ :=
    settle_cases hatomic h.2
  · obtain rfl := Except.ok.inj hresult
    have hanswered : completes (answered svc request.toKeyedHeader request.actorSubject .grantIssue
        (reissue svc request) (svc.issueNewGrant request)) s = (.ok result, s') := hbody
    obtain ⟨stored, hstored, hdigest, hagain⟩ | ⟨company, hfounder, hnew⟩ :=
      answered_eq_ok hanswered
    · unfold reissue at hagain
      rw [completes_bind, completes_gets, Prog.gets_bind_eq_ok, completes_require,
        Prog.require_eq_ok] at hagain
      obtain ⟨hagain, rfl⟩ := hagain
      rw [receipt_of_replayGrant hagain]
      exact .inl (.replayed hstored hdigest)
    · exact .inr (issueNewGrant_eq_ok h.1 hfounder hnew)
  · obtain rfl := Except.ok.inj hresult
    refine .inl (.refused ?_)
    unfold grantReceipt
    rw [hlocals]
    exact refusal_receiptBase he

/-! ## exchange -/

structure ExchangeReads (svc : PreviewProofService) (s : PreviewProofState)
    (request : ExchangeRequest) (read : ExchangeRead) : Prop where
  origin : SameOrigin request
  capability : svc.verifyGrant request.capability = some read.claims
  readable : svc.faults.authorityUnavailable = false
  claimed : claimedGrant s read.claims = some read.grant
  previewRead : s.previews.get read.grant.previewId = some read.preview
  buildRead : s.builds.get read.preview.buildId = some read.build
  companyRead : activeCompany s read.grant.companyId = some read.company

structure Exchange (svc : PreviewProofService) (s : PreviewProofState)
    (request : ExchangeRequest) where
  read : ExchangeRead
  grant : GrantAuthority
  digest : svc.platform.canonicalRequestDigest request.fields = request.requestDigest
  reads : ExchangeReads svc s request read
  unanswered : s.operationReceipts.get request.logicalIdempotencyKey = none
  scope : ∀ companyId ∈ [read.grant.companyId, read.preview.companyId, read.build.companyId],
    companyId = read.company.companyId
  hostClaimed : HostClaimed request read.claims read.grant read.preview
  bound : svc.ExchangeBound read.claims read.grant read.preview read.build
  available : svc.previewAvailable s.now read.preview
  timely : svc.GrantTimely s.now read.grant read.preview
  current : s.grants.get read.grant.grantId = some grant
  unconsumed : grant.consumedAt = none

namespace Exchange

variable {request : ExchangeRequest}

def session (x : Exchange svc s request) : SessionAuthority :=
  svc.presentedSession (consumedGrant s.now x.grant)

def receipt (x : Exchange svc s request) : ProofReceipt :=
  if svc.faults.exchangeUnknownAfterNonce then
    svc.exchangeReceipt s.now request ⟨.unknown, .unknownExternalOutcome, true⟩ true none none none
  else
    svc.exchangeReceipt s.now request ⟨.succeeded, .grantExchanged, true⟩ true
      (some x.session.sessionId) (some "Secure; HttpOnly; SameSite=Strict; Path=/") (some "/")

/-- The store with the nonce consumed, and with the session unless it is in doubt. -/
def entered (x : Exchange svc s request) : PreviewProofState :=
  if svc.faults.exchangeUnknownAfterNonce then setGrant (consumedGrant s.now x.grant) s
  else setSession x.session (setGrant (consumedGrant s.now x.grant) s)

def left (x : Exchange svc s request) : PreviewProofState :=
  store request.toKeyedHeader x.receipt x.entered

theorem left_eq (x : Exchange svc s request) :
    x.left =
      { s with
        grants := s.grants.set x.grant.grantId (consumedGrant s.now x.grant)
        sessions :=
          if svc.faults.exchangeUnknownAfterNonce then s.sessions
          else s.sessions.set x.session.sessionId x.session
        operationReceipts := s.operationReceipts.set request.logicalIdempotencyKey
          ⟨request.requestDigest, x.receipt⟩ } := by
  unfold left entered
  cases svc.faults.exchangeUnknownAfterNonce <;> rfl

end Exchange

theorem checks_readExchange (request : ExchangeRequest) : Checks (svc.readExchange request) := by
  unfold readExchange
  refine .bind (.ensure _ rfl) fun _ => .bind (.require _ rfl) fun claims => ?_
  refine .bind (.authorityRead _ _ _) fun _ => .bind (.gets _) fun _ => ?_
  refine .bind (.require _ rfl) fun grant => .bind (.readPreview _ _ _) fun preview => ?_
  exact .bind (.readBuild _ _ _) fun build => .bind (.readCompany _ _) fun company => .pure _

theorem readExchange_eq_ok {request : ExchangeRequest} {read : ExchangeRead}
    (h : completes (svc.readExchange request) s = (.ok read, s')) :
    ExchangeReads svc s request read ∧ s' = s := by
  unfold readExchange at h
  simp only [completes_bind, completes_ensure, completes_require, completes_gets, completes_pure,
    completes_authorityRead, Prog.gets_bind_eq_ok, Prog.ensure_bind_eq_ok,
    Prog.require_bind_eq_ok] at h
  obtain ⟨horigin, claims, hclaims, hreadable, grant, hgrant, h⟩ := h
  rw [Prog.bind_eq_ok] at h
  obtain ⟨preview, s₁, hpreview, h⟩ := h
  obtain ⟨-, hpreview, rfl⟩ := completes_readPreview_eq_ok.mp hpreview
  rw [Prog.bind_eq_ok] at h
  obtain ⟨build, s₂, hbuild, h⟩ := h
  obtain ⟨-, hbuild, rfl⟩ := completes_readBuild_eq_ok.mp hbuild
  rw [Prog.bind_eq_ok] at h
  obtain ⟨company, s₃, hcompany, h⟩ := h
  obtain ⟨-, hcompany, rfl⟩ := completes_readCompany_eq_ok.mp hcompany
  obtain ⟨rfl, rfl⟩ := Prog.pure_eq_ok.mp h
  exact ⟨⟨horigin, hclaims, hreadable, hgrant, hpreview, hbuild, hcompany⟩, rfl⟩

theorem exchangeNew_eq_ok {request : ExchangeRequest} {read : ExchangeRead}
    {result : ExchangeResult}
    (hdigest : svc.platform.canonicalRequestDigest request.fields = request.requestDigest)
    (hreads : ExchangeReads svc s request read)
    (hunanswered : s.operationReceipts.get request.logicalIdempotencyKey = none)
    (h : completes (svc.exchangeNew request read) s = (.ok result, s')) :
    ∃ x : Exchange svc s request, result.receipt = x.receipt ∧ s' = x.left := by
  unfold exchangeNew assertExchangeBindings assertPreviewAvailable assertCompanyScope at h
  simp only [completes_bind, completes_ensure, completes_gets, completes_callHook,
    completes_require, completes_modify, Prog.bind_assoc, Prog.pure_bind,
    Prog.gets_bind_eq_ok, Prog.ensure_bind_eq_ok, Prog.require_bind_eq_ok,
    Prog.modify_bind_eq_ok, Option.isNone_iff_eq_none] at h
  obtain ⟨hscope, hhost, hbound, havailable, htimely, grant, hgrant, hconsumed, h⟩ := h
  let x : Exchange svc _ request := ⟨read, grant, hdigest, hreads, hunanswered, hscope, hhost,
    hbound, havailable, htimely, hgrant, hconsumed⟩
  refine ⟨x, ?_⟩
  cases hfault : svc.faults.exchangeUnknownAfterNonce with
  | true =>
      rw [hfault, if_pos rfl] at h
      unfold exchangeDoubtful at h
      simp only [completes_bind, completes_modify, completes_gets, completes_pure,
        Prog.modify_bind_eq_ok, Prog.gets_bind_eq_ok, Prog.pure_eq_ok] at h
      obtain ⟨rfl, rfl⟩ := h
      simp only [Exchange.left, Exchange.receipt, Exchange.entered, hfault, if_true]
      exact ⟨rfl, rfl⟩
  | false =>
      rw [hfault, if_neg Bool.false_ne_true] at h
      unfold exchangeSession at h
      simp only [completes_bind, completes_modify, completes_gets, completes_pure,
        Prog.modify_bind_eq_ok, Prog.gets_bind_eq_ok, Prog.pure_eq_ok] at h
      obtain ⟨rfl, rfl⟩ := h
      simp only [Exchange.left, Exchange.receipt, Exchange.entered, hfault, Bool.false_eq_true,
        if_false]
      exact ⟨rfl, rfl⟩

theorem total_exchangeDoubtful (request : ExchangeRequest) :
    Prog.Total (completes (svc.exchangeDoubtful request)) := by
  unfold exchangeDoubtful
  simp only [completes_bind, completes_modify, completes_gets, completes_pure]
  exact .bind (.gets _) fun _ => .bind (.modify _) fun _ => .pure _

theorem total_exchangeSession (request : ExchangeRequest) (grant : GrantAuthority) :
    Prog.Total (completes (svc.exchangeSession request grant)) := by
  unfold exchangeSession
  simp only [completes_bind, completes_modify, completes_gets, completes_pure]
  refine .bind (.modify _) fun _ => ?_
  exact .bind (.gets _) fun _ => .bind (.modify _) fun _ => .pure _

theorem atomic_exchangeNew (request : ExchangeRequest) (read : ExchangeRead) :
    Prog.Atomic Denies (completes (svc.exchangeNew request read)) := by
  unfold exchangeNew assertExchangeBindings assertPreviewAvailable
  refine (Checks.assertCompanyScope _ _).atomic_bind fun _ => ?_
  refine Checks.atomic_bind (.bind (.ensure _ rfl) fun _ => .bind (.ensure _ rfl) fun _ =>
    .bind (.bind (.gets _) fun _ => .ensure _ rfl) fun _ =>
      .bind (.gets _) fun _ => .ensure _ rfl) fun _ => ?_
  refine (Checks.callHook _ _).atomic_bind fun _ => (Checks.gets _).atomic_bind fun _ => ?_
  refine (Checks.require _ (denies_denied _ _)).atomic_bind fun grant => ?_
  refine (Checks.ensure _ (denies_denied _ _)).atomic_bind fun _ => (Checks.gets _).atomic_bind fun now => ?_
  apply Prog.Atomic.of_total
  simp only [completes_bind, completes_modify, completes_callHook]
  refine .bind (.modify _) fun _ => .bind (.pure _) fun _ => ?_
  split
  · exact total_exchangeDoubtful _
  · exact total_exchangeSession _ _

theorem atomic_exchangeBody (request : ExchangeRequest) :
    Prog.Atomic Denies (completes (svc.exchangeBody request)) := by
  unfold exchangeBody
  refine (checks_readExchange request).atomic_bind fun read => ?_
  refine (Checks.replay _).atomic_bind fun replayed => ?_
  cases replayed with
  | none => exact atomic_exchangeNew request read
  | some receipt => exact (Checks.gets _).atomic_bind fun _ => (Checks.require _ (denies_denied _ _)).atomic

theorem receipt_of_replaySession {receipt : ProofReceipt} {result : ExchangeResult}
    (h : svc.replaySession s receipt = some result) : result.receipt = receipt := by
  unfold replaySession at h
  dsimp only at h
  split at h
  · split at h
    · obtain rfl := Option.some.inj h
      rfl
    · cases h
  · split at h
    · cases h
    · obtain rfl := Option.some.inj h
      rfl

theorem exchangeBody_eq_ok {request : ExchangeRequest} {result : ExchangeResult}
    (hdigest : svc.platform.canonicalRequestDigest request.fields = request.requestDigest)
    (h : completes (svc.exchangeBody request) s = (.ok result, s')) :
    Settled s request.toKeyedHeader result.receipt s' ∨
      ∃ x : Exchange svc s request, result.receipt = x.receipt ∧ s' = x.left := by
  unfold exchangeBody at h
  rw [completes_bind, Prog.bind_eq_ok] at h
  obtain ⟨read, s₁, hread, h⟩ := h
  obtain ⟨hreads, rfl⟩ := readExchange_eq_ok hread
  rw [completes_bind, Prog.bind_eq_ok] at h
  obtain ⟨replayed, s₂, hreplay, h⟩ := h
  obtain ⟨rfl, ⟨hnone, rfl⟩ | ⟨stored, hstored, hsame, rfl⟩⟩ := completes_replay_eq_ok.mp hreplay
  · exact .inr (exchangeNew_eq_ok hdigest hreads hnone h)
  · simp only [completes_bind, completes_gets, completes_require, Prog.gets_bind_eq_ok,
      Prog.require_eq_ok] at h
    obtain ⟨hagain, rfl⟩ := h
    rw [receipt_of_replaySession hagain]
    exact .inl (.replayed hstored hsame)

theorem exchange_cases {request : ExchangeRequest} {result : ExchangeResult}
    (h : completes (svc.exchange request) s = (.ok result, s')) :
    Settled s request.toKeyedHeader result.receipt s' ∨
      ∃ x : Exchange svc s request, result.receipt = x.receipt ∧ s' = x.left := by
  unfold exchange assertRequestDigest at h
  rw [completes_bind, completes_ensure, Prog.ensure_bind_eq_ok] at h
  obtain ⟨result', hresult, hbody⟩ | ⟨e, locals, classified, -, -, he, hresult, rfl⟩ :=
    settle_cases (atomic_within _ rfl (atomic_exchangeBody request)) h.2
  · obtain rfl := Except.ok.inj hresult
    exact exchangeBody_eq_ok h.1 (completes_within_eq_ok.mp hbody)
  · obtain rfl := Except.ok.inj hresult
    exact .inl (.refused (refusal_receiptBase he))

end PreviewProof

end Aico
