import Aico.PreviewSpike.PreviewDigests
import Aico.PreviewSpike.PreviewSample

/-!
# Serving integrity

Over any run of the service, an allowed access gives the bytes that were published, to a
session whose grant, preview and build all still agree; a grant opens one session, and an
intent is consumed once, even if it is registered again.
-/

namespace Aico

namespace PreviewProof

open Coroutine PreviewProofService

variable {svc : PreviewProofService} {s s' : PreviewProofState}

/-! ## Intents are consumed once -/

def ConsumesIntent (svc : PreviewProofService) (intentId : JsString) (s : PreviewProofState)
    (a : Happening) : Prop :=
  ∃ request receipt s' consumption, a = .request request ∧
    completes (svc.perform request) s = (.ok receipt, s') ∧ receipt.replayed = false ∧
    receipt.toolConsumption = some consumption ∧ consumption.intentId = intentId

def Spent (intentId : JsString) (s : PreviewProofState) : Prop :=
  ∃ intent, s.intents.get intentId = some intent ∧ intent.used = 1

structure Consumed (svc : PreviewProofService) (s : PreviewProofState) (receipt : ProofReceipt)
    (s' : PreviewProofState) (intent : ToolInvocationIntent) : Prop where
  stored : s.intents.get intent.id = some intent
  unused : intent.used = 0
  marked : s'.intents = s.intents.set intent.id { intent with used := 1 }
  consumption : receipt.toolConsumption = some (svc.consumption s.now intent)

theorem Rows.consumed_of_consumable (hs : Rows s) {supplied intent : ToolInvocationIntent}
    {action : ToolAction} {header : KeyedHeader} {receipt : ProofReceipt}
    (h : svc.Consumable s supplied action header intent)
    (hmarked : s'.intents = s.intents.set intent.id { intent with used := 1 })
    (hconsumption : receipt.toolConsumption = some (svc.consumption s.now intent)) :
    Consumed svc s receipt s' intent where
  stored := by
    rw [hs.intents _ _ h.found]
    exact h.found
  unused := h.unused
  marked := hmarked
  consumption := hconsumption

/-- A call leaves the intents as they are, or it consumes one. -/
theorem Ran.intents_cases (hs : Rows s) {request : OperationRequest} {receipt : ProofReceipt}
    (h : Ran svc s request receipt s') :
    s'.intents = s.intents ∧ (receipt.replayed = true ∨ receipt.toolConsumption = none) ∨
      ∃ intent, Consumed svc s receipt s' intent := by
  cases h with
  | settled _ h =>
      left
      cases h with
      | refused hrefusal =>
          rw [storeIfStable_eq]
          exact ⟨rfl, .inr hrefusal.consumption⟩
      | replayed _ _ => exact ⟨rfl, .inl rfl⟩
  | published p =>
      refine .inr ⟨p.intent, hs.consumed_of_consumable p.consumable ?_ rfl⟩
      rw [p.left_eq]
  | issued i => exact .inr ⟨i.intent, hs.consumed_of_consumable i.consumable rfl rfl⟩
  | exchanged x =>
      rw [x.left_eq]
      refine .inl ⟨rfl, .inr ?_⟩
      unfold Exchange.receipt
      split <;> rfl
  | accessed h =>
      left
      cases h with
      | denied hrefusal => exact ⟨rfl, .inr hrefusal.consumption⟩
      | quarantined _ _ hrefusal => exact ⟨rfl, .inr hrefusal.consumption⟩
      | cached _ _ _ => exact ⟨rfl, .inr rfl⟩
      | stored _ _ _ => exact ⟨rfl, .inr rfl⟩
  | revoked r => exact .inr ⟨r.intent, hs.consumed_of_consumable r.consumable rfl rfl⟩
  | removed r =>
      refine .inr ⟨r.intent, hs.consumed_of_consumable r.consumable ?_ rfl⟩
      rw [r.left_eq]
  | reconciled r => exact .inr ⟨r.intent, hs.consumed_of_consumable r.consumable rfl rfl⟩

theorem ConsumesIntent.spent (hs : Rows s) {intentId : JsString} {a : Happening}
    (h : ConsumesIntent svc intentId s a) : Spent intentId (serviceStep svc s a) := by
  obtain ⟨request, receipt, s', consumption, rfl, hrun, hfresh, hconsumption, rfl⟩ := h
  rw [serviceStep_of_run hrun]
  obtain ⟨-, hreplayed | hnone⟩ | ⟨intent, hconsumed⟩ := (perform_cases hrun).intents_cases hs
  · rw [hfresh] at hreplayed
    cases hreplayed
  · rw [hconsumption] at hnone
    cases hnone
  · obtain rfl := Option.some.inj (hconsumption.symm.trans hconsumed.consumption)
    refine ⟨{ intent with used := 1 }, ?_, rfl⟩
    rw [hconsumed.marked]
    exact JsMap.get_set_self

theorem Spent.not_consumes (hs : Rows s) {intentId : JsString} (hspent : Spent intentId s)
    (a : Happening) : ¬ ConsumesIntent svc intentId s a := by
  rintro ⟨request, receipt, s', consumption, rfl, hrun, hfresh, hconsumption, rfl⟩
  obtain ⟨-, hreplayed | hnone⟩ | ⟨intent, hconsumed⟩ := (perform_cases hrun).intents_cases hs
  · rw [hfresh] at hreplayed
    cases hreplayed
  · rw [hconsumption] at hnone
    cases hnone
  · obtain rfl := Option.some.inj (hconsumption.symm.trans hconsumed.consumption)
    obtain ⟨used, hget, hused⟩ := hspent
    obtain rfl := Option.some.inj (hconsumed.stored.symm.trans hget)
    rw [hconsumed.unused] at hused
    cases hused

theorem Spent.ran (hs : Rows s) {intentId : JsString} (hspent : Spent intentId s)
    {request : OperationRequest} {receipt : ProofReceipt} (h : Ran svc s request receipt s') :
    Spent intentId s' := by
  obtain ⟨used, hget, hused⟩ := hspent
  obtain ⟨hsame, -⟩ | ⟨intent, hconsumed⟩ := h.intents_cases hs
  · exact ⟨used, by rw [hsame]; exact hget, hused⟩
  · rw [Spent, hconsumed.marked]
    by_cases hid : intentId = intent.id
    · subst hid
      exact ⟨_, JsMap.get_set_self, rfl⟩
    · exact ⟨used, by rw [JsMap.get_set_of_ne hid]; exact hget, hused⟩

/-- A used intent that is registered again stays used: the digests differ in the use. -/
theorem Spent.environs (hsha : Function.Injective svc.platform.rt.sha256) {intentId : JsString}
    (hspent : Spent intentId s) (e : Environs) : Spent intentId (svc.environs e s) := by
  obtain ⟨used, hget, hused⟩ := hspent
  cases e with
  | register intent =>
      unfold PreviewProofService.environs registerToolInvocationIntent
      dsimp only
      split
      · next h =>
          have hid : intentId ≠ intent.id := by
            rintro rfl
            have := used_of_digest hsha (h.2.2 used hget)
            rw [hused, h.2.1] at this
            cases this
          exact ⟨used, by rw [JsMap.get_set_of_ne hid]; exact hget, hused⟩
      · exact ⟨used, hget, hused⟩
  | setClock now => exact ⟨used, hget, hused⟩
  | setCompany companyId status => exact ⟨used, hget, hused⟩

/-- No run consumes an intent twice. -/
theorem intents_once (hsha : Function.Injective svc.platform.rt.sha256) (hs : Rows s)
    (intentId : JsString) (acts : List Happening) :
    Transition.AtMostOnce (serviceStep svc) (ConsumesIntent svc intentId) s acts := by
  apply Transition.atMostOnce_of_spent (P := Rows) (Spent intentId)
  · exact fun s a hs => hs.step a
  · exact fun s a hs h => h.spent hs
  · intro s a hs hspent
    exact (serviceStep_keeps (P := fun s => Rows s ∧ Spent intentId s)
      (fun _ _ _ _ h hran => ⟨h.1.ran hran, h.2.ran h.1 hran⟩)
      (fun _ e h => ⟨h.1.environs e, h.2.environs hsha e⟩) s a ⟨hs, hspent⟩).2
  · exact fun s a hs hspent => hspent.not_consumes hs a
  · exact hs

/-! ## A grant opens one session -/

/-- The step is an exchange that opens a session for the grant with this binding. -/
def OpensSession (svc : PreviewProofService) (binding : JsString) (s : PreviewProofState)
    (a : Happening) : Prop :=
  ∃ request receipt s' session cookieAttributes redirectPath, a = .request (.exchange request) ∧
    completes (svc.perform (.exchange request)) s = (.ok receipt, s') ∧
    receipt.outcome = .succeeded ∧ receipt.replayed = false ∧
    receipt.detail = .exchange (some session.sessionId) cookieAttributes redirectPath ∧
    s'.sessions.get session.sessionId = some session ∧ session.grantBindingSha256 = binding

/-- The grants are those that were issued, each under a key that has its answer. -/
def GrantsIssued (svc : PreviewProofService) (s : PreviewProofState) : Prop :=
  ∀ id g, s.grants.get id = some g → svc.platform.grantBinding g = g.bindingSha256 ∧
    ∃ answer, s.operationReceipts.get g.logicalIdempotencyKey = some answer

theorem Issuance.bound {request : GrantIssueRequest} (i : Issuance svc s request) :
    svc.platform.grantBinding i.grant = i.grant.bindingSha256 := rfl

theorem GrantsIssued.ran (hs : Rows s) (h : GrantsIssued svc s) {request : OperationRequest}
    {receipt : ProofReceipt} (hran : Ran svc s request receipt s') : GrantsIssued svc s' := by
  intro id g hg
  obtain hsame | ⟨issue, i, rfl, rfl, rfl⟩ | ⟨exchange, x, rfl, rfl, hx, rfl⟩ :=
    hran.grant_of_get hs hg
  · obtain ⟨hbound, answer, hanswer⟩ := h id g hsame
    exact ⟨hbound, answer, hran.receipt_kept hanswer⟩
  · exact ⟨i.bound, _, JsMap.get_set_self⟩
  · obtain ⟨hbound, answer, hanswer⟩ := h id x.grant hx
    exact ⟨hbound, answer, hran.receipt_kept hanswer⟩

theorem GrantsIssued.environs (h : GrantsIssued svc s) (e : Environs) :
    GrantsIssued svc (svc.environs e s) := by
  rw [environs_eq]
  exact h

/-- The grant with this binding is consumed, and its key is answered, so that no other grant
gets the binding. -/
def GrantSpent (svc : PreviewProofService) (binding : JsString) (s : PreviewProofState) : Prop :=
  (∀ id g, s.grants.get id = some g → g.bindingSha256 = binding → g.consumedAt ≠ none) ∧
    ∃ g answer, svc.platform.grantBinding g = binding ∧
      s.operationReceipts.get g.logicalIdempotencyKey = some answer

theorem GrantSpent.ran (hsha : Function.Injective svc.platform.rt.sha256) (hs : Rows s)
    {binding : JsString} (h : GrantSpent svc binding s) {request : OperationRequest}
    {receipt : ProofReceipt} (hran : Ran svc s request receipt s') :
    GrantSpent svc binding s' := by
  obtain ⟨hconsumed, g₀, answer, hbinding, hanswer⟩ := h
  refine ⟨fun id g hg hsame => ?_, g₀, answer, hbinding, hran.receipt_kept hanswer⟩
  obtain hkept | ⟨issue, i, rfl, rfl, rfl⟩ | ⟨exchange, x, rfl, rfl, hx, rfl⟩ :=
    hran.grant_of_get hs hg
  · exact hconsumed id g hkept hsame
  · have hkey := (of_grantBinding hsha (hbinding.trans (hsame.symm.trans i.bound.symm))).2
    have hfree := i.founder.unanswered
    rw [hkey] at hanswer
    cases hfree.symm.trans hanswer
  · simp [consumedGrant]

theorem OpensSession.exchange {binding : JsString} {a : Happening}
    (h : OpensSession svc binding s a) :
    ∃ (request : ExchangeRequest) (x : Exchange svc s request),
      serviceStep svc s a = x.left ∧ x.grant.bindingSha256 = binding := by
  obtain ⟨request, receipt, s', session, cookie, redirect, rfl, hrun, hsucceeded, hfresh, hdetail,
    hsession, rfl⟩ := h
  rw [serviceStep_of_run hrun]
  cases perform_cases hrun with
  | settled _ h =>
      cases h with
      | refused hrefusal =>
          obtain hdenied | hconflict := hrefusal.outcome
          · cases hsucceeded.symm.trans hdenied
          · cases hsucceeded.symm.trans hconflict
      | replayed _ _ => cases hfresh
  | exchanged x =>
      refine ⟨request, x, rfl, ?_⟩
      cases hfault : svc.faults.exchangeUnknownAfterNonce with
      | true =>
          unfold Exchange.receipt at hsucceeded
          rw [if_pos hfault] at hsucceeded
          cases hsucceeded
      | false =>
          unfold Exchange.receipt at hdetail
          rw [hfault, if_neg Bool.false_ne_true] at hdetail
          have hid : x.session.sessionId = session.sessionId :=
            Option.some.inj (ReceiptDetail.exchange.inj hdetail).1
          rw [x.left_eq] at hsession
          dsimp only at hsession
          rw [hfault, if_neg Bool.false_ne_true, ← hid, JsMap.get_set_self] at hsession
          obtain rfl := Option.some.inj hsession
          rfl

theorem OpensSession.spent (hsha : Function.Injective svc.platform.rt.sha256) (hs : Rows s)
    (hissued : GrantsIssued svc s) {binding : JsString} {a : Happening}
    (h : OpensSession svc binding s a) : GrantSpent svc binding (serviceStep svc s a) := by
  obtain ⟨request, x, hstep, rfl⟩ := h.exchange
  rw [hstep]
  have hran : Ran svc s (.exchange request) x.receipt x.left := .exchanged x
  obtain ⟨hbound, answer, hanswer⟩ := hissued _ _ x.current
  refine ⟨fun id g hg hsame => ?_, x.grant, answer, hbound, hran.receipt_kept hanswer⟩
  have hleft : (s.grants.set x.grant.grantId (consumedGrant s.now x.grant)).get id = some g := by
    rw [x.left_eq] at hg
    exact hg
  rw [JsMap.get_set] at hleft
  split at hleft
  · obtain rfl := Option.some.inj hleft
    simp [consumedGrant]
  · next hne =>
      have hg' := (hissued id g hleft).1
      have hid := (of_grantBinding hsha (hg'.trans (hsame.trans hbound.symm))).1
      exact absurd ((hs.grants id g hleft).symm.trans hid) hne

theorem GrantSpent.not_opens {binding : JsString} (h : GrantSpent svc binding s)
    (a : Happening) : ¬ OpensSession svc binding s a := by
  intro hopens
  obtain ⟨request, x, -, hbinding⟩ := hopens.exchange
  exact h.1 _ _ x.current hbinding x.unconsumed

theorem grantsIssued_step (a : Happening) (h : Rows s ∧ GrantsIssued svc s) :
    Rows (serviceStep svc s a) ∧ GrantsIssued svc (serviceStep svc s a) :=
  serviceStep_keeps (P := fun s => Rows s ∧ GrantsIssued svc s)
    (fun _ _ _ _ h hran => ⟨h.1.ran hran, h.2.ran h.1 hran⟩)
    (fun _ e h => ⟨h.1.environs e, h.2.environs e⟩) s a h

theorem sessions_once (hsha : Function.Injective svc.platform.rt.sha256) (hs : Rows s)
    (hissued : GrantsIssued svc s) (binding : JsString) (acts : List Happening) :
    Transition.AtMostOnce (serviceStep svc) (OpensSession svc binding) s acts := by
  apply Transition.atMostOnce_of_spent (P := fun s => Rows s ∧ GrantsIssued svc s)
    (GrantSpent svc binding)
  · exact fun s a h => grantsIssued_step a h
  · exact fun s a h hopens => hopens.spent hsha h.1 h.2
  · intro s a h hspent
    exact (serviceStep_keeps (P := fun s => Rows s ∧ GrantSpent svc binding s)
      (fun _ _ _ _ h hran => ⟨h.1.ran hran, h.2.ran hsha h.1 hran⟩)
      (fun s e h => ⟨h.1.environs e, by rw [environs_eq]; exact h.2⟩) s a ⟨h.1, hspent⟩).2
  · exact fun s a _ hspent => hspent.not_opens a
  · exact ⟨hs, hissued⟩

/-! ## What was published -/

/-- The step publishes the preview with the entry, whose object is then the source. -/
def PublishesEntry (svc : PreviewProofService) (previewId : JsString) (entry : ManifestEntry)
    (source : ObjectRecord) (s : PreviewProofState) (a : Happening) : Prop :=
  ∃ request receipt s' build preview, a = .request (.publish request) ∧
    completes (svc.perform (.publish request)) s = (.ok receipt, s') ∧
    receipt.outcome = .succeeded ∧ receipt.replayed = false ∧
    s.builds.get request.build.buildId = some build ∧ entry ∈ build.entries ∧
    s.objects.get (sourceObjectKey build.buildId entry.path) = some source ∧
    s'.previews.get previewId = some preview ∧ preview.state = .available ∧
    preview.buildId = build.buildId

def Backed (svc : PreviewProofService) (s₀ : PreviewProofState) (acts : List Happening)
    (s : PreviewProofState) : Prop :=
  ∀ id q, s.previews.get id = some q → q.state = .available →
    ∃ build, s.builds.get q.buildId = some build ∧ ∀ entry ∈ build.entries, ∃ source,
      svc.SourceSound source entry ∧
        Transition.SomeStep (serviceStep svc) (PublishesEntry svc id entry source) s₀ acts

theorem Activates.backed (hsha : Function.Injective svc.platform.rt.sha256) (hs : Rows s)
    {request : OperationRequest} {receipt : ProofReceipt}
    (hrun : completes (svc.perform request) s = (.ok receipt, s')) {id : JsString}
    {p q : PreviewAuthority} (h : Activates svc s request receipt s' p)
    (hp : s.previews.get id = some p) (hq : s'.previews.get id = some q)
    (havailable : q.state = .available) (hrestated : Restated p q) :
    ∃ build, s.builds.get q.buildId = some build ∧ ∀ entry ∈ build.entries, ∃ source,
      svc.SourceSound source entry ∧
        PublishesEntry svc id entry source s (.request request) := by
  obtain ⟨publication, b, rfl, rfl, rfl, hfault, rfl⟩ := h
  have hbuild : q.buildId = b.build.buildId := by
    rw [hrestated]
    exact buildId_of_buildTuple hsha b.bound.2.2.2.1
  have hid : b.build.buildId = publication.build.buildId := hs.builds _ _ b.buildRead
  have hbuildRead : s.builds.get q.buildId = some b.build := by
    rw [hbuild, hid]
    exact b.buildRead
  refine ⟨b.build, hbuildRead, fun entry hentry => ?_⟩
  obtain ⟨copy, -, hcopy⟩ := Except.exists_mem_of_mapM_eq_ok b.copies hentry
  obtain ⟨hsource, hsound, -, -⟩ := verifyCopy_eq_ok hcopy
  refine ⟨copy.source, hsound, publication, b.receipt, b.left, b.build, q, rfl, hrun, ?_, rfl,
    b.buildRead, hentry, hsource, hq, havailable, hbuild⟩
  unfold Publication.receipt
  rw [hfault]
  rfl

theorem Backed.append {s₀ : PreviewProofState} {acts : List Happening}
    (h : Backed svc s₀ acts s) (acts' : List Happening) : Backed svc s₀ (acts ++ acts') s := by
  intro id q hq havailable
  obtain ⟨build, hbuild, hentries⟩ := h id q hq havailable
  refine ⟨build, hbuild, fun entry hentry => ?_⟩
  obtain ⟨source, hsound, hstep⟩ := hentries entry hentry
  exact ⟨source, hsound, hstep.append acts'⟩

theorem Backed.step (hsha : Function.Injective svc.platform.rt.sha256) {s₀ : PreviewProofState}
    {acts : List Happening} (hs : Rows (Transition.run (serviceStep svc) s₀ acts))
    (h : Backed svc s₀ acts (Transition.run (serviceStep svc) s₀ acts)) (a : Happening) :
    Backed svc s₀ (acts ++ [a]) (serviceStep svc (Transition.run (serviceStep svc) s₀ acts) a) := by
  obtain hsame | ⟨request, receipt, rfl, hrun⟩ | ⟨e, rfl, heq⟩ :=
    serviceStep_cases svc (Transition.run (serviceStep svc) s₀ acts) a
  · rw [hsame]
    exact h.append [a]
  · intro id q hq havailable
    have hran := perform_cases hrun
    obtain ⟨p, hp, hrestated, hbecomes⟩ := hran.preview_of_get hs hq
    rw [hran.builds]
    obtain rfl | hactivates := hbecomes havailable
    · exact h.append _ id q hp havailable
    · obtain ⟨build, hbuild, hentries⟩ :=
        hactivates.backed hsha hs hrun hp hq havailable hrestated
      refine ⟨build, hbuild, fun entry hentry => ?_⟩
      obtain ⟨source, hsound, hpublishes⟩ := hentries entry hentry
      exact ⟨source, hsound, .last hpublishes⟩
  · rw [heq, environs_eq]
    exact h.append _

theorem backed_after (hsha : Function.Injective svc.platform.rt.sha256) {s₀ : PreviewProofState}
    (hs₀ : Initial s₀) (acts : List Happening) :
    Backed svc s₀ acts (Transition.run (serviceStep svc) s₀ acts) := by
  apply Transition.run_history
  · intro id q hq havailable
    rw [(hs₀.previews id q hq).2] at havailable
    cases havailable
  · exact fun acts a h => h.step hsha (rows_after hs₀ acts) a

/-! ## What an allowed access gives -/

/-- The rows on whose authority content is served, and what they agree on. -/
structure Authorised (svc : PreviewProofService) (s : PreviewProofState)
    (request : AccessRequest) (session : SessionAuthority) (grant : GrantAuthority)
    (preview : PreviewAuthority) (build : BuildAuthority) : Prop where
  presented : svc.sessionOf s request.cookiePresentation = some session
  grantRead : s.grants.get session.grantId = some grant
  previewRead : s.previews.get session.previewId = some preview
  buildRead : s.builds.get preview.buildId = some build
  unrevoked : session.revoked = false
  unexpired : svc.platform.reached s.now session.expiresAt = false
  available : preview.state = .available
  previewUnexpired : svc.platform.reached s.now preview.expiresAt = false
  epoch : grant.previewRevocationEpoch = preview.revocationEpoch
  binding : session.grantBindingSha256 = grant.bindingSha256
  companies : grant.companyId = session.companyId ∧ preview.companyId = session.companyId ∧
    build.companyId = session.companyId
  hosts : session.host = request.host ∧ grant.host = request.host ∧ preview.host = request.host
  environments : session.environment = request.environment ∧
    grant.environment = request.environment ∧ preview.environment = request.environment

theorem assertContentAuthority_eq_ok {read : ContentRead} {build : BuildAuthority}
    (h : svc.assertContentAuthority s read build = .ok ()) :
    HostBound read.request read.session ∧
      svc.SessionBound read.session read.company read.preview build ∧
      ∃ grant, s.grants.get read.session.grantId = some grant ∧
        svc.GrantBound grant read.session read.company read.preview build ∧
        svc.ContentLive s.now read.session read.preview := by
  unfold assertContentAuthority at h
  split at h
  · cases h
  next hhost =>
  split at h
  · cases h
  next hsession =>
  split at h
  · cases h
  next grant hgrant =>
  split at h
  · cases h
  next hbound =>
  split at h
  · cases h
  next hlive =>
  exact ⟨not_not.mp hhost, not_not.mp hsession, grant, hgrant, not_not.mp hbound,
    not_not.mp hlive⟩

theorem Serving.authorised {request : AccessRequest} (v : Serving svc s request) :
    ∃ grant, Authorised svc s request v.session grant v.preview v.build := by
  obtain ⟨⟨hhost, henvironment⟩, hsession, grant, hgrant, hbound, hrevoked, hexpires, hstate,
    hpreviewExpires⟩ := assertContentAuthority_eq_ok v.authorized
  obtain ⟨-, hcompany, hpreviewCompany, hbuildCompany, -⟩ := hsession
  obtain ⟨-, hgrantCompany, -, -, -, -, -, -, -, -, hgrantHost, hpreviewHost, hgrantEnvironment,
    hpreviewEnvironment, -, -, -, -, hepoch, -, -, -, -, -, -, -, hbinding, -⟩ := hbound
  exact ⟨grant,
    { presented := v.presented
      grantRead := hgrant
      previewRead := v.previewRead
      buildRead := v.buildRead
      unrevoked := hrevoked
      unexpired := hexpires
      available := hstate
      previewUnexpired := hpreviewExpires
      epoch := hepoch
      binding := hbinding
      companies := ⟨hgrantCompany, hpreviewCompany.trans hcompany.symm,
        hbuildCompany.trans hcompany.symm⟩
      hosts := ⟨hhost, hgrantHost.trans hhost, hpreviewHost.symm.trans (hgrantHost.trans hhost)⟩
      environments := ⟨henvironment, hgrantEnvironment.trans henvironment,
        hpreviewEnvironment.symm.trans (hgrantEnvironment.trans henvironment)⟩ }⟩

/-- The access was answered with an entry as it was when the preview was published. -/
def ServesPublished (svc : PreviewProofService) (s₀ : PreviewProofState)
    (acts : List Happening) (request : AccessRequest) (receipt : ProofReceipt) : Prop :=
  ∃ session grant preview build entry source response cacheResult pathDigest,
    Authorised svc (Transition.run (serviceStep svc) s₀ acts) request session grant preview build ∧
    completes (svc.normalizeAccessPath request preview)
        (Transition.run (serviceStep svc) s₀ acts) =
      (.ok entry.path, Transition.run (serviceStep svc) s₀ acts) ∧
    (build.entries.find? fun e => e.path = entry.path) = some entry ∧
    Transition.SomeStep (serviceStep svc)
      (PublishesEntry svc session.previewId entry source) s₀ acts ∧
    svc.SourceSound source entry ∧
    receipt.detail = .access response cacheResult pathDigest ∧
    response.body = source.body ∧ response.mediaType = some source.mediaType

theorem Accessed.allowed {request : AccessRequest} {receipt : ProofReceipt}
    (h : Accessed svc s request receipt s') (hallowed : receipt.outcome = .allowed) :
    ∃ (v : Serving svc s request) (content : Bytes × CacheResult),
      receipt = svc.accessAllowed s.now v.read content ∧
        svc.platform.bodyDigest content.1 = v.entry.contentSha256 := by
  cases h with
  | denied hrefusal =>
      obtain hdenied | hconflict := hrefusal.outcome
      · cases hallowed.symm.trans hdenied
      · cases hallowed.symm.trans hconflict
  | quarantined _ _ hrefusal =>
      obtain hdenied | hconflict := hrefusal.outcome
      · cases hallowed.symm.trans hdenied
      · cases hallowed.symm.trans hconflict
  | cached v _ hsound => exact ⟨v, _, rfl, hsound.1⟩
  | stored v _ hsound => exact ⟨v, _, rfl, hsound.1⟩

/-- What a run keeps. -/
structure IntegrityKept (svc : PreviewProofService) (s₀ : PreviewProofState)
    (acts : List Happening) : Prop where
  serves : ∀ request receipt s',
    completes (svc.access request) (Transition.run (serviceStep svc) s₀ acts) =
      (.ok receipt, s') →
    receipt.outcome = .allowed → request.method = .get →
    ServesPublished svc s₀ acts request receipt
  oneSession : ∀ binding,
    Transition.AtMostOnce (serviceStep svc) (OpensSession svc binding) s₀ acts
  oneUse : ∀ intentId,
    Transition.AtMostOnce (serviceStep svc) (ConsumesIntent svc intentId) s₀ acts

/-- Where digests have no collisions, every allowed read gives what was published, on the
authority of rows that agree, and no grant and no intent is used twice. -/
theorem integrityKept_after (hsha : Function.Injective svc.platform.rt.sha256)
    (hbytes : Function.Injective svc.platform.sha256Bytes) {s₀ : PreviewProofState}
    (hs₀ : Initial s₀) (acts : List Happening) : IntegrityKept svc s₀ acts where
  serves := by
    intro request receipt s' hrun hallowed hget
    obtain ⟨v, content, rfl, hdigest⟩ := (access_cases hrun).allowed hallowed
    obtain ⟨grant, hauthorised⟩ := v.authorised
    obtain ⟨build, hbuild, hentries⟩ :=
      backed_after hsha hs₀ acts _ _ v.previewRead hauthorised.available
    obtain rfl := Option.some.inj (hbuild.symm.trans v.buildRead)
    obtain ⟨source, hsound, hpublished⟩ := hentries v.entry (List.mem_of_find?_eq_some v.listed)
    have hsame : content.1 = source.body :=
      Platform.bodyDigest_injective hbytes (hdigest.trans hsound.2.2.1.symm)
    refine ⟨v.session, grant, v.preview, v.build, v.entry, source, _, content.2, _, hauthorised,
      v.path, v.listed, hpublished, hsound, rfl, ?_, ?_⟩
    · have hmethod : v.read.request.method ≠ .head := by
        change request.method ≠ .head
        rw [hget]
        simp
      rw [← hsame]
      exact if_neg hmethod
    · rw [hsound.2.2.2.2]
      rfl
  oneSession binding := by
    refine sessions_once hsha hs₀.rows (fun id g hg => ?_) binding acts
    rw [hs₀.grants] at hg
    cases hg
  oneUse intentId := intents_once hsha hs₀.rows intentId acts

/-! ## A served preview -/

def headerProfileText : JsString :=
  (samplePlatform id).canonicalJson
    (.object (generatedResponseHeaders.map fun h => (h.1, .text h.2)))

def profileSha256 : JsString → Digest :=
  Runtime.sha256On headerProfileText
    (js "07e38893d209e5be3dc7d7a9208ec34ffb4ab17b92c5ef46e895cd272d7dfd19")

theorem profileSha256_injective : Function.Injective profileSha256 :=
  Runtime.sha256On_injective (by decide)

theorem sampleBytes_injective : Function.Injective (samplePlatform profileSha256).sha256Bytes := by
  apply List.map_injective_iff.mpr
  intro a b h
  exact UInt8.toUInt16_inj.mp h

/-- The session gets the content that was published. -/
theorem integrityKept_demo :
    IntegrityKept (sampleService profileSha256) (sampleState profileSha256)
        (publishes profileSha256 (samplePreview profileSha256) ++
          opens profileSha256 (samplePreview profileSha256)) ∧
      ∃ receipt, receipt.outcome = .allowed ∧
        ServesPublished (sampleService profileSha256) (sampleState profileSha256)
          (publishes profileSha256 (samplePreview profileSha256) ++
            opens profileSha256 (samplePreview profileSha256))
          (accessRequestOf profileSha256 (samplePreview profileSha256) (js "/a")) receipt := by
  have hkept : IntegrityKept (sampleService profileSha256) (sampleState profileSha256)
      (publishes profileSha256 (samplePreview profileSha256) ++
        opens profileSha256 (samplePreview profileSha256)) :=
    integrityKept_after profileSha256_injective sampleBytes_injective (initial_sampleState _) _
  obtain ⟨receipt, s', hrun, hallowed⟩ : ∃ receipt s', completes
      ((sampleService profileSha256).perform (.access
        (accessRequestOf profileSha256 (samplePreview profileSha256) (js "/a"))))
      (openedState profileSha256) = (.ok receipt, s') ∧ receipt.outcome = .allowed :=
    ⟨_, _, performs_sampleAccess profileSha256, rfl⟩
  rw [← run_opened] at hrun
  exact ⟨hkept, receipt, hallowed, hkept.serves _ receipt s' hrun hallowed rfl⟩

end PreviewProof

end Aico
