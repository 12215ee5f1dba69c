import Aico.Foundation.NonInterference
import Aico.PreviewSpike.AnsweredOnce

/-!
# Denials that nobody else notices

A call that is refused leaves at most its receipt, under its own key. A call `Blind` to a key
does not look at the receipt there: its answer and all else it leaves are the same with and
without that receipt. Every request is blind to the keys that it does not name.
-/

namespace Aico

namespace PreviewProof

open Coroutine PreviewProofService

variable {svc : PreviewProofService} {s s' t : PreviewProofState} {key : JsString}

/-- The stores are equal but for the receipt under the key. -/
structure ApartFrom (key : JsString) (s t : PreviewProofState) : Prop where
  rows : t = { s with operationReceipts := t.operationReceipts }
  receipts : ∀ k, k ≠ key → t.operationReceipts.get k = s.operationReceipts.get k

theorem ApartFrom.refl (key : JsString) (s : PreviewProofState) : ApartFrom key s s :=
  ⟨rfl, fun _ _ => rfl⟩

theorem ApartFrom.store (h : ApartFrom key s t) (header : KeyedHeader)
    (receipt : ProofReceipt) : ApartFrom key (store header receipt s) (store header receipt t) := by
  constructor
  · unfold PreviewProof.store
    conv_lhs => rw [h.rows]
  · intro k hk
    unfold PreviewProof.store
    dsimp only
    rw [JsMap.get_set, JsMap.get_set, h.receipts k hk]

/-- The call takes no notice of the receipt under the key. -/
def Blind {ε α : Type} (key : JsString) (p : Call ε α) : Prop :=
  Prog.Agrees (ApartFrom key) (completes p)

namespace Blind

variable {ε ε' α β : Type}

theorem pure (a : α) : Blind key (Pure.pure a : Call ε α) := Prog.Agrees.pure a

theorem throw (e : ε) : Blind key (Coroutine.throw e : Call ε α) := Prog.Agrees.throw e

/-- A read of anything but receipts. -/
theorem gets {f : PreviewProofState → α}
    (hf : ∀ s receipts, f { s with operationReceipts := receipts } = f s) :
    Blind key (Coroutine.gets f : Call ε α) := by
  apply Prog.Agrees.gets
  intro s t h
  exact ((congrArg f h.rows).trans (hf s t.operationReceipts)).symm

/-- A change of anything but receipts. -/
theorem modify {f : PreviewProofState → PreviewProofState}
    (hf : ∀ s receipts,
      f { s with operationReceipts := receipts } = { f s with operationReceipts := receipts }) :
    Blind key (Coroutine.modify f : Call ε PUnit) := by
  apply Prog.Agrees.modify
  intro s t h
  have hs : (f s).operationReceipts = s.operationReceipts := by
    conv_lhs => rw [hf s s.operationReceipts]
  have ht : f t = { f s with operationReceipts := t.operationReceipts } :=
    (congrArg f h.rows).trans (hf s t.operationReceipts)
  constructor
  · rw [ht]
  · rw [ht, hs]
    exact h.receipts

theorem ensure (c : Prop) [Decidable c] (e : ε) :
    Blind key (Coroutine.ensure c e : Call ε PUnit) := by
  unfold Blind
  rw [completes_ensure]
  exact .ensure c e

theorem require (o : Option α) (e : ε) : Blind key (Coroutine.require o e : Call ε α) := by
  unfold Blind
  rw [completes_require]
  exact .require o e

theorem lift (r : Except ε α) : Blind key (Coroutine.lift r : Call ε α) := Prog.Agrees.lift r

theorem bind {p : Call ε α} {f : α → Call ε β} (hp : Blind key p)
    (hf : ∀ a, Blind key (f a)) : Blind key (p >>= f) := by
  unfold Blind
  rw [completes_bind]
  exact Prog.Agrees.bind hp hf

theorem ite {c : Prop} [Decidable c] {p q : Call ε α} (hp : Blind key p) (hq : Blind key q) :
    Blind key (if c then p else q) := by
  split
  · exact hp
  · exact hq

theorem catching {p : Call ε α} {handler : ε → Call ε' α} (hp : Blind key p)
    (hhandler : ∀ e, Blind key (handler e)) : Blind key (Coroutine.catching p handler) := by
  unfold Blind
  rw [completes_catching]
  exact Prog.Agrees.catching hp hhandler

theorem within {κ : Type} {locals : κ} {p : Call ProofError α} (hp : Blind key p) :
    Blind key (within locals p) :=
  catching hp fun _ => throw _

theorem callHook (hook : ProofHook) (held : Held) : Blind key (callHook hook held) := by
  unfold Blind
  rw [completes_callHook]
  exact .pure _

theorem store (header : KeyedHeader) (receipt : ProofReceipt) :
    Blind key (Coroutine.modify (PreviewProof.store header receipt) : Call ε PUnit) :=
  Prog.Agrees.modify fun _ _ h => h.store header receipt

section OtherKey

variable (header : KeyedHeader) (hother : header.logicalIdempotencyKey ≠ key)

include hother

theorem replay : Blind key (replay header) := by
  refine bind (Prog.Agrees.gets fun s t h => ?_) fun found => ?_
  · exact (h.receipts _ hother).symm
  · cases found with
    | none => exact pure _
    | some stored => exact bind (ensure _ _) fun _ => pure _

theorem storeIfStable (receipt : ProofReceipt) :
    Blind key (Coroutine.modify (PreviewProof.storeIfStable header receipt) : Call ε PUnit) := by
  apply Prog.Agrees.modify
  intro s t h
  have hhas : t.operationReceipts.has header.logicalIdempotencyKey =
      s.operationReceipts.has header.logicalIdempotencyKey := by
    unfold JsMap.has
    rw [h.receipts _ hother]
  unfold PreviewProof.storeIfStable
  rw [hhas]
  split
  · exact h.store header receipt
  · exact h

end OtherKey

section Helpers

theorem authorityRead (operation : ProofOperation) (held : Held) :
    Blind key (svc.authorityRead operation held) := by
  unfold PreviewProofService.authorityRead
  exact bind (callHook _ _) fun _ => bind (ensure _ _) fun _ => callHook _ _

theorem readCompanyBySubject (subject : JsString) (operation : ProofOperation) :
    Blind key (svc.readCompanyBySubject subject operation) := by
  unfold PreviewProofService.readCompanyBySubject
  exact bind (authorityRead _ _) fun _ => bind (gets fun _ _ => rfl) fun _ => require _ _

theorem readCompany (companyId : JsString) (operation : ProofOperation) :
    Blind key (svc.readCompany companyId operation) := by
  unfold PreviewProofService.readCompany
  exact bind (authorityRead _ _) fun _ => bind (gets fun _ _ => rfl) fun _ => require _ _

theorem readBuild (buildId : JsString) (operation : ProofOperation) (held : Held) :
    Blind key (svc.readBuild buildId operation held) := by
  unfold PreviewProofService.readBuild
  exact bind (authorityRead _ _) fun _ => bind (gets fun _ _ => rfl) fun _ => require _ _

theorem readPreview (previewId : JsString) (operation : ProofOperation) (held : Held) :
    Blind key (svc.readPreview previewId operation held) := by
  unfold PreviewProofService.readPreview
  exact bind (authorityRead _ _) fun _ => bind (gets fun _ _ => rfl) fun _ => require _ _

theorem consumeIntent (supplied : ToolInvocationIntent) (action : ToolAction)
    (header : KeyedHeader) : Blind key (svc.consumeIntent supplied action header) := by
  unfold PreviewProofService.consumeIntent
  refine bind (gets fun _ _ => rfl) fun now => bind (gets fun _ _ => rfl) fun found => ?_
  refine bind (require _ _) fun stored => bind (ensure _ _) fun _ => bind (ensure _ _) fun _ => ?_
  exact bind (modify fun _ _ => rfl) fun _ => pure _

theorem assertPreviewAvailable (preview : PreviewAuthority) :
    Blind key (svc.assertPreviewAvailable preview) := by
  unfold PreviewProofService.assertPreviewAvailable
  exact bind (gets fun _ _ => rfl) fun _ => ensure _ _

/-- The receipt is written and returned. -/
theorem stores {header : KeyedHeader} {f : PreviewProofState → ProofReceipt}
    {g : ProofReceipt → β} (hf : ∀ s receipts, f { s with operationReceipts := receipts } = f s) :
    Blind key (do
      let receipt ← Coroutine.gets f
      Coroutine.modify (PreviewProof.store header receipt)
      Pure.pure (g receipt) : Call ε β) :=
  bind (gets hf) fun _ => bind (store _ _) fun _ => pure _

end Helpers

section OtherKey

variable (header : KeyedHeader) (hother : header.logicalIdempotencyKey ≠ key)

include hother

theorem settle {ρ : Type} {refusal : PreviewProofState → Classified → Locals → ρ}
    {receiptOf : ρ → ProofReceipt} {body : Call (ProofError × Locals) ρ}
    (hrefusal : ∀ classified locals s receipts,
      refusal { s with operationReceipts := receipts } classified locals =
        refusal s classified locals)
    (hbody : Blind key body) : Blind key (settle header refusal receiptOf body) := by
  unfold PreviewProof.settle
  refine catching hbody fun thrown => bind (require _ _) fun classified => ?_
  refine bind (gets (hrefusal classified thrown.2)) fun result => ?_
  exact bind (storeIfStable _ hother _) fun _ => pure _

theorem founder {ρ : Type} {subject : JsString} {operation : ProofOperation}
    {refusal : PreviewProofState → Classified → Locals → ρ} {receiptOf : ρ → ProofReceipt}
    {again : ProofReceipt → Call (ProofError × Locals) ρ}
    {new : CompanyAuthority → Call (ProofError × Locals) ρ} {fields : List (String × Json)}
    (hrefusal : ∀ classified locals s receipts,
      refusal { s with operationReceipts := receipts } classified locals =
        refusal s classified locals)
    (hagain : ∀ receipt, Blind key (again receipt)) (hnew : ∀ company, Blind key (new company)) :
    Blind key (do
      svc.assertRequestDigest header.toRequestHeader fields
      PreviewProof.settle header refusal receiptOf
        (answered svc header subject operation again new)) := by
  refine bind (ensure _ _) fun _ => settle _ hother hrefusal ?_
  unfold answered
  refine bind (within (readCompanyBySubject _ _)) fun company => ?_
  refine bind (within (replay _ hother)) fun replayed => ?_
  cases replayed with
  | some receipt => exact hagain receipt
  | none => exact hnew company

end OtherKey

theorem publish {request : PublicationRequest} (hother : request.logicalIdempotencyKey ≠ key) :
    Blind key (svc.publish request) := by
  refine founder request.toKeyedHeader hother (fun _ _ _ _ => rfl)
    (fun _ => pure _) fun company => ?_
  unfold publishNew checkPublication assertPublicationBindings validateBuildCopy
  refine bind (within (readBuild _ _ _)) fun build => ?_
  refine bind (within (readPreview _ _ _)) fun preview => bind (within ?_) fun verified => ?_
  · refine bind (ensure _ _) fun _ => bind ?_ fun _ => bind (gets fun _ _ => rfl) fun _ => lift _
    refine bind (ensure _ _) fun _ => bind (ensure _ _) fun _ => bind (gets fun _ _ => rfl) fun _ => ?_
    refine bind (ensure _ _) fun _ => bind (gets fun _ _ => rfl) fun _ => ?_
    exact bind (ensure _ _) fun _ => bind (ensure _ _) fun _ => ensure _ _
  refine bind (within (consumeIntent _ _ _)) fun consumption => ?_
  refine bind (within (callHook _ _)) fun _ => bind (modify fun _ _ => rfl) fun _ => ite ?_ ?_
  · exact bind (modify fun _ _ => rfl) fun _ => stores fun _ _ => rfl
  · refine bind (modify fun _ _ => rfl) fun _ => bind (modify fun _ _ => rfl) fun _ => ?_
    exact bind (within (callHook _ _)) fun _ => stores fun _ _ => rfl

theorem issueGrant {request : GrantIssueRequest}
    (hother : request.logicalIdempotencyKey ≠ key) : Blind key (svc.issueGrant request) := by
  refine founder request.toKeyedHeader hother (fun _ _ _ _ => rfl) (fun receipt => ?_)
    fun company => ?_
  · exact bind (gets fun _ _ => rfl) fun _ => require _ _
  unfold issueNewGrant checkGrantIssue
  refine bind (within (readPreview _ _ _)) fun preview => ?_
  refine bind (within (readBuild _ _ _)) fun build => bind (within ?_) fun grant => ?_
  · refine bind (ensure _ _) fun _ => bind (assertPreviewAvailable _) fun _ => ?_
    refine bind (ensure _ _) fun _ => bind (gets fun _ _ => rfl) fun _ => ?_
    exact bind (ensure _ _) fun _ => gets fun _ _ => rfl
  refine bind (within (consumeIntent _ _ _)) fun consumption => ?_
  refine bind (within (callHook _ _)) fun _ => bind (modify fun _ _ => rfl) fun _ => ?_
  exact bind (within (callHook _ _)) fun _ => stores fun _ _ => rfl

theorem exchange {request : ExchangeRequest} (hother : request.logicalIdempotencyKey ≠ key) :
    Blind key (svc.exchange request) := by
  refine bind (ensure _ _) fun _ =>
    settle request.toKeyedHeader hother (fun _ _ _ _ => rfl) (within ?_)
  unfold exchangeBody
  refine bind ?_ fun read => bind (replay _ hother) fun replayed => ?_
  · unfold readExchange
    refine bind (ensure _ _) fun _ => bind (require _ _) fun claims => ?_
    refine bind (authorityRead _ _) fun _ => bind (gets fun _ _ => rfl) fun _ => ?_
    refine bind (require _ _) fun grant => bind (readPreview _ _ _) fun preview => ?_
    exact bind (readBuild _ _ _) fun build => bind (readCompany _ _) fun company => pure _
  cases replayed with
  | some receipt => exact bind (gets fun _ _ => rfl) fun _ => require _ _
  | none =>
      change Blind key (svc.exchangeNew request read)
      unfold exchangeNew assertExchangeBindings
      refine bind (ensure _ _) fun _ => bind ?_ fun _ => bind (callHook _ _) fun _ => ?_
      · refine bind (ensure _ _) fun _ => bind (ensure _ _) fun _ => ?_
        refine bind (assertPreviewAvailable _) fun _ => bind (gets fun _ _ => rfl) fun _ => ?_
        exact ensure _ _
      refine bind (gets fun _ _ => rfl) fun _ => bind (require _ _) fun grant => ?_
      refine bind (ensure _ _) fun _ => bind (gets fun _ _ => rfl) fun now => ?_
      refine bind (modify fun _ _ => rfl) fun _ => bind (callHook _ _) fun _ => ite ?_ ?_
      · exact stores fun _ _ => rfl
      · exact bind (modify fun _ _ => rfl) fun _ => stores fun _ _ => rfl

theorem revoke {request : RevocationRequest} (hother : request.logicalIdempotencyKey ≠ key) :
    Blind key (svc.revoke request) := by
  refine founder request.toKeyedHeader hother (fun _ _ _ _ => rfl)
    (fun _ => pure _) fun company => ?_
  unfold revokeNew checkRevocation commitRevocation
  refine bind (within (readPreview _ _ _)) fun before => ?_
  refine bind (within (bind (ensure _ _) fun _ => ensure _ _)) fun _ => ?_
  refine bind (within (callHook _ _)) fun _ => bind (within (readPreview _ _ _)) fun preview => ?_
  refine bind (within (bind (ensure _ _) fun _ => ensure _ _)) fun _ => ?_
  refine bind (within (consumeIntent _ _ _)) fun consumption => ?_
  refine bind (modify fun _ _ => rfl) fun _ => bind (modify fun _ _ => rfl) fun _ => ?_
  exact bind (within (callHook _ _)) fun _ => stores fun _ _ => rfl

theorem cleanup {request : CleanupRequest} (hother : request.logicalIdempotencyKey ≠ key) :
    Blind key (svc.cleanup request) := by
  refine founder request.toKeyedHeader hother (fun _ _ _ _ => rfl)
    (fun _ => pure _) fun company => ?_
  unfold cleanupNew checkCleanup removePreview
  refine bind (within (readPreview _ _ _)) fun preview => ?_
  refine bind (within (bind (ensure _ _) fun _ => ensure _ _)) fun _ => ?_
  refine bind (within (consumeIntent _ _ _)) fun consumption => within ?_
  refine bind (modify fun _ _ => rfl) fun _ => bind (gets fun _ _ => rfl) fun purged => ?_
  refine bind (gets fun _ _ => rfl) fun deleted => bind (modify fun _ _ => rfl) fun _ => ?_
  refine bind (gets fun _ _ => rfl) fun complete => bind (gets fun _ _ => rfl) fun remaining => ?_
  refine bind (modify fun s receipts => ?_) fun _ => bind (modify fun _ _ => rfl) fun _ => ?_
  · unfold retireHost
    split <;> rfl
  · exact stores fun _ _ => rfl

theorem reconcile {request : ReconciliationRequest}
    (hother : request.logicalIdempotencyKey ≠ key)
    (horiginal : request.originalLogicalKey ≠ key) : Blind key (svc.reconcile request) := by
  refine bind (ensure _ _) fun _ =>
    settle request.toKeyedHeader hother (fun _ _ _ _ => rfl) (within ?_)
  unfold reconcileBody
  refine bind (replay _ hother) fun replayed => ?_
  cases replayed with
  | some receipt => exact pure _
  | none =>
      change Blind key (svc.reconcileNew request)
      unfold reconcileNew reconciled
      refine bind (Prog.Agrees.gets fun s t h => ?_) fun found => ?_
      · rw [h.receipts _ horiginal]
      refine bind (require _ _) fun original => bind (ensure _ _) fun _ => ?_
      refine bind (authorityRead _ _) fun _ => bind (gets fun _ _ => rfl) fun confirmed => ?_
      exact bind (consumeIntent _ _ _) fun consumption => stores fun _ _ => rfl

theorem quarantine (preview : PreviewAuthority) (reason : ProofReason) :
    Blind key (quarantine preview reason : Call ProofError α) :=
  bind (modify fun _ _ => rfl) fun _ => throw _

theorem access (request : AccessRequest) : Blind key (svc.access request) := by
  unfold PreviewProofService.access
  refine bind (ensure _ _) fun _ => catching ?_ fun thrown => ?_
  swap
  · exact bind (require _ _) fun classified => gets fun _ _ => rfl
  unfold accessBody
  refine bind (within ?_) fun read => bind (within ?_) fun _ => bind ?_ fun _ => gets fun _ _ => rfl
  · unfold readContent assertRequestSurface normalizeAccessPath resolvePath fallbackPath
    refine bind (bind (ensure _ _) fun _ => ensure _ _) fun _ => ?_
    refine bind (gets fun _ _ => rfl) fun _ => bind (require _ _) fun session => ?_
    refine bind (gets fun _ _ => rfl) fun _ => bind (require _ _) fun preview => ?_
    refine bind (bind (require _ _) fun path => ite ?_ ?_) fun path => ?_
    · exact bind (readBuild _ _ _) fun _ => pure _
    · refine bind (ensure _ _) fun _ => bind (readBuild _ _ _) fun build => ?_
      exact ite (pure _) (ite (pure _) (throw _))
    refine bind (readBuild _ _ _) fun manifest => bind (require _ _) fun entry => ?_
    exact bind (readCompany _ _) fun company => bind (readPreview _ _ _) fun _ => pure _
  · unfold authorizeContent
    exact bind (readBuild _ _ _) fun build => bind (gets fun _ _ => rfl) fun _ => lift _
  · unfold serveContent
    refine bind (gets fun _ _ => rfl) fun found => ?_
    cases found with
    | some cached => exact bind (within (ite (pure _) (quarantine _ _))) fun _ => pure _
    | none =>
        refine bind (within ?_) fun _ => pure _
        refine bind (gets fun _ _ => rfl) fun _ => bind (require _ _) fun object => ?_
        exact ite (bind (modify fun _ _ => rfl) fun _ => pure _) (quarantine _ _)

end Blind

/-! ## Over a run -/

/-- The request is sent under the key, or asks for the receipt there. -/
def OperationRequest.Names (request : OperationRequest) (key : JsString) : Prop :=
  request.SentUnder key ∨
    ∃ reconciliation : ReconciliationRequest, request = .reconcile reconciliation ∧
      reconciliation.originalLogicalKey = key

theorem Blind.perform {request : OperationRequest} (h : ¬ request.Names key) :
    Blind key (svc.perform request) := by
  have hother {header : KeyedHeader} (hheader : request.header = some header) :
      header.logicalIdempotencyKey ≠ key :=
    fun heq => h (.inl ⟨header, hheader, heq⟩)
  cases request with
  | publish request => exact .publish (hother rfl)
  | issueGrant request => exact .bind (.issueGrant (hother rfl)) fun _ => .pure _
  | exchange request => exact .bind (.exchange (hother rfl)) fun _ => .pure _
  | access request => exact .access request
  | revoke request => exact .revoke (hother rfl)
  | cleanup request => exact .cleanup (hother rfl)
  | reconcile request =>
      exact .reconcile (hother rfl) fun heq => h (.inr ⟨request, rfl, heq⟩)

/-- What happens does not name the key. -/
def Happening.Avoids (key : JsString) (a : Happening) : Prop :=
  ∀ request, a = .request request → ¬ request.Names key

theorem ApartFrom.environs (h : ApartFrom key s t) (e : Environs) :
    ApartFrom key (svc.environs e s) (svc.environs e t) := by
  have hblind : Blind key (Coroutine.modify (svc.environs e) : Call ProofError PUnit) := by
    apply Blind.modify
    intro s receipts
    cases e with
    | register intent =>
        unfold PreviewProofService.environs registerToolInvocationIntent
        dsimp only
        split <;> rfl
    | setClock now => rfl
    | setCompany companyId status => rfl
  exact (hblind s t h).2

theorem ApartFrom.step (h : ApartFrom key s t) {a : Happening} (ha : a.Avoids key) :
    ApartFrom key (serviceStep svc s a) (serviceStep svc t a) := by
  cases a with
  | environs e => exact h.environs e
  | request request => exact (Blind.perform (ha request rfl) s t h).2

theorem ApartFrom.storeIfStable (header : KeyedHeader) (receipt : ProofReceipt)
    (s : PreviewProofState) :
    ApartFrom header.logicalIdempotencyKey s (storeIfStable header receipt s) where
  rows := storeIfStable_eq header receipt s
  receipts k hk := by
    unfold PreviewProof.storeIfStable
    split
    · exact JsMap.get_set_of_ne hk
    · rfl

/-- A refused call leaves at most its receipt. -/
theorem Ran.apart_of_refused {request : OperationRequest} {receipt : ProofReceipt}
    (h : Ran svc s request receipt s') (hkey : request.SentUnder key)
    (hrefused : ¬ Effective receipt) : ApartFrom key s s' := by
  cases h with
  | settled hheader h =>
      obtain rfl := hkey.key_eq hheader
      cases h with
      | refused _ => exact .storeIfStable _ _ _
      | replayed _ _ => exact .refl _ _
  | published p =>
      refine absurd (.of_outcome ?_) hrefused
      unfold Publication.receipt
      split
      · exact .inr rfl
      · exact .inl rfl
  | issued i => exact absurd (.of_outcome (.inl rfl)) hrefused
  | exchanged x =>
      refine absurd (.of_outcome ?_) hrefused
      unfold Exchange.receipt
      split
      · exact .inr rfl
      · exact .inl rfl
  | accessed _ =>
      obtain ⟨_, hnone, -⟩ := hkey
      cases hnone
  | revoked r =>
      refine absurd (.of_outcome ?_) hrefused
      unfold Revocation.receipt
      split
      · exact .inr rfl
      · exact .inl rfl
  | removed r =>
      refine absurd (.of_outcome ?_) hrefused
      unfold Removal.receipt
      split
      · exact .inl rfl
      · exact .inr rfl
  | reconciled r =>
      refine absurd (.of_outcome ?_) hrefused
      unfold Reconciliation.receipt
      split
      · exact .inr rfl
      · exact .inl rfl

/-- The request is answered with a denial or a conflict. -/
def Refuses (svc : PreviewProofService) (s : PreviewProofState) (request : OperationRequest) :
    Prop :=
  ∃ receipt, (completes (svc.perform request) s).1 = .ok receipt ∧ ¬ Effective receipt

theorem Refuses.apart {request : OperationRequest} (h : Refuses svc s request)
    (hkey : request.SentUnder key) :
    ApartFrom key s (serviceStep svc s (.request request)) := by
  obtain ⟨receipt, hrun, hrefused⟩ := h
  have hran : completes (svc.perform request) s =
      (.ok receipt, serviceStep svc s (.request request)) := Prod.ext hrun rfl
  exact (perform_cases hran).apart_of_refused hkey hrefused

/-- The states differ in the receipt under the key only, and the request is answered the same
in both. -/
structure Unnoticed (svc : PreviewProofService) (key : JsString) (s t : PreviewProofState)
    (later : OperationRequest) : Prop where
  states : ApartFrom key s t
  answer : (completes (svc.perform later) t).1 = (completes (svc.perform later) s).1

/-- After a refused request, whatever happens that does not name its key, every request that
does not name it either is answered as if the refused one had never been sent. -/
theorem refused_unnoticed {request later : OperationRequest} (hkey : request.SentUnder key)
    (hrefuses : Refuses svc s request) {acts : List Happening}
    (hacts : ∀ a ∈ acts, a.Avoids key) (hlater : ¬ later.Names key) :
    Unnoticed svc key (Transition.run (serviceStep svc) s acts)
      (Transition.run (serviceStep svc) (serviceStep svc s (.request request)) acts) later := by
  have hruns : ApartFrom key (Transition.run (serviceStep svc) s acts)
      (Transition.run (serviceStep svc) (serviceStep svc s (.request request)) acts) :=
    Transition.run_agrees (C := Happening.Avoids key) (fun _ _ _ ha h => h.step ha)
      (hrefuses.apart hkey) hacts
  exact ⟨hruns, (Blind.perform hlater _ _ hruns).1.symm⟩

theorem refuses_of_unavailable {request : RevocationRequest}
    (hdigest : svc.platform.canonicalRequestDigest request.fields = request.requestDigest)
    (hfault : svc.faults.authorityUnavailable = true) : Refuses svc s (.revoke request) := by
  have hread : completes (svc.readCompanyBySubject request.actorSubject .revoke) s =
      (.error (.denied .authorityUnavailable false), s) := by
    unfold readCompanyBySubject
    rw [completes_bind, completes_authorityRead, hfault]
    rfl
  have hbody : completes (svc.revokeBody request) s =
      (.error (.denied .authorityUnavailable false, Locals.start), s) := by
    unfold revokeBody
    rw [completes_bind, Prog.bind_of_error (within_of_error hread)]
  unfold Refuses perform revoke assertRequestDigest settle
  rw [completes_bind, completes_ensure, hdigest, completes_catching]
  unfold Prog.ensure
  rw [if_pos rfl, Prog.pure_bind, Prog.catching_of_error hbody]
  exact ⟨_, rfl, fun h => h.1 rfl⟩

def unavailableService : PreviewProofService :=
  { sampleService Runtime.foldDigest with
    faults := { ProofFaults.none with authorityUnavailable := true } }

theorem refused_unnoticed_demo :
    let s := sampleState Runtime.foldDigest
    let revocation := sampleRevocation Runtime.foldDigest
    Unnoticed unavailableService (js "revoke-preview")
      (Transition.run (serviceStep unavailableService) s [.environs (.setClock [0])])
      (Transition.run (serviceStep unavailableService)
        (serviceStep unavailableService s (.request (.revoke revocation)))
        [.environs (.setClock [0])])
      (.publish (samplePublication Runtime.foldDigest)) := by
  intro s revocation
  have hrefuses : Refuses unavailableService s (.revoke revocation) :=
    refuses_of_unavailable rfl rfl
  have havoids : (Happening.environs (.setClock [0])).Avoids (js "revoke-preview") := by
    intro request hrequest
    cases hrequest
  have hother : ¬ (OperationRequest.publish (samplePublication Runtime.foldDigest)).Names
      (js "revoke-preview") := by
    rintro (⟨header, hheader, hkey⟩ | ⟨_, hrequest, -⟩)
    · obtain rfl := Option.some.inj hheader
      revert hkey
      decide
    · cases hrequest
  exact refused_unnoticed ⟨_, rfl, rfl⟩ hrefuses (List.forall_mem_singleton.mpr havoids) hother

end PreviewProof

end Aico
