import Aico.Foundation.Transition
import Aico.PreviewSpike.PreviewOutcomes

/-!
# Runs of the preview service

A run is a sequence of requests, each served to its end, with changes of the world in
between. `Rows` is kept by every run: each row stands under its own identifier. What a step
does to the previews is said once (`Ran.preview_of_get`): a preview is left alone, or one
field of its life cycle moves, and it becomes available by a publication only.
-/

namespace Aico

namespace PreviewProof

open Coroutine PreviewProofService

variable {svc : PreviewProofService} {s s' : PreviewProofState}

/-- What happens next to the service. -/
inductive Happening where
  | request (request : OperationRequest)
  | environs (e : Environs)

/-- A request is served to its end, or the world moves. -/
def serviceStep (svc : PreviewProofService) (s : PreviewProofState) :
    Happening → PreviewProofState
  | .request request => (completes (svc.perform request) s).2
  | .environs e => svc.environs e s

theorem serviceStep_of_run {request : OperationRequest} {r : Except ProofError ProofReceipt}
    (h : completes (svc.perform request) s = (r, s')) :
    serviceStep svc s (.request request) = s' := congrArg Prod.snd h

/-- A step changes nothing, or it is a call that returned a receipt, or the world moved. -/
theorem serviceStep_cases (svc : PreviewProofService) (s : PreviewProofState) (a : Happening) :
    serviceStep svc s a = s ∨
      (∃ request receipt, a = .request request ∧
        completes (svc.perform request) s = (.ok receipt, serviceStep svc s a)) ∨
      ∃ e, a = .environs e ∧ serviceStep svc s a = svc.environs e s := by
  cases a with
  | environs e => exact .inr (.inr ⟨e, rfl, rfl⟩)
  | request request =>
      rcases hrun : completes (svc.perform request) s with ⟨e | receipt, s'⟩
      · rw [serviceStep_of_run hrun]
        exact .inl (perform_error hrun)
      · rw [serviceStep_of_run hrun]
        exact .inr (.inl ⟨request, receipt, rfl, hrun⟩)

/-- A property is kept by a step that the calls and the world keep. -/
theorem serviceStep_keeps {P : PreviewProofState → Prop}
    (hran : ∀ s s' request receipt, P s → Ran svc s request receipt s' → P s')
    (henvirons : ∀ s e, P s → P (svc.environs e s)) (s : PreviewProofState) (a : Happening)
    (hs : P s) : P (serviceStep svc s a) := by
  obtain hsame | ⟨request, receipt, -, hrun⟩ | ⟨e, -, heq⟩ := serviceStep_cases svc s a
  · rw [hsame]
    exact hs
  · exact hran s _ request receipt hs (perform_cases hrun)
  · rw [heq]
    exact henvirons s e hs

/-! ## Rows under their own identifiers -/

section KeyedBy

variable {β : Type} {f : β → JsString} {m : JsMap JsString β}

/-- Every row stands under its own identifier. -/
def KeyedBy (f : β → JsString) (m : JsMap JsString β) : Prop :=
  ∀ k v, m.get k = some v → f v = k

theorem KeyedBy.set (h : KeyedBy f m) {k : JsString} {v : β} (hv : f v = k) :
    KeyedBy f (m.set k v) := by
  intro k' w hw
  rw [JsMap.get_set] at hw
  split at hw
  · next hk =>
      obtain rfl := Option.some.inj hw
      rw [hk, hv]
  · exact h k' w hw

theorem KeyedBy.mapValues (h : KeyedBy f m) {g : β → β} (hg : ∀ v, f (g v) = f v) :
    KeyedBy f (m.mapValues g) := by
  intro k w hw
  rw [JsMap.get_mapValues, Option.map_eq_some_iff] at hw
  obtain ⟨v, hv, rfl⟩ := hw
  rw [hg]
  exact h k v hv

theorem keyedBy_empty : KeyedBy f JsMap.empty := by
  intro k v hv
  cases hv

end KeyedBy

structure Rows (s : PreviewProofState) : Prop where
  builds : KeyedBy (fun b : BuildAuthority => b.buildId) s.builds
  previews : KeyedBy PreviewAuthority.previewId s.previews
  grants : KeyedBy GrantAuthority.grantId s.grants
  sessions : KeyedBy SessionAuthority.sessionId s.sessions
  intents : KeyedBy ToolInvocationIntent.id s.intents

theorem Initial.rows (h : Initial s) : Rows s where
  builds := h.builds
  previews id p hp := (h.previews id p hp).1
  grants := by
    rw [h.grants]
    exact keyedBy_empty
  sessions := by
    rw [h.sessions]
    exact keyedBy_empty
  intents := by
    rw [h.intents]
    exact keyedBy_empty

theorem storeIfStable_eq (header : KeyedHeader) (receipt : ProofReceipt) (s : PreviewProofState) :
    storeIfStable header receipt s =
      { s with operationReceipts := (storeIfStable header receipt s).operationReceipts } := by
  unfold storeIfStable
  split <;> rfl

/-- A call that is settled changes the receipts only. -/
theorem Settled.left_eq {header : KeyedHeader} {receipt : ProofReceipt}
    (h : Settled s header receipt s') :
    s' = { s with operationReceipts := s'.operationReceipts } := by
  cases h with
  | refused _ => exact storeIfStable_eq header receipt s
  | replayed _ _ => rfl

theorem Rows.of_receipts (h : Rows s) {receipts : JsMap JsString StoredOperationReceipt} :
    Rows { s with operationReceipts := receipts } :=
  ⟨h.builds, h.previews, h.grants, h.sessions, h.intents⟩

theorem Rows.consumed (h : Rows s) {intent : ToolInvocationIntent} :
    KeyedBy ToolInvocationIntent.id (s.intents.set intent.id { intent with used := 1 }) :=
  h.intents.set rfl

theorem Publication.previewId_published {request : PublicationRequest}
    (p : Publication svc s request) : p.published.previewId = p.preview.previewId := by
  unfold published
  split <;> rfl

theorem Removal.previewId_cleaned {request : CleanupRequest} (r : Removal svc s request) :
    r.cleaned.previewId = r.preview.previewId := rfl

theorem Rows.ran {request : OperationRequest} {receipt : ProofReceipt} (hs : Rows s)
    (h : Ran svc s request receipt s') : Rows s' := by
  cases h with
  | settled _ h =>
      rw [h.left_eq]
      exact hs.of_receipts
  | published p =>
      rw [p.left_eq]
      exact { hs with
        previews := hs.previews.set p.previewId_published
        intents := hs.consumed }
  | issued i =>
      rw [i.left_eq]
      exact { hs with
        grants := hs.grants.set rfl
        intents := hs.consumed }
  | exchanged x =>
      rw [x.left_eq]
      refine { hs with
        grants := hs.grants.set rfl
        sessions := ?_ }
      dsimp only
      split
      · exact hs.sessions
      · exact hs.sessions.set rfl
  | accessed h =>
      cases h with
      | denied _ => exact hs
      | quarantined v _ _ => exact { hs with previews := hs.previews.set rfl }
      | cached _ _ _ => exact hs
      | stored _ _ _ => exact { hs with }
  | revoked r =>
      rw [r.left_eq]
      refine { hs with
        previews := hs.previews.set rfl
        sessions := hs.sessions.mapValues fun session => ?_
        intents := hs.consumed }
      split <;> rfl
  | removed r =>
      have hpending : (pendingPreview r.preview).previewId = r.preview.previewId := rfl
      rw [r.left_eq]
      exact { hs with
        previews := (hs.previews.set hpending).set r.previewId_cleaned
        intents := hs.consumed }
  | reconciled r =>
      rw [r.left_eq]
      exact { hs with intents := hs.consumed }

theorem Rows.environs (hs : Rows s) (e : Environs) : Rows (svc.environs e s) := by
  cases e with
  | register intent =>
      unfold PreviewProofService.environs registerToolInvocationIntent
      dsimp only
      split
      · exact { hs with intents := hs.intents.set rfl }
      · exact hs
  | setClock now => exact { hs with }
  | setCompany companyId status => exact { hs with }

theorem Rows.step (hs : Rows s) (a : Happening) : Rows (serviceStep svc s a) :=
  serviceStep_keeps (fun _ _ _ _ hs h => hs.ran h) (fun _ e hs => hs.environs e) s a hs

theorem rows_after (hs : Initial s) (acts : List Happening) :
    Rows (Transition.run (serviceStep svc) s acts) :=
  Transition.run_invariant (fun _ a hs => hs.step a) hs.rows acts

/-! ## How previews move -/

/-- The preview in another place of its life cycle. -/
def Restated (p q : PreviewAuthority) : Prop :=
  q = { p with
    state := q.state
    revocationEpoch := q.revocationEpoch
    rowVersion := q.rowVersion
    bindingSha256 := q.bindingSha256 }

theorem Restated.refl (p : PreviewAuthority) : Restated p p := rfl

/-- Of two values under a key the later one counts. -/
theorem get_set_set {β : Type} {m : JsMap JsString β} {k k' : JsString} {v w : β} :
    ((m.set k v).set k w).get k' = (m.set k w).get k' := by
  by_cases h : k' = k
  · subst h
    rw [JsMap.get_set_self, JsMap.get_set_self]
  · rw [JsMap.get_set_of_ne h, JsMap.get_set_of_ne h, JsMap.get_set_of_ne h]

/-- A preview that a call has written. -/
theorem get_set_preview {m : JsMap JsString PreviewAuthority} {id : JsString}
    {p q r : PreviewAuthority} (hp : m.get p.previewId = some p)
    (hr : (m.set p.previewId q).get id = some r) :
    m.get id = some r ∨ m.get id = some p ∧ r = q := by
  rw [JsMap.get_set] at hr
  split at hr
  · next hid =>
      subst hid
      exact .inr ⟨hp, (Option.some.inj hr).symm⟩
  · exact .inl hr

def Activates (svc : PreviewProofService) (s : PreviewProofState) (request : OperationRequest)
    (receipt : ProofReceipt) (s' : PreviewProofState) (p : PreviewAuthority) : Prop :=
  ∃ (publication : PublicationRequest) (b : Publication svc s publication),
    request = .publish publication ∧ receipt = b.receipt ∧ s' = b.left ∧
      svc.faults.publicationUnknownAfterCopy = false ∧ b.preview = p

theorem Rows.get_previewId (hs : Rows s) {id : JsString} {p : PreviewAuthority}
    (hp : s.previews.get id = some p) : s.previews.get p.previewId = some p := by
  rw [hs.previews id p hp]
  exact hp

theorem state_revokedPreview_ne (request : RevocationRequest) (p : PreviewAuthority) :
    (revokedPreview request p).state ≠ .available := by
  unfold revokedPreview
  dsimp only
  split <;> simp

theorem state_cleanedPreview_ne (p : PreviewAuthority) (complete : Bool) :
    (cleanedPreview p complete).state ≠ .available := by
  cases complete <;> simp [cleanedPreview]

/-- A preview is left alone or restated, and it becomes available by its publication. -/
theorem Ran.preview_of_get (hs : Rows s) {request : OperationRequest} {receipt : ProofReceipt}
    (h : Ran svc s request receipt s') {id : JsString} {q : PreviewAuthority}
    (hq : s'.previews.get id = some q) :
    ∃ p, s.previews.get id = some p ∧ Restated p q ∧
      (q.state = .available → q = p ∨ Activates svc s request receipt s' p) := by
  have unchanged (hsame : s.previews.get id = some q) : ∃ p, s.previews.get id = some p ∧
      Restated p q ∧ (q.state = .available → q = p ∨ Activates svc s request receipt s' p) :=
    ⟨q, hsame, .refl q, fun _ => .inl rfl⟩
  cases h with
  | settled _ h =>
      rw [h.left_eq] at hq
      exact unchanged hq
  | published b =>
      have hq' := hq
      rw [b.left_eq] at hq'
      obtain hsame | ⟨hp, rfl⟩ := get_set_preview (hs.get_previewId b.previewRead) hq'
      · exact unchanged hsame
      refine ⟨b.preview, hp, ?_, fun havailable => .inr ?_⟩
      · unfold Publication.published
        split <;> rfl
      · refine ⟨_, b, rfl, rfl, rfl, ?_, rfl⟩
        by_contra hfault
        rw [Bool.not_eq_false] at hfault
        unfold Publication.published at havailable
        rw [if_pos hfault] at havailable
        cases havailable
  | issued i => exact unchanged hq
  | exchanged x =>
      rw [x.left_eq] at hq
      exact unchanged hq
  | accessed h =>
      cases h with
      | denied _ => exact unchanged hq
      | quarantined v _ _ =>
          obtain hsame | ⟨hp, rfl⟩ := get_set_preview (hs.get_previewId v.previewRead) hq
          · exact unchanged hsame
          · exact ⟨v.preview, hp, rfl, fun h => by cases h⟩
      | cached _ _ _ => exact unchanged hq
      | stored _ _ _ => exact unchanged hq
  | revoked r =>
      obtain hsame | ⟨hp, rfl⟩ := get_set_preview (hs.get_previewId r.previewRead) hq
      · exact unchanged hsame
      · exact ⟨r.preview, hp, rfl, fun h => absurd h (state_revokedPreview_ne _ _)⟩
  | removed r =>
      rw [r.left_eq] at hq
      dsimp only at hq
      rw [get_set_set] at hq
      obtain hsame | ⟨hp, rfl⟩ := get_set_preview (hs.get_previewId r.previewRead) hq
      · exact unchanged hsame
      · exact ⟨r.preview, hp, rfl, fun h => absurd h (state_cleanedPreview_ne _ _)⟩
  | reconciled r => exact unchanged hq

/-- A call keeps every preview, and restates it at most. -/
theorem Ran.get_preview (hs : Rows s) {request : OperationRequest} {receipt : ProofReceipt}
    (h : Ran svc s request receipt s') {id : JsString} {p : PreviewAuthority}
    (hp : s.previews.get id = some p) : ∃ q, s'.previews.get id = some q ∧ Restated p q := by
  have unchanged : ∃ q, s.previews.get id = some q ∧ Restated p q := ⟨p, hp, .refl p⟩
  have written (p₀ q₀ : PreviewAuthority) (hread : s.previews.get p₀.previewId = some p₀)
      (hrestated : Restated p₀ q₀) :
      ∃ q, (s.previews.set p₀.previewId q₀).get id = some q ∧ Restated p q := by
    rw [JsMap.get_set]
    split
    · next hid =>
        obtain rfl := Option.some.inj (hp.symm.trans (hid ▸ hread))
        exact ⟨q₀, rfl, hrestated⟩
    · exact unchanged
  cases h with
  | settled _ h =>
      rw [h.left_eq]
      exact unchanged
  | published b =>
      rw [b.left_eq]
      refine written b.preview _ (hs.get_previewId b.previewRead) ?_
      unfold Publication.published
      split <;> rfl
  | issued i => exact unchanged
  | exchanged x =>
      rw [x.left_eq]
      exact unchanged
  | accessed h =>
      cases h with
      | denied _ => exact unchanged
      | quarantined v _ _ => exact written v.preview _ (hs.get_previewId v.previewRead) rfl
      | cached _ _ _ => exact unchanged
      | stored _ _ _ => exact unchanged
  | revoked r => exact written r.preview _ (hs.get_previewId r.previewRead) rfl
  | removed r =>
      rw [r.left_eq]
      dsimp only
      rw [get_set_set]
      exact written r.preview _ (hs.get_previewId r.previewRead) rfl
  | reconciled r => exact unchanged

theorem Ran.builds {request : OperationRequest} {receipt : ProofReceipt}
    (h : Ran svc s request receipt s') : s'.builds = s.builds := by
  cases h with
  | settled _ h => rw [h.left_eq]
  | published p => rw [p.left_eq]
  | issued i => rfl
  | exchanged x => rw [x.left_eq]
  | accessed h => cases h <;> rfl
  | revoked r => rfl
  | removed r => rw [r.left_eq]
  | reconciled r => rfl

/-! ## Receipts stay -/

theorem get_storeIfStable {header : KeyedHeader} {receipt : ProofReceipt} {key : JsString}
    {stored : StoredOperationReceipt} (h : s.operationReceipts.get key = some stored) :
    (storeIfStable header receipt s).operationReceipts.get key = some stored := by
  unfold storeIfStable
  split
  · next hfree =>
      have hne : key ≠ header.logicalIdempotencyKey := by
        rintro rfl
        rw [JsMap.has_eq_false, h] at hfree
        cases hfree.2
      exact (JsMap.get_set_of_ne hne).trans h
  · exact h

/-- A receipt is never replaced. -/
theorem Ran.receipt_kept {request : OperationRequest} {receipt : ProofReceipt}
    (h : Ran svc s request receipt s') {key : JsString} {stored : StoredOperationReceipt}
    (hstored : s.operationReceipts.get key = some stored) :
    s'.operationReceipts.get key = some stored := by
  have answered {key' : JsString} {answer : StoredOperationReceipt}
      (hfree : s.operationReceipts.get key' = none) :
      (s.operationReceipts.set key' answer).get key = some stored := by
    have hne : key ≠ key' := by
      rintro rfl
      rw [hstored] at hfree
      cases hfree
    exact (JsMap.get_set_of_ne hne).trans hstored
  cases h with
  | settled _ h =>
      cases h with
      | refused _ => exact get_storeIfStable hstored
      | replayed _ _ => exact hstored
  | published p =>
      rw [p.left_eq]
      exact answered p.founder.unanswered
  | issued i => exact answered i.founder.unanswered
  | exchanged x =>
      rw [x.left_eq]
      exact answered x.unanswered
  | accessed h => cases h <;> exact hstored
  | revoked r => exact answered r.founder.unanswered
  | removed r =>
      rw [r.left_eq]
      exact answered r.founder.unanswered
  | reconciled r => exact answered r.unanswered

/-- The world registers intents, moves the clock, and changes the status of companies. -/
theorem environs_eq (e : Environs) (s : PreviewProofState) :
    svc.environs e s =
      { s with
        companies := (svc.environs e s).companies
        intents := (svc.environs e s).intents
        now := (svc.environs e s).now } := by
  cases e with
  | register intent =>
      unfold PreviewProofService.environs registerToolInvocationIntent
      dsimp only
      split <;> rfl
  | setClock now => rfl
  | setCompany companyId status => rfl

/-! ## How grants and sessions move -/

theorem Ran.grant_of_get (hs : Rows s) {request : OperationRequest} {receipt : ProofReceipt}
    (h : Ran svc s request receipt s') {id : JsString} {g : GrantAuthority}
    (hg : s'.grants.get id = some g) :
    s.grants.get id = some g ∨
      (∃ (issue : GrantIssueRequest) (i : Issuance svc s issue), request = .issueGrant issue ∧
        s' = i.left ∧ g = i.grant) ∨
      ∃ (exchange : ExchangeRequest) (x : Exchange svc s exchange),
        request = .exchange exchange ∧ s' = x.left ∧ s.grants.get id = some x.grant ∧
          g = consumedGrant s.now x.grant := by
  cases h with
  | settled _ h =>
      rw [h.left_eq] at hg
      exact .inl hg
  | published p =>
      rw [p.left_eq] at hg
      exact .inl hg
  | issued i =>
      have hset : (s.grants.set i.grant.grantId i.grant).get id = some g := hg
      rw [JsMap.get_set] at hset
      split at hset
      · exact .inr (.inl ⟨_, i, rfl, rfl, (Option.some.inj hset).symm⟩)
      · exact .inl hset
  | exchanged x =>
      have hset := hg
      rw [x.left_eq] at hset
      change (s.grants.set x.grant.grantId (consumedGrant s.now x.grant)).get id = some g at hset
      rw [JsMap.get_set] at hset
      split at hset
      · next hid =>
          refine .inr (.inr ⟨_, x, rfl, rfl, ?_, (Option.some.inj hset).symm⟩)
          rw [hid, hs.grants _ _ x.current]
          exact x.current
      · exact .inl hset
  | accessed h => cases h <;> exact .inl hg
  | revoked r => exact .inl hg
  | removed r =>
      rw [r.left_eq] at hg
      exact .inl hg
  | reconciled r => exact .inl hg

end PreviewProof

end Aico
