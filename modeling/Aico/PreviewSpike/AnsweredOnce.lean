import Aico.PreviewSpike.PreviewRuns

/-!
# One effect and one answer under a key

The receipt of a call is stored under the logical key of its request and is never replaced.
So of all requests under one key, whoever sends them and whatever they ask for, one at most
changes the state, and those that are not refused get one and the same receipt.
-/

namespace Aico

namespace PreviewProof

open Coroutine PreviewProofService

variable {svc : PreviewProofService} {s s' : PreviewProofState}

/-- The request is sent under the logical key. -/
def OperationRequest.SentUnder (request : OperationRequest) (key : JsString) : Prop :=
  ∃ header, request.header = some header ∧ header.logicalIdempotencyKey = key

theorem OperationRequest.SentUnder.key_eq {request : OperationRequest} {key : JsString}
    {header : KeyedHeader} (h : request.SentUnder key) (hheader : request.header = some header) :
    header.logicalIdempotencyKey = key := by
  obtain ⟨header', hheader', rfl⟩ := h
  obtain rfl := Option.some.inj (hheader.symm.trans hheader')
  rfl

def Effective (receipt : ProofReceipt) : Prop :=
  receipt.outcome ≠ .denied ∧ receipt.outcome ≠ .conflict

theorem Effective.of_outcome {receipt : ProofReceipt}
    (h : receipt.outcome = .succeeded ∨ receipt.outcome = .unknown) : Effective receipt := by
  unfold Effective
  obtain h | h := h
  · rw [h]
    simp
  · rw [h]
    simp

theorem Refusal.not_effective {receipt : ProofReceipt} (h : Refusal receipt) :
    ¬ Effective receipt := by
  intro heffective
  obtain hdenied | hconflict := h.outcome
  · exact heffective.1 hdenied
  · exact heffective.2 hconflict

theorem storeIfStable_of_get {header : KeyedHeader} {receipt : ProofReceipt}
    {stored : StoredOperationReceipt}
    (h : s.operationReceipts.get header.logicalIdempotencyKey = some stored) :
    storeIfStable header receipt s = s := by
  unfold storeIfStable
  rw [if_neg]
  rintro ⟨-, hfree⟩
  rw [JsMap.has_eq_false, h] at hfree
  cases hfree

/-- The stored receipt that an answer is read from: it has the answer in it, but for the mark
of a replay. -/
def Answer (stored : StoredOperationReceipt) (receipt : ProofReceipt) : Prop :=
  { receipt with replayed := true } = { stored.receipt with replayed := true }

section Ran

variable {request : OperationRequest} {receipt : ProofReceipt} {key : JsString}

/-- Under a key with a receipt a call changes nothing: it is refused, or it answers with that
receipt. -/
theorem Ran.of_answered (h : Ran svc s request receipt s') (hkey : request.SentUnder key)
    {stored : StoredOperationReceipt} (hstored : s.operationReceipts.get key = some stored) :
    s' = s ∧ (Refusal receipt ∨ receipt = { stored.receipt with replayed := true }) := by
  have unanswered {header : KeyedHeader} (hheader : request.header = some header)
      (hnone : s.operationReceipts.get header.logicalIdempotencyKey = none) : False := by
    rw [hkey.key_eq hheader, hstored] at hnone
    cases hnone
  cases h with
  | settled hheader h =>
      obtain rfl := hkey.key_eq hheader
      cases h with
      | refused hrefusal => exact ⟨storeIfStable_of_get hstored, .inl hrefusal⟩
      | replayed hstored' _ =>
          obtain rfl := Option.some.inj (hstored.symm.trans hstored')
          exact ⟨rfl, .inr rfl⟩
  | published p => exact (unanswered rfl p.founder.unanswered).elim
  | issued i => exact (unanswered rfl i.founder.unanswered).elim
  | exchanged x => exact (unanswered rfl x.unanswered).elim
  | accessed _ =>
      obtain ⟨_, hnone, -⟩ := hkey
      cases hnone
  | revoked r => exact (unanswered rfl r.founder.unanswered).elim
  | removed r => exact (unanswered rfl r.founder.unanswered).elim
  | reconciled r => exact (unanswered rfl r.unanswered).elim

/-- A call that changes the state, or that is not refused, leaves its receipt under its key. -/
theorem Ran.answers (h : Ran svc s request receipt s') (hkey : request.SentUnder key)
    (hdone : s' ≠ s ∨ Effective receipt) :
    ∃ stored, s'.operationReceipts.get key = some stored ∧ Answer stored receipt := by
  have own {header : KeyedHeader} {t : PreviewProofState}
      (hheader : request.header = some header) (hs' : s' = store header receipt t) :
      ∃ stored, s'.operationReceipts.get key = some stored ∧ Answer stored receipt := by
    obtain rfl := hkey.key_eq hheader
    rw [hs']
    exact ⟨_, JsMap.get_set_self, rfl⟩
  cases h with
  | settled hheader h =>
      cases h with
      | refused hrefusal =>
          have hchanged := hdone.resolve_right hrefusal.not_effective
          unfold storeIfStable at hchanged own ⊢
          split at hchanged
          · next hfree =>
              rw [if_pos hfree] at own ⊢
              exact own hheader rfl
          · exact absurd rfl hchanged
      | replayed hstored _ =>
          obtain rfl := hkey.key_eq hheader
          exact ⟨_, hstored, rfl⟩
  | published p => exact own rfl rfl
  | issued i => exact own rfl rfl
  | exchanged x => exact own rfl rfl
  | accessed _ =>
      obtain ⟨_, hnone, -⟩ := hkey
      cases hnone
  | revoked r => exact own rfl rfl
  | removed r => exact own rfl rfl
  | reconciled r => exact own rfl rfl

end Ran

/-! ## Over a run -/

def ChangesUnder (svc : PreviewProofService) (key : JsString) (s : PreviewProofState)
    (a : Happening) : Prop :=
  ∃ request, a = .request request ∧ request.SentUnder key ∧ serviceStep svc s a ≠ s

/-- The request was sent under the key and is answered with the receipt. -/
def AnswersUnder (svc : PreviewProofService) (key : JsString) (receipt : ProofReceipt)
    (s : PreviewProofState) (a : Happening) : Prop :=
  ∃ request s', a = .request request ∧ request.SentUnder key ∧
    completes (svc.perform request) s = (.ok receipt, s')

def HasReceipt (key : JsString) (s : PreviewProofState) : Prop :=
  ∃ stored, s.operationReceipts.get key = some stored

theorem receipt_kept_step {key : JsString} {stored : StoredOperationReceipt}
    (h : s.operationReceipts.get key = some stored) (a : Happening) :
    (serviceStep svc s a).operationReceipts.get key = some stored := by
  refine serviceStep_keeps (P := fun s => s.operationReceipts.get key = some stored)
    (fun _ _ _ _ hs hran => hran.receipt_kept hs) (fun s e hs => ?_) s a h
  rw [environs_eq]
  exact hs

theorem receipt_kept_after {key : JsString} {stored : StoredOperationReceipt}
    (h : s.operationReceipts.get key = some stored) (acts : List Happening) :
    (Transition.run (serviceStep svc) s acts).operationReceipts.get key = some stored :=
  Transition.run_invariant
    (P := fun s : PreviewProofState => s.operationReceipts.get key = some stored)
    (fun _ a hs => receipt_kept_step hs a) h acts

theorem ChangesUnder.hasReceipt {key : JsString} {a : Happening}
    (h : ChangesUnder svc key s a) : HasReceipt key (serviceStep svc s a) := by
  obtain ⟨request, rfl, hkey, hchanged⟩ := h
  obtain hsame | ⟨_, receipt, hrequest, hrun⟩ | ⟨_, henvirons, -⟩ :=
    serviceStep_cases svc s (.request request)
  · exact absurd hsame hchanged
  · obtain rfl := Happening.request.inj hrequest
    obtain ⟨stored, hstored, -⟩ := (perform_cases hrun).answers hkey (.inl hchanged)
    exact ⟨stored, hstored⟩
  · cases henvirons

theorem HasReceipt.step {key : JsString} (h : HasReceipt key s) (a : Happening) :
    HasReceipt key (serviceStep svc s a) := by
  obtain ⟨stored, hstored⟩ := h
  exact ⟨stored, receipt_kept_step hstored a⟩

theorem HasReceipt.not_changes {key : JsString} (h : HasReceipt key s) (a : Happening) :
    ¬ ChangesUnder svc key s a := by
  obtain ⟨stored, hstored⟩ := h
  rintro ⟨request, rfl, hkey, hchanged⟩
  obtain hsame | ⟨_, receipt, hrequest, hrun⟩ | ⟨_, henvirons, -⟩ :=
    serviceStep_cases svc s (.request request)
  · exact hchanged hsame
  · obtain rfl := Happening.request.inj hrequest
    exact hchanged ((perform_cases hrun).of_answered hkey hstored).1
  · cases henvirons

/-- What a run keeps under every key. -/
structure AnsweredOnce (svc : PreviewProofService) (s : PreviewProofState) : Prop where
  changesOnce : ∀ key acts,
    Transition.AtMostOnce (serviceStep svc) (ChangesUnder svc key) s acts
  sameAnswer : ∀ key acts a between b receipt receipt',
    AnswersUnder svc key receipt (Transition.run (serviceStep svc) s acts) a →
    AnswersUnder svc key receipt'
      (Transition.run (serviceStep svc) s (acts ++ a :: between)) b →
    Effective receipt → Effective receipt' →
    receipt' = { receipt with replayed := true }

/-- From any state, of the requests under one key one at most changes the state, and the later
of two that are not refused gets the receipt of the earlier one again. -/
theorem answeredOnce (svc : PreviewProofService) (s : PreviewProofState) :
    AnsweredOnce svc s where
  changesOnce key acts :=
    Transition.atMostOnce_of_spent (P := fun _ => True) (HasReceipt key) (fun _ _ _ => trivial)
      (fun _ _ _ h => h.hasReceipt) (fun _ a _ h => h.step a) (fun _ a _ h => h.not_changes a)
      trivial acts
  sameAnswer := by
    rintro key acts _ between _ receipt receipt' ⟨request, s₁, rfl, hkey, hrun⟩
      ⟨request', s₂, rfl, hkey', hrun'⟩ heffective heffective'
    obtain ⟨stored, hstored, hanswer⟩ := (perform_cases hrun).answers hkey (.inr heffective)
    rw [Transition.run_append, Transition.run_cons, serviceStep_of_run hrun] at hrun'
    have hkept : (Transition.run (serviceStep svc) s₁ between).operationReceipts.get key =
        some stored := receipt_kept_after hstored between
    obtain hrefusal | hreplayed := ((perform_cases hrun').of_answered hkey' hkept).2
    · exact absurd heffective' hrefusal.not_effective
    · rw [hreplayed, ← hanswer]

end PreviewProof

end Aico
