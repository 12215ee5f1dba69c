import Aico.SandboxSpike.SandboxProofService

/-!
# One start for a logical key

The receipt of a key is what keeps its sandbox from a second start, and it is stored only
when the adapter has answered. So a key is unsettled while its call waits, and for good
where the adapter threw. Where no request comes under an unsettled key, a key is started at
most once, and its receipt answers every later request.
-/

namespace Aico

namespace SandboxProof

open SandboxProofService

namespace SandboxProofService

variable {pf : Platform} {now : ℤ} {request : SandboxProofRequest} {receiptId : JsString}
  {s : SandboxProofService}

theorem execute_of_stored {stored : StoredReceipt}
    (h : s.receipts.get request.logicalIdempotencyKey = some stored) :
    execute pf now request receiptId s = (replay pf request stored, s) := by
  have hread : (Prog.gets fun s => s.receipts.get request.logicalIdempotencyKey :
      ServiceProg _) s = (.ok (some stored), s) := by
    rw [Prog.gets, h]
  rw [execute, Prog.bind_of_ok hread]
  rfl

theorem execute_of_none (now : ℤ) (receiptId : JsString)
    (h : s.receipts.get request.logicalIdempotencyKey = none) :
    (∃ receipt, execute pf now request receiptId s =
        (.ok (.returned receipt),
          { ledger := { s.ledger with policyDenials := s.ledger.policyDenials + 1 }
            receipts := s.receipts.set request.logicalIdempotencyKey
              ⟨requestDigest pf request, receipt⟩ })) ∨
      execute pf now request receiptId s =
        (.ok (.invoking ⟨request, requestDigest pf request⟩),
          { s with ledger := { s.ledger with
              sandboxStarts := s.ledger.sandboxStarts + 1
              commandStarts := s.ledger.commandStarts + 1
              budgetReservations := s.ledger.budgetReservations + 1 } }) := by
  have hread : (Prog.gets fun s => s.receipts.get request.logicalIdempotencyKey :
      ServiceProg _) s = (.ok none, s) := by
    rw [Prog.gets, h]
  rw [execute, Prog.bind_of_ok hread]
  dsimp only
  rcases assertAdmitted pf now request with reason | ⟨⟩
  · exact .inl ⟨_, rfl⟩
  · exact .inr rfl

theorem ledger_execute_ne (now : ℤ) (receiptId : JsString)
    (h : s.receipts.get request.logicalIdempotencyKey = none) :
    (execute pf now request receiptId s).2.ledger ≠ s.ledger := by
  intro heq
  rcases execute_of_none now receiptId h with ⟨receipt, hrun⟩ | hrun
  · rw [hrun] at heq
    have hdenials := congrArg SideEffectLedger.policyDenials heq
    simp at hdenials
  · rw [hrun] at heq
    have hstarts := congrArg SideEffectLedger.sandboxStarts heq
    simp at hstarts

end SandboxProofService

namespace Sandbox

variable {pf : Platform} {s s' : Sandbox} {act : SandboxAction} {key : JsString}

def starts (s : Sandbox) (key : JsString) : ℕ :=
  s.adapterCalls.countP fun request => request.logicalIdempotencyKey = key

/-- The adapter was called under the key, and there is no receipt of it. -/
def Unsettled (s : Sandbox) (key : JsString) : Prop :=
  0 < s.starts key ∧ s.service.receipts.has key = false

instance : Decidable (Unsettled s key) := inferInstanceAs (Decidable (_ ∧ _))

def StartsSettled (s : Sandbox) : SandboxAction → Prop
  | .execute k request _ => (s.calls k).isNone → ¬ s.Unsettled request.logicalIdempotencyKey
  | _ => True

instance : ∀ act, Decidable (StartsSettled s act)
  | .execute .. => inferInstanceAs (Decidable (_ → _))
  | .answered .. | .failed _ | .wait _ => isTrue trivial

/-- Every request under the key is answered from the receipt or refused, and changes
nothing. -/
def AnsweredFrom (pf : Platform) (s : Sandbox) (key : JsString) (stored : StoredReceipt) :
    Prop :=
  ∀ now request receiptId, request.logicalIdempotencyKey = key →
    execute pf now request receiptId s.service =
      (if requestDigest pf request = stored.requestDigest then
          .ok (.returned { stored.receipt with replayed := true })
        else .error .idempotencyConflict, s.service)

theorem answeredFrom_of_stored {stored : StoredReceipt}
    (h : s.service.receipts.get key = some stored) : AnsweredFrom pf s key stored := by
  rintro now request receiptId rfl
  rw [execute_of_stored h, replay]
  by_cases hdigest : requestDigest pf request = stored.requestDigest
  · rw [if_pos hdigest, if_neg (not_not.mpr hdigest.symm)]
  · rw [if_neg hdigest, if_pos (Ne.symm hdigest)]

/-- What a step does to the receipts and the calls. -/
inductive Changes (pf : Platform) (s s' : Sandbox) : SandboxAction → Prop
  | kept {act : SandboxAction} (hreceipts : s'.service.receipts = s.service.receipts)
      (hadapter : s'.adapterCalls = s.adapterCalls)
      (hcalls : ∀ k frame, s'.calls k = some frame → s.calls k = some frame) :
      Changes pf s s' act
  | denied {k : ℕ} {request : SandboxProofRequest} {receiptId : JsString}
      {receipt : SandboxProofReceipt} (hfree : s.calls k = none)
      (hnone : s.service.receipts.get request.logicalIdempotencyKey = none)
      (hreceipts : s'.service.receipts = s.service.receipts.set request.logicalIdempotencyKey
        ⟨requestDigest pf request, receipt⟩)
      (hadapter : s'.adapterCalls = s.adapterCalls) (hcalls : s'.calls = s.calls) :
      Changes pf s s' (.execute k request receiptId)
  | started {k : ℕ} {request : SandboxProofRequest} {receiptId : JsString}
      (hfree : s.calls k = none)
      (hnone : s.service.receipts.get request.logicalIdempotencyKey = none)
      (hreceipts : s'.service.receipts = s.service.receipts)
      (hadapter : s'.adapterCalls = request :: s.adapterCalls)
      (hcalls : s'.calls =
        Function.update s.calls k (some ⟨request, requestDigest pf request⟩)) :
      Changes pf s s' (.execute k request receiptId)
  | answered {k : ℕ} {answer : SandboxAdapterReceipt} {receiptId : JsString}
      {frame : SandboxFrame} (hcall : s.calls k = some frame)
      (hreceipts : s'.service.receipts =
        s.service.receipts.set frame.request.logicalIdempotencyKey
          ⟨frame.requestDigest, answeredReceipt pf frame answer receiptId⟩)
      (hadapter : s'.adapterCalls = s.adapterCalls)
      (hcalls : s'.calls = Function.update s.calls k none) :
      Changes pf s s' (.answered k answer receiptId)

theorem calls_of_ended {k k' : ℕ} {frame : SandboxFrame}
    (h : Function.update s.calls k none k' = some frame) : k' ≠ k ∧ s.calls k' = some frame := by
  rw [Function.update_apply] at h
  split at h
  · cases h
  · next hne => exact ⟨hne, h⟩

theorem changes (s : Sandbox) (act : SandboxAction) : Changes pf s (s.step pf act) act := by
  cases act with
  | execute k request receiptId =>
      rw [step]
      split
      · next hfree =>
          unfold startExecute
          rcases hget : s.service.receipts.get request.logicalIdempotencyKey with _ | stored
          · rcases execute_of_none s.now receiptId hget with
              ⟨receipt, hrun⟩ | hrun
            · rw [hrun]
              exact .denied hfree hget rfl rfl rfl
            · rw [hrun]
              exact .started hfree hget rfl rfl rfl
          · rw [execute_of_stored hget]
            split
            · next heq =>
                unfold replay at heq
                split at heq <;> cases heq
            · next heq =>
                cases heq
                exact .kept rfl rfl fun _ _ hk => hk
      · exact .kept rfl rfl fun _ _ hk => hk
  | answered k answer receiptId =>
      rw [step]
      split
      · next hcall => exact .answered hcall rfl rfl rfl
      · exact .kept rfl rfl fun _ _ hk => hk
  | failed k => exact .kept rfl rfl fun _ _ hk => (calls_of_ended hk).2
  | wait duration => exact .kept rfl rfl fun _ _ hk => hk

/-- What holds where no request came under an unsettled key. -/
structure StartsInv (pf : Platform) (s : Sandbox) : Prop where
  once : ∀ key, s.starts key ≤ 1
  waiting : ∀ k frame, s.calls k = some frame →
    s.Unsettled frame.request.logicalIdempotencyKey
  digest : ∀ k frame, s.calls k = some frame →
    frame.requestDigest = requestDigest pf frame.request
  alone : ∀ k k' frame frame', s.calls k = some frame → s.calls k' = some frame' →
    frame.request.logicalIdempotencyKey = frame'.request.logicalIdempotencyKey → k = k'

theorem startsInv_initial (receipts : List (JsString × StoredReceipt)) (now : ℤ) :
    StartsInv pf (initial receipts now) where
  once _ := Nat.zero_le 1
  waiting _ _ hk := by cases hk
  digest _ _ hk := by cases hk
  alone _ _ _ _ hk := by cases hk

/-- The calls that waited and still wait keep the invariant, where their keys stay
unsettled. -/
theorem StartsInv.of_calls (h : StartsInv pf s) (hadapter : s'.adapterCalls = s.adapterCalls)
    (hcalls : ∀ k frame, s'.calls k = some frame → s.calls k = some frame)
    (hreceipts : ∀ k frame, s'.calls k = some frame →
      s'.service.receipts.get frame.request.logicalIdempotencyKey =
        s.service.receipts.get frame.request.logicalIdempotencyKey) : StartsInv pf s' where
  once key := by
    rw [starts, hadapter]
    exact h.once key
  waiting k frame hk := by
    obtain ⟨hstarted, hnone⟩ := h.waiting k frame (hcalls k frame hk)
    refine ⟨?_, ?_⟩
    · rw [starts, hadapter]
      exact hstarted
    · rw [JsMap.has_eq_false, hreceipts k frame hk]
      exact JsMap.has_eq_false.mp hnone
  digest k frame hk := h.digest k frame (hcalls k frame hk)
  alone k k' frame frame' hk hk' :=
    h.alone k k' frame frame' (hcalls k frame hk) (hcalls k' frame' hk')

theorem starts_eq_zero (h : ¬ s.Unsettled key) (hnone : s.service.receipts.get key = none) :
    s.starts key = 0 := by
  by_contra hstarts
  exact h ⟨Nat.pos_of_ne_zero hstarts, JsMap.has_eq_false.mpr hnone⟩

theorem startsInv_of_changes (hchanges : Changes pf s s' act) (h : StartsInv pf s)
    (hsettled : s.StartsSettled act) : StartsInv pf s' := by
  cases hchanges with
  | kept hreceipts hadapter hcalls =>
      exact h.of_calls hadapter hcalls fun _ _ _ => by rw [hreceipts]
  | @denied k request receiptId receipt hfree hnone hreceipts hadapter hcalls =>
      have hzero := starts_eq_zero (hsettled (by rw [hfree]; rfl)) hnone
      refine h.of_calls hadapter (fun _ _ hk => hcalls ▸ hk) fun k' frame hk => ?_
      rw [hreceipts]
      refine JsMap.get_set_of_ne fun heq => ?_
      have hstarted := (h.waiting k' frame (hcalls ▸ hk)).1
      rw [heq, hzero] at hstarted
      exact Nat.lt_irrefl 0 hstarted
  | @started k request receiptId hfree hnone hreceipts hadapter hcalls =>
      have hzero := starts_eq_zero (hsettled (by rw [hfree]; rfl)) hnone
      have hstarts (key : JsString) : s'.starts key =
          s.starts key + if request.logicalIdempotencyKey = key then 1 else 0 := by
        rw [starts, hadapter, List.countP_cons, starts]
        simp
      have hforeign {k' : ℕ} {frame : SandboxFrame} (hk' : s.calls k' = some frame) :
          frame.request.logicalIdempotencyKey ≠ request.logicalIdempotencyKey := by
        intro heq
        have hstarted := (h.waiting k' frame hk').1
        rw [heq, hzero] at hstarted
        exact Nat.lt_irrefl 0 hstarted
      have hframe {k' : ℕ} {frame : SandboxFrame} (hk' : s'.calls k' = some frame) :
          k' = k ∧ frame = ⟨request, requestDigest pf request⟩ ∨ s.calls k' = some frame := by
        rw [hcalls, Function.update_apply] at hk'
        split at hk'
        · next heq => exact .inl ⟨heq, (Option.some.inj hk').symm⟩
        · exact .inr hk'
      refine ⟨fun key => ?_, fun k' frame hk' => ?_, fun k' frame hk' => ?_,
        fun k₁ k₂ frame₁ frame₂ hk₁ hk₂ heq => ?_⟩
      · rw [hstarts]
        split
        · next heq => rw [← heq, hzero]
        · exact h.once key
      · rw [Unsettled, hstarts, hreceipts]
        rcases hframe hk' with ⟨-, rfl⟩ | hold
        · exact ⟨by simp, JsMap.has_eq_false.mpr hnone⟩
        · obtain ⟨hstarted, hunstored⟩ := h.waiting k' frame hold
          exact ⟨Nat.lt_add_right _ hstarted, hunstored⟩
      · rcases hframe hk' with ⟨-, rfl⟩ | hold
        · rfl
        · exact h.digest k' frame hold
      · rcases hframe hk₁ with ⟨hnew₁, rfl⟩ | hold₁ <;> rcases hframe hk₂ with ⟨hnew₂, rfl⟩ | hold₂
        · rw [hnew₁, hnew₂]
        · exact absurd heq.symm (hforeign hold₂)
        · exact absurd heq (hforeign hold₁)
        · exact h.alone k₁ k₂ frame₁ frame₂ hold₁ hold₂ heq
  | @answered k answer receiptId frame hcall hreceipts hadapter hcalls =>
      refine h.of_calls hadapter (fun k' frame' hk' => ?_) fun k' frame' hk' => ?_
      · rw [hcalls] at hk'
        exact (calls_of_ended hk').2
      · rw [hcalls] at hk'
        obtain ⟨hne, hold⟩ := calls_of_ended hk'
        rw [hreceipts]
        exact JsMap.get_set_of_ne fun heq => hne (h.alone k' k frame' frame hold hcall heq)

theorem stored_of_changes (hchanges : Changes pf s s' act) (h : StartsInv pf s)
    {stored : StoredReceipt} (hstored : s.service.receipts.get key = some stored) :
    s'.service.receipts.get key = some stored := by
  cases hchanges with
  | kept hreceipts => rw [hreceipts, hstored]
  | denied _ hnone hreceipts =>
      rw [hreceipts, JsMap.get_set_of_ne, hstored]
      rintro rfl
      rw [hnone] at hstored
      cases hstored
  | started _ _ hreceipts => rw [hreceipts, hstored]
  | answered hcall hreceipts =>
      rw [hreceipts, JsMap.get_set_of_ne, hstored]
      rintro rfl
      rw [JsMap.has_eq_false.mp (h.waiting _ _ hcall).2] at hstored
      cases hstored

theorem startsInv_run {acts : List SandboxAction} (h : StartsInv pf s)
    (hsettled : Transition.EachStep (fun s => s.step pf) StartsSettled s acts) :
    StartsInv pf (s.after pf acts) :=
  Transition.run_invariant_of_eachStep
    (fun s act hs hact => startsInv_of_changes (changes s act) hs hact) h hsettled

theorem stored_run {acts : List SandboxAction} (h : StartsInv pf s)
    (hsettled : Transition.EachStep (fun s => s.step pf) StartsSettled s acts)
    {stored : StoredReceipt} (hstored : s.service.receipts.get key = some stored) :
    (s.after pf acts).service.receipts.get key = some stored := by
  induction acts generalizing s with
  | nil => exact hstored
  | cons act acts ih =>
      have hchanges : Changes pf s (s.step pf act) act := changes s act
      exact ih (startsInv_of_changes hchanges h hsettled.1) hsettled.2
        (stored_of_changes hchanges h hstored)

/-- A key that was started answers its requests from a receipt exactly while it is not
unsettled. Where no request comes under an unsettled key, the adapter is called at most once
under a key, and the receipt of that call answers every later request. -/
theorem sandbox_starts_once (pf : Platform) (receipts : List (JsString × StoredReceipt))
    (now : ℤ) (acts : List SandboxAction) :
    let start := initial receipts now
    let s := start.after pf acts
    (∀ called ∈ s.adapterCalls,
      (∃ stored, AnsweredFrom pf s called.logicalIdempotencyKey stored) ↔
        ¬ s.Unsettled called.logicalIdempotencyKey) ∧
    (Transition.EachStep (fun s => s.step pf) StartsSettled start acts →
      (∀ key, s.starts key ≤ 1) ∧
      ∀ before k answer receiptId since frame,
        acts = before ++ .answered k answer receiptId :: since →
        (start.after pf before).calls k = some frame →
        AnsweredFrom pf s frame.request.logicalIdempotencyKey
          ⟨requestDigest pf frame.request, answeredReceipt pf frame answer receiptId⟩) := by
  intro start s
  refine ⟨fun called hcalled => ⟨?_, fun hsettled => ?_⟩, fun hsettled => ⟨?_, ?_⟩⟩
  · rintro ⟨stored, hanswered⟩ ⟨-, hnone⟩
    have hcounted : (SandboxProofService.execute pf 0 called [] s.service).2.ledger ≠
        s.service.ledger := ledger_execute_ne 0 [] (JsMap.has_eq_false.mp hnone)
    rw [hanswered 0 called [] rfl] at hcounted
    exact hcounted rfl
  · have hstarted : 0 < s.starts called.logicalIdempotencyKey :=
      List.countP_pos_iff.mpr ⟨called, hcalled, by simp⟩
    rcases hget : s.service.receipts.get called.logicalIdempotencyKey with _ | stored
    · exact absurd ⟨hstarted, JsMap.has_eq_false.mpr hget⟩ hsettled
    · exact ⟨stored, answeredFrom_of_stored hget⟩
  · exact (startsInv_run (startsInv_initial receipts now) hsettled).once
  · rintro before k answer receiptId since frame rfl hcall
    obtain ⟨hbefore, hanswer, hsince⟩ := (Transition.eachStep_append _ _ _ _ _).mp hsettled
    have hinv : StartsInv pf (start.after pf before) :=
      startsInv_run (startsInv_initial receipts now) hbefore
    let answered := (start.after pf before).step pf (.answered k answer receiptId)
    have hstored : answered.service.receipts.get frame.request.logicalIdempotencyKey =
        some ⟨requestDigest pf frame.request, answeredReceipt pf frame answer receiptId⟩ := by
      rw [← hinv.digest k frame hcall]
      simp only [answered, step, hcall]
      exact JsMap.get_set_self
    have hs : s = answered.after pf since := Transition.run_append _ _ _ _
    rw [hs]
    exact answeredFrom_of_stored
      (stored_run (startsInv_of_changes (changes _ _) hinv hanswer) hsince hstored)

def demoPlatform : Platform where
  contentDigest content := content.companyId
  filesDigest _ := []
  dateParse _ := none
  toISOString _ := []

def demoRequest : SandboxProofRequest where
  companyId := [2]
  runId := []
  taskId := []
  attemptId := []
  workspaceId := []
  currentCompanyId := [2]
  approvedGateId := []
  currentGateId := []
  gateStatus := .approved
  designVersionId := []
  approvedDesignVersionId := []
  templateArchiveDigest := []
  acceptedTemplateArchiveDigest := []
  dependencyBundleDigest := []
  acceptedDependencyBundleDigest := []
  lockfileDigest := []
  acceptedLockfileDigest := []
  commandId := js "LINT"
  commandBindingDigest := []
  expectedCommandBindingDigest := []
  workingDirectory := js "a"
  writablePaths := []
  inputPaths := []
  environment := []
  networkMode := .none
  resourceLimits := ⟨.ofNat 1, .ofNat 1, .ofNat 1, .ofNat 1, .ofNat 1, .ofNat 1, .ofNat 1,
    .ofNat 1, .ofNat 1⟩
  outputPolicy := ⟨[js "dist"], [], .ofNat 1, .ofNat 1⟩
  cancellationGeneration := 1
  expectedCancellationGeneration := 1
  expiresAt := []
  manifestDigest := []
  executionProfile := .build
  caseId := []
  logicalIdempotencyKey := [1]

def demoAnswer : SandboxAdapterReceipt :=
  ⟨.succeeded, nofun, none, [], [], [], none, true, [], 0, 0⟩

def demoSettled : List SandboxAction :=
  [.execute 0 demoRequest [], .answered 0 demoAnswer [3], .execute 1 demoRequest []]

theorem sandbox_starts_once_demo :
    ((initial [] 0).after demoPlatform demoSettled).starts [1] = 1 ∧
      ∃ receipt, AnsweredFrom demoPlatform ((initial [] 0).after demoPlatform demoSettled) [1]
        ⟨[2], receipt⟩ := by
  refine ⟨by decide, answeredReceipt demoPlatform ⟨demoRequest, [2]⟩ demoAnswer [3], ?_⟩
  exact ((sandbox_starts_once demoPlatform [] 0 demoSettled).2 (by decide)).2
    [.execute 0 demoRequest []] 0 demoAnswer [3] [.execute 1 demoRequest []]
    ⟨demoRequest, [2]⟩ rfl rfl

/-- A second request comes while the first one waits, or after the adapter threw; a request
with another digest starts as well. -/
theorem sandbox_starts_once_fails :
    ((initial [] 0).after demoPlatform
      [.execute 0 demoRequest [], .execute 1 demoRequest []]).starts [1] = 2 ∧
    ((initial [] 0).after demoPlatform
      [.execute 0 demoRequest [], .failed 0, .execute 0 demoRequest []]).starts [1] = 2 ∧
    ((initial [] 0).after demoPlatform [.execute 0 demoRequest [],
      .execute 1 { demoRequest with companyId := [4], currentCompanyId := [4] } []]).starts [1] =
        2 := by
  decide

end Sandbox

end SandboxProof

end Aico
