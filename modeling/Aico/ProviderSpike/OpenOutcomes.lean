import Aico.ProviderSpike.CommitBookkeeping

/-!
# What a duplicate is told

A request under a key that is reserved is told the state of its record: a commit is a
success, a record that waits for a reconciliation is unknown, a canceled one is canceled,
and every other one has failed. So while nothing is known of the outcome, a duplicate
hears of a failure where the first execution still waits, and where an answer has blocked
or failed the record.
-/

namespace Aico

open InMemoryProviderRuntimeStore ProviderRuntimeProof

namespace InMemoryProviderRuntimeStore

/-- A new attempt may start. -/
def MayStart (s : InMemoryProviderRuntimeStore) (configurationDigest : Digest)
    (halfOpenProbe : Bool) : Prop :=
  let target := s.targetState configurationDigest
  ¬ (target.killed ∨ target.circuit = .opened) ∧
    if target.circuit = .halfOpen then halfOpenProbe ∧ target.halfOpenProbeAvailable
    else s.activeConfigurationDigest = none ∨ s.activeConfigurationDigest = some configurationDigest

theorem canStartNewAttempt_eq (s : InMemoryProviderRuntimeStore) (configurationDigest : Digest)
    (halfOpenProbe : Bool) :
    ∃ started, (canStartNewAttempt configurationDigest halfOpenProbe s).1 = .ok started ∧
      (started = true ↔ s.MayStart configurationDigest halfOpenProbe) := by
  unfold canStartNewAttempt MayStart
  rw [Prog.bind_of_ok (show (Prog.gets _ : StoreProg _) s = (.ok _, s) from rfl),
    Prog.bind_of_ok (show (Prog.gets _ : StoreProg _) s = (.ok _, s) from rfl)]
  dsimp only
  by_cases hclosed : (s.targetState configurationDigest).killed = true ∨
      (s.targetState configurationDigest).circuit = .opened
  · rw [if_pos hclosed]
    exact ⟨false, rfl, iff_of_false Bool.false_ne_true fun h => h.1 hclosed⟩
  rw [if_neg hclosed]
  by_cases hhalf : (s.targetState configurationDigest).circuit = .halfOpen
  · rw [if_pos hhalf, if_pos hhalf]
    by_cases hprobe : halfOpenProbe = true ∧
        (s.targetState configurationDigest).halfOpenProbeAvailable = true
    · rw [if_pos hprobe]
      exact ⟨true, rfl, iff_of_true rfl ⟨hclosed, hprobe⟩⟩
    · rw [if_neg hprobe]
      exact ⟨false, rfl, iff_of_false Bool.false_ne_true fun h => hprobe h.2⟩
  · rw [if_neg hhalf, if_neg hhalf]
    refine ⟨_, rfl, decide_eq_true_iff.trans ?_⟩
    exact ⟨fun hactive => ⟨hclosed, hactive⟩, fun h => h.2⟩

end InMemoryProviderRuntimeStore

namespace ProviderRuntimeProof

def IsPreCanceled (configuration : ModelProviderConfiguration)
    (request : ModelProviderInvocationRequest) (options : ProofExecutionOptions) : Prop :=
  ¬ (request.environment = js "STAGING" ∨ request.environment = js "PRODUCTION") ∧
    ¬ (request.providerKey ≠ js "DETERMINISTIC_FIXTURE" ∨
      configuration.providerKey ≠ js "DETERMINISTIC_FIXTURE") ∧
    options.preCanceled = true

def IsOpenStatus (status : ProviderResultStatus) : Prop := status = .unknown ∨ status = .canceled

instance (status : ProviderResultStatus) : Decidable (IsOpenStatus status) :=
  inferInstanceAs (Decidable (_ ∨ _))

variable {checks : RuntimeChecks} {now : ℤ} {configuration : ModelProviderConfiguration}
  {targetDecision : ModelProviderTargetDecision} {request : ModelProviderInvocationRequest}
  {options : ProofExecutionOptions} {receipt : ProofExecutionReceipt}
  {s s' : InMemoryProviderRuntimeStore}

theorem not_isOpenStatus_failureReceipt (request : ModelProviderInvocationRequest)
    (reasonClass : String) : ¬ IsOpenStatus (failureReceipt request reasonClass).status := by
  simp [IsOpenStatus, failureReceipt]

theorem isOpenStatus_of_refusal
    (h : refusal checks now configuration targetDecision request options = some receipt) :
    IsOpenStatus receipt.status ↔ IsPreCanceled configuration request options := by
  have hfailed {reasonClass : String} (hreceipt : failureReceipt request reasonClass = receipt)
      (hcanceled : ¬ IsPreCanceled configuration request options) :
      IsOpenStatus receipt.status ↔ IsPreCanceled configuration request options := by
    rw [← hreceipt]
    exact iff_of_false (not_isOpenStatus_failureReceipt request reasonClass) hcanceled
  unfold refusal at h
  split at h
  · next henvironment => exact hfailed (Option.some.inj h) fun hcanceled => hcanceled.1 henvironment
  next henvironment =>
  split at h
  · next hprovider => exact hfailed (Option.some.inj h) fun hcanceled => hcanceled.2.1 hprovider
  next hprovider =>
  split at h
  · next hcanceled =>
      obtain rfl := Option.some.inj h
      exact iff_of_true (.inr rfl) ⟨henvironment, hprovider, hcanceled⟩
  next hcanceled =>
  have hnot : ¬ IsPreCanceled configuration request options := fun h => hcanceled h.2.2
  split at h
  · exact hfailed (Option.some.inj h) hnot
  split at h
  · exact hfailed (Option.some.inj h) hnot
  split at h
  · exact hfailed (Option.some.inj h) hnot
  · cases h

theorem not_isPreCanceled_of_admitted
    (h : refusal checks now configuration targetDecision request options = none) :
    ¬ IsPreCanceled configuration request options := by
  rintro ⟨henvironment, hprovider, hcanceled⟩
  unfold refusal at h
  rw [if_neg henvironment, if_neg hprovider, if_pos hcanceled] at h
  cases h

def TellsOpen (r : ProofInvocationRecord) : Prop :=
  r.state = .reconciliationRequired ∨ r.committedDigest = none ∧ r.state = .canceled

theorem isOpenStatus_duplicateReceipt {r : ProofInvocationRecord}
    (hstate : r.state ≠ .reconciliationRequired) :
    IsOpenStatus (duplicateReceipt r).status ↔ TellsOpen r := by
  unfold duplicateReceipt TellsOpen IsOpenStatus
  dsimp only
  by_cases hcommitted : r.committedDigest ≠ none
  · simp [hcommitted, hstate]
  · by_cases hcanceled : r.state = .canceled
    · simp [not_not.mp hcommitted, hcanceled]
    · simp [not_not.mp hcommitted, hcanceled, hstate]

/-- What a duplicate is told once its request has come to the store. -/
theorem reserveAndDispatch_duplicate {r : ProofInvocationRecord}
    (hfind : s.byLogicalKey request.logicalIdempotencyKey = some r)
    (hdigest : r.requestDigest = request.requestDigest)
    (hreturned : (reserveAndDispatch configuration request options s).1 =
      .ok (.returned receipt)) : IsOpenStatus receipt.status ↔ TellsOpen r := by
  have hread : (Prog.gets fun s => s.byLogicalKey request.logicalIdempotencyKey : StoreProg _) s =
      (.ok (some r), s) := by
    rw [Prog.gets, hfind]
  by_cases hstate : r.state = .reconciliationRequired
  · have hreserve : reserve request s = (.ok (.reconciliationRequired r), s) := by
      rw [reserve, Prog.bind_of_ok hread]
      dsimp only
      rw [if_neg (not_not.mpr hdigest), if_pos hstate]
      rfl
    rw [reserveAndDispatch, Prog.bind_of_ok hreserve] at hreturned
    obtain rfl : reconciliationRequiredReceipt r = receipt :=
      ExecuteStart.returned.inj (Except.ok.inj hreturned)
    exact iff_of_true (.inl rfl) (.inl hstate)
  · have hreserve : reserve request s = (.ok (.duplicate r), s) := by
      rw [reserve, Prog.bind_of_ok hread]
      dsimp only
      rw [if_neg (not_not.mpr hdigest), if_neg hstate]
      rfl
    rw [reserveAndDispatch, Prog.bind_of_ok hreserve] at hreturned
    obtain rfl : duplicateReceipt r = receipt :=
      ExecuteStart.returned.inj (Except.ok.inj hreturned)
    exact isOpenStatus_duplicateReceipt hstate

/-- What a duplicate is told: that it was canceled, or the state of its record where the
request is admitted. -/
theorem execute_duplicate {supplied : ModelProviderInvocationRequest}
    {r : ProofInvocationRecord}
    (hfind : s.byLogicalKey supplied.logicalIdempotencyKey = some r)
    (hdigest : r.requestDigest = supplied.requestDigest)
    (hreturned : (execute checks now configuration targetDecision supplied options s).1 =
      .ok (.returned receipt)) :
    IsOpenStatus receipt.status ↔
      IsPreCanceled configuration (preparedRequest supplied options) options ∨
      (refusal checks now configuration targetDecision (preparedRequest supplied options)
          options = none ∧
        s.MayStart configuration.configurationDigest options.halfOpenProbe) ∧ TellsOpen r := by
  unfold execute at hreturned
  rcases hboundary : checks.seededBoundarySource with code | ⟨⟩
  · rw [hboundary] at hreturned
    cases hreturned
  rw [hboundary] at hreturned
  dsimp only at hreturned
  cases hrefusal : refusal checks now configuration targetDecision
    (preparedRequest supplied options) options with
  | some refused =>
      rw [hrefusal] at hreturned
      obtain rfl : refused = receipt := ExecuteStart.returned.inj (Except.ok.inj hreturned)
      rw [isOpenStatus_of_refusal hrefusal]
      simp
  | none =>
      rw [hrefusal] at hreturned
      dsimp only at hreturned
      have hnot := not_isPreCanceled_of_admitted hrefusal
      by_cases hcanary : checks.requestContainsCanary (preparedRequest supplied options) = false
      swap
      · rw [Prog.ensure, if_neg hcanary] at hreturned
        cases hreturned
      rw [Prog.ensure, if_pos hcanary,
        Prog.bind_of_ok (rfl : (pure ⟨⟩ : StoreProg PUnit) s = (.ok ⟨⟩, s)),
        Prog.bind_apply] at hreturned
      have hkeeps := canStartNewAttempt_keeps configuration.configurationDigest
        options.halfOpenProbe s
      obtain ⟨started, hstarted, hmay⟩ := canStartNewAttempt_eq s configuration.configurationDigest
        options.halfOpenProbe
      rcases hrun : canStartNewAttempt configuration.configurationDigest
        options.halfOpenProbe s with ⟨outcome, s₁⟩
      rw [hrun] at hkeeps hstarted hreturned
      obtain rfl : outcome = .ok started := hstarted
      dsimp only at hreturned
      cases started with
      | false =>
          obtain rfl := ExecuteStart.returned.inj (Except.ok.inj hreturned)
          have hblocked : ¬ s.MayStart configuration.configurationDigest options.halfOpenProbe :=
            fun h => Bool.false_ne_true (hmay.mpr h)
          refine iff_of_false (not_isOpenStatus_failureReceipt _ _) ?_
          rintro (hcanceled | ⟨⟨-, hstart⟩, -⟩)
          · exact hnot hcanceled
          · exact hblocked hstart
      | true =>
          rw [if_neg (by decide)] at hreturned
          have hfind₁ : s₁.byLogicalKey
              (preparedRequest supplied options).logicalIdempotencyKey = some r := by
            rw [byLogicalKey, hkeeps.records]
            exact hfind
          have htells := reserveAndDispatch_duplicate hfind₁ hdigest hreturned
          rw [htells]
          exact ⟨fun hopen => .inr ⟨⟨rfl, hmay.mp rfl⟩, hopen⟩,
            fun h => (h.resolve_left hnot).2⟩

end ProviderRuntimeProof

def RuntimeCall.request : RuntimeCall → ModelProviderInvocationRequest
  | executing frame => frame.request
  | reconciling request _ => request

namespace ProviderRuntime

variable {checks : RuntimeChecks} {keyOf : JsString → JsString} {s s' : ProviderRuntime}
  {act : RuntimeAction}

/-- The request of the action, if it begins a call, names its key by its invocation. -/
def NamesKey (keyOf : JsString → JsString) : RuntimeAction → Prop
  | .execute _ request _ | .reconcile _ request =>
      keyOf request.invocationId = request.logicalIdempotencyKey
  | _ => True

def NamedCalls (keyOf : JsString → JsString) (s : ProviderRuntime) : Prop :=
  ∀ k call, s.calls k = some call →
    keyOf call.request.invocationId = call.request.logicalIdempotencyKey

theorem calls_of_ended {k k' : ℕ} {call : RuntimeCall}
    (h : (s.ended k).calls k' = some call) : s.calls k' = some call := by
  simp only [ended, Function.update_apply] at h
  split at h
  · cases h
  · exact h

theorem namedCalls_step (h : NamedCalls keyOf s) (hnames : NamesKey keyOf act) :
    NamedCalls keyOf (s.step checks act) := by
  have hbegun {k : ℕ} {call : RuntimeCall} {calls : ℕ → Option RuntimeCall}
      (hcalls : calls = Function.update s.calls k (some call))
      (hcall : keyOf call.request.invocationId = call.request.logicalIdempotencyKey) :
      ∀ k' call', calls k' = some call' →
        keyOf call'.request.invocationId = call'.request.logicalIdempotencyKey := by
    intro k' call' hk'
    rw [hcalls, Function.update_apply] at hk'
    split at hk'
    · cases hk'
      exact hcall
    · exact h k' call' hk'
  cases act with
  | execute k request options =>
      rw [step]
      split
      · unfold startExecute
        dsimp only
        rcases execute_cases (s := s.store) s.now s.activeConfiguration
          s.activeTargetDecision request options with ⟨hframe, -⟩ | ⟨hframe, -⟩
        · split
          · next frame heq => exact absurd heq (hframe frame)
          · exact h
        · rw [hframe]
          exact hbegun rfl hnames
      · exact h
  | reconcile k request =>
      rw [step]
      split
      · unfold startReconcile
        split
        · exact hbegun rfl hnames
        · exact h
      · exact h
  | invoked k answer | lookedUp k answer | lookupFailed k =>
      rw [step]
      split
      · exact fun k' call hk' => h k' call (calls_of_ended hk')
      · exact h
  | cancel | loseLease | markTerminal | beginRepair | applyConfiguration | applyTarget
  | setCircuit | setKilled | wait => exact h

/-- The adapter returns a bound result for the key that says what came of it. -/
def Decides (checks : RuntimeChecks) (key : JsString) (s : ProviderRuntime) : RuntimeAction → Prop
  | .invoked k answer => ∃ frame, s.calls k = some (.executing frame) ∧
      frame.request.logicalIdempotencyKey = key ∧
      ∃ result ∈ answer, IsBound checks frame result ∧ result.status ≠ .unknown
  | .lookedUp k answer => ∃ request before, s.calls k = some (.reconciling request before) ∧
      request.logicalIdempotencyKey = key ∧
      ∃ result ∈ answer,
        checks.assertRequestBindings request s.activeConfiguration s.activeTargetDecision = true ∧
        checks.assertResultBindings request result s.activeConfiguration = true ∧
        result.status ≠ .unknown
  | _ => False

/-- The record of a key whose outcome is open: its execution waits, or its answer has
left it unknown, blocked or failed. -/
structure OpenRecord (s : ProviderRuntime) (r : ProofInvocationRecord) : Prop where
  uncommitted : r.committedDigest = none
  state : s.Running r.invocationId ∧ r.state = .dispatching ∨
    ¬ s.Running r.invocationId ∧
      (r.state = .reconciliationRequired ∨ r.state = .blocked ∨ r.state = .failed)

theorem OpenRecord.of_running_iff {r r' : ProofInvocationRecord} (h : OpenRecord s r)
    (hdigest : r'.committedDigest = r.committedDigest) (hstate : r'.state = r.state)
    (hid : r'.invocationId = r.invocationId)
    (hrunning : s'.Running r.invocationId ↔ s.Running r.invocationId) : OpenRecord s' r' where
  uncommitted := hdigest.trans h.uncommitted
  state := by
    rw [hid, hrunning, hstate]
    exact h.state

/-- While the outcome is open, a record that waits for nothing tells a duplicate so, and
no other does. -/
theorem OpenRecord.tellsOpen_iff {r : ProofInvocationRecord} (h : OpenRecord s r) :
    TellsOpen r ↔ ¬ s.Running r.invocationId ∧ r.state ≠ .blocked ∧ r.state ≠ .failed := by
  unfold TellsOpen
  rcases h.state with ⟨hrunning, hstate⟩ | ⟨hidle, hstate | hstate | hstate⟩
  · simp [hrunning, hstate]
  · simp [hidle, hstate]
  · simp [hstate]
  · simp [hstate]

theorem state_of_settled {frame : ExecuteFrame} {r r' : ProofInvocationRecord} {n : ℕ}
    {answer : Option ModelProviderInvocationResult} (h : Settled checks frame r answer r' n)
    (hr : r.committedDigest = none) (hstate : r.state = .dispatching)
    (hundecided : ∀ result ∈ answer, IsBound checks frame result → result.status = .unknown) :
    r'.committedDigest = none ∧ (r'.state = .reconciliationRequired ∨ r'.state = .failed) := by
  cases h with
  | rejected => exact ⟨hr, .inl rfl⟩
  | dropped => exact ⟨hr, .inr rfl⟩
  | @recorded result hkept =>
      have hstatus := hundecided result rfl hkept.1
      refine ⟨(withResult_committedDigest result r).trans hr, .inl ?_⟩
      simp [withResult, hstate, hstatus]
  | retried hkept hstatus =>
      rw [hundecided _ rfl hkept.1] at hstatus
      cases hstatus
  | invalid hkept hstatus =>
      rw [hundecided _ rfl hkept.1] at hstatus
      cases hstatus
  | committed hkept hstatus =>
      rw [hundecided _ rfl hkept.1] at hstatus
      cases hstatus
  | fenced hkept hstatus =>
      rw [hundecided _ rfl hkept.1] at hstatus
      cases hstatus

theorem bindings_of_candidate {configuration : ModelProviderConfiguration}
    {targetDecision : ModelProviderTargetDecision} {request : ModelProviderInvocationRequest}
    {result : ModelProviderInvocationResult}
    {candidate : Option (CandidateValidationResult × Json)}
    (h : reconciledCandidate checks configuration targetDecision request result =
      some candidate) :
    checks.assertRequestBindings request configuration targetDecision = true ∧
      checks.assertResultBindings request result configuration = true := by
  unfold reconciledCandidate at h
  split at h
  · cases h
  next hbound =>
  simp only [not_or, Bool.not_eq_false] at hbound
  exact ⟨hbound.1, hbound.2.1⟩

theorem state_of_reconciled {configuration : ModelProviderConfiguration}
    {targetDecision : ModelProviderTargetDecision} {request : ModelProviderInvocationRequest}
    {before r r' : ProofInvocationRecord} {n : ℕ}
    {answer : Option ModelProviderInvocationResult}
    (h : Reconciled checks configuration targetDecision request before r answer r' n)
    (hr : r.committedDigest = none)
    (hundecided : ∀ result ∈ answer,
      checks.assertRequestBindings request configuration targetDecision = true →
      checks.assertResultBindings request result configuration = true →
      result.status = .unknown) :
    r'.committedDigest = none ∧ (r'.state = .reconciliationRequired ∨ r'.state = .blocked) := by
  cases h with
  | blocked => exact ⟨hr, .inr rfl⟩
  | @recorded result candidate hunfenced hcandidate hstatus =>
      have hbound := bindings_of_candidate hcandidate
      have hunknown := hundecided result rfl hbound.1 hbound.2
      refine ⟨(reconciled_committedDigest _ r).trans hr, .inl ?_⟩
      simp [reconciled, hunknown]
  | committed _ hunfenced hcandidate hstatus =>
      have hbound := bindings_of_candidate hcandidate
      rw [hundecided _ rfl hbound.1 hbound.2] at hstatus
      cases hstatus
  | fenced hunfenced hcandidate hstatus =>
      have hbound := bindings_of_candidate hcandidate
      rw [hundecided _ rfl hbound.1 hbound.2] at hstatus
      cases hstatus

theorem running_iff_of_ended {k : ℕ} {invocationId : JsString}
    (hcalls : s'.calls = Function.update s.calls k none)
    (hother : ∀ frame, s.calls k = some (.executing frame) →
      frame.request.invocationId ≠ invocationId) :
    s'.Running invocationId ↔ s.Running invocationId := by
  constructor
  · rintro ⟨k', frame, hk', hid⟩
    rw [hcalls, Function.update_apply] at hk'
    split at hk'
    · cases hk'
    · exact ⟨k', frame, hk', hid⟩
  · rintro ⟨k', frame, hk', hid⟩
    refine ⟨k', frame, ?_, hid⟩
    rw [hcalls, Function.update_of_ne, hk']
    rintro rfl
    exact hother frame hk' hid

namespace OpenRecord

variable {r r' : ProofInvocationRecord} {k n : ℕ}

/-- A step that changes no record may start nothing for a stored one, and ends nothing for it. -/
theorem kept (h : OpenRecord s r) (hinv : DispatchInv keyOf s) (hr : r ∈ s.store.records)
    (hcalls : ∀ k frame, s'.calls k = some (.executing frame) →
      s.calls k = some (.executing frame))
    (hwaits : ∀ k frame, s.calls k = some (.executing frame) →
      s'.calls k = some (.executing frame) ∨
        s.store.byInvocation frame.request.invocationId = none) : OpenRecord s' r := by
  refine h.of_running_iff rfl rfl rfl ⟨?_, ?_⟩
  · rintro ⟨k, frame, hk, hid⟩
    exact ⟨k, frame, hcalls k frame hk, hid⟩
  · rintro ⟨k, frame, hk, hid⟩
    refine ⟨k, frame, (hwaits k frame hk).resolve_right fun hmissing => ?_, hid⟩
    rw [hinv.byInvocation_eq_some.mpr ⟨hr, hid.symm⟩] at hmissing
    cases hmissing

theorem dispatched {frame : ExecuteFrame} (h : OpenRecord s r) (hfree : s.calls k = none)
    (hcalls : s'.calls = Function.update s.calls k (some (.executing frame)))
    (hne : frame.request.invocationId ≠ r.invocationId) : OpenRecord s' r := by
  refine h.of_running_iff rfl rfl rfl ⟨?_, ?_⟩
  · rintro ⟨k', frame', hk', hid⟩
    rw [hcalls, Function.update_apply] at hk'
    split at hk'
    · cases hk'
      exact absurd hid hne
    · exact ⟨k', frame', hk', hid⟩
  · rintro ⟨k', frame', hk', hid⟩
    refine ⟨k', frame', ?_, hid⟩
    rw [hcalls, Function.update_of_ne, hk']
    rintro rfl
    simp [hfree] at hk'

/-- The execution of the record ends undecided. -/
theorem settled {answer : Option ModelProviderInvocationResult} {frame : ExecuteFrame}
    (h : OpenRecord s r) (hinv : DispatchInv keyOf s) (hnamed : NamedCalls keyOf s)
    (hcall : s.calls k = some (.executing frame)) (hsettled : Settled checks frame r answer r' n)
    (hbecomes : Becomes frame.request.invocationId r r' n s.store s'.store)
    (hcalls : s'.calls = Function.update s.calls k none)
    (hundecided : ¬ Decides checks r.logicalKey s (.invoked k answer)) : OpenRecord s' r' := by
  have hrid := invocationId_of_found hbecomes.found
  have hidle : ¬ s'.Running r.invocationId := by
    rintro ⟨k', frame', hk', hid⟩
    rw [hcalls, Function.update_apply] at hk'
    split at hk'
    · cases hk'
    · next hne => exact hne (hinv.alone k' k frame' frame hk' hcall (hid.trans hrid))
  have hstate : r.state = .dispatching := by
    rcases h.state with ⟨-, hstate⟩ | ⟨hnot, -⟩
    · exact hstate
    · exact absurd ⟨k, frame, hcall, hrid.symm⟩ hnot
  have hkey : frame.request.logicalIdempotencyKey = r.logicalKey := by
    rw [hinv.named r (mem_of_found hbecomes.found), hrid]
    exact (hnamed k (.executing frame) hcall).symm
  obtain ⟨hdigest, hstate'⟩ := state_of_settled hsettled h.uncommitted hstate
    fun result hresult hbound => by
      by_contra hstatus
      exact hundecided ⟨frame, hcall, hkey, result, hresult, hbound, hstatus⟩
  refine ⟨hdigest, .inr ⟨?_, hstate'.imp_right .inr⟩⟩
  rw [invocationId_of_identity hbecomes.identity]
  exact hidle

/-- A reconciliation of the record ends undecided. -/
theorem reconciled {answer : Option ModelProviderInvocationResult}
    {request : ModelProviderInvocationRequest} {before : ProofInvocationRecord}
    (h : OpenRecord s r) (hinv : DispatchInv keyOf s) (hnamed : NamedCalls keyOf s)
    (hcall : s.calls k = some (.reconciling request before))
    (hwaiting : r.state = .reconciliationRequired)
    (hreconciled : Reconciled checks s.activeConfiguration s.activeTargetDecision request before r
      answer r' n)
    (hbecomes : Becomes request.invocationId r r' n s.store s'.store)
    (hrunning : s'.Running r.invocationId ↔ s.Running r.invocationId)
    (hundecided : ¬ Decides checks r.logicalKey s (.lookedUp k answer)) : OpenRecord s' r' := by
  have hidle : ¬ s.Running r.invocationId := by
    rcases h.state with ⟨-, hstate⟩ | ⟨hnot, -⟩
    · rw [hwaiting] at hstate
      cases hstate
    · exact hnot
  have hkey : request.logicalIdempotencyKey = r.logicalKey := by
    rw [hinv.named r (mem_of_found hbecomes.found), invocationId_of_found hbecomes.found]
    exact (hnamed k (.reconciling request before) hcall).symm
  obtain ⟨hdigest, hstate'⟩ := state_of_reconciled hreconciled h.uncommitted
    fun result hresult hrequestBound hresultBound => by
      by_contra hstatus
      exact hundecided ⟨request, before, hcall, hkey, result, hresult, hrequestBound, hresultBound,
        hstatus⟩
  refine ⟨hdigest, .inr ⟨?_, hstate'.imp_right .inl⟩⟩
  rw [invocationId_of_identity hbecomes.identity, hrunning]
  exact hidle

end OpenRecord

/-- Where one record has changed, a record is open if it is the changed one and that is open, or
if it was open before and runs as before. -/
theorem openRecord_of_becomes (hinv' : DispatchInv keyOf s') {id : JsString}
    {r r₁ r' : ProofInvocationRecord} {n : ℕ} (hbecomes : Becomes id r r₁ n s.store s'.store)
    (hr' : r' ∈ s'.store.records) (hold : r' ∈ s.store.records → OpenRecord s r')
    (hother : ∀ id', id' ≠ id → (s'.Running id' ↔ s.Running id'))
    (hchanged : r' = r₁ → r.logicalKey = r'.logicalKey → OpenRecord s' r') : OpenRecord s' r' := by
  by_cases hid : r'.invocationId = id
  · have hfound := hinv'.byInvocation_eq_some.mpr ⟨hr', hid⟩
    have heq : r' = r₁ := Option.some.inj (hfound.symm.trans hbecomes.found_after)
    refine hchanged heq ?_
    rw [heq, logicalKey_of_identity hbecomes.identity]
  · have hmem : r' ∈ s.store.records := by
      refine (hbecomes.mem_after hr').resolve_left ?_
      rintro rfl
      exact hid (invocationId_of_found hbecomes.found_after)
    exact (hold hmem).of_running_iff rfl rfl rfl (hother _ hid)

theorem openRecord_of_changes (hchanges : Changes checks s s' act) (hinv : DispatchInv keyOf s)
    (hinv' : DispatchInv keyOf s') (hnamed : NamedCalls keyOf s) (hcancel : ∀ id, act ≠ .cancel id)
    {r' : ProofInvocationRecord} (hr' : r' ∈ s'.store.records)
    (hundecided : ¬ Decides checks r'.logicalKey s act)
    (hopen : ∀ r ∈ s.store.records, r.logicalKey = r'.logicalKey → OpenRecord s r) :
    OpenRecord s' r' := by
  have hold : r' ∈ s.store.records → OpenRecord s r' := fun hmem => hopen r' hmem rfl
  cases hchanges with
  | kept hkeeps hcalls hwaits =>
      have hmem : r' ∈ s.store.records := hkeeps.records ▸ hr'
      exact (hold hmem).kept hinv hmem hcalls hwaits
  | @dispatched k request options frame hfree hrequest hgenerations hdispatches hcalls =>
      obtain ⟨configurationRef, schemaRef, hrecords⟩ := hdispatches.records
      rw [hrecords] at hr'
      rcases List.mem_cons.mp hr' with rfl | hmem
      · refine ⟨rfl, .inl ⟨⟨k, frame, ?_, rfl⟩, rfl⟩⟩
        rw [hcalls, Function.update_self]
      · refine (hold hmem).dispatched hfree hcalls fun heq => ?_
        have hnodup := hinv'.invocations
        rw [hrecords, List.map_cons, List.nodup_cons] at hnodup
        exact hnodup.1 (List.mem_map.mpr ⟨r', hmem, heq.symm⟩)
  | @settled k answer frame r r₁ n hcall hsettled hbecomes hcalls =>
      refine openRecord_of_becomes hinv' hbecomes hr' hold (fun id' hid' => ?_) fun heq hkey => ?_
      · refine running_iff_of_ended hcalls fun frame' hk' => ?_
        rw [hcall] at hk'
        cases hk'
        exact hid'.symm
      · subst heq
        exact (hopen r (mem_of_found hbecomes.found) hkey).settled hinv hnamed hcall hsettled hbecomes
          hcalls (hkey ▸ hundecided)
  | @reconciled k answer request before r r₁ n hcall hwaiting hreconciled hbecomes hcalls =>
      have hrunning (id' : JsString) : s'.Running id' ↔ s.Running id' :=
        running_iff_of_ended hcalls fun frame' hk' => by
          rw [hcall] at hk'
          cases hk'
      refine openRecord_of_becomes hinv' hbecomes hr' hold (fun id' _ => hrunning id')
        fun heq hkey => ?_
      subst heq
      exact (hopen r (mem_of_found hbecomes.found) hkey).reconciled hinv hnamed hcall hwaiting
        hreconciled hbecomes (hrunning _) (hkey ▸ hundecided)
  | canceled => exact absurd rfl (hcancel _)
  | @noted _ id r r₁ hnoted hbecomes hcalls =>
      have hrunning (id' : JsString) : s'.Running id' ↔ s.Running id' := by
        rw [Running, hcalls]
        rfl
      refine openRecord_of_becomes hinv' hbecomes hr' hold (fun id' _ => hrunning id')
        fun heq hkey => ?_
      subst heq
      exact (hopen r (mem_of_found hbecomes.found) hkey).of_running_iff hnoted.committedDigest
        hnoted.state (invocationId_of_identity hbecomes.identity) (hrunning _)

theorem openRecord_run (h : DispatchInv keyOf s) (hnone : s.store.records = [])
    (hcalls : ∀ k, s.calls k = none) {acts : List RuntimeAction}
    (hnamed : ∀ act ∈ acts, NamesKey keyOf act) (hcancel : ∀ id, .cancel id ∉ acts)
    {r : ProofInvocationRecord} (hr : r ∈ (s.after checks acts).store.records)
    (hundecided : ¬ Transition.SomeStep (fun s => s.step checks) (Decides checks r.logicalKey)
      s acts) : OpenRecord (s.after checks acts) r := by
  have hrun : (∀ act ∈ acts, NamesKey keyOf act) → (∀ id, .cancel id ∉ acts) →
      DispatchInv keyOf (s.after checks acts) ∧ NamedCalls keyOf (s.after checks acts) ∧
        ∀ r ∈ (s.after checks acts).store.records,
          ¬ Transition.SomeStep (fun s => s.step checks) (Decides checks r.logicalKey) s acts →
            OpenRecord (s.after checks acts) r := by
    refine Transition.run_history
      (P := fun acts s' => (∀ act ∈ acts, NamesKey keyOf act) → (∀ id, .cancel id ∉ acts) →
        DispatchInv keyOf s' ∧ NamedCalls keyOf s' ∧ ∀ r ∈ s'.store.records,
          ¬ Transition.SomeStep (fun s => s.step checks) (Decides checks r.logicalKey) s acts →
            OpenRecord s' r) ?_ ?_ acts
    · refine fun _ _ => ⟨h, fun k call hk => ?_, fun r hr => ?_⟩
      · simp [hcalls] at hk
      · simp [hnone] at hr
    · intro acts act ih hnamed hcancel
      obtain ⟨hinv, hnamedCalls, hopen⟩ :=
        ih (fun act' hact' => hnamed act' (List.mem_append_left _ hact'))
          fun id hact => hcancel id (List.mem_append_left _ hact)
      have hact : NamesKey keyOf act := hnamed act (by simp)
      have hkind : StepKind _ (ProviderRuntime.step checks _ act) act := hinv.kind act
      have hinv' := hinv.of_kind hkind fun k request options heq => by
        subst heq
        exact hact
      refine ⟨hinv', namedCalls_step hnamedCalls hact, fun r' hr' hundecided => ?_⟩
      refine openRecord_of_changes (changes _ act) hinv hinv' hnamedCalls ?_ hr'
        (fun hdecides => hundecided (.last hdecides)) fun r hr hkey => ?_
      · rintro id rfl
        exact hcancel id (by simp)
      · refine hopen r hr fun hdecided => hundecided ?_
        rw [← hkey]
        exact hdecided.append [act]
  exact (hrun hnamed hcancel).2.2 r hr hundecided

/-- A duplicate is told that the outcome is open where it is canceled itself, or where it is
admitted and its record waits for a reconciliation or is canceled without a commit. Until
the adapter decides, and where nothing is canceled, the record of the key is not committed,
and it tells so where its execution does not wait and no answer has blocked or failed it. -/
theorem duplicate_told_open (checks : RuntimeChecks) (configuration : ModelProviderConfiguration)
    (targetDecision : ModelProviderTargetDecision) (now : ℤ) (acts : List RuntimeAction)
    (request : ModelProviderInvocationRequest) (options : ProofExecutionOptions)
    (r : ProofInvocationRecord) (receipt : ProofExecutionReceipt)
    (hfind : ((initial configuration targetDecision now).after checks acts).store.byLogicalKey
      request.logicalIdempotencyKey = some r)
    (hdigest : r.requestDigest = request.requestDigest)
    (hreturned :
      let s := (initial configuration targetDecision now).after checks acts
      (execute checks s.now s.activeConfiguration s.activeTargetDecision request options
        s.store).1 = .ok (.returned receipt)) :
    let start := initial configuration targetDecision now
    let s := start.after checks acts
    (IsOpenStatus receipt.status ↔
      IsPreCanceled s.activeConfiguration (preparedRequest request options) options ∨
      (refusal checks s.now s.activeConfiguration s.activeTargetDecision
          (preparedRequest request options) options = none ∧
        s.store.MayStart s.activeConfiguration.configurationDigest options.halfOpenProbe) ∧
      TellsOpen r) ∧
    ∀ keyOf, (∀ act ∈ acts, NamesKey keyOf act) → (∀ id, .cancel id ∉ acts) →
      ¬ Transition.SomeStep (fun s => s.step checks) (Decides checks r.logicalKey) start acts →
      r.committedDigest = none ∧
        (TellsOpen r ↔ ¬ s.Running r.invocationId ∧ r.state ≠ .blocked ∧ r.state ≠ .failed) := by
  intro start s
  refine ⟨execute_duplicate hfind hdigest hreturned, ?_⟩
  intro keyOf hnamed hcancel hundecided
  have hr : r ∈ s.store.records := List.mem_of_find?_eq_some hfind
  have hopen : OpenRecord s r :=
    openRecord_run (dispatchInv_initial keyOf configuration targetDecision now) rfl
      (fun _ => rfl) hnamed hcancel hr hundecided
  exact ⟨hopen.uncommitted, hopen.tellsOpen_iff⟩

/-- The adapter throws, so the outcome is unknown. -/
def demoUnknown : List RuntimeAction := [.execute 0 demoRequest {}, .invoked 0 none]

theorem duplicate_told_open_demo :
    ∃ receipt r, (demoStart.after demoChecks demoUnknown).store.byLogicalKey [1] = some r ∧
      (execute demoChecks 0 ⟨[], js "DETERMINISTIC_FIXTURE", .null⟩ .null demoRequest {}
        (demoStart.after demoChecks demoUnknown).store).1 = .ok (.returned receipt) ∧
      IsOpenStatus receipt.status := by
  refine ⟨_, _, rfl, rfl, ?_⟩
  refine (duplicate_told_open demoChecks ⟨[], js "DETERMINISTIC_FIXTURE", .null⟩ .null 0
    demoUnknown demoRequest {} _ _ rfl rfl rfl).1.mpr (.inr ⟨⟨?_, ?_⟩, .inl rfl⟩)
  · rfl
  · exact ⟨by decide, .inr rfl⟩

/-- A duplicate that comes while the first execution waits, and one that comes after a
reconciliation that found nothing, are told of a failure. -/
theorem duplicate_told_open_fails :
    (∃ receipt, (execute demoChecks 0 ⟨[], js "DETERMINISTIC_FIXTURE", .null⟩ .null demoRequest {}
        (demoStart.after demoChecks [.execute 0 demoRequest {}]).store).1 =
          .ok (.returned receipt) ∧ receipt.status = .failed) ∧
    ∃ receipt, (execute demoChecks 0 ⟨[], js "DETERMINISTIC_FIXTURE", .null⟩ .null demoRequest {}
        (demoStart.after demoChecks (demoUnknown ++ [.reconcile 0 demoRequest,
          .lookedUp 0 none])).store).1 = .ok (.returned receipt) ∧ receipt.status = .failed :=
  ⟨⟨_, rfl, rfl⟩, ⟨_, rfl, rfl⟩⟩

end ProviderRuntime

end Aico
