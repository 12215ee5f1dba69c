import Aico.ProviderSpike.OpenOutcomes

/-!
# The probe of a half-open circuit

A circuit that is set to half-open has one permit for a probe, so that at most one execution
dispatches until it is set again. The permit is taken before the request is reserved: it is
lost to a request whose key is taken, and to one without a version to record.
-/

namespace Aico

open InMemoryProviderRuntimeStore ProviderRuntimeProof

namespace InMemoryProviderRuntimeStore

def KeepsTargets (s s' : InMemoryProviderRuntimeStore) : Prop := s'.targetStates = s.targetStates

instance : IsPreorder InMemoryProviderRuntimeStore KeepsTargets where
  refl _ := Eq.refl _
  trans _ _ _ h h' := Eq.trans h' h

theorem update_keepsTargets (invocationId : JsString)
    (g : ProofInvocationRecord → ProofInvocationRecord) :
    Prog.Respects KeepsTargets (update invocationId g) := .modify fun _ => rfl

theorem count_keepsTargets (f : ProofSideEffectLedger → ProofSideEffectLedger) :
    Prog.Respects KeepsTargets (count f) := .modify fun _ => rfl

theorem requireUpdate_keepsTargets (invocationId : JsString)
    (g : ProofInvocationRecord → ProofInvocationRecord) :
    Prog.Respects KeepsTargets (requireRecord invocationId >>= fun _ => update invocationId g) :=
  .bind (requireRecord_respects _) fun _ => update_keepsTargets _ _

theorem reserve_keepsTargets (request : ModelProviderInvocationRequest) :
    Prog.Respects KeepsTargets (reserve request) := by
  refine .bind (.gets _) fun existing => ?_
  cases existing with
  | some record => exact .ite (.pure _) (.ite (.pure _) (.pure _))
  | none =>
      refine .bind (.require _ _) fun configurationRef => .bind (.require _ _) fun schemaRef => ?_
      refine .bind (.modify fun _ => rfl) fun _ => ?_
      exact .bind (count_keepsTargets _) fun _ => .pure _

theorem beginDispatch_keepsTargets (invocationId : JsString) :
    Prog.Respects KeepsTargets (beginDispatch invocationId) := by
  refine .bind (requireRecord_respects _) fun record => .bind (.ensure _ _) fun _ => ?_
  exact .bind (update_keepsTargets _ _) fun _ => count_keepsTargets _

theorem beginRepair_keepsTargets (originalInvocationId repairInvocationId reservationId : JsString) :
    Prog.Respects KeepsTargets
      (beginRepair originalInvocationId repairInvocationId reservationId) := by
  refine .bind (requireRecord_respects _) fun record => ?_
  refine .bind (.ensure _ _) fun _ => .bind (.ensure _ _) fun _ => .bind (.ensure _ _) fun _ => ?_
  exact .bind (update_keepsTargets _ _) fun _ => count_keepsTargets _

theorem scheduleRetry_keepsTargets (parseDate : JsString → Option ℤ)
    (invocationId nextAttemptAt deadlineAt : JsString) (remaining maximum : ℤ) :
    Prog.Respects KeepsTargets
      (scheduleRetry parseDate invocationId nextAttemptAt deadlineAt remaining maximum) := by
  refine .bind (requireRecord_respects _) fun record => ?_
  split
  · refine .ite (.pure _) (.ite (.pure _) ?_)
    refine .bind (update_keepsTargets _ _) fun _ => ?_
    exact .bind (count_keepsTargets _) fun _ => .pure _
  · exact .pure _

theorem markReconciled_keepsTargets (invocationId : JsString)
    (result : Option ModelProviderInvocationResult) :
    Prog.Respects KeepsTargets (markReconciled invocationId result) := by
  refine .bind (requireRecord_respects _) fun record => .bind (.ensure _ _) fun _ => ?_
  exact .bind (count_keepsTargets _) fun _ => update_keepsTargets _ _

theorem commitCandidate_keepsTargets (invocationId : JsString) (expected : Generations)
    (digest : Digest) : Prog.Respects KeepsTargets (commitCandidate invocationId expected digest) := by
  refine .bind (requireRecord_respects _) fun record => .ite (.pure _) ?_
  refine .bind (update_keepsTargets _ _) fun _ => .bind (count_keepsTargets _) fun _ => ?_
  exact .bind (.modify fun _ => rfl) fun _ => .pure _

structure TakesProbe (s : InMemoryProviderRuntimeStore) (configurationDigest : Digest)
    (halfOpenProbe : Bool) : Prop where
  alive : (s.targetState configurationDigest).killed = false
  halfOpen : (s.targetState configurationDigest).circuit = .halfOpen
  probe : halfOpenProbe = true
  available : (s.targetState configurationDigest).halfOpenProbeAvailable = true

def withoutProbe (s : InMemoryProviderRuntimeStore) (configurationDigest : Digest) :
    InMemoryProviderRuntimeStore :=
  let target := { s.targetState configurationDigest with halfOpenProbeAvailable := false }
  { s with targetStates := Function.update s.targetStates configurationDigest target }

theorem canStartNewAttempt_of_probe {s : InMemoryProviderRuntimeStore}
    {configurationDigest : Digest} {halfOpenProbe : Bool}
    (h : s.TakesProbe configurationDigest halfOpenProbe) :
    canStartNewAttempt configurationDigest halfOpenProbe s =
      (.ok true, s.withoutProbe configurationDigest) := by
  have hopen : ¬ ((s.targetState configurationDigest).killed = true ∨
      (s.targetState configurationDigest).circuit = .opened) := by
    rw [h.alive, h.halfOpen]
    decide
  unfold canStartNewAttempt
  rw [Prog.bind_of_ok (show (Prog.gets _ : StoreProg _) s = (.ok _, s) from rfl),
    Prog.bind_of_ok (show (Prog.gets _ : StoreProg _) s = (.ok _, s) from rfl), if_neg hopen,
    if_pos h.halfOpen, if_pos ⟨h.probe, h.available⟩]
  rfl

theorem canStartNewAttempt_of_no_probe {s : InMemoryProviderRuntimeStore}
    {configurationDigest : Digest} {halfOpenProbe : Bool}
    (h : ¬ s.TakesProbe configurationDigest halfOpenProbe) :
    ∃ started, canStartNewAttempt configurationDigest halfOpenProbe s = (.ok started, s) ∧
      (started = true → (s.targetState configurationDigest).circuit ≠ .halfOpen) := by
  unfold canStartNewAttempt
  rw [Prog.bind_of_ok (show (Prog.gets _ : StoreProg _) s = (.ok _, s) from rfl),
    Prog.bind_of_ok (show (Prog.gets _ : StoreProg _) s = (.ok _, s) from rfl)]
  by_cases hclosed : (s.targetState configurationDigest).killed = true ∨
      (s.targetState configurationDigest).circuit = .opened
  · rw [if_pos hclosed]
    exact ⟨false, rfl, nofun⟩
  · rw [if_neg hclosed]
    by_cases hhalf : (s.targetState configurationDigest).circuit = .halfOpen
    · have hprobe : ¬ (halfOpenProbe = true ∧
          (s.targetState configurationDigest).halfOpenProbeAvailable = true) :=
        fun hp => h ⟨by simpa using fun hk => hclosed (.inl hk), hhalf, hp.1, hp.2⟩
      rw [if_pos hhalf, if_neg hprobe]
      exact ⟨false, rfl, nofun⟩
    · rw [if_neg hhalf]
      exact ⟨_, rfl, fun _ => hhalf⟩

end InMemoryProviderRuntimeStore

namespace ProviderRuntimeProof

def Reservable (s : InMemoryProviderRuntimeStore) (request : ModelProviderInvocationRequest) :
    Prop :=
  s.byLogicalKey request.logicalIdempotencyKey = none ∧
    request.providerConfiguration ≠ none ∧ request.outputSchema ≠ none

/-- The request comes to the question whether an attempt may start. -/
structure IsAdmitted (checks : RuntimeChecks) (now : ℤ)
    (configuration : ModelProviderConfiguration) (targetDecision : ModelProviderTargetDecision)
    (request : ModelProviderInvocationRequest) (options : ProofExecutionOptions) : Prop where
  boundary : checks.seededBoundarySource = .ok ⟨⟩
  admitted : refusal checks now configuration targetDecision (preparedRequest request options)
    options = none
  clean : checks.requestContainsCanary (preparedRequest request options) = false

variable {checks : RuntimeChecks} {now : ℤ} {configuration : ModelProviderConfiguration}
  {targetDecision : ModelProviderTargetDecision} {request : ModelProviderInvocationRequest}
  {options : ProofExecutionOptions} {s : InMemoryProviderRuntimeStore}

theorem reserveAndDispatch_keepsTargets (configuration : ModelProviderConfiguration)
    (request : ModelProviderInvocationRequest) (options : ProofExecutionOptions) :
    Prog.Respects KeepsTargets (reserveAndDispatch configuration request options) := by
  refine .bind (reserve_keepsTargets request) fun reservation => ?_
  cases reservation with
  | created record => exact .bind (beginDispatch_keepsTargets _) fun _ => .pure _
  | duplicate record | collision record | reconciliationRequired record => exact .pure _

/-- The adapter is called where the reservation creates a record, and only there. -/
theorem reserveAndDispatch_invoking_iff :
    (∃ frame, (reserveAndDispatch configuration request options s).1 = .ok (.invoking frame)) ↔
      Reservable s request := by
  constructor
  · rintro ⟨frame, hframe⟩
    rcases reserveAndDispatch_cases request configuration options s with
      ⟨outcome, hrun, hother⟩ | ⟨s', -, hdispatches⟩
    · rw [hrun] at hframe
      exact absurd hframe (hother frame)
    · refine ⟨hdispatches.free, fun hnone => ?_, fun hnone => ?_⟩
      · have hthrown := reserve_of_missing hdispatches.free (.inl hnone)
        rw [reserveAndDispatch, Prog.bind_of_error hthrown] at hframe
        cases hframe
      · have hthrown := reserve_of_missing hdispatches.free (.inr hnone)
        rw [reserveAndDispatch, Prog.bind_of_error hthrown] at hframe
        cases hframe
  · rintro ⟨hfree, hconfiguration, hschema⟩
    obtain ⟨configurationRef, hconfiguration⟩ := Option.ne_none_iff_exists'.mp hconfiguration
    obtain ⟨schemaRef, hschema⟩ := Option.ne_none_iff_exists'.mp hschema
    exact (reserveAndDispatch_of_free hfree hconfiguration hschema).elim fun _ h =>
      ⟨_, congrArg Prod.fst h.1⟩

theorem execute_of_not_admitted
    (h : ¬ IsAdmitted checks now configuration targetDecision request options) :
    (∀ frame, (execute checks now configuration targetDecision request options s).1 ≠
      .ok (.invoking frame)) ∧
    (execute checks now configuration targetDecision request options s).2 = s := by
  unfold execute
  cases hboundary : checks.seededBoundarySource with
  | error code => exact ⟨by rintro _ ⟨⟩, rfl⟩
  | ok _ =>
      cases hrefusal : refusal checks now configuration targetDecision
          (preparedRequest request options) options with
      | some receipt =>
          dsimp only
          rw [hrefusal]
          exact ⟨by rintro _ ⟨⟩, rfl⟩
      | none =>
          dsimp only
          rw [hrefusal, Prog.ensure, if_neg fun hclean => h ⟨hboundary, hrefusal, hclean⟩]
          exact ⟨by rintro _ ⟨⟩, rfl⟩

theorem execute_of_admitted
    (h : IsAdmitted checks now configuration targetDecision request options) {started : Bool}
    {s' : InMemoryProviderRuntimeStore}
    (hstart : canStartNewAttempt configuration.configurationDigest options.halfOpenProbe s =
      (.ok started, s')) :
    execute checks now configuration targetDecision request options s =
      if started then reserveAndDispatch configuration (preparedRequest request options) options s'
      else (.ok (.returned (failureReceipt (preparedRequest request options)
        "TARGET_OR_CIRCUIT_BLOCKED")), s') := by
  unfold execute
  rw [h.boundary]
  dsimp only
  rw [h.admitted]
  dsimp only
  rw [Prog.ensure, if_pos h.clean,
    Prog.bind_of_ok (rfl : (pure ⟨⟩ : StoreProg PUnit) s = (.ok ⟨⟩, s)), Prog.bind_of_ok hstart]
  cases started with
  | false => rfl
  | true => rfl

theorem emitEvidence_keepsTargets (request : ModelProviderInvocationRequest)
    (result : ModelProviderInvocationResult) (reasonClass : String) :
    Prog.Respects KeepsTargets (emitEvidence checks request result reasonClass) := .ensure _ _

theorem commitOrReconcile_keepsTargets (invocationId : JsString) (expected : Generations)
    (digest : Digest) : Prog.Respects KeepsTargets (commitOrReconcile invocationId expected digest) := by
  refine .bind (commitCandidate_keepsTargets _ _ _) fun committed => .ite (.pure _) ?_
  exact .bind (requireUpdate_keepsTargets _ _) fun _ => .pure _

theorem settleFailed_keepsTargets (frame : ExecuteFrame) (result : ModelProviderInvocationResult) :
    Prog.Respects KeepsTargets (settleFailed checks frame result) := by
  refine .bind ?_ fun _ => .bind (emitEvidence_keepsTargets _ _ _) fun _ => .pure _
  unfold retryRateLimited
  split
  · exact .pure _
  · exact scheduleRetry_keepsTargets _ _ _ _ _ _

theorem settleCandidate_keepsTargets (frame : ExecuteFrame)
    (result : ModelProviderInvocationResult) :
    Prog.Respects KeepsTargets (settleCandidate checks frame result) := by
  unfold settleCandidate
  dsimp only
  split
  · refine .bind (requireUpdate_keepsTargets _ _) fun _ => ?_
    refine .bind (commitOrReconcile_keepsTargets _ _ _) fun _ => ?_
    exact .bind (emitEvidence_keepsTargets _ _ _) fun _ => .pure _
  · refine .bind (requireUpdate_keepsTargets _ _) fun _ => ?_
    exact .bind (emitEvidence_keepsTargets _ _ _) fun _ => .pure _

theorem executeSettled_keepsTargets (frame : ExecuteFrame)
    (answer : Option ModelProviderInvocationResult) :
    Prog.Respects KeepsTargets (executeSettled checks frame answer) := by
  have hrejected : Prog.Respects KeepsTargets (do
      markReconciliationRequired frame.request.invocationId
      pure (unknownReceipt frame.request "INTEGRITY") : StoreProg ProofExecutionReceipt) :=
    .bind (requireUpdate_keepsTargets _ _) fun _ => .pure _
  have hnoted {p : StoreProg PUnit} (hp : Prog.Respects KeepsTargets p)
      (result : ModelProviderInvocationResult) (reasonClass : String)
      (receipt : ProofExecutionReceipt) : Prog.Respects KeepsTargets (do
        p
        emitEvidence checks frame.request result reasonClass
        pure receipt : StoreProg ProofExecutionReceipt) :=
    .bind hp fun _ => .bind (emitEvidence_keepsTargets _ _ _) fun _ => .pure _
  cases answer with
  | none => exact hrejected
  | some result =>
      refine .ite hrejected (.ite (hnoted (requireUpdate_keepsTargets _ _) _ _ _) ?_)
      cases result.status with
      | unknown => exact hnoted (requireUpdate_keepsTargets _ _) _ _ _
      | canceled => exact hnoted (requireUpdate_keepsTargets _ _) _ _ _
      | failed =>
          exact .bind (requireUpdate_keepsTargets _ _) fun _ => settleFailed_keepsTargets _ _
      | succeeded => exact settleCandidate_keepsTargets _ _

theorem reconcileSettled_keepsTargets (before : ProofInvocationRecord)
    (answer : Option ModelProviderInvocationResult) :
    Prog.Respects KeepsTargets
      (reconcileSettled checks configuration targetDecision request before answer) := by
  have hblocked : Prog.Respects KeepsTargets (do
      markReconciled request.invocationId none
      pure (unknownReceipt request "RECONCILIATION_BLOCKED") : StoreProg ProofExecutionReceipt) :=
    .bind (markReconciled_keepsTargets _ _) fun _ => .pure _
  cases answer with
  | none => exact hblocked
  | some result =>
      refine .ite hblocked ?_
      split
      · exact hblocked
      · refine .bind (markReconciled_keepsTargets _ _) fun _ => ?_
        split
        · exact .pure _
        · exact .bind (commitOrReconcile_keepsTargets _ _ _) fun _ => .pure _
        · exact .pure _

end ProviderRuntimeProof

namespace ProviderRuntime

variable (checks : RuntimeChecks)

def setsCircuit (s : ProviderRuntime) (configurationDigest : Digest) : RuntimeAction → Bool
  | .setCircuit _ => s.activeConfiguration.configurationDigest = configurationDigest
  | _ => false

def dispatchesFor (s : ProviderRuntime) (configurationDigest : Digest) (act : RuntimeAction) :
    Bool :=
  s.activeConfiguration.configurationDigest = configurationDigest ∧
    s.receivedRequests.length < (s.step checks act).receivedRequests.length

def dispatchCount (configurationDigest : Digest) : ProviderRuntime → List RuntimeAction → ℕ
  | _, [] => 0
  | s, act :: acts =>
      (s.dispatchesFor checks configurationDigest act).toNat +
        dispatchCount configurationDigest (s.step checks act) acts

def permitted (s : ProviderRuntime) (configurationDigest : Digest) : Bool :=
  (s.store.targetState configurationDigest).halfOpenProbeAvailable

def UsesPermit (s : ProviderRuntime) (configurationDigest : Digest) (act : RuntimeAction) : Prop :=
  s.permitted configurationDigest = true ∧
    (s.step checks act).permitted configurationDigest = false ∧
    s.setsCircuit configurationDigest act = false

def UsesForDispatch (s : ProviderRuntime) (act : RuntimeAction) : Prop :=
  ∀ configurationDigest, s.UsesPermit checks configurationDigest act →
    s.dispatchesFor checks configurationDigest act = true

structure Probes (s : ProviderRuntime) (k : ℕ) (request : ModelProviderInvocationRequest)
    (options : ProofExecutionOptions) : Prop where
  free : s.calls k = none
  admitted : IsAdmitted checks s.now s.activeConfiguration s.activeTargetDecision request options
  takes : s.store.TakesProbe s.activeConfiguration.configurationDigest options.halfOpenProbe

/-- An execution that takes the permit has a key of its own, and the versions to record. -/
def ProbesReservable (s : ProviderRuntime) : RuntimeAction → Prop
  | .execute k request options => s.Probes checks k request options → Reservable s.store request
  | _ => True

inductive ChangesTargets (s : ProviderRuntime) : RuntimeAction → Prop
  | kept {act : RuntimeAction}
      (htargets : (s.step checks act).store.targetStates = s.store.targetStates)
      (hprobe : ∀ k request options, act = .execute k request options →
        ¬ s.Probes checks k request options)
      (hdispatch : ∀ d, s.dispatchesFor checks d act = true →
        (s.store.targetState d).circuit ≠ .halfOpen) : ChangesTargets s act
  | probed {k : ℕ} {request : ModelProviderInvocationRequest} {options : ProofExecutionOptions}
      (hprobes : s.Probes checks k request options)
      (htargets : (s.step checks (.execute k request options)).store.targetStates =
        (s.store.withoutProbe s.activeConfiguration.configurationDigest).targetStates)
      (hdispatch : ∀ d, s.dispatchesFor checks d (.execute k request options) = true ↔
        s.activeConfiguration.configurationDigest = d ∧ Reservable s.store request) :
      ChangesTargets s (.execute k request options)
  | circuit (state : CircuitState) : ChangesTargets s (.setCircuit state)
  | killed (killed : Bool) : ChangesTargets s (.setKilled killed)

variable {checks} {s : ProviderRuntime}

/-- A step that does not begin an execution calls no adapter. -/
theorem changesTargets_kept {act : RuntimeAction}
    (htargets : KeepsTargets s.store (s.step checks act).store)
    (hexecute : ∀ k request options, act ≠ .execute k request options)
    (hreceived : (s.step checks act).receivedRequests = s.receivedRequests) :
    ChangesTargets checks s act := by
  refine .kept htargets (fun k request options hact => absurd hact (hexecute _ _ _)) ?_
  intro d hdispatch
  simp [dispatchesFor, hreceived] at hdispatch

theorem startExecute_store (k : ℕ) (request : ModelProviderInvocationRequest)
    (options : ProofExecutionOptions) : (s.startExecute checks k request options).store =
      (execute checks s.now s.activeConfiguration s.activeTargetDecision request options
        s.store).2 := by
  unfold startExecute
  dsimp only
  split <;> rfl

/-- The adapter is called where the execution comes to it. -/
theorem startExecute_received (k : ℕ) (request : ModelProviderInvocationRequest)
    (options : ProofExecutionOptions) : s.receivedRequests.length <
      (s.startExecute checks k request options).receivedRequests.length ↔
    ∃ frame, (execute checks s.now s.activeConfiguration s.activeTargetDecision request options
      s.store).1 = .ok (.invoking frame) := by
  unfold startExecute
  dsimp only
  split
  · next frame heq => exact iff_of_true (Nat.lt_succ_self _) ⟨frame, heq⟩
  · next hother => exact iff_of_false (lt_irrefl _) fun ⟨frame, heq⟩ => hother frame heq

theorem changesTargets_execute (k : ℕ) (request : ModelProviderInvocationRequest)
    (options : ProofExecutionOptions) : ChangesTargets checks s (.execute k request options) := by
  by_cases hfree : s.calls k = none
  swap
  · have hstep : s.step checks (.execute k request options) = s := by
      rw [step]
      split
      · next hnone => exact absurd hnone hfree
      · rfl
    refine .kept (by rw [hstep]) ?_ fun d hdispatch => ?_
    · rintro _ _ _ ⟨⟩ hprobes
      exact hfree hprobes.free
    · simp [dispatchesFor, hstep] at hdispatch
  have hstep : s.step checks (.execute k request options) =
      s.startExecute checks k request options := by
    rw [step, hfree]
  have hdispatches (d : Digest) : s.dispatchesFor checks d (.execute k request options) = true ↔
      s.activeConfiguration.configurationDigest = d ∧
        ∃ frame, (execute checks s.now s.activeConfiguration s.activeTargetDecision request options
          s.store).1 = .ok (.invoking frame) := by
    rw [dispatchesFor, decide_eq_true_iff, hstep, startExecute_received]
  by_cases hadmitted : IsAdmitted checks s.now s.activeConfiguration s.activeTargetDecision
    request options
  swap
  · obtain ⟨hreturned, hsame⟩ := execute_of_not_admitted hadmitted
    refine .kept (by rw [hstep, startExecute_store, hsame]) ?_ fun d hdispatch => ?_
    · rintro _ _ _ ⟨⟩ hprobes
      exact hadmitted hprobes.admitted
    · obtain ⟨-, frame, hframe⟩ := (hdispatches d).mp hdispatch
      exact absurd hframe (hreturned frame)
  by_cases htakes : s.store.TakesProbe s.activeConfiguration.configurationDigest
    options.halfOpenProbe
  · have hrun := execute_of_admitted hadmitted (canStartNewAttempt_of_probe htakes)
    rw [if_pos rfl] at hrun
    refine .probed ⟨hfree, hadmitted, htakes⟩ ?_ fun d => ?_
    · rw [hstep, startExecute_store, hrun]
      exact reserveAndDispatch_keepsTargets _ _ _ _
    · rw [hdispatches, hrun, reserveAndDispatch_invoking_iff]
      exact Iff.rfl
  · obtain ⟨started, hstart, hopen⟩ := canStartNewAttempt_of_no_probe htakes
    have hrun := execute_of_admitted hadmitted hstart
    refine .kept ?_ ?_ fun d hdispatch => ?_
    · rw [hstep, startExecute_store, hrun]
      split
      · exact reserveAndDispatch_keepsTargets _ _ _ s.store
      · rfl
    · rintro _ _ _ ⟨⟩ hprobes
      exact htakes hprobes.takes
    · obtain ⟨rfl, frame, hframe⟩ := (hdispatches d).mp hdispatch
      cases started with
      | true => exact hopen rfl
      | false =>
          rw [hrun] at hframe
          cases hframe

variable (checks) in
theorem changesTargets (s : ProviderRuntime) (act : RuntimeAction) :
    ChangesTargets checks s act := by
  cases act with
  | execute k request options => exact changesTargets_execute k request options
  | setCircuit state => exact .circuit state
  | setKilled killed => exact .killed killed
  | invoked k answer =>
      refine changesTargets_kept ?_ (by simp) ?_
      · rw [step]
        split
        · exact executeSettled_keepsTargets _ _ s.store
        · exact refl s.store
      · rw [step]
        split <;> rfl
  | reconcile k request =>
      refine changesTargets_kept ?_ (by simp) ?_
      · rw [step, startReconcile]
        split
        · split <;> exact refl s.store
        · exact refl s.store
      · rw [step, startReconcile]
        split
        · split <;> rfl
        · rfl
  | lookedUp k answer =>
      refine changesTargets_kept ?_ (by simp) ?_
      · rw [step]
        split
        · exact reconcileSettled_keepsTargets _ _ s.store
        · exact refl s.store
      · rw [step]
        split <;> rfl
  | lookupFailed k =>
      refine changesTargets_kept ?_ (by simp) ?_
      · rw [step]
        split <;> exact refl s.store
      · rw [step]
        split <;> rfl
  | cancel invocationId | loseLease invocationId | markTerminal invocationId =>
      exact changesTargets_kept (requireUpdate_keepsTargets _ _ s.store) (by simp) rfl
  | beginRepair failedInvocationId repairInvocationId reservationId =>
      exact changesTargets_kept (beginRepair_keepsTargets _ _ _ s.store) (by simp) rfl
  | applyConfiguration | applyTarget | wait =>
      exact changesTargets_kept (Eq.refl s.store.targetStates) (by simp) rfl

/-! ## One probe in a period -/

theorem permitted_of_targets {s' : ProviderRuntime} {d : Digest}
    (h : s'.store.targetState d = s.store.targetState d) : s'.permitted d = s.permitted d :=
  congrArg TargetState.halfOpenProbeAvailable h

/-- A change of one target leaves every other one. -/
theorem targetState_update {s' : ProviderRuntime} {d d' : Digest} {target : TargetState}
    (h : s'.store.targetStates = Function.update s.store.targetStates d' target) :
    s'.store.targetState d = if d = d' then target else s.store.targetState d := by
  rw [targetState, h, Function.update_apply, targetState]

theorem dispatchesFor_setCircuit (d : Digest) (state : CircuitState) :
    s.dispatchesFor checks d (.setCircuit state) = false := by
  simp [dispatchesFor, step, ran]

theorem dispatchesFor_setKilled (d : Digest) (killed : Bool) :
    s.dispatchesFor checks d (.setKilled killed) = false := by
  simp [dispatchesFor, step, ran]

variable (checks) in
/-- In a half-open period the permit and the dispatches are no more than the permit was. -/
theorem permits_of_step {d : Digest} {act : RuntimeAction}
    (hopen : (s.store.targetState d).circuit = .halfOpen) (hset : s.setsCircuit d act = false) :
    ((s.step checks act).store.targetState d).circuit = .halfOpen ∧
      (s.dispatchesFor checks d act).toNat + ((s.step checks act).permitted d).toNat ≤
        (s.permitted d).toNat := by
  have hsame (htarget : (s.step checks act).store.targetState d = s.store.targetState d)
      (hdispatch : s.dispatchesFor checks d act = false) :
      ((s.step checks act).store.targetState d).circuit = .halfOpen ∧
        (s.dispatchesFor checks d act).toNat + ((s.step checks act).permitted d).toNat ≤
          (s.permitted d).toNat := by
    refine ⟨by rw [htarget, hopen], ?_⟩
    rw [hdispatch, permitted_of_targets htarget, Bool.toNat_false, Nat.zero_add]
  cases changesTargets checks s act with
  | kept htargets hprobe hdispatch =>
      refine hsame (congrFun htargets d) ?_
      exact Bool.eq_false_iff.mpr fun hd => hdispatch d hd hopen
  | @probed k request options hprobes htargets hdispatch =>
      have htarget := targetState_update (d := d) htargets
      by_cases hd : d = s.activeConfiguration.configurationDigest
      · rw [if_pos hd] at htarget
        have hbefore : s.permitted d = true := hd ▸ hprobes.takes.available
        have hafter : (s.step checks (.execute k request options)).permitted d = false :=
          congrArg TargetState.halfOpenProbeAvailable htarget
        refine ⟨(congrArg TargetState.circuit htarget).trans hprobes.takes.halfOpen, ?_⟩
        rw [hbefore, hafter]
        exact Bool.toNat_le _
      · rw [if_neg hd] at htarget
        refine hsame htarget (Bool.eq_false_iff.mpr fun hdispatched => ?_)
        exact hd ((hdispatch d).mp hdispatched).1.symm
  | circuit state =>
      have hd : d ≠ s.activeConfiguration.configurationDigest :=
        fun hd => of_decide_eq_false hset hd.symm
      refine hsame ((targetState_update rfl).trans (if_neg hd)) (dispatchesFor_setCircuit d state)
  | killed killed =>
      have htarget : (s.step checks (.setKilled killed)).store.targetState d = _ :=
        targetState_update rfl
      by_cases hd : d = s.activeConfiguration.configurationDigest
      · rw [if_pos hd, ← hd] at htarget
        refine ⟨(congrArg TargetState.circuit htarget).trans hopen, ?_⟩
        rw [dispatchesFor_setKilled, Bool.toNat_false, Nat.zero_add]
        exact le_of_eq (congrArg (fun t => t.halfOpenProbeAvailable.toNat) htarget)
      · rw [if_neg hd] at htarget
        exact hsame htarget (dispatchesFor_setKilled d killed)

theorem dispatchCount_le {d : Digest} {acts : List RuntimeAction}
    (hopen : (s.store.targetState d).circuit = .halfOpen)
    (hquiet : Transition.EachStep (fun s => s.step checks)
      (fun s act => s.setsCircuit d act = false) s acts) :
    dispatchCount checks d s acts ≤ (s.permitted d).toNat := by
  induction acts generalizing s with
  | nil => exact Nat.zero_le _
  | cons act acts ih =>
      obtain ⟨hset, hquiet⟩ := hquiet
      obtain ⟨hopen', hpermits⟩ := permits_of_step checks hopen hset
      have hrest := ih hopen' hquiet
      rw [dispatchCount]
      omega

/-- An action uses a permit for its dispatch, unless it probes with a request that cannot be
reserved. -/
theorem usesForDispatch_iff (act : RuntimeAction) :
    s.UsesForDispatch checks act ↔ s.ProbesReservable checks act := by
  have hunused {d : Digest} (htarget : ((s.step checks act).store.targetState d).halfOpenProbeAvailable =
      (s.store.targetState d).halfOpenProbeAvailable) : ¬ s.UsesPermit checks d act := by
    rintro ⟨hbefore, hafter, -⟩
    exact Bool.false_ne_true (hafter.symm.trans (htarget.trans hbefore))
  cases changesTargets checks s act with
  | kept htargets hprobe hdispatch =>
      refine iff_of_true (fun d huses => ?_) ?_
      · exact absurd huses (hunused (by rw [targetState, htargets, targetState]))
      · cases act with
        | execute k request options => exact fun hprobes => absurd hprobes (hprobe _ _ _ rfl)
        | _ => trivial
  | @probed k request options hprobes htargets hdispatch =>
      constructor
      · intro huses _
        have huse : s.UsesPermit checks s.activeConfiguration.configurationDigest
            (.execute k request options) := by
          refine ⟨hprobes.takes.available, ?_, rfl⟩
          rw [permitted, targetState_update htargets, if_pos rfl]
        exact ((hdispatch _).mp (huses _ huse)).2
      · intro hreservable d huses
        by_cases hd : d = s.activeConfiguration.configurationDigest
        · exact (hdispatch d).mpr ⟨hd.symm, hreservable hprobes⟩
        · refine absurd huses (hunused ?_)
          rw [targetState_update htargets, if_neg hd]
  | circuit state =>
      refine iff_of_true (fun d huses => ?_) trivial
      have hd : d ≠ s.activeConfiguration.configurationDigest :=
        fun hd => of_decide_eq_false huses.2.2 hd.symm
      refine absurd huses (hunused ?_)
      rw [targetState_update rfl, if_neg hd]
  | killed killed =>
      refine iff_of_true (fun d huses => absurd huses (hunused ?_)) trivial
      rw [targetState_update rfl]
      split
      · next hd => rw [hd]
      · rfl

/-- At most one execution dispatches from where the circuit is set to half-open to where it is
set again. Every permit of a run is used by a dispatch if and only if each execution that takes
it has a key of its own and the versions to record. -/
theorem probes_after (checks : RuntimeChecks) (configuration : ModelProviderConfiguration)
    (targetDecision : ModelProviderTargetDecision) (now : ℤ) (acts : List RuntimeAction) :
    let start := initial configuration targetDecision now
    let step := fun s : ProviderRuntime => s.step checks
    (∀ period : List RuntimeAction,
      let opened := (start.after checks acts).step checks (.setCircuit .halfOpen)
      let digest := opened.activeConfiguration.configurationDigest
      Transition.EachStep step (fun s act => s.setsCircuit digest act = false) opened period →
        opened.dispatchCount checks digest period ≤ 1) ∧
    (Transition.EachStep step (UsesForDispatch checks) start acts ↔
      Transition.EachStep step (ProbesReservable checks) start acts) := by
  intro start step
  constructor
  · intro period opened digest hquiet
    have hopen : (opened.store.targetState digest).circuit = .halfOpen := by
      have htarget : opened.store.targetState digest = _ := targetState_update rfl
      exact congrArg TargetState.circuit (htarget.trans (if_pos rfl))
    exact (dispatchCount_le hopen hquiet).trans (Bool.toNat_le _)
  · have huses : UsesForDispatch checks = ProbesReservable checks := by
      funext s act
      exact propext (usesForDispatch_iff act)
    rw [huses]

def demoOther : ModelProviderInvocationRequest :=
  { demoRequest with invocationId := [5], logicalIdempotencyKey := [4] }

def demoPeriod : List RuntimeAction :=
  [.execute 0 demoRequest { halfOpenProbe := true }, .execute 1 demoOther { halfOpenProbe := true }]

/-- The probe dispatches with the permit, and the late request finds none. -/
theorem probes_after_demo :
    let opened := demoStart.step demoChecks (.setCircuit .halfOpen)
    opened.dispatchCount demoChecks [] demoPeriod = 1 ∧
      opened.UsesPermit demoChecks [] (.execute 0 demoRequest { halfOpenProbe := true }) ∧
      Transition.EachStep (fun s : ProviderRuntime => s.step demoChecks)
        (UsesForDispatch demoChecks) demoStart (.setCircuit .halfOpen :: demoPeriod) := by
  intro opened
  have hprobes := probes_after demoChecks ⟨[], js "DETERMINISTIC_FIXTURE", .null⟩ .null 0
  have hquiet : Transition.EachStep (fun s : ProviderRuntime => s.step demoChecks)
      (fun s act => s.setsCircuit [] act = false) opened demoPeriod := by decide
  have hsome : 0 < opened.dispatchCount demoChecks [] demoPeriod := by decide
  refine ⟨Nat.le_antisymm ((hprobes []).1 demoPeriod hquiet) hsome, ?_, ?_⟩
  · refine ⟨?_, ?_, ?_⟩ <;> decide
  · refine (hprobes (.setCircuit .halfOpen :: demoPeriod)).2.mpr ⟨trivial, ?_, ?_, trivial⟩
    · exact fun _ => ⟨rfl, nofun, nofun⟩
    · exact fun htakes => absurd htakes.takes.available (by decide)

def demoProbe : List RuntimeAction :=
  [.execute 0 demoRequest {}, .setCircuit .halfOpen,
    .execute 1 demoRequest { halfOpenProbe := true }]

/-- The probe of a duplicate uses up the permit and dispatches nothing. -/
theorem probes_after_fails :
    ¬ ∀ acts, Transition.EachStep (fun s : ProviderRuntime => s.step demoChecks)
      (UsesForDispatch demoChecks) demoStart acts := by
  intro hall
  obtain ⟨-, -, huses, -⟩ := hall demoProbe
  have huse : UsesPermit demoChecks (demoStart.after demoChecks (demoProbe.take 2)) []
      (.execute 1 demoRequest { halfOpenProbe := true }) := by
    refine ⟨?_, ?_, ?_⟩ <;> decide
  exact absurd (huses [] huse) (by decide)

end ProviderRuntime

end Aico
