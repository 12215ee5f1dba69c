import Aico.Foundation.Transition
import Aico.ProviderSpike.RuntimeStore

/-!
# The provider runtime

`execute` checks a request, reserves it and calls the adapter; it waits for the
answer, and anything else may happen before it goes on. `reconcile` asks the adapter
what became of an invocation and waits as well. The adapter may answer anything or
throw, so its answers are part of the actions. The controls are the default ones,
and what the fixture, the validator and the canary scan say of a value is a
parameter (`RuntimeChecks`). The safe logs, which no operation reads, and the abort
signal, which only the adapter sees, are left out.
-/

namespace Aico

open InMemoryProviderRuntimeStore

structure ModelProviderConfiguration where
  configurationDigest : Digest
  providerKey : JsString
  others : Json

abbrev ModelProviderTargetDecision := Json

structure CandidateValidationResult where
  valid : Bool
  parsed : Option Json
  diagnostics : Json
  diagnosticsDigest : Digest

structure ProofExecutionReceipt where
  status : ProviderResultStatus
  reasonClass : String
  invocationId : JsString
  committed : Bool
  duplicate : Bool
  repairEligible : Bool
  retryScheduled : Bool
  reconciliationRequired : Bool
  candidateValidation : Option CandidateValidationResult

structure ProofExecutionOptions where
  remainingRetryBudget : Option ℤ := none
  maximumRetries : Option ℤ := none
  preCanceled : Bool := false
  sanitizationCertain : Option Bool := none
  environment : Option JsString := none
  halfOpenProbe : Bool := false

/-- What the service asks of the fixture's context, the validator and the canary
scan. An assertion on the context throws its code. -/
structure RuntimeChecks where
  seededBoundarySource : Except String PUnit
  parseDate : JsString → Option ℤ
  canonicalDigest : Json → Digest
  assertRequestBindings : ModelProviderInvocationRequest → ModelProviderConfiguration →
    ModelProviderTargetDecision → Bool
  assertResultBindings : ModelProviderInvocationRequest → ModelProviderInvocationResult →
    ModelProviderConfiguration → Bool
  validateCandidate : ModelProviderInvocationResult → CandidateValidationResult
  requestContainsCanary : ModelProviderInvocationRequest → Bool
  resultContainsCanary : ModelProviderInvocationResult → Bool
  evidenceContainsCanary : ModelProviderInvocationRequest → ModelProviderInvocationResult →
    String → Bool

namespace FailureClassification

def text : FailureClassification → String
  | .preDispatchTransient => "PRE_DISPATCH_TRANSIENT"
  | .rateLimited => "RATE_LIMITED"
  | .validation => "VALIDATION"
  | .refusalSafety => "REFUSAL_SAFETY"
  | .canceled => "CANCELED"
  | .postDispatchTimeoutUnknown => "POST_DISPATCH_TIMEOUT_UNKNOWN"
  | .policyDenied => "POLICY_DENIED"
  | .budgetExhausted => "BUDGET_EXHAUSTED"
  | .terminalProvider => "TERMINAL_PROVIDER"
  | .integrity => "INTEGRITY"
  | .configuration => "CONFIGURATION"
  | .targetKilled => "TARGET_KILLED"
  | .circuitOpen => "CIRCUIT_OPEN"

end FailureClassification

namespace ProviderRuntimeProof

def failureReceipt (request : ModelProviderInvocationRequest) (reasonClass : String) :
    ProofExecutionReceipt where
  status := .failed
  reasonClass := reasonClass
  invocationId := request.invocationId
  committed := false
  duplicate := false
  repairEligible := false
  retryScheduled := false
  reconciliationRequired := false
  candidateValidation := none

def unknownReceipt (request : ModelProviderInvocationRequest) (reasonClass : String) :
    ProofExecutionReceipt :=
  { failureReceipt request reasonClass with status := .unknown, reconciliationRequired := true }

def duplicateReceipt (record : ProofInvocationRecord) : ProofExecutionReceipt where
  status :=
    if record.committedDigest ≠ none then .succeeded
    else if record.state = .reconciliationRequired then .unknown
    else if record.state = .canceled then .canceled
    else .failed
  reasonClass := "DUPLICATE_REPLAY"
  invocationId := record.invocationId
  committed := record.committedDigest ≠ none
  duplicate := true
  repairEligible := false
  retryScheduled := record.state = .retryWait
  reconciliationRequired := false
  candidateValidation := none

def reconciliationRequiredReceipt (record : ProofInvocationRecord) : ProofExecutionReceipt where
  status := .unknown
  reasonClass := "RECONCILIATION_REQUIRED"
  invocationId := record.invocationId
  committed := false
  duplicate := true
  repairEligible := false
  retryScheduled := false
  reconciliationRequired := true
  candidateValidation := none

def composeSanitizedRequest (supplied : ModelProviderInvocationRequest) :
    ModelProviderInvocationRequest :=
  { supplied with privacy := { supplied.privacy with
      credentialsPresent := false
      hiddenReasoningPresent := false
      rawTranscriptPresent := false
      foreignTenantContentPresent := false
      prohibitedContentScan := js "PASS" } }

def preparedRequest (supplied : ModelProviderInvocationRequest)
    (options : ProofExecutionOptions) : ModelProviderInvocationRequest :=
  let request := composeSanitizedRequest supplied
  { request with environment := options.environment.getD request.environment }

/-- An execution that waits for the adapter. -/
structure ExecuteFrame where
  request : ModelProviderInvocationRequest
  options : ProofExecutionOptions
  configuration : ModelProviderConfiguration
  generations : Generations

/-- How far an execution comes before it waits. -/
inductive ExecuteStart where
  | returned (receipt : ProofExecutionReceipt)
  | invoking (frame : ExecuteFrame)

variable (checks : RuntimeChecks)

/-- The reason to refuse a request before the store is asked, if there is one. -/
def refusal (now : ℤ) (configuration : ModelProviderConfiguration)
    (targetDecision : ModelProviderTargetDecision) (request : ModelProviderInvocationRequest)
    (options : ProofExecutionOptions) : Option ProofExecutionReceipt :=
  if request.environment = js "STAGING" ∨ request.environment = js "PRODUCTION" then
    some (failureReceipt request "DETERMINISTIC_DEPLOYED_ENVIRONMENT_REJECTED")
  else if request.providerKey ≠ js "DETERMINISTIC_FIXTURE" ∨
      configuration.providerKey ≠ js "DETERMINISTIC_FIXTURE" then
    some (failureReceipt request "EXTERNAL_PROVIDER_DISABLED")
  else if options.preCanceled then
    some { failureReceipt request "PRE_DISPATCH_CANCELED" with status := .canceled }
  else if (checks.parseDate request.deadlineAt).any (· ≤ now) then
    some (failureReceipt request "PRE_DISPATCH_TIMEOUT")
  else if options.sanitizationCertain = some false then
    some (failureReceipt request "SANITIZATION_UNCERTAIN")
  else if checks.assertRequestBindings request configuration targetDecision = false then
    some (failureReceipt request "REQUEST_BINDING_REJECTED")
  else none

def reserveAndDispatch (configuration : ModelProviderConfiguration)
    (request : ModelProviderInvocationRequest) (options : ProofExecutionOptions) :
    StoreProg ExecuteStart := do
  let reservation ← reserve request
  match reservation with
  | .collision _ => pure (.returned (failureReceipt request "IDEMPOTENCY_COLLISION"))
  | .duplicate record => pure (.returned (duplicateReceipt record))
  | .reconciliationRequired record => pure (.returned (reconciliationRequiredReceipt record))
  | .created record =>
      beginDispatch request.invocationId
      pure (.invoking ⟨request, options, configuration, record.generations⟩)

/-- `execute` up to its call of the adapter. -/
def execute (now : ℤ) (configuration : ModelProviderConfiguration)
    (targetDecision : ModelProviderTargetDecision) (supplied : ModelProviderInvocationRequest)
    (options : ProofExecutionOptions) : StoreProg ExecuteStart :=
  match checks.seededBoundarySource with
  | .error code => Prog.throw code
  | .ok _ =>
      let request := preparedRequest supplied options
      match refusal checks now configuration targetDecision request options with
      | some receipt => pure (.returned receipt)
      | none => do
          Prog.ensure (checks.requestContainsCanary request = false) "REQUEST_CANARY"
          let startable ← canStartNewAttempt configuration.configurationDigest
            options.halfOpenProbe
          if startable = false then
            pure (.returned (failureReceipt request "TARGET_OR_CIRCUIT_BLOCKED"))
          else reserveAndDispatch configuration request options

/-- The safe evidence is free of canaries, or the assertion fails. -/
def emitEvidence (request : ModelProviderInvocationRequest)
    (result : ModelProviderInvocationResult) (reasonClass : String) : StoreProg PUnit :=
  Prog.ensure (checks.evidenceContainsCanary request result reasonClass = false)
    "EVIDENCE_CANARY"

def retryRateLimited (frame : ExecuteFrame) (failure : Option RuntimeFailure) :
    StoreProg Bool :=
  match failure.filter (fun f => f.classification = .rateLimited) >>= RuntimeFailure.retryAfter with
  | none => pure false
  | some retryAfter =>
      scheduleRetry checks.parseDate frame.request.invocationId retryAfter
        frame.request.deadlineAt (frame.options.remainingRetryBudget.getD 1)
        (frame.options.maximumRetries.getD 1)

def settleFailed (frame : ExecuteFrame) (result : ModelProviderInvocationResult) :
    StoreProg ProofExecutionReceipt := do
  let request := frame.request
  let classification := result.failure.map RuntimeFailure.classification
  let retryScheduled ← retryRateLimited checks frame result.failure
  let reasonClass := (classification.map FailureClassification.text).getD "FAILED"
  emitEvidence checks request result reasonClass
  pure { failureReceipt request reasonClass with
    retryScheduled := retryScheduled
    repairEligible := classification = some .validation }

/-- Commit the candidate; a fenced one is left to reconciliation. -/
def commitOrReconcile (invocationId : JsString) (expected : Generations) (digest : Digest) :
    StoreProg Bool := do
  let committed ← commitCandidate invocationId expected digest
  if committed then
    pure true
  else do
    markReconciliationRequired invocationId
    pure false

def settleCandidate (frame : ExecuteFrame) (result : ModelProviderInvocationResult) :
    StoreProg ProofExecutionReceipt := do
  let request := frame.request
  let candidateValidation := checks.validateCandidate result
  match candidateValidation.valid, candidateValidation.parsed with
  | true, some candidate =>
      recordResult request.invocationId result
      let committed ← commitOrReconcile request.invocationId frame.generations
        (checks.canonicalDigest candidate)
      let reasonClass := if committed then "SUCCESS" else "LATE_RESULT_FENCED"
      emitEvidence checks request result reasonClass
      pure {
        status := if committed then .succeeded else .canceled
        reasonClass := reasonClass
        invocationId := request.invocationId
        committed := committed
        duplicate := false
        repairEligible := false
        retryScheduled := false
        reconciliationRequired := !committed
        candidateValidation := some candidateValidation }
  | _, _ =>
      markValidationFailed request.invocationId
      emitEvidence checks request result "VALIDATION"
      pure { failureReceipt request "VALIDATION" with
        repairEligible := true
        candidateValidation := some candidateValidation }

/-- `execute` from the adapter's answer on; there is none where the adapter threw. -/
def executeSettled (frame : ExecuteFrame) (answer : Option ModelProviderInvocationResult) :
    StoreProg ProofExecutionReceipt :=
  let request := frame.request
  let rejected : StoreProg ProofExecutionReceipt := do
    markReconciliationRequired request.invocationId
    pure (unknownReceipt request "INTEGRITY")
  match answer with
  | none => rejected
  | some result =>
      if checks.assertResultBindings request result frame.configuration = false then
        rejected
      else if checks.resultContainsCanary result then do
        markValidationFailed request.invocationId
        emitEvidence checks request result "PROHIBITED_RESULT_DROPPED"
        pure (failureReceipt request "PROHIBITED_RESULT_DROPPED")
      else
        match result.status with
        | .unknown => do
            recordResult request.invocationId result
            emitEvidence checks request result "UNKNOWN"
            pure (unknownReceipt request "POST_DISPATCH_UNKNOWN")
        | .canceled => do
            recordResult request.invocationId result
            emitEvidence checks request result "CANCELED"
            pure { failureReceipt request "CANCELED" with
              status := .canceled
              reconciliationRequired :=
                (result.failure.map RuntimeFailure.reconciliationRequired).getD false }
        | .failed => do
            recordResult request.invocationId result
            settleFailed checks frame result
        | .succeeded => settleCandidate checks frame result

/-- `reconcile` up to its question to the adapter: the record as it is then. -/
def reconcile (request : ModelProviderInvocationRequest) : StoreProg ProofInvocationRecord := do
  let before ← Prog.gets fun s => s.byInvocation request.invocationId
  Prog.require before "RECONCILIATION_INVOCATION"

def fencedBefore (before : ProofInvocationRecord) : Bool :=
  0 < before.cancellationGeneration ∨ 0 < before.terminalGeneration ∨
    before.leaseGeneration ≠ 1

/-- The candidate of a reconciled result: `none` where the checks reject the result,
and no candidate where the result is not a success. -/
def reconciledCandidate (configuration : ModelProviderConfiguration)
    (targetDecision : ModelProviderTargetDecision) (request : ModelProviderInvocationRequest)
    (result : ModelProviderInvocationResult) :
    Option (Option (CandidateValidationResult × Json)) :=
  if checks.assertRequestBindings request configuration targetDecision = false ∨
      checks.assertResultBindings request result configuration = false ∨
      checks.resultContainsCanary result = true then
    none
  else if result.status = .succeeded then
    let candidateValidation := checks.validateCandidate result
    match candidateValidation.valid, candidateValidation.parsed with
    | true, some candidate => some (some (candidateValidation, candidate))
    | _, _ => none
  else some none

/-- `reconcile` from the adapter's answer on; `none` is an invocation the adapter
does not know. -/
def reconcileSettled (configuration : ModelProviderConfiguration)
    (targetDecision : ModelProviderTargetDecision) (request : ModelProviderInvocationRequest)
    (before : ProofInvocationRecord) (answer : Option ModelProviderInvocationResult) :
    StoreProg ProofExecutionReceipt :=
  let blocked : StoreProg ProofExecutionReceipt := do
    markReconciled request.invocationId none
    pure (unknownReceipt request "RECONCILIATION_BLOCKED")
  match answer with
  | none => blocked
  | some result =>
      if fencedBefore before then blocked
      else
        match reconciledCandidate checks configuration targetDecision request result with
        | none => blocked
        | some candidate => do
            markReconciled request.invocationId (some result)
            match result.status, candidate with
            | .unknown, _ => pure (unknownReceipt request "RECONCILIATION_PENDING")
            | .succeeded, some (candidateValidation, parsed) => do
                let committed ← commitOrReconcile request.invocationId before.generations
                  (checks.canonicalDigest parsed)
                pure {
                  status := if committed then .succeeded else .unknown
                  reasonClass := if committed then "RECONCILED" else "RECONCILIATION_BLOCKED"
                  invocationId := request.invocationId
                  committed := committed
                  duplicate := false
                  repairEligible := false
                  retryScheduled := false
                  reconciliationRequired := !committed
                  candidateValidation := some candidateValidation }
            | status, _ => pure { failureReceipt request "RECONCILED" with status := status }

end ProviderRuntimeProof

open ProviderRuntimeProof

/-- A call that waits for the adapter. -/
inductive RuntimeCall where
  | executing (frame : ExecuteFrame)
  | reconciling (request : ModelProviderInvocationRequest) (before : ProofInvocationRecord)

/-- The service and its adapter, with the requests that the adapter was invoked with,
newest first, and the calls that wait. -/
structure ProviderRuntime where
  store : InMemoryProviderRuntimeStore
  activeConfiguration : ModelProviderConfiguration
  activeTargetDecision : ModelProviderTargetDecision
  now : ℤ
  receivedRequests : List ModelProviderInvocationRequest
  calls : ℕ → Option RuntimeCall

/-- What can happen next. A call has a number, under which the adapter answers it. -/
inductive RuntimeAction where
  | execute (k : ℕ) (request : ModelProviderInvocationRequest) (options : ProofExecutionOptions)
  | invoked (k : ℕ) (answer : Option ModelProviderInvocationResult)
  | reconcile (k : ℕ) (request : ModelProviderInvocationRequest)
  | lookedUp (k : ℕ) (answer : Option ModelProviderInvocationResult)
  | lookupFailed (k : ℕ)
  | cancel (invocationId : JsString)
  | loseLease (invocationId : JsString)
  | markTerminal (invocationId : JsString)
  | beginRepair (failedInvocationId repairInvocationId reservationId : JsString)
  | applyConfiguration (digest : Digest)
  | applyTarget (configuration : ModelProviderConfiguration)
      (targetDecision : ModelProviderTargetDecision)
  | setCircuit (state : CircuitState)
  | setKilled (killed : Bool)
  | wait (duration : ℕ)

namespace ProviderRuntime

variable (checks : RuntimeChecks) (s : ProviderRuntime)

def initial (configuration : ModelProviderConfiguration)
    (targetDecision : ModelProviderTargetDecision) (now : ℤ) : ProviderRuntime where
  store := (setActiveConfiguration configuration.configurationDigest .empty).2
  activeConfiguration := configuration
  activeTargetDecision := targetDecision
  now := now
  receivedRequests := []
  calls := fun _ => none

/-- The store after an operation; one that throws leaves what it wrote. -/
def ran {α : Type} (p : StoreProg α) : ProviderRuntime :=
  { s with store := (p s.store).2 }

def ended (k : ℕ) : ProviderRuntime :=
  { s with calls := Function.update s.calls k none }

def startExecute (k : ℕ) (request : ModelProviderInvocationRequest)
    (options : ProofExecutionOptions) : ProviderRuntime :=
  let p := ProviderRuntimeProof.execute checks s.now s.activeConfiguration
    s.activeTargetDecision request options
  match (p s.store).1 with
  | .ok (.invoking frame) =>
      { s.ran p with
        receivedRequests := frame.request :: s.receivedRequests
        calls := Function.update s.calls k (some (.executing frame)) }
  | _ => s.ran p

def startReconcile (k : ℕ) (request : ModelProviderInvocationRequest) : ProviderRuntime :=
  match (ProviderRuntimeProof.reconcile request s.store).1 with
  | .ok before =>
      { s with calls := Function.update s.calls k (some (.reconciling request before)) }
  | .error _ => s

/-- The step of the system; an action that names no waiting call, or a call number
that is in use, changes nothing. -/
def step : RuntimeAction → ProviderRuntime
  | .execute k request options =>
      match s.calls k with
      | none => s.startExecute checks k request options
      | some _ => s
  | .invoked k answer =>
      match s.calls k with
      | some (.executing frame) => (s.ran (executeSettled checks frame answer)).ended k
      | _ => s
  | .reconcile k request =>
      match s.calls k with
      | none => s.startReconcile k request
      | some _ => s
  | .lookedUp k answer =>
      match s.calls k with
      | some (.reconciling request before) =>
          (s.ran (reconcileSettled checks s.activeConfiguration s.activeTargetDecision request
            before answer)).ended k
      | _ => s
  | .lookupFailed k =>
      match s.calls k with
      | some (.reconciling _ _) => s.ended k
      | _ => s
  | .cancel invocationId => s.ran (cancel invocationId)
  | .loseLease invocationId => s.ran (loseLease invocationId)
  | .markTerminal invocationId => s.ran (markTerminal invocationId)
  | .beginRepair failedInvocationId repairInvocationId reservationId =>
      s.ran (beginRepair failedInvocationId repairInvocationId reservationId)
  | .applyConfiguration digest => s.ran (setActiveConfiguration digest)
  | .applyTarget configuration targetDecision =>
      { s.ran (setActiveConfiguration configuration.configurationDigest) with
        activeConfiguration := configuration
        activeTargetDecision := targetDecision }
  | .setCircuit state =>
      s.ran (setCircuit s.activeConfiguration.configurationDigest state)
  | .setKilled killed => s.ran (setKilled s.activeConfiguration.configurationDigest killed)
  | .wait duration => { s with now := s.now + duration }

def after (acts : List RuntimeAction) : ProviderRuntime :=
  Transition.run (fun s => s.step checks) s acts

end ProviderRuntime

end Aico
