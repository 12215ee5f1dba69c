import Aico.Common.Identifiers
import Aico.Foundation.Program
import Aico.Foundation.Table

/-!
# The store of the provider runtime

An invocation record is reserved once for its logical key, and found again by its
invocation identifier. Both maps of the store hold the same records, and a `set`
is always of a new record, so a lookup is of the newest record with the key; the
records stand here newest first. A failed assertion throws its code and keeps what
was written before it.
-/

namespace Aico

structure VersionReference where
  id : JsString
  kind : JsString
  logicalKey : JsString
  semanticVersion : JsString
  contentDigest : Digest
deriving DecidableEq

inductive ProviderResultStatus where
  | succeeded
  | failed
  | canceled
  | unknown
deriving DecidableEq

inductive DispatchPhase where
  | notDispatched
  | dispatched
  | uncertain
deriving DecidableEq

inductive FailureClassification where
  | preDispatchTransient
  | rateLimited
  | validation
  | refusalSafety
  | canceled
  | postDispatchTimeoutUnknown
  | policyDenied
  | budgetExhausted
  | terminalProvider
  | integrity
  | configuration
  | targetKilled
  | circuitOpen
deriving DecidableEq

structure RuntimeFailure where
  classification : FailureClassification
  dispatchPhase : DispatchPhase
  retryAfter : Option JsString
  reconciliationRequired : Bool
deriving DecidableEq

/-- The marks that `composeSanitizedRequest` sets, and the other fields. -/
structure RequestPrivacy where
  credentialsPresent : Bool
  hiddenReasoningPresent : Bool
  rawTranscriptPresent : Bool
  foreignTenantContentPresent : Bool
  prohibitedContentScan : JsString
  others : Json

/-- `others` holds the fields that only the validator reads. -/
structure ModelProviderInvocationRequest where
  attemptId : JsString
  invocationId : JsString
  logicalIdempotencyKey : JsString
  requestDigest : Digest
  providerConfiguration : Option VersionReference
  outputSchema : Option VersionReference
  environment : JsString
  providerKey : JsString
  deadlineAt : JsString
  budgetReservations : List JsString
  privacy : RequestPrivacy
  others : Json

structure ModelProviderInvocationResult where
  status : ProviderResultStatus
  failure : Option RuntimeFailure
  candidateOutput : Option Json
  others : Json

inductive ProofAttemptState where
  | ready
  | dispatching
  | dispatched
  | retryWait
  | reconciliationRequired
  | canceled
  | blocked
  | succeeded
  | failed
deriving DecidableEq

structure ProofInvocationRecord where
  logicalKey : JsString
  requestDigest : Digest
  attemptId : JsString
  invocationId : JsString
  configurationRef : VersionReference
  schemaRef : VersionReference
  state : ProofAttemptState
  dispatchPhase : DispatchPhase
  leaseGeneration : ℕ
  cancellationGeneration : ℕ
  terminalGeneration : ℕ
  repairCount : ℕ
  retryCount : ℕ
  result : Option ModelProviderInvocationResult
  nextAttemptAt : Option JsString
  reservationIds : List JsString
  committedDigest : Option Digest

structure ProofSideEffectLedger where
  providerCalls : ℕ
  reservations : ℕ
  retrySchedules : ℕ
  repairInvocations : ℕ
  reconciliations : ℕ
  candidateCommits : ℕ
  artifactEffects : ℕ
  taskEffects : ℕ
  stateEffects : ℕ

inductive CircuitState where
  | closed
  | opened
  | halfOpen
deriving DecidableEq

structure TargetState where
  circuit : CircuitState
  killed : Bool
  halfOpenProbeAvailable : Bool

structure CommittedArtifact where
  invocationId : JsString
  contentDigest : Digest
deriving DecidableEq

structure InMemoryProviderRuntimeStore where
  records : List ProofInvocationRecord
  ledger : ProofSideEffectLedger
  committedArtifacts : List CommittedArtifact
  activeConfigurationDigest : Option Digest
  targetStates : Digest → TargetState

inductive ReservationOutcome where
  | created (record : ProofInvocationRecord)
  | duplicate (record : ProofInvocationRecord)
  | collision (record : ProofInvocationRecord)
  | reconciliationRequired (record : ProofInvocationRecord)

/-- A program over the store; it throws the code of an assertion. -/
abbrev StoreProg := Prog InMemoryProviderRuntimeStore String

namespace InMemoryProviderRuntimeStore

def empty : InMemoryProviderRuntimeStore where
  records := []
  ledger := ⟨0, 0, 0, 0, 0, 0, 0, 0, 0⟩
  committedArtifacts := []
  activeConfigurationDigest := none
  targetStates := fun _ => ⟨.closed, false, false⟩

def hasKey (key : JsString) (r : ProofInvocationRecord) : Bool := r.logicalKey = key

def isInvocation (invocationId : JsString) (r : ProofInvocationRecord) : Bool :=
  r.invocationId = invocationId

/-- `byLogicalKey.get(key)`. -/
def byLogicalKey (s : InMemoryProviderRuntimeStore) (key : JsString) :
    Option ProofInvocationRecord :=
  s.records.find? (hasKey key)

/-- `byInvocation.get(invocationId)`. -/
def byInvocation (s : InMemoryProviderRuntimeStore) (invocationId : JsString) :
    Option ProofInvocationRecord :=
  s.records.find? (isInvocation invocationId)

def requireRecord (invocationId : JsString) : StoreProg ProofInvocationRecord := do
  let record ← Prog.gets fun s => s.byInvocation invocationId
  Prog.require record "INVOCATION_NOT_FOUND"

def update (invocationId : JsString) (f : ProofInvocationRecord → ProofInvocationRecord) :
    StoreProg PUnit :=
  Prog.modify fun s =>
    { s with records := Table.updateFirst (isInvocation invocationId) f s.records }

def count (f : ProofSideEffectLedger → ProofSideEffectLedger) : StoreProg PUnit :=
  Prog.modify fun s => { s with ledger := f s.ledger }

def newRecord (request : ModelProviderInvocationRequest)
    (configurationRef schemaRef : VersionReference) : ProofInvocationRecord where
  logicalKey := request.logicalIdempotencyKey
  requestDigest := request.requestDigest
  attemptId := request.attemptId
  invocationId := request.invocationId
  configurationRef := configurationRef
  schemaRef := schemaRef
  state := .ready
  dispatchPhase := .notDispatched
  leaseGeneration := 1
  cancellationGeneration := 0
  terminalGeneration := 0
  repairCount := 0
  retryCount := 0
  result := none
  nextAttemptAt := none
  reservationIds := request.budgetReservations
  committedDigest := none

def reserve (request : ModelProviderInvocationRequest) : StoreProg ReservationOutcome := do
  let existing ← Prog.gets fun s => s.byLogicalKey request.logicalIdempotencyKey
  match existing with
  | some record =>
      if record.requestDigest ≠ request.requestDigest then
        pure (.collision record)
      else if record.state = .reconciliationRequired then
        pure (.reconciliationRequired record)
      else
        pure (.duplicate record)
  | none =>
      let configurationRef ← Prog.require request.providerConfiguration "STORE_VERSION_REF"
      let schemaRef ← Prog.require request.outputSchema "STORE_VERSION_REF"
      let record := newRecord request configurationRef schemaRef
      Prog.modify fun s => { s with records := record :: s.records }
      count fun l => { l with reservations := l.reservations + record.reservationIds.length }
      pure (.created record)

def beginDispatch (invocationId : JsString) : StoreProg PUnit := do
  let record ← requireRecord invocationId
  Prog.ensure (record.state = .ready) "DISPATCH_STATE"
  update invocationId fun r => { r with state := .dispatching, dispatchPhase := .dispatched }
  count fun l => { l with providerCalls := l.providerCalls + 1 }

/-- `result.failure?.dispatch_phase ?? 'UNCERTAIN'`. -/
def uncertainPhase (result : ModelProviderInvocationResult) : DispatchPhase :=
  (result.failure.map RuntimeFailure.dispatchPhase).getD .uncertain

def withResult (result : ModelProviderInvocationResult) (r : ProofInvocationRecord) :
    ProofInvocationRecord :=
  if r.state = .canceled then { r with result := some result, dispatchPhase := .uncertain }
  else
    match result.status with
    | .unknown => { r with
        result := some result
        state := .reconciliationRequired
        dispatchPhase := uncertainPhase result }
    | .failed => { r with result := some result, state := .failed }
    | .canceled => { r with result := some result, state := .canceled }
    | .succeeded => { r with result := some result, state := .dispatched }

def recordResult (invocationId : JsString) (result : ModelProviderInvocationResult) :
    StoreProg PUnit := do
  let _ ← requireRecord invocationId
  update invocationId (withResult result)

def cancel (invocationId : JsString) : StoreProg PUnit := do
  let _ ← requireRecord invocationId
  update invocationId fun r =>
    { r with cancellationGeneration := r.cancellationGeneration + 1, state := .canceled }

def loseLease (invocationId : JsString) : StoreProg PUnit := do
  let _ ← requireRecord invocationId
  update invocationId fun r => { r with leaseGeneration := r.leaseGeneration + 1 }

def markTerminal (invocationId : JsString) : StoreProg PUnit := do
  let _ ← requireRecord invocationId
  update invocationId fun r => { r with terminalGeneration := r.terminalGeneration + 1 }

def markValidationFailed (invocationId : JsString) : StoreProg PUnit := do
  let _ ← requireRecord invocationId
  update invocationId fun r => { r with state := .failed }

def markReconciliationRequired (invocationId : JsString) : StoreProg PUnit := do
  let _ ← requireRecord invocationId
  update invocationId fun r =>
    { r with state := .reconciliationRequired, dispatchPhase := .uncertain }

/-- Schedule a retry where the hint is within the deadline and retries are left.
`parseDate` is `Date.parse` where it is finite. -/
def scheduleRetry (parseDate : JsString → Option ℤ)
    (invocationId nextAttemptAt deadlineAt : JsString)
    (remainingRetryBudget maximumRetries : ℤ) : StoreProg Bool := do
  let record ← requireRecord invocationId
  match parseDate nextAttemptAt, parseDate deadlineAt with
  | some next, some deadline =>
      if deadline < next then pure false
      else if remainingRetryBudget ≤ 0 ∨ maximumRetries ≤ record.retryCount then pure false
      else do
        update invocationId fun r => { r with
          retryCount := r.retryCount + 1
          nextAttemptAt := some nextAttemptAt
          state := .retryWait }
        count fun l => { l with retrySchedules := l.retrySchedules + 1 }
        pure true
  | _, _ => pure false

/-- Count the one repair of an invocation, which has an identity and a reservation of
its own. -/
def beginRepair (originalInvocationId repairInvocationId reservationId : JsString) :
    StoreProg PUnit := do
  let record ← requireRecord originalInvocationId
  Prog.ensure (record.repairCount < 1) "STORE_REPAIR_CAP"
  Prog.ensure (repairInvocationId ≠ originalInvocationId) "STORE_REPAIR_IDENTITY"
  Prog.ensure (reservationId ∉ record.reservationIds) "STORE_REPAIR_RESERVATION"
  update originalInvocationId fun r => { r with repairCount := r.repairCount + 1 }
  count fun l => { l with repairInvocations := l.repairInvocations + 1 }

def reconciled (result : Option ModelProviderInvocationResult) (r : ProofInvocationRecord) :
    ProofInvocationRecord :=
  match result with
  | none => { r with state := .blocked }
  | some result =>
      match result.status with
      | .succeeded => { r with result := some result, state := .dispatched }
      | .unknown => { r with
          result := some result
          state := .reconciliationRequired
          dispatchPhase := uncertainPhase result }
      | _ => { r with result := some result, state := .blocked }

def markReconciled (invocationId : JsString) (result : Option ModelProviderInvocationResult) :
    StoreProg PUnit := do
  let record ← requireRecord invocationId
  Prog.ensure (record.state = .reconciliationRequired) "RECONCILIATION_STATE"
  count fun l => { l with reconciliations := l.reconciliations + 1 }
  update invocationId (reconciled result)

/-- The generations that fence a commit. -/
structure Generations where
  lease : ℕ
  cancellation : ℕ
  terminal : ℕ
deriving DecidableEq

end InMemoryProviderRuntimeStore

def ProofInvocationRecord.generations (r : ProofInvocationRecord) :
    InMemoryProviderRuntimeStore.Generations :=
  ⟨r.leaseGeneration, r.cancellationGeneration, r.terminalGeneration⟩

namespace InMemoryProviderRuntimeStore

/-- Commit a candidate, unless a generation has moved or the record is not waiting
for a commit. -/
def commitCandidate (invocationId : JsString) (expected : Generations) (digest : Digest) :
    StoreProg Bool := do
  let record ← requireRecord invocationId
  if record.generations ≠ expected ∨ record.state ≠ .dispatched then
    pure false
  else do
    update invocationId fun r => { r with state := .succeeded, committedDigest := some digest }
    count fun l => { l with
      candidateCommits := l.candidateCommits + 1
      artifactEffects := l.artifactEffects + 1
      taskEffects := l.taskEffects + 1
      stateEffects := l.stateEffects + 1 }
    Prog.modify fun s =>
      { s with committedArtifacts := ⟨invocationId, digest⟩ :: s.committedArtifacts }
    pure true

def targetState (s : InMemoryProviderRuntimeStore) (configurationDigest : Digest) : TargetState :=
  s.targetStates configurationDigest

def setTarget (configurationDigest : Digest) (f : TargetState → TargetState) : StoreProg PUnit :=
  Prog.modify fun s =>
    let target := f (s.targetState configurationDigest)
    { s with targetStates := Function.update s.targetStates configurationDigest target }

def setActiveConfiguration (digest : Digest) : StoreProg PUnit :=
  Prog.modify fun s => { s with activeConfigurationDigest := some digest }

def setCircuit (configurationDigest : Digest) (state : CircuitState) : StoreProg PUnit :=
  setTarget configurationDigest fun t =>
    { t with circuit := state, halfOpenProbeAvailable := state = .halfOpen }

def setKilled (configurationDigest : Digest) (killed : Bool) : StoreProg PUnit :=
  setTarget configurationDigest fun t => { t with killed := killed }

/-- Whether a new attempt may start; a half-open circuit lets one probe through. -/
def canStartNewAttempt (configurationDigest : Digest) (halfOpenProbe : Bool) :
    StoreProg Bool := do
  let target ← Prog.gets fun s => s.targetState configurationDigest
  let active ← Prog.gets activeConfigurationDigest
  if target.killed ∨ target.circuit = .opened then
    pure false
  else if target.circuit = .halfOpen then
    if halfOpenProbe ∧ target.halfOpenProbeAvailable then do
      setTarget configurationDigest fun t => { t with halfOpenProbeAvailable := false }
      pure true
    else
      pure false
  else
    pure (active = none ∨ active = some configurationDigest)

end InMemoryProviderRuntimeStore

end Aico
