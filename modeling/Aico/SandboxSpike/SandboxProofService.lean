import Aico.Foundation.Program
import Aico.Foundation.Transition
import Aico.SandboxSpike.SandboxContracts

/-!
# The sandbox service

`execute` answers a request whose key has a receipt from the receipt. Any other request it
checks, and a denial is stored as its receipt; one that passes it hands to the adapter and
waits. The receipt of such a call is stored when the adapter has answered, and not at all
where the adapter throws. Anything else may happen while a call waits.
-/

namespace Aico

namespace SandboxProof

structure StoredReceipt where
  requestDigest : Digest
  receipt : SandboxProofReceipt

/-- The `SandboxProofConflict` that a caller sees. -/
inductive SandboxProofConflict where
  | idempotencyConflict
deriving DecidableEq

structure SandboxProofService where
  ledger : SideEffectLedger
  receipts : JsMap JsString StoredReceipt

abbrev ServiceProg := Prog SandboxProofService SandboxProofConflict

abbrev Check := Except SandboxReason Unit

/-- Deny where the condition holds. -/
def denyIf (c : Prop) [Decidable c] (reason : SandboxReason) : Check :=
  if c then .error reason else .ok ()

namespace SandboxProofService

def allowedCommands : List JsString :=
  [js "FORMAT_CHECK", js "LINT", js "TYPECHECK", js "TEST", js "PRODUCTION_BUILD",
    js "NETWORK_DNS_PROBE", js "NETWORK_IP_PROBE", js "CREDENTIAL_PROBE", js "FS_LINK_PROBE",
    js "LIMIT_PROBE", js "OUTPUT_FLOOD", js "TIMEOUT_PROBE", js "CANCEL_PROBE"]

def forbiddenWords : List JsString :=
  [js "TOKEN", js "SECRET", js "PASSWORD", js "CREDENTIAL", js "DATABASE", js "JWT", js "AWS",
    js "S3", js "PROXY"]

/-- How a pattern that ignores case reads a unit, as far as its letters go. -/
def upperUnit (u : UInt16) : UInt16 := if 0x61 ≤ u ∧ u ≤ 0x7A then u - 0x20 else u

/-- `FORBIDDEN_ENVIRONMENT.test(text)`. -/
def isForbidden (text : JsString) : Bool :=
  forbiddenWords.any fun word => word <:+: text.map upperUnit

variable (pf : Platform) (now : ℤ) (request : SandboxProofRequest)

/-- The digest of a request, whatever its case and its key. -/
def requestDigest : Digest := pf.contentDigest request.toSandboxProofContent

def assertGateAndCancellation : Check := do
  denyIf (request.gateStatus ≠ .approved ∨ request.currentGateId ≠ request.approvedGateId ∨
    request.designVersionId ≠ request.approvedDesignVersionId) .approvalMissing
  denyIf (request.cancellationGeneration ≠ request.expectedCancellationGeneration) .canceled
  denyIf ((pf.dateParse request.expiresAt).any (· ≤ now)) .staleVersion

def assertTenant : Check :=
  denyIf (request.companyId ≠ request.currentCompanyId) .tenantMismatch

def assertTemplateAndDependencyBinding : Check := do
  denyIf (request.templateArchiveDigest ≠ request.acceptedTemplateArchiveDigest)
    .templateIntegrity
  denyIf (request.dependencyBundleDigest ≠ request.acceptedDependencyBundleDigest ∨
    request.lockfileDigest ≠ request.acceptedLockfileDigest) .dependencyNotAllowed

def assertFilesystemBoundary : Check :=
  let paths := request.inputPaths ++ request.writablePaths ++ [request.workingDirectory]
  denyIf (paths.any (fun path => !isSafeRelativePath path) ∨
    request.writablePaths.any fun path =>
      !decide (js "src" <+: path) && !decide (js "dist" <+: path)) .filesystemBoundary

def assertCommandBinding : Check := do
  denyIf (request.commandId ∉ allowedCommands) .commandNotAllowed
  denyIf (request.commandBindingDigest ≠ request.expectedCommandBindingDigest) .invalidContext

def assertNetworkBoundary : Check :=
  denyIf (request.networkMode ≠ .none) .egressDenied

def assertCredentialBoundary : Check :=
  denyIf (request.environment.any (fun e => isForbidden e.1) ∨
    request.environment.any fun e => isForbidden e.2) .credentialBoundary

def assertResourceLimits : Check := do
  let limits := request.resourceLimits
  denyIf (¬ limits.values.all finitePositive) .resourceLimit
  denyIf (limits.wallTimeMs.gt (.ofNat 30000) ∨ limits.cpuCount.gt (.ofNat 1) ∨
    limits.memoryBytes.gt (.ofNat (1024 * 1024 * 1024)) ∨ limits.pids.gt (.ofNat 64) ∨
    limits.writableBytes.gt (.ofNat (64 * 1024 * 1024))) .resourceLimit

def assertOutputPolicy : Check :=
  let policy := request.outputPolicy
  let limits := request.resourceLimits
  denyIf (policy.roots ≠ [js "dist"] ∨ ¬ finitePositive policy.maximumFiles ∨
    ¬ finitePositive policy.maximumBytes ∨ policy.maximumFiles.gt (.ofNat 128) ∨
    policy.maximumBytes.gt limits.outputBytes ∨ limits.stdoutBytes.gt (.ofNat (64 * 1024)) ∨
    limits.stderrBytes.gt (.ofNat (64 * 1024))) .outputLimit

def assertAdmitted : Check := do
  assertGateAndCancellation pf now request
  assertTenant request
  assertTemplateAndDependencyBinding request
  assertFilesystemBoundary request
  assertCommandBinding request
  assertNetworkBoundary request
  assertCredentialBoundary request
  assertResourceLimits request
  assertOutputPolicy request

def assertOutputIntegrity (output : OutputEvidence) : Check :=
  let policy := request.outputPolicy
  denyIf (output.files.any (fun file => file.kind ≠ .regular || !isSafeRelativePath file.path ||
      !decide (js "dist/" <+: file.path) || file.mediaType ∉ policy.mediaTypes) ∨
    (JsReal.ofNat output.files.length).gt policy.maximumFiles ∨
    output.totalBytes.gt policy.maximumBytes ∨
    output.aggregateDigest ≠ pf.filesDigest output.files) .outputIntegrity

def denialReceipt (reason : SandboxReason) (receiptId : JsString) : SandboxProofReceipt where
  caseId := request.caseId
  result := .denied
  reason := some reason
  requestDigest := requestDigest pf request
  receiptId := receiptId
  workloadId := none
  replayed := false
  startedAt := none
  endedAt := pf.toISOString now
  outputDigest := none
  cleanupComplete := true
  runtimeClass := none

def count (f : SideEffectLedger → SideEffectLedger) : ServiceProg PUnit :=
  Prog.modify fun s => { s with ledger := f s.ledger }

/-- `receipts.set(logicalIdempotencyKey, …)`. -/
def store (stored : StoredReceipt) : ServiceProg PUnit :=
  Prog.modify fun s =>
    { s with receipts := s.receipts.set request.logicalIdempotencyKey stored }

def importReceipts (receipts : List (JsString × StoredReceipt)) : ServiceProg PUnit :=
  Prog.modify fun s =>
    { s with receipts := receipts.foldl (fun m e => m.set e.1 e.2) s.receipts }

/-- A call that waits for the adapter. -/
structure SandboxFrame where
  request : SandboxProofRequest
  requestDigest : Digest

/-- How far a call comes before it waits. -/
inductive SandboxStart where
  | returned (receipt : SandboxProofReceipt)
  | invoking (frame : SandboxFrame)

def replay (stored : StoredReceipt) : Except SandboxProofConflict SandboxStart :=
  if stored.requestDigest ≠ requestDigest pf request then .error .idempotencyConflict
  else .ok (.returned { stored.receipt with replayed := true })

/-- `execute` up to its call of the adapter. -/
def execute (receiptId : JsString) : ServiceProg SandboxStart := do
  let stored ← Prog.gets fun s => s.receipts.get request.logicalIdempotencyKey
  match stored with
  | some stored => Prog.lift (replay pf request stored)
  | none =>
      match assertAdmitted pf now request with
      | .error reason => do
          count fun l => { l with policyDenials := l.policyDenials + 1 }
          let receipt := denialReceipt pf now request reason receiptId
          store request ⟨requestDigest pf request, receipt⟩
          pure (.returned receipt)
      | .ok _ => do
          count fun l => { l with
            sandboxStarts := l.sandboxStarts + 1
            commandStarts := l.commandStarts + 1
            budgetReservations := l.budgetReservations + 1 }
          pure (.invoking ⟨request, requestDigest pf request⟩)

def outcome (answer : SandboxAdapterReceipt) : SandboxResult × Option SandboxReason :=
  match answer.output.map (assertOutputIntegrity pf request) with
  | some (.error reason) => (.failed, some reason)
  | _ => (answer.result, answer.reason)

def answeredReceipt (frame : SandboxFrame) (answer : SandboxAdapterReceipt)
    (receiptId : JsString) : SandboxProofReceipt where
  caseId := frame.request.caseId
  result := (outcome pf frame.request answer).1
  reason := (outcome pf frame.request answer).2
  requestDigest := frame.requestDigest
  receiptId := receiptId
  workloadId := some answer.workloadId
  replayed := false
  startedAt := some answer.startedAt
  endedAt := answer.endedAt
  outputDigest := answer.output.map OutputEvidence.aggregateDigest
  cleanupComplete := answer.cleanupComplete
  runtimeClass := some answer.runtimeClass

def executeAnswered (frame : SandboxFrame) (answer : SandboxAdapterReceipt)
    (receiptId : JsString) : ServiceProg SandboxProofReceipt := do
  count fun l => { l with
    networkReceiverHits := l.networkReceiverHits + answer.networkReceiverHits
    credentialFindings := l.credentialFindings + answer.credentialFindings
    cleanupFailures := l.cleanupFailures + if answer.cleanupComplete then 0 else 1 }
  let promoted := (outcome pf frame.request answer).1 = .succeeded ∧ answer.cleanupComplete
  count fun l => { l with promotions := l.promotions + if promoted then 1 else 0 }
  let receipt := answeredReceipt pf frame answer receiptId
  store frame.request ⟨frame.requestDigest, receipt⟩
  pure receipt

end SandboxProofService

open SandboxProofService

/-- The service and its adapter, with the requests that the adapter was called with, newest
first (to cancel where the profile is the cancel probe, and else to execute), and the calls
that wait for it. -/
structure Sandbox where
  service : SandboxProofService
  now : ℤ
  adapterCalls : List SandboxProofRequest
  calls : ℕ → Option SandboxFrame

/-- What can happen next. A call has a number, under which the adapter answers it or throws. -/
inductive SandboxAction where
  | execute (k : ℕ) (request : SandboxProofRequest) (receiptId : JsString)
  | answered (k : ℕ) (answer : SandboxAdapterReceipt) (receiptId : JsString)
  | failed (k : ℕ)
  | wait (duration : ℕ)

namespace Sandbox

variable (pf : Platform) (s : Sandbox)

def initial (receipts : List (JsString × StoredReceipt)) (now : ℤ) : Sandbox where
  service := (importReceipts receipts ⟨emptyLedger, .empty⟩).2
  now := now
  adapterCalls := []
  calls := fun _ => none

def startExecute (k : ℕ) (request : SandboxProofRequest) (receiptId : JsString) : Sandbox :=
  match SandboxProofService.execute pf s.now request receiptId s.service with
  | (.ok (.invoking frame), service) =>
      { s with
        service := service
        adapterCalls := frame.request :: s.adapterCalls
        calls := Function.update s.calls k (some frame) }
  | (_, service) => { s with service := service }

/-- The step of the system; an action that names no waiting call, or a call number that is
in use, changes nothing. -/
def step : SandboxAction → Sandbox
  | .execute k request receiptId =>
      match s.calls k with
      | none => s.startExecute pf k request receiptId
      | some _ => s
  | .answered k answer receiptId =>
      match s.calls k with
      | some frame =>
          { s with
            service := (executeAnswered pf frame answer receiptId s.service).2
            calls := Function.update s.calls k none }
      | none => s
  | .failed k => { s with calls := Function.update s.calls k none }
  | .wait duration => { s with now := s.now + duration }

def after (acts : List SandboxAction) : Sandbox :=
  Transition.run (fun s => s.step pf) s acts

end Sandbox

end SandboxProof

end Aico
