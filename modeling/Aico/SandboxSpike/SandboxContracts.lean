import Mathlib.Algebra.Order.Ring.Unbundled.Rat
import Mathlib.Data.List.Infix
import Aico.Foundation.JsMap
import Aico.Common.Identifiers

/-!
# Requests and receipts of the sandbox

What a sandbox is asked to run, and what is kept of it. The digest of a request is taken
over all of its fields but the case and the logical key (`SandboxProofContent`). A number
is a finite one or none that a limit lets through (`JsReal`).
-/

namespace Aico

/-- A number of the platform: the finite ones are rational. -/
inductive JsReal where
  | finite (q : ℚ)
  | infinity
  | negInfinity
  | nan

namespace JsReal

def ofNat (n : ℕ) : JsReal := finite n

def isFinite : JsReal → Bool
  | finite _ => true
  | _ => false

/-- `a > b`, which no `NaN` meets. -/
def gt : JsReal → JsReal → Bool
  | finite a, finite b => b < a
  | infinity, finite _ | infinity, negInfinity | finite _, negInfinity => true
  | _, _ => false

end JsReal

namespace SandboxProof

inductive SandboxResult where
  | succeeded
  | denied
  | failed
  | canceled
  | unknown
deriving DecidableEq

inductive SandboxReason where
  | approvalMissing
  | staleVersion
  | tenantMismatch
  | invalidContext
  | roleForbidden
  | resourceOutOfScope
  | environmentUnsafe
  | budgetUnavailable
  | templateIntegrity
  | dependencyNotAllowed
  | filesystemBoundary
  | commandNotAllowed
  | egressDenied
  | credentialBoundary
  | resourceLimit
  | outputLimit
  | timeout
  | canceled
  | outputIntegrity
  | security
  | integrity
  | unknownOutcome
deriving DecidableEq

structure ResourceLimits where
  wallTimeMs : JsReal
  cpuCount : JsReal
  memoryBytes : JsReal
  pids : JsReal
  writableBytes : JsReal
  fileCount : JsReal
  stdoutBytes : JsReal
  stderrBytes : JsReal
  outputBytes : JsReal

/-- `Object.values(resourceLimits)`. -/
def ResourceLimits.values (l : ResourceLimits) : List JsReal :=
  [l.wallTimeMs, l.cpuCount, l.memoryBytes, l.pids, l.writableBytes, l.fileCount,
    l.stdoutBytes, l.stderrBytes, l.outputBytes]

structure OutputPolicy where
  roots : List JsString
  mediaTypes : List JsString
  maximumFiles : JsReal
  maximumBytes : JsReal

inductive GateStatus where
  | approved
  | pending
  | revisionRequested
deriving DecidableEq

inductive NetworkMode where
  | none
  | default
deriving DecidableEq

inductive ExecutionProfile where
  | build
  | networkDnsProbe
  | networkIpProbe
  | credentialProbe
  | fsLinkProbe
  | limitProbe
  | outputFlood
  | timeoutProbe
  | cancelProbe
deriving DecidableEq

/-- The fields of a request that its digest is taken over. -/
structure SandboxProofContent where
  companyId : JsString
  runId : JsString
  taskId : JsString
  attemptId : JsString
  workspaceId : JsString
  currentCompanyId : JsString
  approvedGateId : JsString
  currentGateId : JsString
  gateStatus : GateStatus
  designVersionId : JsString
  approvedDesignVersionId : JsString
  templateArchiveDigest : Digest
  acceptedTemplateArchiveDigest : Digest
  dependencyBundleDigest : Digest
  acceptedDependencyBundleDigest : Digest
  lockfileDigest : Digest
  acceptedLockfileDigest : Digest
  commandId : JsString
  commandBindingDigest : Digest
  expectedCommandBindingDigest : Digest
  workingDirectory : JsString
  writablePaths : List JsString
  inputPaths : List JsString
  environment : List (JsString × JsString)
  networkMode : NetworkMode
  resourceLimits : ResourceLimits
  outputPolicy : OutputPolicy
  cancellationGeneration : ℤ
  expectedCancellationGeneration : ℤ
  expiresAt : JsString
  manifestDigest : Digest
  executionProfile : ExecutionProfile

structure SandboxProofRequest extends SandboxProofContent where
  caseId : JsString
  logicalIdempotencyKey : JsString

inductive OutputFileKind where
  | regular
  | symlink
  | directory
  | special
deriving DecidableEq

structure OutputFileEvidence where
  path : JsString
  bytes : JsReal
  sha256 : Digest
  mediaType : JsString
  kind : OutputFileKind

structure OutputEvidence where
  files : List OutputFileEvidence
  aggregateDigest : Digest
  totalBytes : JsReal

/-- What the adapter answers, in the fields that the service reads. -/
structure SandboxAdapterReceipt where
  result : SandboxResult
  ne_denied : result ≠ .denied
  reason : Option SandboxReason
  workloadId : JsString
  startedAt : JsString
  endedAt : JsString
  output : Option OutputEvidence
  cleanupComplete : Bool
  runtimeClass : JsString
  networkReceiverHits : ℕ
  credentialFindings : ℕ

structure SandboxProofReceipt where
  caseId : JsString
  result : SandboxResult
  reason : Option SandboxReason
  requestDigest : Digest
  receiptId : JsString
  workloadId : Option JsString
  replayed : Bool
  startedAt : Option JsString
  endedAt : JsString
  outputDigest : Option Digest
  cleanupComplete : Bool
  runtimeClass : Option JsString

/-- The counters that the service writes. -/
structure SideEffectLedger where
  sandboxStarts : ℕ
  commandStarts : ℕ
  networkReceiverHits : ℕ
  credentialFindings : ℕ
  promotions : ℕ
  budgetReservations : ℕ
  policyDenials : ℕ
  cleanupFailures : ℕ

def emptyLedger : SideEffectLedger := ⟨0, 0, 0, 0, 0, 0, 0, 0⟩

/-- What the service takes from the platform: the digests, `Date.parse`, and the text of a
time. -/
structure Platform where
  contentDigest : SandboxProofContent → Digest
  filesDigest : List OutputFileEvidence → Digest
  dateParse : JsString → Option ℤ
  toISOString : ℤ → JsString

def isSafeRelativePath (value : JsString) : Bool :=
  value.length ≠ 0 && value.length ≤ 240 && 0x5C ∉ value &&
    value.head? ≠ some 0x2F && value.head? ≠ some 0x2E && !decide (js "//" <:+: value) &&
    (value.splitOn 0x2F).all fun segment =>
      segment ≠ [] && segment ≠ js "." && segment ≠ js ".."

def finitePositive (value : JsReal) : Bool := value.isFinite && value.gt (.ofNat 0)

end SandboxProof

end Aico
