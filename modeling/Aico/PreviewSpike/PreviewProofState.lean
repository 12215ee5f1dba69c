import Aico.Foundation.Coroutine
import Aico.PreviewSpike.ProofRequests

/-!
# The store of the preview service and its helpers

A call of the service is a coroutine: before and after it reads an authority, and around
an effect, it calls hooks, and a hook may call the service again, or throw. What a call
holds at a hook is a copy it has read before and may write back afterwards; `Held` names
it. The controls of the service are the default ones, which are all on. The ledger counts
what happens and is read by no operation, so it has no place here.
-/

namespace Aico

namespace PreviewProof

structure ProofFaults where
  authorityUnavailable : Bool
  publicationUnknownAfterCopy : Bool
  exchangeUnknownAfterNonce : Bool
  revocationUnknownAfterEpoch : Bool
  corruptObjectOnRead : Bool
  corruptCacheOnRead : Bool
  cleanupPartial : Bool
  cleanupUnknown : Bool

def ProofFaults.none : ProofFaults where
  authorityUnavailable := false
  publicationUnknownAfterCopy := false
  exchangeUnknownAfterNonce := false
  revocationUnknownAfterEpoch := false
  corruptObjectOnRead := false
  corruptCacheOnRead := false
  cleanupPartial := false
  cleanupUnknown := false

/-- What a service is built with. -/
structure PreviewProofService where
  platform : Platform
  keyId : JsString
  defaultRedactionProfile : RedactionProfileBinding
  faults : ProofFaults

structure PreviewProofState where
  companies : JsMap JsString CompanyAuthority
  builds : JsMap JsString BuildAuthority
  previews : JsMap JsString PreviewAuthority
  grants : JsMap JsString GrantAuthority
  sessions : JsMap JsString SessionAuthority
  objects : JsMap JsString ObjectRecord
  cache : JsMap JsString CacheRecord
  intents : JsMap JsString ToolInvocationIntent
  operationReceipts : JsMap JsString StoredOperationReceipt
  retiredHosts : List JsString
  now : JsString

/-! ## Calls and hooks -/

inductive ProofError where
  | denied (reason : ProofReason) (currentAuthorityRead : Bool)
  | conflict (reason : ProofReason)
  | foreign
deriving DecidableEq

inductive ProofHook where
  | beforeAuthorityRead (operation : ProofOperation)
  | afterAuthorityRead (operation : ProofOperation)
  | beforeEffect (operation : ProofOperation)
  | afterEffect (operation : ProofOperation)
  | beforeNonceConsume
  | afterNonceConsume
  | beforeRevocationCommit
  | afterRevocationCommit

/-- What `access` has read when it reads the build for the last time. -/
structure ContentRead where
  request : AccessRequest
  session : SessionAuthority
  company : CompanyAuthority
  preview : PreviewAuthority
  entry : ManifestEntry
  cacheKey : JsString

/-- The copies a call holds at a hook and uses for what it writes after it. -/
inductive Held where
  | nothing
  | publication (preview : PreviewAuthority)
  | revocation (request : RevocationRequest) (company : CompanyAuthority)
  | content (read : ContentRead)

structure Stop where
  hook : ProofHook
  held : Held

inductive HookAnswer where
  | returned
  | threw (e : ProofError)

abbrev Call (ε α : Type) : Type := Coroutine PreviewProofState HookAnswer Stop ε α

open Coroutine

def callHook (hook : ProofHook) (held : Held) : Call ProofError PUnit := do
  match ← pause ⟨hook, held⟩ with
  | .returned => pure ⟨⟩
  | .threw e => throw e

/-- The variables of an operation that its `catch` reads. -/
structure Locals where
  preview : Option PreviewAuthority
  consumption : Option ToolInvocationConsumption

/-- Statements of the `try` block while the variables have these values. -/
def within {α κ : Type} (locals : κ) (p : Call ProofError α) : Call (ProofError × κ) α :=
  catching p fun e => throw (e, locals)

structure Classified where
  outcome : OperationOutcome
  reason : ProofReason
  currentAuthorityRead : Bool

/-- Errors that are none of the service's own are thrown on. -/
def classify : ProofError → Option Classified
  | .denied reason currentAuthorityRead => some ⟨.denied, reason, currentAuthorityRead⟩
  | .conflict reason => some ⟨.conflict, reason, true⟩
  | .foreign => none

def store (header : KeyedHeader) (receipt : ProofReceipt) (s : PreviewProofState) :
    PreviewProofState :=
  { s with
    operationReceipts :=
      s.operationReceipts.set header.logicalIdempotencyKey ⟨header.requestDigest, receipt⟩ }

def storeIfStable (header : KeyedHeader) (receipt : ProofReceipt) (s : PreviewProofState) :
    PreviewProofState :=
  if receipt.outcome ≠ .conflict ∧ s.operationReceipts.has header.logicalIdempotencyKey = false
  then store header receipt s else s

/-- The `try` block of an operation and its `catch`: the refusal is stored unless it is a
conflict or the key has a receipt already. -/
def settle {ρ : Type} (header : KeyedHeader)
    (refusal : PreviewProofState → Classified → Locals → ρ) (receiptOf : ρ → ProofReceipt)
    (body : Call (ProofError × Locals) ρ) : Call ProofError ρ :=
  catching body fun thrown => do
    let classified ← require (classify thrown.1) thrown.1
    let result ← gets fun s => refusal s classified thrown.2
    modify (storeIfStable header (receiptOf result))
    pure result

def replay (header : KeyedHeader) : Call ProofError (Option ProofReceipt) := do
  match ← gets fun s => s.operationReceipts.get header.logicalIdempotencyKey with
  | none => pure none
  | some stored => do
      ensure (stored.requestDigest = header.requestDigest) (.conflict .idempotencyConflict)
      pure (some { stored.receipt with replayed := true })

def assertCompanyScope (company : CompanyAuthority) (companyIds : List JsString) :
    Call ProofError PUnit :=
  ensure (∀ companyId ∈ companyIds, companyId = company.companyId)
    (.denied .tenantMismatch true)

namespace PreviewProofService

variable (svc : PreviewProofService)

def assertRequestDigest (header : RequestHeader) (fields : List (String × Json)) :
    Call ProofError PUnit :=
  ensure (svc.platform.canonicalRequestDigest fields = header.requestDigest)
    (.conflict .bindingMismatch)

def authorityRead (operation : ProofOperation) (held : Held) : Call ProofError PUnit := do
  callHook (.beforeAuthorityRead operation) .nothing
  ensure (svc.faults.authorityUnavailable = false) (.denied .authorityUnavailable false)
  callHook (.afterAuthorityRead operation) held

def companyOf (s : PreviewProofState) (subject : JsString) : Option CompanyAuthority :=
  s.companies.values.find? fun c => c.founderSubject = subject && c.status = .active

def readCompanyBySubject (subject : JsString) (operation : ProofOperation) :
    Call ProofError CompanyAuthority := do
  svc.authorityRead operation .nothing
  let company ← gets fun s => companyOf s subject
  require company (.denied .authenticationRequired true)

def activeCompany (s : PreviewProofState) (companyId : JsString) : Option CompanyAuthority :=
  (s.companies.get companyId).filter fun c => c.status = .active

def readCompany (companyId : JsString) (operation : ProofOperation) :
    Call ProofError CompanyAuthority := do
  svc.authorityRead operation .nothing
  let company ← gets fun s => activeCompany s companyId
  require company (.denied .resourceNotFound true)

def readBuild (buildId : JsString) (operation : ProofOperation) (held : Held) :
    Call ProofError BuildAuthority := do
  svc.authorityRead operation held
  let build ← gets fun s => s.builds.get buildId
  require build (.denied .resourceNotFound true)

def readPreview (previewId : JsString) (operation : ProofOperation) (held : Held) :
    Call ProofError PreviewAuthority := do
  svc.authorityRead operation held
  let preview ← gets fun s => s.previews.get previewId
  require preview (.denied .resourceNotFound true)

/-- The stored intent is the supplied one and allows the action to the request. -/
abbrev IntentFits (now : JsString) (stored supplied : ToolInvocationIntent) (action : ToolAction)
    (header : KeyedHeader) : Prop :=
  stored.action = action ∧ stored.maximumUses = 1 ∧
    stored.requestDigest = header.requestDigest ∧
    stored.logicalInvocationKey = header.logicalIdempotencyKey ∧
    svc.platform.canonicalDigest stored.json = svc.platform.canonicalDigest supplied.json ∧
    svc.platform.reached now stored.expiresAt = false

def consumption (now : JsString) (stored : ToolInvocationIntent) :
    ToolInvocationConsumption where
  intentId := stored.id
  consumptionId := svc.platform.deterministicId (stored.id ++ js ":consumption:1")
  logicalInvocationKey := stored.logicalInvocationKey
  requestDigest := stored.requestDigest
  consumedAt := now

def consume (stored : ToolInvocationIntent) (s : PreviewProofState) : PreviewProofState :=
  { s with intents := s.intents.set stored.id { stored with used := 1 } }

def consumeIntent (supplied : ToolInvocationIntent) (action : ToolAction)
    (header : KeyedHeader) : Call ProofError ToolInvocationConsumption := do
  let now ← gets fun s => s.now
  let found ← gets fun s => s.intents.get supplied.id
  let stored ← require found (.denied .invocationInvalid true)
  ensure (svc.IntentFits now stored supplied action header) (.denied .invocationInvalid true)
  ensure (stored.used = 0) (.denied .invocationAlreadyConsumed true)
  modify (consume stored)
  pure (svc.consumption now stored)

/-! ## Receipts -/

def childMeta (parent : CausalMeta) (operation : ProofOperation) (label : JsString) :
    CausalMeta where
  messageId := svc.platform.deterministicId (label ++ js ":message")
  correlationId := parent.correlationId
  causationId := parent.messageId
  traceId := parent.traceId
  spanId := ((svc.platform.canonicalDigest (.object [("label", .str label),
    ("operation", .text operation.text), ("kind", .text "span")])).drop 7).take 16
  parentSpanId := parent.spanId
  operationAttemptId := svc.platform.deterministicId (label ++ js ":attempt")

def receiptBase (now : JsString) (header : RequestHeader) (input : Classified)
    (effectStarted : Bool) (toolConsumption : Option ToolInvocationConsumption)
    (detail : ReceiptDetail) : ProofReceipt where
  receiptId := svc.platform.deterministicId
    (header.requestId ++ js ":" ++ js detail.operation.text ++ js ":receipt")
  requestId := header.requestId
  requestDigest := header.requestDigest
  outcome := input.outcome
  reason := input.reason
  replayed := false
  currentAuthorityRead := input.currentAuthorityRead
  effectStarted := effectStarted
  toolConsumption := toolConsumption
  redactionProfile := svc.defaultRedactionProfile
  causalMeta := svc.childMeta header.causalMeta detail.operation header.requestId
  occurredAt := now
  detailDigest := svc.platform.canonicalDigest (.object
    [("operation", .text detail.operation.text), ("outcome", .text input.outcome.text),
      ("reason", .text input.reason.text), ("requestDigest", .str header.requestDigest),
      ("detail", .null)])
  detail := detail

def publicationReceipt (now : JsString) (request : PublicationRequest) (input : Classified)
    (effectStarted : Bool) (toolConsumption : Option ToolInvocationConsumption)
    (preview : Option PreviewAuthority) : ProofReceipt :=
  svc.receiptBase now request.toRequestHeader input effectStarted toolConsumption
    (.publication (preview.map (·.previewId)) (preview.map (·.host)) (preview.map (·.state)))

def grantReceipt (now : JsString) (request : GrantIssueRequest) (input : Classified)
    (effectStarted : Bool) (toolConsumption : Option ToolInvocationConsumption)
    (publicGrantId bindingSha256 capabilityDigest : Option JsString) : ProofReceipt :=
  svc.receiptBase now request.toRequestHeader input effectStarted toolConsumption
    (.grantIssue publicGrantId bindingSha256 capabilityDigest)

def exchangeReceipt (now : JsString) (request : ExchangeRequest) (input : Classified)
    (effectStarted : Bool) (sessionId : Option JsString)
    (cookieAttributes redirectPath : Option String) : ProofReceipt :=
  svc.receiptBase now request.toRequestHeader input effectStarted none
    (.exchange sessionId cookieAttributes redirectPath)

def accessReceipt (now : JsString) (request : AccessRequest) (input : Classified)
    (response : AccessResponse) (cacheResult : CacheResult)
    (normalizedPathDigest : Option JsString) : ProofReceipt :=
  svc.receiptBase now request.toRequestHeader input false none
    (.access response cacheResult normalizedPathDigest)

def revocationReceipt (now : JsString) (request : RevocationRequest) (input : Classified)
    (effectStarted : Bool) (toolConsumption : Option ToolInvocationConsumption)
    (previousEpoch currentEpoch : Option ℕ) (state : Option PreviewState) : ProofReceipt :=
  svc.receiptBase now request.toRequestHeader input effectStarted toolConsumption
    (.revocation request.previewId previousEpoch currentEpoch state)

def cleanupReceipt (now : JsString) (request : CleanupRequest) (input : Classified)
    (effectStarted : Bool) (toolConsumption : Option ToolInvocationConsumption)
    (state : Option PreviewState) (deletedObjects purgedCacheEntries remainingObjects : ℕ)
    (hostTombstoned : Bool) : ProofReceipt :=
  svc.receiptBase now request.toRequestHeader input effectStarted toolConsumption
    (.cleanup state deletedObjects purgedCacheEntries remainingObjects hostTombstoned)

def reconciliationReceipt (now : JsString) (request : ReconciliationRequest)
    (input : Classified) (effectStarted : Bool)
    (toolConsumption : Option ToolInvocationConsumption)
    (resolvedReceiptDigest : Option JsString) : ProofReceipt :=
  svc.receiptBase now request.toRequestHeader input effectStarted toolConsumption
    (.reconciliation request.target resolvedReceiptDigest)

end PreviewProofService

end PreviewProof

end Aico
