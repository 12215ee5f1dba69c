import Aico.Foundation.Outcome
import Aico.GateSpike.PolicyDecision

/-!
# The transaction of a decision

`unitOfWork` runs a piece of work in one transaction. It locks the session, the founder and the
company of the request, gives back the answer that is stored under its key, and otherwise stores
what the work returns. An error of the database or of the runtime is let through as a `Fault`.
-/

namespace Json

/-- `{ ...value, [name]: v }`. -/
def put (name : String) (v : Json) : Json → Json
  | .obj entries =>
      if entries.any (fun e => e.1 = js name) then
        .obj (entries.map fun e => if e.1 = js name then (e.1, v) else e)
      else .obj (entries ++ [(js name, v)])
  | _ => .object [(name, v)]

def defined (entries : List (String × Option Json)) : Json :=
  .object (entries.filterMap fun e => e.2.map (Prod.mk e.1))

end Json

namespace Aico

namespace GateProof

inductive Gate01Failpoint where
  | afterAuthorityLock | afterReceiptLock | beforeReceiptWrite | afterReceiptWrite
  | afterCommitBeforeReturn | afterPolicyDecision | afterFounderDecision | afterGateTransition
  | afterApprovedBinding | afterContinuation | afterPolicyEvent | afterPolicyOutbox
  | afterApprovalEvent | afterApprovalOutbox
deriving DecidableEq

/-- What the service takes from the platform: digests, the texts that are UUIDs, the texts that
the database reads as a UUID or an instant, `Date.parse`, and the ISO text of a date. -/
structure GatePlatform where
  rt : Runtime
  isUuid : JsString → Bool
  readUuid : JsString → Option Uuid
  readTimestamp : JsString → Option ℤ
  dateParse : JsString → Option ℤ
  isoText : JsString → Option JsString

/-- An error of the database or of the runtime. -/
inductive Fault where
  | invalidUuid | invalidTimestamp | invalidText | outOfRange | invalidDate
  | checkViolation (table : String)
  | uniqueViolation (table : String)
  | foreignKeyViolation (table : String)
  | evaluation (e : EvaluationError)
  | injected (stage : Gate01Failpoint)

structure Gate01DeniedError where
  reasonCode : Json
  policyDecisionId : Json
  eventId : Json

/-- How a call ends that returns no receipt. -/
inductive CommandError where
  | proof (e : Gate01ProofError)
  | denied (e : Gate01DeniedError)
  | fault (f : Fault)

/-- The tables, and what the call gets from outside: identifiers, the readings of the clock, the
time of the database and the failpoints that throw. -/
structure GateWorld where
  db : ProofDb
  nextId : Uuid
  clock : ℕ → JsString
  databaseNow : Timestamp
  fails : Gate01Failpoint → Bool

abbrev GateOp := Prog GateWorld CommandError

namespace GateOp

def newId : GateOp Uuid := fun w => (.ok w.nextId, { w with nextId := w.nextId + 1 })

/-- The next reading of the clock. -/
def now : GateOp JsString :=
  fun w => (.ok (w.clock 0), { w with clock := fun n => w.clock (n + 1) })

def query {α : Type} (f : ProofDb → α) : GateOp α := Prog.gets fun w => f w.db

def exec (f : ProofDb → ProofDb) : GateOp PUnit := Prog.modify fun w => { w with db := f w.db }

def failpoint (stage : Gate01Failpoint) : GateOp PUnit := do
  let throws ← Prog.gets fun w => w.fails stage
  Prog.ensure (throws = false) (.fault (.injected stage))

def transaction {α : Type} (p : GateOp α) : GateOp α :=
  Prog.transaction (fun w w' => { w' with db := w.db }) p

def uuid (platform : GatePlatform) (s : JsString) : GateOp Uuid :=
  Prog.require (platform.readUuid s) (.fault .invalidUuid)

/-- A text in the place of an instant. -/
def timestamp (platform : GatePlatform) (s : JsString) : GateOp ℤ :=
  Prog.require (platform.readTimestamp s) (.fault .invalidTimestamp)

end GateOp

/-! ## Authority -/

structure LockedFounderAuthority where
  sessionId : Uuid
  sessionVersion : ℕ
  founderId : Uuid
  founderAuthorityVersion : ℕ
  companyId : Uuid
  companyRowVersion : ℕ

def authenticationRequired : CommandError := .proof ⟨.authenticationRequired, 401⟩

def authorityForbidden : CommandError := .proof ⟨.authorityForbidden, 403⟩

def invalidContext (statusCode : ℕ) : CommandError := .proof ⟨.invalidContext, statusCode⟩

def sessionHolds (input : FounderAuthorityInput) (databaseNow : Timestamp)
    (session : FounderSessionRow) : Bool :=
  js session.authSubject = input.authSubject ∧ session.status = .active ∧
    databaseNow < session.expiresAt

def founderHolds (input : FounderAuthorityInput) (founder : FounderRow) : Bool :=
  js founder.authSubject = input.authSubject ∧ founder.status = .active

def companyHolds (founder : FounderRow) (company : CompanyRow) : Bool :=
  company.currentFounderId = founder.id ∧ company.status = .active

def lockedAuthority (session : FounderSessionRow) (founder : FounderRow) (company : CompanyRow) :
    LockedFounderAuthority where
  sessionId := session.id
  sessionVersion := session.sessionVersion
  founderId := founder.id
  founderAuthorityVersion := founder.authorityVersion
  companyId := company.id
  companyRowVersion := company.rowVersion

def lockCurrentAuthority (platform : GatePlatform) (input : FounderAuthorityInput) :
    GateOp LockedFounderAuthority := do
  let sessionId ← GateOp.uuid platform input.sessionId
  let sessions ← GateOp.query fun db => db.founderSessions.find? fun s => s.id = sessionId
  let session ← Prog.require sessions authenticationRequired
  let databaseNow ← Prog.gets GateWorld.databaseNow
  Prog.ensure (sessionHolds input databaseNow session = true) authenticationRequired
  let founders ← GateOp.query fun db => db.founders.find? fun f => f.id = session.founderId
  let founder ← Prog.require founders authorityForbidden
  Prog.ensure (founderHolds input founder = true) authorityForbidden
  let companyId ← GateOp.uuid platform input.companyId
  let companies ← GateOp.query fun db => db.companies.find? fun c => c.id = companyId
  let company ← Prog.require companies authorityForbidden
  Prog.ensure (companyHolds founder company = true) authorityForbidden
  pure (lockedAuthority session founder company)

/-! ## The unit of work -/

structure DecisionWorkContext where
  authority : LockedFounderAuthority
  correlationId : JsString
  requestDigest : Digest

/-- The stored answer of a request. -/
def asReplay (body : Json) : GateOp (Json × Bool) := do
  Prog.ensure (body.isObject = true) (invalidContext 400)
  pure (body.put "replayed" (.bool true), true)

def receiptRow (context : DecisionWorkContext) (id idempotencyKey correlationId : Uuid)
    (status : ℕ) (body : Json) : CommandReceiptRow where
  id := id
  companyId := context.authority.companyId
  founderId := context.authority.founderId
  sessionId := context.authority.sessionId
  idempotencyKey := idempotencyKey
  requestDigest := context.requestDigest
  responseStatus := status
  responseBody := body.jsonb
  correlationId := correlationId

/-- Do the work and store its answer. The key is free, since no receipt was found for it and the
row of the company is locked. -/
def firstAnswer (platform : GatePlatform) (context : DecisionWorkContext) (idempotencyKey : Uuid)
    (work : DecisionWorkContext → GateOp (ℕ × Json)) : GateOp (Json × Bool) := do
  let result ← work context
  GateOp.failpoint .beforeReceiptWrite
  let id ← GateOp.newId
  let correlationId ← GateOp.uuid platform context.correlationId
  GateOp.exec fun db =>
    { db with
      commandReceipts := db.commandReceipts ++
        [receiptRow context id idempotencyKey correlationId result.1 result.2] }
  GateOp.failpoint .afterReceiptWrite
  pure (result.2, false)

def answerOnce (platform : GatePlatform) (authorityInput : FounderAuthorityInput)
    (idempotencyKey correlationId : JsString) (requestDigest : Digest)
    (work : DecisionWorkContext → GateOp (ℕ × Json)) : GateOp (Json × Bool) := do
  let authority ← lockCurrentAuthority platform authorityInput
  GateOp.failpoint .afterAuthorityLock
  let key ← GateOp.uuid platform idempotencyKey
  let found ← GateOp.query fun db => lockReceipt db.commandReceipts
    ⟨authority.companyId, authority.founderId, key, requestDigest⟩
  let replay ← Prog.lift (found.mapError .proof)
  GateOp.failpoint .afterReceiptLock
  match replay with
  | some receipt => asReplay receipt.responseBody
  | none => firstAnswer platform ⟨authority, correlationId, requestDigest⟩ key work

def unitOfWork (platform : GatePlatform) (authorityInput : FounderAuthorityInput)
    (idempotencyKey correlationId : JsString) (requestDigest : Digest)
    (work : DecisionWorkContext → GateOp (ℕ × Json)) : GateOp (Json × Bool) := do
  let result ← GateOp.transaction
    (answerOnce platform authorityInput idempotencyKey correlationId requestDigest work)
  GateOp.failpoint .afterCommitBeforeReturn
  pure result

end GateProof

end Aico
