import Aico.Common.CompanyScope

/-!
# Invites, sessions and access tokens

An invite is issued with the hash of its token, redeemed once for a session, and
the session is what an access token names. The statements of `issueInvite`,
`redeemInvite` and `signOut` are functions of the database here; in which order
they run, and what runs between them, is the business of the system. An access
token is verified in several reads (`VerifyReads`), each of which may see another
state.
-/

namespace Aico

inductive FounderStatus where
  | active | disabled
deriving DecidableEq

/-- A row of `founders`, with the columns the session service reads. -/
structure FounderAccountRow where
  id : Uuid
  authSubject : JsString
  displayName : JsString
  status : FounderStatus

inductive InviteStatus where
  | pending | redeemed | revoked | expired
deriving DecidableEq

structure FounderInviteRow where
  id : Uuid
  email : JsString
  displayName : JsString
  tokenHash : Digest
  status : InviteStatus
  expiresAt : Timestamp
  sessionTtlSeconds : ℕ
  redeemedFounderId : Option Uuid

inductive SessionStatus where
  | active | revoked
deriving DecidableEq

structure FounderSessionRow where
  id : Uuid
  founderId : Uuid
  status : SessionStatus
  expiresAt : Timestamp
  revokedAt : Option Timestamp

/-- The tables of the session service. -/
structure AuthDb where
  founders : List FounderAccountRow
  invites : List FounderInviteRow
  sessions : List FounderSessionRow
  companies : List CompanyRow

structure IssueInviteDto where
  email : JsString
  displayName : JsString
  inviteTtlSeconds : Option ℕ
  sessionTtlSeconds : Option ℕ

/-- The payload of an access token. `sid` may be missing in a token of another
kind. -/
structure AccessTokenPayload where
  sub : UuidText
  authSubject : JsString
  type : String
  sid : Option UuidText
  jti : JsString

inductive JwtError where
  | expired | invalid
deriving DecidableEq

/-- What the service is given: the hash, the case mapping of the platform, the
verification of a signed token at a time, and two settings. -/
structure AuthPlatform where
  sha256 : JsString → Digest
  toLowerCase : JsString → JsString
  verifyAsync : JsString → Timestamp → Except JwtError AccessTokenPayload
  environment : String
  authMode : String

/-- The founder a verified token stands for. -/
structure VerifiedActor where
  id : Uuid
  authSubject : JsString
  companyId : Option Uuid
  sessionId : Uuid
deriving DecidableEq

namespace Auth

def defaultInviteTtlSeconds : ℕ := 86400
def defaultSessionTtlSeconds : ℕ := 900

def hashInviteToken (platform : AuthPlatform) (token : JsString) : Digest :=
  platform.sha256 token

def founderAuthSubject (platform : AuthPlatform) (email : JsString) : JsString :=
  js "founder:" ++ platform.toLowerCase email.trim

/-! ## Errors -/

def authenticationRequired : DomainError where
  status := 401
  code := "authentication_required"
  title := "Authentication is required"
  detail := "Provide a valid, unexpired bearer token."
  remediation := ["authenticate"]

def sessionInactive (code : String) : DomainError where
  status := 401
  code := code
  title := "The session is no longer active"
  detail := "Authenticate again with an active invited account."
  remediation := ["authenticate"]

/-! ## Issuing -/

/-- `assertDevelopmentAdapter`. -/
def developmentAdapter (platform : AuthPlatform) : Bool :=
  platform.authMode = "development" ∧
    (platform.environment = "local" ∨ platform.environment = "test")

def inviteRow (platform : AuthPlatform) (dto : IssueInviteDto) (token : JsString)
    (inviteId : Uuid) (now : Timestamp) : FounderInviteRow where
  id := inviteId
  email := dto.email
  displayName := dto.displayName
  tokenHash := hashInviteToken platform token
  status := .pending
  expiresAt := now + dto.inviteTtlSeconds.getD defaultInviteTtlSeconds * 1000
  sessionTtlSeconds := dto.sessionTtlSeconds.getD defaultSessionTtlSeconds
  redeemedFounderId := none

def inviteInsertable (i : FounderInviteRow) (invites : List FounderInviteRow) : Bool :=
  3 ≤ i.email.charLength ∧ i.email.charLength ≤ 320 ∧
  2 ≤ i.displayName.charLength ∧ i.displayName.charLength ≤ 100 ∧
  i.tokenHash.charLength = 64 ∧
  1 ≤ i.sessionTtlSeconds ∧ i.sessionTtlSeconds ≤ 900 ∧
  invites.all fun j => j.tokenHash ≠ i.tokenHash

/-! ## The statements of a redemption -/

/-- `SELECT … FROM founder_invites WHERE token_hash = $1 FOR UPDATE`. -/
def selectInvite (tokenHash : Digest) (db : AuthDb) : Option FounderInviteRow :=
  (db.invites.filter fun i => i.tokenHash = tokenHash).head?

def isPending (id : Uuid) (i : FounderInviteRow) : Bool :=
  i.id = id ∧ i.status = .pending

def expireInvite (id : Uuid) (db : AuthDb) : AuthDb :=
  { db with
    invites := Table.updateWhere (isPending id) (fun i => { i with status := .expired })
      db.invites }

/-- `INSERT INTO founders … ON CONFLICT (auth_subject) DO UPDATE`. -/
def upsertFounder (newId : Uuid) (authSubject displayName : JsString) (db : AuthDb) :
    AuthDb :=
  if db.founders.any fun f => f.authSubject = authSubject then
    { db with
      founders := Table.updateWhere (fun f => f.authSubject = authSubject)
        (fun f => { f with displayName := displayName }) db.founders }
  else
    { db with
      founders := db.founders ++
        [{ id := newId, authSubject := authSubject, displayName := displayName,
           status := .active }] }

def selectFounder (authSubject : JsString) (db : AuthDb) : Option FounderAccountRow :=
  (db.founders.filter fun f => f.authSubject = authSubject).head?

/-- `Number(invite.session_ttl_seconds) || DEFAULT_SESSION_TTL_SECONDS`. -/
def sessionTtl (invite : FounderInviteRow) : ℕ :=
  if invite.sessionTtlSeconds = 0 then defaultSessionTtlSeconds
  else invite.sessionTtlSeconds

def sessionRow (sessionId founderId : Uuid) (ttl : ℕ) (now : Timestamp) :
    FounderSessionRow where
  id := sessionId
  founderId := founderId
  status := .active
  expiresAt := now + ttl * 1000
  revokedAt := none

def insertSession (session : FounderSessionRow) (db : AuthDb) : AuthDb :=
  { db with sessions := db.sessions ++ [session] }

def markRedeemed (id founderId : Uuid) (db : AuthDb) : AuthDb :=
  { db with
    invites := Table.updateWhere (isPending id)
      (fun i => { i with status := .redeemed, redeemedFounderId := some founderId })
      db.invites }

def accessTokenPayload (founder : FounderAccountRow) (session : FounderSessionRow) :
    AccessTokenPayload where
  sub := .ofUuid founder.id
  authSubject := founder.authSubject
  type := "founder"
  sid := some (.ofUuid session.id)
  jti := session.id.text

/-! ## Signing out -/

def signOut (actorId sessionId : Uuid) (now : Timestamp) (db : AuthDb) : AuthDb :=
  { db with
    sessions := Table.updateWhere
      (fun x => x.id = sessionId ∧ x.founderId = actorId ∧ x.status = .active)
      (fun x => { x with status := .revoked, revokedAt := some now }) db.sessions }

/-! ## Verifying a token -/

/-- What a read sees. -/
structure View where
  db : AuthDb
  now : Timestamp

/-- The reads of one verification, in their order: the signature, the session row,
the clock, the founder row and the clock again. -/
structure VerifyReads where
  signature : View
  session : View
  expiry : View
  founder : View
  access : View

/-- `WHERE id = $1 AND founder_id = $2`. -/
def selectSession (sid sub : UuidText) (db : AuthDb) : Option FounderSessionRow :=
  (db.sessions.filter fun x => x.id = sid.value ∧ x.founderId = sub.value).head?

/-- `LEFT JOIN companies c ON c.founder_id = f.id AND c.status <> 'DELETED'`. -/
def companyOf (founderId : Uuid) (db : AuthDb) : Option Uuid :=
  (db.companies.filter fun c => c.founderId = founderId ∧ c.status ≠ .deleted).head?.map
    CompanyRow.id

/-- `WHERE f.id = $1 AND f.auth_subject = $2`. -/
def selectAccount (sub : UuidText) (authSubject : JsString) (db : AuthDb) :
    Option FounderAccountRow :=
  (db.founders.filter fun f => f.id = sub.value ∧ f.authSubject = authSubject).head?

def signedResourceAccessAllowed (session : FounderSessionRow) (now : Timestamp) : Bool :=
  session.status = .active ∧ now < session.expiresAt

def inactiveCode (session : FounderSessionRow) : String :=
  if session.status = .revoked then "session_revoked" else "session_expired"

def activeSession (payload : AccessTokenPayload) (reads : VerifyReads) :
    Except DomainError FounderSessionRow :=
  match payload.sid with
  | none => .error authenticationRequired
  | some sid =>
      if payload.type ≠ "founder" ∨ payload.jti ≠ sid.text then
        .error authenticationRequired
      else
        match selectSession sid payload.sub reads.session.db with
        | none => .error authenticationRequired
        | some session =>
            if session.status = .revoked then .error (sessionInactive "session_revoked")
            else if session.expiresAt ≤ reads.expiry.now then
              .error (sessionInactive "session_expired")
            else .ok session

def activeActor (payload : AccessTokenPayload) (session : FounderSessionRow)
    (reads : VerifyReads) : Except DomainError VerifiedActor :=
  match selectAccount payload.sub payload.authSubject reads.founder.db with
  | none => .error (sessionInactive "session_revoked")
  | some founder =>
      if founder.status ≠ .active then .error (sessionInactive "session_revoked")
      else if signedResourceAccessAllowed session reads.access.now then
        .ok
          { id := founder.id
            authSubject := founder.authSubject
            companyId := companyOf founder.id reads.founder.db
            sessionId := session.id }
      else .error (sessionInactive (inactiveCode session))

def verifyAccessToken (platform : AuthPlatform) (token : JsString) (reads : VerifyReads) :
    Except DomainError VerifiedActor :=
  match platform.verifyAsync token reads.signature.now with
  | .error .expired => .error (sessionInactive "session_expired")
  | .error .invalid => .error authenticationRequired
  | .ok payload => do
      let session ← activeSession payload reads
      activeActor payload session reads

end Auth

end Aico
