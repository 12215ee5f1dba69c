import Aico.Auth.AuthService
import Aico.Foundation.Locks
import Aico.Foundation.Transition

/-!
# Redemptions that overlap

The committed database, the clock, and any number of calls of `redeemInvite`. A
call runs one statement at a time (`RedeemPlace` is the place it has reached, with what
it has read and written); its writes are seen by itself alone until it commits.
It holds the invite it has selected `FOR UPDATE` and the founder row it has
written, and another call that wants one of the two waits. Between two statements
anything else may happen: invites are issued, founders are disabled, sessions are
signed out, time passes, other calls move. A call may be lost anywhere.
-/

namespace Aico

/-- Where a call of `redeemInvite` stands, with the time it was made. -/
inductive RedeemPlace where
  | idle
  | made (tokenHash : Digest) (madeAt : Timestamp)
  | expiring (invite : FounderInviteRow)
  | locked (invite : FounderInviteRow) (madeAt : Timestamp)
  | upserted (invite : FounderInviteRow) (madeAt : Timestamp) (newId : Uuid)
  | resolved (invite : FounderInviteRow) (madeAt : Timestamp) (newId : Uuid)
      (founder : FounderAccountRow)
  | opened (invite : FounderInviteRow) (madeAt : Timestamp) (newId : Uuid)
      (founder : FounderAccountRow) (session : FounderSessionRow)
  | redeemed (invite : FounderInviteRow) (madeAt : Timestamp) (newId : Uuid)
      (founder : FounderAccountRow) (session : FounderSessionRow)

namespace RedeemPlace

def invite : RedeemPlace → Option FounderInviteRow
  | idle | made _ _ => none
  | expiring i | locked i _ | upserted i _ _ | resolved i _ _ _ | opened i _ _ _ _
  | redeemed i _ _ _ _ => some i

def upsert : RedeemPlace → Option FounderInviteRow
  | upserted i _ _ | resolved i _ _ _ | opened i _ _ _ _ | redeemed i _ _ _ _ => some i
  | idle | made _ _ | expiring _ | locked _ _ => none

def session : RedeemPlace → Option FounderSessionRow
  | opened _ _ _ _ x | redeemed _ _ _ _ x => some x
  | _ => none

end RedeemPlace

structure IssuedToken where
  invite : FounderInviteRow
  founder : FounderAccountRow
  session : FounderSessionRow

/-- The state of the system. `issued` lists the access tokens handed out, with the
invite each of them was redeemed from; the program does not keep that list. -/
structure AuthSys where
  db : AuthDb
  now : Timestamp
  nextId : Uuid
  inviteLocks : Uuid → Option ℕ
  subjectLocks : JsString → Option ℕ
  calls : ℕ → RedeemPlace
  issued : List IssuedToken

/-- What can happen next. The calls of `redeemInvite` are numbered; `next` is the
next statement of a call. -/
inductive AuthAction where
  | tick (elapsed : ℕ)
  | issueInvite (dto : IssueInviteDto) (token : JsString)
  | redeemInvite (k : ℕ) (token : JsString)
  | next (k : ℕ)
  | lost (k : ℕ)
  | setFounderStatus (founderId : Uuid) (status : FounderStatus)
  | signOut (actorId sessionId : Uuid)
  | setCompanies (companies : List CompanyRow)

namespace AuthSys

def moved (s : AuthSys) (k : ℕ) (p : RedeemPlace) : AuthSys :=
  { s with calls := Function.update s.calls k p }

/-- The call is over: what it wrote is gone, its locks are free. -/
def ended (s : AuthSys) (k : ℕ) : AuthSys :=
  { s with
    inviteLocks := Locks.release s.inviteLocks k
    subjectLocks := Locks.release s.subjectLocks k
    calls := Function.update s.calls k .idle }

def locked (s : AuthSys) (k : ℕ) (inviteId : Uuid) (p : RedeemPlace) : AuthSys :=
  { s with
    inviteLocks := Locks.acquire s.inviteLocks inviteId k
    calls := Function.update s.calls k p }

/-- The call has written the founder row of the subject. -/
def upserted (s : AuthSys) (k : ℕ) (subject : JsString) (p : RedeemPlace) : AuthSys :=
  { s with
    nextId := s.nextId + 1
    subjectLocks := Locks.acquire s.subjectLocks subject k
    calls := Function.update s.calls k p }

variable (platform : AuthPlatform)

/-- The founder row a call sees that has written it. -/
def ownFounder (invite : FounderInviteRow) (newId : Uuid) (db : AuthDb) :
    Option FounderAccountRow :=
  let subject := Auth.founderAuthSubject platform invite.email
  Auth.selectFounder subject (Auth.upsertFounder newId subject invite.displayName db)

def redemption (invite : FounderInviteRow) (newId : Uuid) (founder : FounderAccountRow)
    (session : FounderSessionRow) (db : AuthDb) : AuthDb :=
  Auth.markRedeemed invite.id founder.id
    (Auth.insertSession session
      (Auth.upsertFounder newId (Auth.founderAuthSubject platform invite.email)
        invite.displayName db))

/-- What the call has written up to its place, on top of the committed rows. -/
def writes (db : AuthDb) : RedeemPlace → AuthDb
  | .idle | .made _ _ | .locked _ _ => db
  | .expiring invite => Auth.expireInvite invite.id db
  | .upserted invite _ newId | .resolved invite _ newId _ =>
      Auth.upsertFounder newId (Auth.founderAuthSubject platform invite.email)
        invite.displayName db
  | .opened invite _ newId _ session =>
      Auth.insertSession session
        (Auth.upsertFounder newId (Auth.founderAuthSubject platform invite.email)
          invite.displayName db)
  | .redeemed invite _ newId founder session =>
      redemption platform invite newId founder session db

def ownDb (s : AuthSys) (k : ℕ) : AuthDb :=
  writes platform s.db (s.calls k)

/-- The call is over, and what it wrote is stored. -/
def committed (s : AuthSys) (k : ℕ) : AuthSys :=
  { s.ended k with db := s.ownDb platform k }

/-- The next statement of the call. One that throws ends the call, and so does the
last one, which commits. -/
def next (s : AuthSys) (k : ℕ) : AuthSys :=
  match s.calls k with
  | .idle => s
  | .made tokenHash madeAt =>
      match Auth.selectInvite tokenHash s.db with
      | none => s.ended k
      | some invite =>
          if Locks.Free s.inviteLocks invite.id k then
            if invite.status ≠ .pending then s.ended k
            else if invite.expiresAt ≤ s.now then s.locked k invite.id (.expiring invite)
            else s.locked k invite.id (.locked invite madeAt)
          else s
  -- the throw after the `UPDATE` to `EXPIRED` rolls it back
  | .expiring _ => s.ended k
  | .locked invite madeAt =>
      if Locks.Free s.subjectLocks (Auth.founderAuthSubject platform invite.email) k then
        s.upserted k (Auth.founderAuthSubject platform invite.email)
          (.upserted invite madeAt s.nextId)
      else s
  | .upserted invite madeAt newId =>
      match ownFounder platform invite newId s.db with
      | none => s.ended k
      | some founder =>
          if founder.status = .active then s.moved k (.resolved invite madeAt newId founder)
          else s.ended k
  | .resolved invite madeAt newId founder =>
      { s.moved k (.opened invite madeAt newId founder
          (Auth.sessionRow s.nextId founder.id (Auth.sessionTtl invite) s.now)) with
        nextId := s.nextId + 1 }
  | .opened invite madeAt newId founder session =>
      s.moved k (.redeemed invite madeAt newId founder session)
  | .redeemed invite _ _ founder session =>
      { s.committed platform k with issued := s.issued ++ [⟨invite, founder, session⟩] }

/-- `issueInvite`, a single statement. -/
def issueInvite (s : AuthSys) (dto : IssueInviteDto) (token : JsString) : AuthSys :=
  if Auth.developmentAdapter platform then
    let row := Auth.inviteRow platform dto token s.nextId s.now
    let drawn := { s with nextId := s.nextId + 1 }
    if Auth.inviteInsertable row s.db.invites then
      { drawn with db := { s.db with invites := s.db.invites ++ [row] } }
    else drawn
  else s

/-- A call holds a row the founder's status is a column of. -/
def founderLocked (s : AuthSys) (founderId : Uuid) : Bool :=
  s.db.founders.any fun f => f.id = founderId ∧ (s.subjectLocks f.authSubject).isSome

def step (s : AuthSys) : AuthAction → AuthSys
  | .tick elapsed => { s with now := s.now + elapsed }
  | .issueInvite dto token => s.issueInvite platform dto token
  | .redeemInvite k token =>
      match s.calls k with
      | .idle => s.moved k (.made (Auth.hashInviteToken platform token) s.now)
      | _ => s
  | .next k => s.next platform k
  | .lost k => s.ended k
  | .setFounderStatus founderId status =>
      if s.founderLocked founderId then s
      else
        { s with
          db := { s.db with
            founders := Table.updateWhere (fun f => f.id = founderId)
              (fun f => { f with status := status }) s.db.founders } }
  | .signOut actorId sessionId =>
      { s with db := Auth.signOut actorId sessionId s.now s.db }
  | .setCompanies companies => { s with db := { s.db with companies := companies } }

def after (s : AuthSys) (acts : List AuthAction) : AuthSys :=
  Transition.run (step platform) s acts

end AuthSys

/-- A database without invites and sessions, with any founders and companies. -/
structure InitialAuth where
  founders : List FounderAccountRow
  companies : List CompanyRow
  now : Timestamp
  nextId : Uuid
  subjects : (founders.map FounderAccountRow.authSubject).Nodup

def InitialAuth.sys (init : InitialAuth) : AuthSys where
  db := { founders := init.founders, invites := [], sessions := [],
          companies := init.companies }
  now := init.now
  nextId := init.nextId
  inviteLocks := fun _ => none
  subjectLocks := fun _ => none
  calls := fun _ => .idle
  issued := []

/-- The state before the first founder. -/
def InitialAuth.empty : InitialAuth where
  founders := []
  companies := []
  now := 0
  nextId := 0
  subjects := List.nodup_nil

/-- A platform whose hash pads the token to `64` units. -/
def demoPlatform : AuthPlatform where
  sha256 token := (token ++ List.replicate 64 0x30).take 64
  toLowerCase text := text
  verifyAsync _ _ := .error .invalid
  environment := "test"
  authMode := "development"

/-! ## What a step does -/

/-- Everything that can happen to the session service. -/
inductive AuthStep (platform : AuthPlatform) : AuthAction → AuthSys → AuthSys → Prop
  | rest (act : AuthAction) (s : AuthSys) (now : Timestamp) (nextId : Uuid)
      (hnow : s.now ≤ now) (hid : s.nextId ≤ nextId) :
      AuthStep platform act s { s with now := now, nextId := nextId }
  | issue (dto : IssueInviteDto) (token : JsString) (s : AuthSys)
      (hfree : Auth.inviteInsertable (Auth.inviteRow platform dto token s.nextId s.now)
        s.db.invites = true) :
      AuthStep platform (.issueInvite dto token) s
        { s with
          nextId := s.nextId + 1
          db := { s.db with
            invites := s.db.invites ++ [Auth.inviteRow platform dto token s.nextId s.now] } }
  | make (k : ℕ) (token : JsString) (s : AuthSys) (hidle : s.calls k = .idle) :
      AuthStep platform (.redeemInvite k token) s
        (s.moved k (.made (Auth.hashInviteToken platform token) s.now))
  | refuse (k : ℕ) (invite : FounderInviteRow) (s : AuthSys)
      (hplace : s.calls k = .expiring invite) :
      AuthStep platform (.next k) s (s.ended k)
  | leave (act : AuthAction) (k : ℕ) (s : AuthSys) (hact : act = .lost k ∨ act = .next k) :
      AuthStep platform act s (s.ended k)
  | lock (k : ℕ) (tokenHash : Digest) (madeAt : Timestamp) (invite : FounderInviteRow)
      (s : AuthSys) (hplace : s.calls k = .made tokenHash madeAt)
      (hinvite : invite ∈ s.db.invites) (hpending : invite.status = .pending)
      (hfree : Locks.Free s.inviteLocks invite.id k) (hfresh : s.now < invite.expiresAt) :
      AuthStep platform (.next k) s (s.locked k invite.id (.locked invite madeAt))
  | expire (k : ℕ) (tokenHash : Digest) (madeAt : Timestamp) (invite : FounderInviteRow)
      (s : AuthSys) (hplace : s.calls k = .made tokenHash madeAt)
      (hinvite : invite ∈ s.db.invites) (hpending : invite.status = .pending)
      (hfree : Locks.Free s.inviteLocks invite.id k) (hlate : invite.expiresAt ≤ s.now) :
      AuthStep platform (.next k) s (s.locked k invite.id (.expiring invite))
  | upsert (k : ℕ) (invite : FounderInviteRow) (madeAt : Timestamp) (s : AuthSys)
      (hplace : s.calls k = .locked invite madeAt)
      (hfree : Locks.Free s.subjectLocks (Auth.founderAuthSubject platform invite.email) k) :
      AuthStep platform (.next k) s
        (s.upserted k (Auth.founderAuthSubject platform invite.email)
          (.upserted invite madeAt s.nextId))
  | resolve (k : ℕ) (invite : FounderInviteRow) (madeAt : Timestamp) (newId : Uuid)
      (founder : FounderAccountRow) (s : AuthSys)
      (hplace : s.calls k = .upserted invite madeAt newId)
      (hfounder : AuthSys.ownFounder platform invite newId s.db = some founder)
      (hactive : founder.status = .active) :
      AuthStep platform (.next k) s (s.moved k (.resolved invite madeAt newId founder))
  | openSession (k : ℕ) (invite : FounderInviteRow) (madeAt : Timestamp) (newId : Uuid)
      (founder : FounderAccountRow) (s : AuthSys)
      (hplace : s.calls k = .resolved invite madeAt newId founder) :
      AuthStep platform (.next k) s
        { s.moved k (.opened invite madeAt newId founder
            (Auth.sessionRow s.nextId founder.id (Auth.sessionTtl invite) s.now)) with
          nextId := s.nextId + 1 }
  | markRedeemed (k : ℕ) (invite : FounderInviteRow) (madeAt : Timestamp) (newId : Uuid)
      (founder : FounderAccountRow) (session : FounderSessionRow) (s : AuthSys)
      (hplace : s.calls k = .opened invite madeAt newId founder session) :
      AuthStep platform (.next k) s (s.moved k (.redeemed invite madeAt newId founder session))
  | commit (k : ℕ) (invite : FounderInviteRow) (madeAt : Timestamp) (newId : Uuid)
      (founder : FounderAccountRow) (session : FounderSessionRow) (s : AuthSys)
      (hplace : s.calls k = .redeemed invite madeAt newId founder session) :
      AuthStep platform (.next k) s
        { s.ended k with
          db := AuthSys.redemption platform invite newId founder session s.db
          issued := s.issued ++ [⟨invite, founder, session⟩] }
  | setFounderStatus (founderId : Uuid) (status : FounderStatus) (s : AuthSys)
      (hfree : s.founderLocked founderId = false) :
      AuthStep platform (.setFounderStatus founderId status) s
        { s with
          db := { s.db with
            founders := Table.updateWhere (fun f => f.id = founderId)
              (fun f => { f with status := status }) s.db.founders } }
  | signOut (actorId sessionId : Uuid) (s : AuthSys) :
      AuthStep platform (.signOut actorId sessionId) s
        { s with db := Auth.signOut actorId sessionId s.now s.db }
  | setCompanies (companies : List CompanyRow) (s : AuthSys) :
      AuthStep platform (.setCompanies companies) s
        { s with db := { s.db with companies := companies } }

namespace AuthSys

variable {platform : AuthPlatform} {s : AuthSys}

theorem rest_self (act : AuthAction) : AuthStep platform act s s :=
  .rest act s s.now s.nextId le_rfl le_rfl

theorem next_spec (k : ℕ) : AuthStep platform (.next k) s (s.next platform k) := by
  unfold next
  split
  next => exact rest_self _
  next tokenHash madeAt hplace =>
    split
    next => exact .leave _ k s (.inr rfl)
    next invite hselect =>
      have hinvite : invite ∈ s.db.invites :=
        List.mem_of_mem_filter (List.mem_of_mem_head? hselect)
      split
      next hfree =>
        split
        next => exact .leave _ k s (.inr rfl)
        next hpending =>
          rw [ne_eq, not_not] at hpending
          split
          next hlate => exact .expire k tokenHash madeAt invite s hplace hinvite hpending hfree hlate
          next hfresh =>
            exact .lock k tokenHash madeAt invite s hplace hinvite hpending hfree
              (Nat.lt_of_not_le hfresh)
      next => exact rest_self _
  next invite hplace => exact .refuse k invite s hplace
  next invite madeAt hplace =>
    split
    next hfree => exact .upsert k invite madeAt s hplace hfree
    next => exact rest_self _
  next invite madeAt newId hplace =>
    split
    next => exact .leave _ k s (.inr rfl)
    next founder hfounder =>
      split
      next hactive => exact .resolve k invite madeAt newId founder s hplace hfounder hactive
      next => exact .leave _ k s (.inr rfl)
  next invite madeAt newId founder hplace =>
    exact .openSession k invite madeAt newId founder s hplace
  next invite madeAt newId founder session hplace =>
    exact .markRedeemed k invite madeAt newId founder session s hplace
  next invite madeAt newId founder session hplace =>
    rw [committed, ownDb, hplace]
    exact .commit k invite madeAt newId founder session s hplace

theorem step_spec (act : AuthAction) : AuthStep platform act s (s.step platform act) := by
  cases act with
  | tick elapsed => exact .rest _ s _ _ (Nat.le_add_right _ _) le_rfl
  | issueInvite dto token =>
      rw [step, issueInvite]
      by_cases hadapter : Auth.developmentAdapter platform
      · rw [if_pos hadapter]
        by_cases hfree : Auth.inviteInsertable
            (Auth.inviteRow platform dto token s.nextId s.now) s.db.invites
        · simp only [if_pos hfree]
          exact .issue dto token s hfree
        · simp only [if_neg hfree]
          exact .rest _ s _ _ le_rfl (Nat.le_succ _)
      · rw [if_neg hadapter]
        exact rest_self _
  | redeemInvite k token =>
      rw [step]
      split
      next hidle => exact .make k token s hidle
      next => exact rest_self _
  | next k => exact next_spec k
  | lost k => exact .leave _ k s (.inl rfl)
  | setFounderStatus founderId status =>
      rw [step]
      by_cases hlocked : s.founderLocked founderId
      · rw [if_pos hlocked]
        exact rest_self _
      · rw [if_neg hlocked]
        exact .setFounderStatus founderId status s (Bool.not_eq_true _ ▸ hlocked)
  | signOut actorId sessionId => exact .signOut actorId sessionId s
  | setCompanies companies => exact .setCompanies companies s

end AuthSys

end Aico
