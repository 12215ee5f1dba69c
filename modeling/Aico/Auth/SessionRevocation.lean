import Aico.Auth.AuthInvariant

/-!
# Revocation of sessions

A verification reads the session row, the clock and the founder row one after the
other, and anything may happen in between. A session that has been signed out or
has run out stays so, hence a verification that starts afterwards fails whatever
its later reads see. The status of the founder is read each time: disabling a
founder stops the sessions for as long as the founder is disabled, and no longer.
-/

namespace Aico

/-- The session row is the same, or has been revoked in between. -/
structure FounderSessionRow.Kept (x x' : FounderSessionRow) : Prop where
  id : x'.id = x.id
  founderId : x'.founderId = x.founderId
  expiresAt : x'.expiresAt = x.expiresAt
  revoked : x.status = .revoked → x'.status = .revoked

namespace FounderSessionRow.Kept

variable {x x' x'' : FounderSessionRow}

theorem refl (x : FounderSessionRow) : x.Kept x := ⟨rfl, rfl, rfl, fun h => h⟩

theorem trans (h : x.Kept x') (h' : x'.Kept x'') : x.Kept x'' where
  id := h'.id.trans h.id
  founderId := h'.founderId.trans h.founderId
  expiresAt := h'.expiresAt.trans h.expiresAt
  revoked hx := h'.revoked (h.revoked hx)

end FounderSessionRow.Kept

namespace AuthSys

/-- What a read sees. -/
def view (s : AuthSys) : Auth.View := ⟨s.db, s.now⟩

/-- The reads of a verification that starts in `s`, with what happens before each of
the later ones. -/
def reads (platform : AuthPlatform) (s : AuthSys)
    (toSession toExpiry toFounder toAccess : List AuthAction) : Auth.VerifyReads :=
  let session := s.after platform toSession
  let expiry := session.after platform toExpiry
  let founder := expiry.after platform toFounder
  let access := founder.after platform toAccess
  ⟨s.view, session.view, expiry.view, founder.view, access.view⟩

def withoutSignOut (sessionId : Uuid) (acts : List AuthAction) : List AuthAction :=
  acts.filter fun
    | .signOut _ sessionId' => sessionId' ≠ sessionId
    | _ => true

/-- The token is signed for a payload that names the session. -/
def Names (platform : AuthPlatform) (token : JsString) (now : Timestamp)
    (sessionId : Uuid) : Prop :=
  ∃ payload, platform.verifyAsync token now = .ok payload ∧
    payload.sid.map UuidText.value = some sessionId

def Unforgeable (platform : AuthPlatform) (s : AuthSys) : Prop :=
  ∀ token now payload, platform.verifyAsync token now = .ok payload →
    ∃ e ∈ s.issued, payload = Auth.accessTokenPayload e.founder e.session

/-- No verification of a token of the session that starts in `s` or later succeeds. -/
def Dead (platform : AuthPlatform) (s : AuthSys) (sessionId : Uuid) : Prop :=
  ∀ wait toSession toExpiry toFounder toAccess token actor,
    Names platform token (s.after platform wait).now sessionId →
    Auth.verifyAccessToken platform token
      ((s.after platform wait).reads platform toSession toExpiry toFounder toAccess) ≠
        .ok actor

/-- The law of the sessions. -/
structure SessionRevocation (platform : AuthPlatform) (s : AuthSys) : Prop where
  dead : ∀ x ∈ s.db.sessions, x.status = .revoked ∨ x.expiresAt ≤ s.now →
    Dead platform s x.id
  disabled : ∀ x ∈ s.db.sessions,
    ∀ wait toSession toExpiry toFounder toAccess token actor,
      Names platform token (s.after platform wait).now x.id →
      (∀ f ∈ ((s.after platform wait).reads platform toSession toExpiry toFounder
        toAccess).founder.db.founders, f.id = x.founderId → f.status ≠ .active) →
      Auth.verifyAccessToken platform token
        ((s.after platform wait).reads platform toSession toExpiry toFounder toAccess) ≠
          .ok actor
  others : ∀ sessionId wait toSession toExpiry toFounder toAccess token,
    ¬ Names platform token (s.after platform wait).now sessionId →
    Auth.verifyAccessToken platform token
      ((s.after platform wait).reads platform toSession toExpiry toFounder toAccess) =
    Auth.verifyAccessToken platform token
      ((s.after platform (withoutSignOut sessionId wait)).reads platform
        (withoutSignOut sessionId toSession) (withoutSignOut sessionId toExpiry)
        (withoutSignOut sessionId toFounder) (withoutSignOut sessionId toAccess))
  verified : Unforgeable platform s →
    ∀ toSession toExpiry toFounder toAccess token actor,
      Auth.verifyAccessToken platform token
        (s.reads platform toSession toExpiry toFounder toAccess) = .ok actor →
      ∃ e ∈ s.issued, platform.verifyAsync token s.now =
          .ok (Auth.accessTokenPayload e.founder e.session) ∧
        actor.id = e.founder.id ∧ actor.authSubject = e.founder.authSubject ∧
        actor.sessionId = e.session.id

/-! ## A verification, read backwards -/

end AuthSys

namespace Auth

variable {platform : AuthPlatform} {token : JsString} {reads : VerifyReads}
  {actor : VerifiedActor}

structure Verified (reads : VerifyReads) (payload : AccessTokenPayload) (sid : UuidText)
    (session : FounderSessionRow) (founder : FounderAccountRow) (actor : VerifiedActor) :
    Prop where
  names : payload.sid = some sid
  stored : session ∈ reads.session.db.sessions
  sessionId : session.id = sid.value
  sessionFounder : session.founderId = payload.sub.value
  sessionActive : session.status = .active
  fresh : reads.expiry.now < session.expiresAt
  known : founder ∈ reads.founder.db.founders
  founderId : founder.id = payload.sub.value
  subject : founder.authSubject = payload.authSubject
  founderActive : founder.status = .active
  actor_eq : actor =
    { id := founder.id
      authSubject := founder.authSubject
      companyId := companyOf founder.id reads.founder.db
      sessionId := session.id }

theorem activeSession_eq_ok {payload : AccessTokenPayload} {session : FounderSessionRow}
    (h : activeSession payload reads = .ok session) :
    ∃ sid, payload.sid = some sid ∧ session ∈ reads.session.db.sessions ∧
      session.id = sid.value ∧ session.founderId = payload.sub.value ∧
      session.status = .active ∧ reads.expiry.now < session.expiresAt := by
  unfold activeSession at h
  split at h
  next => cases h
  next sid hsid =>
    split at h
    next => cases h
    next =>
      split at h
      next => cases h
      next session' hselect =>
        obtain ⟨hmem, hkeys⟩ := List.mem_filter.mp (List.mem_of_mem_head? hselect)
        obtain ⟨hid, hfounder⟩ := of_decide_eq_true hkeys
        split at h
        next => cases h
        next hnot =>
          split at h
          next => cases h
          next hlate =>
            obtain rfl := Except.ok.inj h
            refine ⟨sid, hsid, hmem, hid, hfounder, ?_, Nat.lt_of_not_le hlate⟩
            cases hstatus : session'.status with
            | active => rfl
            | revoked => exact absurd hstatus hnot

theorem activeActor_eq_ok {payload : AccessTokenPayload} {session : FounderSessionRow}
    (h : activeActor payload session reads = .ok actor) :
    ∃ founder ∈ reads.founder.db.founders, founder.id = payload.sub.value ∧
      founder.authSubject = payload.authSubject ∧ founder.status = .active ∧
      actor =
        { id := founder.id
          authSubject := founder.authSubject
          companyId := companyOf founder.id reads.founder.db
          sessionId := session.id } := by
  unfold activeActor at h
  split at h
  next => cases h
  next founder hselect =>
    obtain ⟨hmem, hkeys⟩ := List.mem_filter.mp (List.mem_of_mem_head? hselect)
    obtain ⟨hid, hsubject⟩ := of_decide_eq_true hkeys
    split at h
    next => cases h
    next hactive =>
      split at h
      next =>
        exact ⟨founder, hmem, hid, hsubject, not_not.mp hactive, (Except.ok.inj h).symm⟩
      next => cases h

theorem verifyAccessToken_eq_ok (h : verifyAccessToken platform token reads = .ok actor) :
    ∃ payload sid session founder,
      platform.verifyAsync token reads.signature.now = .ok payload ∧
      Verified reads payload sid session founder actor := by
  unfold verifyAccessToken at h
  split at h
  next => cases h
  next => cases h
  next payload hverify =>
    cases hsession : activeSession payload reads with
    | error e =>
        rw [hsession] at h
        cases h
    | ok session =>
        rw [hsession] at h
        obtain ⟨sid, hsid, hmem, hid, hfounderId, hactive, hfresh⟩ :=
          activeSession_eq_ok hsession
        obtain ⟨founder, hf, hfid, hsubject, hfactive, hactor⟩ := activeActor_eq_ok h
        exact ⟨payload, sid, session, founder, hverify, hsid, hmem, hid, hfounderId, hactive,
          hfresh, hf, hfid, hsubject, hfactive, hactor⟩

theorem activeSession_congr {payload : AccessTokenPayload} {reads' : VerifyReads}
    (hsessions : ∀ sid, payload.sid = some sid →
      selectSession sid payload.sub reads.session.db =
        selectSession sid payload.sub reads'.session.db)
    (hexpiry : reads.expiry.now = reads'.expiry.now) :
    activeSession payload reads = activeSession payload reads' := by
  unfold activeSession
  cases hsid : payload.sid with
  | none => rfl
  | some sid => simp only [hsessions sid hsid, hexpiry]

theorem activeActor_congr {payload : AccessTokenPayload} {session : FounderSessionRow}
    {reads' : VerifyReads} (hfounders : reads'.founder.db.founders = reads.founder.db.founders)
    (hcompanies : reads'.founder.db.companies = reads.founder.db.companies)
    (haccess : reads'.access.now = reads.access.now) :
    activeActor payload session reads' = activeActor payload session reads := by
  simp only [activeActor, selectAccount, companyOf, hfounders, hcompanies, haccess]

/-- What a verification depends on. -/
theorem verifyAccessToken_congr {reads' : VerifyReads}
    (hsignature : reads'.signature.now = reads.signature.now)
    (hsession : ∀ payload sid, platform.verifyAsync token reads.signature.now = .ok payload →
      payload.sid = some sid → selectSession sid payload.sub reads'.session.db =
        selectSession sid payload.sub reads.session.db)
    (hexpiry : reads'.expiry.now = reads.expiry.now)
    (hfounders : reads'.founder.db.founders = reads.founder.db.founders)
    (hcompanies : reads'.founder.db.companies = reads.founder.db.companies)
    (haccess : reads'.access.now = reads.access.now) :
    verifyAccessToken platform token reads' = verifyAccessToken platform token reads := by
  unfold verifyAccessToken
  rw [hsignature]
  cases hverify : platform.verifyAsync token reads.signature.now with
  | error e => cases e <;> rfl
  | ok payload =>
      simp only
      rw [activeSession_congr (hsession payload · hverify) hexpiry]
      refine congrArg _ (funext fun session => ?_)
      exact activeActor_congr hfounders hcompanies haccess

end Auth

namespace AuthSys

variable {platform : AuthPlatform} {s s' t : AuthSys} {act : AuthAction}

/-! ## Sessions stay dead -/

/-- Time has not gone back, and no session has come back. -/
structure Later (s s' : AuthSys) : Prop where
  now : s.now ≤ s'.now
  sessions : ∀ x ∈ s.db.sessions, ∃ x' ∈ s'.db.sessions, x.Kept x'

theorem Later.refl (s : AuthSys) : s.Later s := ⟨le_rfl, fun x hx => ⟨x, hx, .refl x⟩⟩

theorem Later.trans (h : s.Later s') (h' : s'.Later t) : s.Later t where
  now := h.now.trans h'.now
  sessions x hx := by
    obtain ⟨x', hx', hkept⟩ := h.sessions x hx
    obtain ⟨x'', hx'', hkept'⟩ := h'.sessions x' hx'
    exact ⟨x'', hx'', hkept.trans hkept'⟩

theorem later_step (hstep : AuthStep platform act s s') : s.Later s' := by
  cases hstep with
  | rest _ _ now nextId hnow => exact ⟨hnow, fun x hx => ⟨x, hx, .refl x⟩⟩
  | commit k invite madeAt newId founder session =>
      refine ⟨le_rfl, fun x hx => ⟨x, ?_, .refl x⟩⟩
      rw [sessions_redemption]
      exact List.mem_append_left _ hx
  | signOut actorId sessionId =>
      refine ⟨le_rfl, fun x hx => ⟨_, Table.mem_updateWhere.mpr ⟨x, hx, rfl⟩, ?_⟩⟩
      split
      next => exact ⟨rfl, rfl, rfl, fun _ => rfl⟩
      next => exact .refl x
  | _ => exact ⟨le_rfl, fun x hx => ⟨x, hx, .refl x⟩⟩

theorem later_after (platform : AuthPlatform) (s : AuthSys) (acts : List AuthAction) : s.Later (s.after platform acts) :=
  Transition.run_relates (P := fun _ => True) Later.refl (fun _ _ _ => Later.trans)
    (fun _ _ _ => trivial) (fun _ act _ => later_step (step_spec act)) trivial acts

theorem Inv.after (h : s.Inv platform) (acts : List AuthAction) :
    (s.after platform acts).Inv platform :=
  Transition.run_invariant (fun _ act hs => hs.step (step_spec act)) h acts

theorem Inv.kept_of_verified (h : s.Inv platform) {x : FounderSessionRow}
    (hx : x ∈ s.db.sessions) {wait toSession toExpiry toFounder toAccess : List AuthAction}
    {token : JsString} {actor : VerifiedActor}
    (hnames : Names platform token (s.after platform wait).now x.id)
    (hok : Auth.verifyAccessToken platform token
      ((s.after platform wait).reads platform toSession toExpiry toFounder toAccess) =
        .ok actor) :
    ∃ payload sid session founder, x.Kept session ∧
      Auth.Verified ((s.after platform wait).reads platform toSession toExpiry toFounder
        toAccess) payload sid session founder actor := by
  obtain ⟨payload, sid, session, founder, hverify, hverified⟩ :=
    Auth.verifyAccessToken_eq_ok hok
  refine ⟨payload, sid, session, founder, ?_, hverified⟩
  obtain ⟨payload', hverify', hsid⟩ := hnames
  obtain rfl : payload' = payload := Except.ok.inj (hverify'.symm.trans hverify)
  rw [hverified.names, Option.map_some] at hsid
  have hlater := (s.later_after platform wait).trans
    ((s.after platform wait).later_after platform toSession)
  obtain ⟨x', hx', hkept⟩ := hlater.sessions x hx
  have hsame : session = x' := by
    refine Table.eq_of_key_eq ((h.after wait).after toSession).sessionKeys hverified.stored hx' ?_
    rw [hverified.sessionId, Option.some.inj hsid, hkept.id]
  rw [hsame]
  exact hkept

theorem Inv.dead (h : s.Inv platform) {x : FounderSessionRow} (hx : x ∈ s.db.sessions)
    (hdead : x.status = .revoked ∨ x.expiresAt ≤ s.now) : Dead platform s x.id := by
  intro wait toSession toExpiry toFounder toAccess token actor hnames hok
  obtain ⟨payload, sid, session, founder, hkept, hverified⟩ := h.kept_of_verified hx hnames hok
  rcases hdead with hrevoked | hlate
  · have hstatus := hverified.sessionActive
    rw [hkept.revoked hrevoked] at hstatus
    cases hstatus
  · have hfresh := hverified.fresh
    rw [hkept.expiresAt] at hfresh
    have hlater := ((s.later_after platform wait).trans
      ((s.after platform wait).later_after platform toSession)).trans
        (later_after platform _ toExpiry)
    exact absurd (hlate.trans hlater.now) (Nat.not_le_of_lt hfresh)

/-! ## Sign-outs of other sessions -/

def withSessions (s : AuthSys) (sessions : List FounderSessionRow) : AuthSys :=
  { s with db := { s.db with sessions := sessions } }

/-- The statements of a redemption do not read the sessions, and add the same one. -/
theorem next_withSessions (platform : AuthPlatform) (s : AuthSys) (k : ℕ) : ∃ new, ∀ sessions,
    (s.withSessions sessions).next platform k =
      (s.next platform k).withSessions (sessions ++ new) := by
  have hselect : ∀ tokenHash sessions, Auth.selectInvite tokenHash (s.withSessions sessions).db =
      Auth.selectInvite tokenHash s.db := fun _ _ => rfl
  have hown : ∀ invite newId sessions,
      ownFounder platform invite newId (s.withSessions sessions).db =
        ownFounder platform invite newId s.db := by
    intro invite newId sessions
    rw [ownFounder, ownFounder, Auth.selectFounder_upsertFounder,
      Auth.selectFounder_upsertFounder]
    rfl
  have hcalls : ∀ sessions, (s.withSessions sessions).calls = s.calls := fun _ => rfl
  cases hplace : s.calls k with
  | redeemed invite madeAt newId founder session =>
      refine ⟨[session], fun sessions => ?_⟩
      simp only [next, committed, ownDb, writes, hcalls, hplace]
      unfold withSessions redemption Auth.markRedeemed Auth.insertSession Auth.upsertFounder
      split <;> rfl
  | made tokenHash madeAt =>
      refine ⟨[], fun sessions => ?_⟩
      simp only [next, hcalls, hplace, hselect, List.append_nil]
      cases Auth.selectInvite tokenHash s.db with
      | none => rfl
      | some invite =>
          simp only [apply_ite (fun u : AuthSys => u.withSessions sessions)]
          rfl
  | locked invite madeAt =>
      refine ⟨[], fun sessions => ?_⟩
      simp only [next, hcalls, hplace, List.append_nil,
        apply_ite (fun u : AuthSys => u.withSessions sessions)]
      rfl
  | upserted invite madeAt newId =>
      refine ⟨[], fun sessions => ?_⟩
      simp only [next, hcalls, hplace, hown, List.append_nil]
      cases ownFounder platform invite newId s.db with
      | none => rfl
      | some founder =>
          simp only [apply_ite (fun u : AuthSys => u.withSessions sessions)]
          rfl
  | idle =>
      refine ⟨[], fun sessions => ?_⟩
      simp only [next, hcalls, hplace, List.append_nil]
  | expiring | resolved | opened =>
      refine ⟨[], fun sessions => ?_⟩
      simp only [next, hcalls, hplace, List.append_nil]
      rfl

/-- The states differ in the rows of one session at most. -/
def SameBut (sessionId : Uuid) (s t : AuthSys) : Prop :=
  ∃ sessions, t = s.withSessions sessions ∧
    sessions.filter (fun x => x.id ≠ sessionId) =
      s.db.sessions.filter fun x => x.id ≠ sessionId

namespace SameBut

variable {sessionId : Uuid}

theorem refl (sessionId : Uuid) (s : AuthSys) : SameBut sessionId s s :=
  ⟨s.db.sessions, rfl, rfl⟩

theorem now_eq (h : SameBut sessionId s t) : t.now = s.now := by
  obtain ⟨sessions, rfl, -⟩ := h
  rfl

theorem founders_eq (h : SameBut sessionId s t) : t.db.founders = s.db.founders := by
  obtain ⟨sessions, rfl, -⟩ := h
  rfl

theorem companies_eq (h : SameBut sessionId s t) : t.db.companies = s.db.companies := by
  obtain ⟨sessions, rfl, -⟩ := h
  rfl

/-- A step that both states take. -/
theorem step (h : SameBut sessionId s t) (act : AuthAction) :
    SameBut sessionId (s.step platform act) (t.step platform act) := by
  obtain ⟨sessions, rfl, hfilter⟩ := h
  cases act with
  | next k =>
      obtain ⟨new, hnext⟩ := next_withSessions platform s k
      refine ⟨sessions ++ new, hnext sessions, ?_⟩
      have hself : s.next platform k = (s.next platform k).withSessions (s.db.sessions ++ new) :=
        hnext s.db.sessions
      rw [List.filter_append, hfilter, ← List.filter_append]
      exact congrArg (fun u : AuthSys => u.db.sessions.filter fun x => x.id ≠ sessionId) hself.symm
  | signOut actorId sessionId' =>
      refine ⟨_, rfl, ?_⟩
      refine (Table.filter_updateWhere (fun _ => by rfl) _).trans ?_
      refine (congrArg (Table.updateWhere _ _) hfilter).trans ?_
      exact (Table.filter_updateWhere (fun _ => by rfl) _).symm
  | tick | lost | setCompanies => exact ⟨sessions, rfl, hfilter⟩
  | issueInvite dto token =>
      refine ⟨sessions, ?_, ?_⟩
      · simp only [AuthSys.step, issueInvite,
          apply_ite (fun u : AuthSys => u.withSessions sessions)]
        rfl
      · simp only [AuthSys.step, issueInvite]
        split
        · split <;> exact hfilter
        · exact hfilter
  | redeemInvite k token =>
      refine ⟨sessions, ?_, ?_⟩
      · simp only [AuthSys.step, withSessions]
        cases s.calls k <;> rfl
      · simp only [AuthSys.step]
        split <;> exact hfilter
  | setFounderStatus founderId status =>
      refine ⟨sessions, ?_, ?_⟩
      · simp only [AuthSys.step, apply_ite (fun u : AuthSys => u.withSessions sessions)]
        rfl
      · simp only [AuthSys.step]
        split <;> exact hfilter

/-- A sign-out of the session that one of the states misses. -/
theorem signOut (h : SameBut sessionId s t) (actorId : Uuid) :
    SameBut sessionId (s.step platform (.signOut actorId sessionId)) t := by
  obtain ⟨sessions, rfl, hfilter⟩ := h
  refine ⟨sessions, rfl, hfilter.trans ?_⟩
  symm
  refine (Table.filter_updateWhere (fun _ => by rfl) _).trans (Table.updateWhere_eq_self ?_)
  intro x hx
  have hne : x.id ≠ sessionId := of_decide_eq_true (List.mem_filter.mp hx).2
  simp [hne]

theorem after (platform : AuthPlatform) (h : SameBut sessionId s t) (acts : List AuthAction) :
    SameBut sessionId (s.after platform acts)
      (t.after platform (withoutSignOut sessionId acts)) := by
  induction acts generalizing s t with
  | nil => exact h
  | cons act acts ih =>
      by_cases hact : ∃ actorId, act = .signOut actorId sessionId
      · obtain ⟨actorId, rfl⟩ := hact
        have hskip : withoutSignOut sessionId (.signOut actorId sessionId :: acts) =
            withoutSignOut sessionId acts := by
          simp [withoutSignOut]
        rw [hskip]
        exact ih (h.signOut actorId)
      · have hkeep : withoutSignOut sessionId (act :: acts) =
            act :: withoutSignOut sessionId acts := by
          refine List.filter_cons_of_pos ?_
          split
          next actorId sessionId' =>
            refine decide_eq_true fun heq => hact ⟨actorId, ?_⟩
            rw [heq]
          next => rfl
        rw [hkeep]
        exact ih (h.step act)

theorem selectSession_eq (h : SameBut sessionId s t) {sid sub : UuidText}
    (hne : sid.value ≠ sessionId) :
    Auth.selectSession sid sub s.db = Auth.selectSession sid sub t.db := by
  obtain ⟨sessions, rfl, hfilter⟩ := h
  have hother : ∀ rows : List FounderSessionRow,
      rows.filter (fun x => x.id = sid.value ∧ x.founderId = sub.value) =
        (rows.filter fun x => x.id ≠ sessionId).filter
          fun x => x.id = sid.value ∧ x.founderId = sub.value := by
    intro rows
    rw [List.filter_filter]
    refine List.filter_congr fun x _ => ?_
    by_cases hid : x.id = sid.value
    · simp [hid, hne]
    · simp [hid]
  rw [Auth.selectSession, Auth.selectSession, hother, hother (s.withSessions sessions).db.sessions]
  exact congrArg _ (congrArg _ hfilter.symm)

end SameBut

theorem verifyAccessToken_withoutSignOut (s : AuthSys) (sessionId : Uuid)
    (wait toSession toExpiry toFounder toAccess : List AuthAction) (token : JsString)
    (hother : ¬ Names platform token (s.after platform wait).now sessionId) :
    Auth.verifyAccessToken platform token
      ((s.after platform wait).reads platform toSession toExpiry toFounder toAccess) =
    Auth.verifyAccessToken platform token
      ((s.after platform (withoutSignOut sessionId wait)).reads platform
        (withoutSignOut sessionId toSession) (withoutSignOut sessionId toExpiry)
        (withoutSignOut sessionId toFounder) (withoutSignOut sessionId toAccess)) := by
  have hsignature := (SameBut.refl sessionId s).after platform wait
  have hsession := hsignature.after platform toSession
  have hexpiry := hsession.after platform toExpiry
  have hfounder := hexpiry.after platform toFounder
  have haccess := hfounder.after platform toAccess
  refine (Auth.verifyAccessToken_congr hsignature.now_eq (fun payload sid hverify hsid => ?_)
    hexpiry.now_eq hfounder.founders_eq hfounder.companies_eq haccess.now_eq).symm
  refine (hsession.selectSession_eq fun hid => hother ⟨payload, hverify, ?_⟩).symm
  rw [hsid, Option.map_some, hid]

/-! ## The law -/

theorem Inv.sessionRevocation (h : s.Inv platform) : SessionRevocation platform s where
  dead x hx hdead := h.dead hx hdead
  disabled x hx wait toSession toExpiry toFounder toAccess token actor hnames hdisabled hok := by
    obtain ⟨payload, sid, session, founder, hkept, hverified⟩ :=
      h.kept_of_verified hx hnames hok
    refine hdisabled founder hverified.known ?_ hverified.founderActive
    rw [hverified.founderId, ← hverified.sessionFounder, hkept.founderId]
  others sessionId wait toSession toExpiry toFounder toAccess token :=
    s.verifyAccessToken_withoutSignOut sessionId wait toSession toExpiry toFounder toAccess token
  verified hunforgeable toSession toExpiry toFounder toAccess token actor hok := by
    obtain ⟨payload, sid, session, founder, hverify, hverified⟩ :=
      Auth.verifyAccessToken_eq_ok hok
    obtain ⟨e, he, rfl⟩ := hunforgeable token _ payload hverify
    obtain rfl : UuidText.ofUuid e.session.id = sid := Option.some.inj hverified.names
    refine ⟨e, he, hverify, ?_, ?_, ?_⟩
    · rw [hverified.actor_eq]
      exact hverified.founderId
    · rw [hverified.actor_eq]
      exact hverified.subject
    · rw [hverified.actor_eq]
      exact hverified.sessionId

/-- In every state that a history reaches, sessions that are over stay over. -/
theorem sessionRevocation_after (platform : AuthPlatform) (init : InitialAuth)
    (acts : List AuthAction) : SessionRevocation platform (init.sys.after platform acts) :=
  (inv_after platform init acts).sessionRevocation

/-! ## A session that verifies and is signed out -/

def sessionPayload : AccessTokenPayload where
  sub := .ofUuid 1
  authSubject := js "founder:a@b.c"
  type := "founder"
  sid := some (.ofUuid 2)
  jti := Uuid.text 2

def sessionPlatform : AuthPlatform :=
  { demoPlatform with
    verifyAsync := fun token _ =>
      if token = js "jwt" then .ok sessionPayload else .error .invalid }

theorem names_sessionPlatform (now : Timestamp) : Names sessionPlatform (js "jwt") now 2 :=
  ⟨sessionPayload, by simp only [sessionPlatform, if_pos], rfl⟩

def demoAccount : IssueInviteDto where
  email := js "a@b.c"
  displayName := js "ab"
  inviteTtlSeconds := none
  sessionTtlSeconds := none

def redeemedInvite : List AuthAction :=
  [.issueInvite demoAccount (js "token"), .redeemInvite 0 (js "token"), .next 0, .next 0,
    .next 0, .next 0, .next 0, .next 0]

def sessionToken : IssuedToken where
  invite := Auth.inviteRow demoPlatform demoAccount (js "token") 0 0
  founder :=
    { id := 1, authSubject := js "founder:a@b.c", displayName := js "ab", status := .active }
  session := Auth.sessionRow 2 1 900 0

def sessionActor : VerifiedActor where
  id := 1
  authSubject := js "founder:a@b.c"
  companyId := none
  sessionId := 2

theorem issued_redeemedInvite :
    (InitialAuth.empty.sys.after sessionPlatform redeemedInvite).issued = [sessionToken] := rfl

theorem unforgeable_redeemedInvite :
    Unforgeable sessionPlatform (InitialAuth.empty.sys.after sessionPlatform redeemedInvite) := by
  intro token now payload hverify
  rw [issued_redeemedInvite]
  refine ⟨sessionToken, List.mem_cons_self, ?_⟩
  simp only [sessionPlatform] at hverify
  split at hverify
  next => exact (Except.ok.inj hverify).symm
  next => cases hverify

theorem verifies_redeemedInvite :
    Auth.verifyAccessToken sessionPlatform (js "jwt")
      ((InitialAuth.empty.sys.after sessionPlatform redeemedInvite).reads sessionPlatform
        [] [] [] []) = .ok sessionActor := by
  have hok : (Auth.verifyAccessToken sessionPlatform (js "jwt")
      ((InitialAuth.empty.sys.after sessionPlatform redeemedInvite).reads sessionPlatform
        [] [] [] [])).toOption = some sessionActor := by decide
  cases hverify : Auth.verifyAccessToken sessionPlatform (js "jwt")
      ((InitialAuth.empty.sys.after sessionPlatform redeemedInvite).reads sessionPlatform
        [] [] [] []) with
  | ok actor =>
      rw [hverify] at hok
      exact congrArg _ (Option.some.inj hok)
  | error e =>
      rw [hverify] at hok
      cases hok

/-- The token verifies for the founder it was issued for, and is dead once its session
is signed out. -/
theorem sessionRevocation_after_demo :
    Auth.verifyAccessToken sessionPlatform (js "jwt")
      ((InitialAuth.empty.sys.after sessionPlatform redeemedInvite).reads sessionPlatform
        [] [] [] []) = .ok sessionActor ∧
    (∃ e ∈ [sessionToken], sessionPlatform.verifyAsync (js "jwt")
          (InitialAuth.empty.sys.after sessionPlatform redeemedInvite).now =
        .ok (Auth.accessTokenPayload e.founder e.session) ∧
      sessionActor.id = e.founder.id ∧ sessionActor.authSubject = e.founder.authSubject ∧
      sessionActor.sessionId = e.session.id) ∧
    Dead sessionPlatform
      (InitialAuth.empty.sys.after sessionPlatform (redeemedInvite ++ [.signOut 1 2])) 2 := by
  refine ⟨verifies_redeemedInvite, ?_, ?_⟩
  · rw [← issued_redeemedInvite]
    exact (sessionRevocation_after sessionPlatform .empty redeemedInvite).verified
      unforgeable_redeemedInvite [] [] [] [] (js "jwt") sessionActor verifies_redeemedInvite
  · have hsessions : (InitialAuth.empty.sys.after sessionPlatform
        (redeemedInvite ++ [.signOut 1 2])).db.sessions =
          [{ sessionToken.session with status := .revoked, revokedAt := some 0 }] := rfl
    have hdead := (sessionRevocation_after sessionPlatform .empty
      (redeemedInvite ++ [.signOut 1 2])).dead
        { sessionToken.session with status := .revoked, revokedAt := some 0 }
    rw [hsessions] at hdead
    exact hdead List.mem_cons_self (.inl rfl)

/-! ## A founder who comes back -/

/-- A session that is signed out, has run out or has lost its founder is over for
good. -/
def OverForGood (platform : AuthPlatform) (s : AuthSys) : Prop :=
  ∀ x ∈ s.db.sessions, (x.status = .revoked ∨ x.expiresAt ≤ s.now ∨
    ∀ f ∈ s.db.founders, f.id = x.founderId → f.status ≠ .active) → Dead platform s x.id

def disabledFounder : List AuthAction :=
  redeemedInvite ++ [.setFounderStatus 1 .disabled]

/-- The founder is enabled again, and the session verifies. -/
theorem overForGood_fails :
    ¬ OverForGood sessionPlatform (InitialAuth.empty.sys.after sessionPlatform disabledFounder) := by
  intro h
  have hstored : ((InitialAuth.empty.sys.after sessionPlatform disabledFounder).db.sessions.any
        fun x => x.id = 2 ∧ x.founderId = 1) = true ∧
      ((InitialAuth.empty.sys.after sessionPlatform disabledFounder).db.founders.all
        fun f => f.status ≠ .active) = true := by decide
  have hverifies : ((Auth.verifyAccessToken sessionPlatform (js "jwt")
      (((InitialAuth.empty.sys.after sessionPlatform disabledFounder).after sessionPlatform
        [.setFounderStatus 1 .active]).reads sessionPlatform [] [] [] [])).toOption.isSome) =
          true := by decide
  obtain ⟨x, hx, hids⟩ := List.any_eq_true.mp hstored.1
  have hdead := h x hx (.inr (.inr fun f hf _ =>
    of_decide_eq_true (List.all_eq_true.mp hstored.2 f hf)))
  cases hok : Auth.verifyAccessToken sessionPlatform (js "jwt")
      (((InitialAuth.empty.sys.after sessionPlatform disabledFounder).after sessionPlatform
        [.setFounderStatus 1 .active]).reads sessionPlatform [] [] [] []) with
  | error e =>
      rw [hok] at hverifies
      cases hverifies
  | ok actor =>
      rw [(of_decide_eq_true hids).1] at hdead
      exact hdead [.setFounderStatus 1 .active] [] [] [] [] (js "jwt") actor
        (names_sessionPlatform _) hok

end AuthSys

end Aico
