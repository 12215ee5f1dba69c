import Aico.Auth.AuthSystem

/-!
# The invariant of the session service

A call that has selected an invite holds the row as it is stored, still pending; a
call that has written a founder row will commit the row it has read back; and the
session it is about to insert is new. What other calls commit leaves all of that
alone, because they hold other invites and other founders.
-/

namespace Aico

namespace Auth

variable {platform : AuthPlatform} {db db' : AuthDb} {subject subject' displayName : JsString}
  {newId : Uuid}

/-! ## Founder rows -/

/-- The rows of the other subjects. -/
theorem selectFounder_upsertFounder_of_ne (hne : subject' ≠ subject) :
    selectFounder subject' (upsertFounder newId subject displayName db) =
      selectFounder subject' db := by
  refine congrArg List.head? ?_
  unfold upsertFounder
  split
  next =>
    exact Table.filter_updateWhere_of_ne (g := FounderAccountRow.authSubject)
      (fun f _ hf => of_decide_eq_true hf) (fun _ => rfl) hne
  next =>
    exact Table.filter_append_of_ne (g := FounderAccountRow.authSubject) (Ne.symm hne)

/-- The row of the subject, after it has been written. -/
theorem selectFounder_upsertFounder :
    selectFounder subject (upsertFounder newId subject displayName db) =
      some (((selectFounder subject db).map
        fun f => { f with displayName := displayName }).getD
          { id := newId, authSubject := subject, displayName := displayName,
            status := .active }) := by
  unfold upsertFounder
  split
  next hknown =>
    obtain ⟨f, hf, hsubject⟩ := List.any_eq_true.mp hknown
    have hmem : f ∈ db.founders.filter fun f => f.authSubject = subject :=
      List.mem_filter.mpr ⟨hf, hsubject⟩
    have hupdate : (Table.updateWhere (fun f => f.authSubject = subject)
        (fun f => { f with displayName := displayName }) db.founders).filter
          (fun f => f.authSubject = subject) =
        (db.founders.filter fun f => f.authSubject = subject).map
          fun f => { f with displayName := displayName } := by
      rw [Table.filter_updateWhere (fun _ => by rfl)]
      refine List.map_congr_left fun f hf => if_pos ?_
      exact (List.mem_filter.mp hf).2
    simp only [selectFounder]
    rw [hupdate]
    cases hrows : db.founders.filter fun f => f.authSubject = subject with
    | nil =>
        rw [hrows] at hmem
        cases hmem
    | cons f' rows => rfl
  next hunknown =>
    have hnone : (db.founders.filter fun f => f.authSubject = subject) = [] := by
      refine List.filter_eq_nil_iff.mpr fun f hf hsubject => hunknown ?_
      exact List.any_eq_true.mpr ⟨f, hf, hsubject⟩
    simp [selectFounder, List.filter_append, hnone]

theorem nodup_upsertFounder (h : (db.founders.map FounderAccountRow.authSubject).Nodup) :
    ((upsertFounder newId subject displayName db).founders.map
      FounderAccountRow.authSubject).Nodup := by
  unfold upsertFounder
  split
  next =>
    change (List.map _ (Table.updateWhere _ _ _)).Nodup
    rw [Table.map_updateWhere (fun _ => by rfl)]
    exact h
  next hunknown =>
    refine Table.nodup_key_append h fun f hf hsubject => hunknown ?_
    exact List.any_eq_true.mpr ⟨f, hf, decide_eq_true hsubject⟩

theorem mem_of_selectFounder {f : FounderAccountRow} (h : selectFounder subject db = some f) :
    f ∈ db.founders ∧ f.authSubject = subject := by
  obtain ⟨hf, hsubject⟩ := List.mem_filter.mp (List.mem_of_mem_head? h)
  exact ⟨hf, of_decide_eq_true hsubject⟩

end Auth

/-! ## A call -/

namespace RedeemPlace

open Auth

variable {platform : AuthPlatform} {db db' : AuthDb} {p : RedeemPlace}
  {now now' : Timestamp} {nextId nextId' : Uuid}

/-- The call was made before its invite ran out. -/
def Timely (now : Timestamp) : RedeemPlace → Prop
  | made _ madeAt => madeAt ≤ now
  | locked i madeAt | upserted i madeAt _ | resolved i madeAt _ _ | opened i madeAt _ _ _
  | redeemed i madeAt _ _ _ => madeAt < i.expiresAt
  | idle | expiring _ => True

/-- The founder the call has read back is the one it will commit. -/
def Founded (platform : AuthPlatform) (db : AuthDb) : RedeemPlace → Prop
  | resolved i _ newId f | opened i _ newId f _ | redeemed i _ newId f _ =>
      AuthSys.ownFounder platform i newId db = some f ∧ f.status = .active
  | _ => True

/-- The session the call is about to insert is new, and its founder's. -/
def Sessioned (db : AuthDb) (nextId : Uuid) : RedeemPlace → Prop
  | opened _ _ _ f x | redeemed _ _ _ f x =>
      x.id < nextId ∧ x.status = .active ∧ x.founderId = f.id ∧ ∀ y ∈ db.sessions, y.id ≠ x.id
  | _ => True

def HoldsInvite (p : RedeemPlace) (inviteId : Uuid) : Prop :=
  ∃ i, p.invite = some i ∧ i.id = inviteId

def HoldsSubject (platform : AuthPlatform) (p : RedeemPlace) (subject : JsString) : Prop :=
  ∃ i, p.upsert = some i ∧ founderAuthSubject platform i.email = subject

/-- What a call relies on. -/
structure Valid (platform : AuthPlatform) (db : AuthDb) (now : Timestamp) (nextId : Uuid)
    (p : RedeemPlace) : Prop where
  selected : ∀ i, p.invite = some i → i ∈ db.invites ∧ i.status = .pending
  timely : p.Timely now
  founded : p.Founded platform db
  sessioned : p.Sessioned db nextId

theorem valid_idle : Valid platform db now nextId idle := ⟨nofun, trivial, trivial, trivial⟩

/-- What another call relies on is kept by a change that leaves its invite and its
founder alone and does not insert its session. -/
theorem Valid.mono (h : p.Valid platform db now nextId)
    (hinvite : ∀ i, p.invite = some i → i ∈ db.invites → i ∈ db'.invites)
    (hfounder : ∀ i, p.upsert = some i →
      selectFounder (founderAuthSubject platform i.email) db' =
        selectFounder (founderAuthSubject platform i.email) db)
    (hsession : ∀ x, p.session = some x → (∀ y ∈ db.sessions, y.id ≠ x.id) →
      ∀ y ∈ db'.sessions, y.id ≠ x.id)
    (hnow : now ≤ now') (hid : nextId ≤ nextId') : p.Valid platform db' now' nextId' where
  selected i hi := ⟨hinvite i hi (h.selected i hi).1, (h.selected i hi).2⟩
  timely := by
    have htimely := h.timely
    cases p with
    | made => exact Nat.le_trans htimely hnow
    | _ => exact htimely
  founded := by
    have hfounded := h.founded
    have hown : ∀ i newId, p.upsert = some i →
        AuthSys.ownFounder platform i newId db' = AuthSys.ownFounder platform i newId db := by
      intro i newId hi
      rw [AuthSys.ownFounder, AuthSys.ownFounder, selectFounder_upsertFounder,
        selectFounder_upsertFounder, hfounder i hi]
    cases p with
    | idle | made | expiring | locked | upserted => trivial
    | resolved i madeAt newId f => exact ⟨(hown i newId rfl).trans hfounded.1, hfounded.2⟩
    | opened i madeAt newId f x => exact ⟨(hown i newId rfl).trans hfounded.1, hfounded.2⟩
    | redeemed i madeAt newId f x => exact ⟨(hown i newId rfl).trans hfounded.1, hfounded.2⟩
  sessioned := by
    have hsessioned := h.sessioned
    cases p with
    | idle | made | expiring | locked | upserted | resolved => trivial
    | opened i madeAt newId f x | redeemed i madeAt newId f x =>
        obtain ⟨hlt, hactive, hfounder, hnew⟩ := hsessioned
        exact ⟨hlt.trans_le hid, hactive, hfounder, hsession x rfl hnew⟩

end RedeemPlace

namespace AuthSys

/-- The token was issued for a session that is stored, from an invite that is
redeemed. -/
structure Backed (db : AuthDb) (e : IssuedToken) : Prop where
  invite : ∃ i ∈ db.invites, i.id = e.invite.id ∧ i.status = .redeemed
  session : ∃ x ∈ db.sessions, x.id = e.session.id ∧ x.founderId = e.founder.id

/-- The invariant of the session service. -/
structure Inv (platform : AuthPlatform) (s : AuthSys) : Prop where
  subjectKeys : (s.db.founders.map FounderAccountRow.authSubject).Nodup
  inviteKeys : (s.db.invites.map FounderInviteRow.id).Nodup
  sessionKeys : (s.db.sessions.map FounderSessionRow.id).Nodup
  invitesDrawn : ∀ i ∈ s.db.invites, i.id < s.nextId
  sessionsDrawn : ∀ x ∈ s.db.sessions, x.id < s.nextId
  inviteLocks : Locks.Covers s.inviteLocks RedeemPlace.HoldsInvite s.calls
  subjectLocks : Locks.Covers s.subjectLocks (RedeemPlace.HoldsSubject platform) s.calls
  calls : ∀ k, (s.calls k).Valid platform s.db s.now s.nextId
  newSessions : ∀ j k x y, j ≠ k → (s.calls j).session = some x →
    (s.calls k).session = some y → x.id ≠ y.id
  backed : ∀ e ∈ s.issued, Backed s.db e
  issuedOnce : (s.issued.map fun e => e.invite.id).Nodup

variable {platform : AuthPlatform} {s s' : AuthSys} {act : AuthAction} {k : ℕ} {p : RedeemPlace}

theorem invites_redemption {invite : FounderInviteRow} {newId : Uuid}
    {founder : FounderAccountRow} {session : FounderSessionRow} {db : AuthDb} :
    (redemption platform invite newId founder session db).invites =
      Table.updateWhere (Auth.isPending invite.id)
        (fun i => { i with status := .redeemed, redeemedFounderId := some founder.id })
        db.invites := by
  unfold redemption Auth.markRedeemed Auth.insertSession Auth.upsertFounder
  split <;> rfl

theorem sessions_redemption {invite : FounderInviteRow} {newId : Uuid}
    {founder : FounderAccountRow} {session : FounderSessionRow} {db : AuthDb} :
    (redemption platform invite newId founder session db).sessions =
      db.sessions ++ [session] := by
  unfold redemption Auth.markRedeemed Auth.insertSession Auth.upsertFounder
  split <;> rfl

theorem forall_calls_update {P : RedeemPlace → Prop} (hp : P p) (h : ∀ j, P (s.calls j)) (j : ℕ) :
    P (Function.update s.calls k p j) := by
  by_cases hj : j = k
  · rw [hj, Function.update_self]
    exact hp
  · rw [Function.update_of_ne hj]
    exact h j

namespace Inv

/-- Steps that write nothing and move one call. -/
theorem of_place (h : s.Inv platform) {inviteLocks : Uuid → Option ℕ}
    {subjectLocks : JsString → Option ℕ} {nextId : Uuid} (hid : s.nextId ≤ nextId)
    (hinviteLocks : Locks.Covers inviteLocks RedeemPlace.HoldsInvite
      (Function.update s.calls k p))
    (hsubjectLocks : Locks.Covers subjectLocks (RedeemPlace.HoldsSubject platform)
      (Function.update s.calls k p))
    (hvalid : p.Valid platform s.db s.now nextId)
    (hnew : ∀ j x y, j ≠ k → p.session = some x → (s.calls j).session = some y →
      x.id ≠ y.id) :
    Inv platform
      { s with
        inviteLocks := inviteLocks
        subjectLocks := subjectLocks
        nextId := nextId
        calls := Function.update s.calls k p } where
  subjectKeys := h.subjectKeys
  inviteKeys := h.inviteKeys
  sessionKeys := h.sessionKeys
  invitesDrawn i hi := (h.invitesDrawn i hi).trans_le hid
  sessionsDrawn x hx := (h.sessionsDrawn x hx).trans_le hid
  inviteLocks := hinviteLocks
  subjectLocks := hsubjectLocks
  calls := by
    refine forall_calls_update hvalid fun j => ?_
    exact (h.calls j).mono (fun _ _ hi => hi) (fun _ _ => rfl) (fun _ _ hx => hx) le_rfl hid
  newSessions j j' x y hj hx hy := by
    by_cases hjk : j = k
    · have hj' : j' ≠ k := fun hj' => hj (hjk.trans hj'.symm)
      simp only [hjk, Function.update_self] at hx
      simp only [Function.update_of_ne hj'] at hy
      exact hnew j' x y hj' hx hy
    · simp only [Function.update_of_ne hjk] at hx
      by_cases hjk' : j' = k
      · simp only [hjk', Function.update_self] at hy
        exact (hnew j y x hjk hy hx).symm
      · simp only [Function.update_of_ne hjk'] at hy
        exact h.newSessions j j' x y hj hx hy
  backed := h.backed
  issuedOnce := h.issuedOnce

theorem moved (h : s.Inv platform) {nextId : Uuid} (hid : s.nextId ≤ nextId)
    (hinvite : p.invite = (s.calls k).invite) (hupsert : p.upsert = (s.calls k).upsert)
    (hvalid : p.Valid platform s.db s.now nextId)
    (hnew : ∀ j x y, j ≠ k → p.session = some x → (s.calls j).session = some y →
      x.id ≠ y.id) : Inv platform { s.moved k p with nextId := nextId } := by
  refine h.of_place hid (h.inviteLocks.move ?_) (h.subjectLocks.move ?_) hvalid hnew
  · rintro key ⟨i, hi, hkey⟩
    exact ⟨i, hinvite ▸ hi, hkey⟩
  · rintro key ⟨i, hi, hkey⟩
    exact ⟨i, hupsert ▸ hi, hkey⟩

/-- A call that is over. -/
theorem ended (h : s.Inv platform) (k : ℕ) : (s.ended k).Inv platform :=
  h.of_place le_rfl (h.inviteLocks.release nofun) (h.subjectLocks.release nofun)
    RedeemPlace.valid_idle nofun

/-- A call that locks the invite it has selected. -/
theorem locked (h : s.Inv platform) {invite : FounderInviteRow}
    (hfree : Locks.Free s.inviteLocks invite.id k) (hinvite : p.invite = some invite)
    (hupsert : p.upsert = none) (hsession : p.session = none)
    (hvalid : p.Valid platform s.db s.now s.nextId) :
    (s.locked k invite.id p).Inv platform := by
  refine h.of_place le_rfl (h.inviteLocks.acquire hfree ?_) (h.subjectLocks.move ?_) hvalid ?_
  · rintro key ⟨i, hi, hkey⟩
    rw [hinvite] at hi
    obtain rfl := Option.some.inj hi
    exact .inl hkey.symm
  · rintro key ⟨i, hi, -⟩
    rw [hupsert] at hi
    cases hi
  · intro j x y _ hx
    rw [hsession] at hx
    cases hx

theorem valid_commit (h : s.Inv platform) {invite : FounderInviteRow} {madeAt : Timestamp}
    {newId : Uuid} {founder : FounderAccountRow} {session : FounderSessionRow}
    (hplace : s.calls k = .redeemed invite madeAt newId founder session) {j : ℕ} (hj : j ≠ k) :
    (s.calls j).Valid platform (redemption platform invite newId founder session s.db) s.now
      s.nextId := by
  refine (h.calls j).mono (fun i hi hmem => ?_) (fun i hi => ?_) (fun x hx hfresh y hy => ?_)
    le_rfl le_rfl
  · have hne : i.id ≠ invite.id := by
      intro hid
      refine hj (h.inviteLocks.eq_of_held ⟨i, hi, hid⟩ ⟨invite, ?_, rfl⟩)
      rw [hplace]
      rfl
    rw [invites_redemption]
    exact Table.mem_updateWhere.mpr ⟨i, hmem, if_neg (by simp [Auth.isPending, hne])⟩
  · have hne : Auth.founderAuthSubject platform i.email ≠
        Auth.founderAuthSubject platform invite.email := by
      intro hsubject
      refine hj (h.subjectLocks.eq_of_held ⟨i, hi, hsubject⟩ ⟨invite, ?_, rfl⟩)
      rw [hplace]
      rfl
    exact Auth.selectFounder_upsertFounder_of_ne hne
  · rw [sessions_redemption] at hy
    rcases List.mem_append.mp hy with hy | hy
    · exact hfresh y hy
    · rw [List.mem_singleton.mp hy]
      refine h.newSessions k j session x (Ne.symm hj) ?_ hx
      rw [hplace]
      rfl

theorem commit (h : s.Inv platform) {invite : FounderInviteRow} {madeAt : Timestamp}
    {newId : Uuid} {founder : FounderAccountRow} {session : FounderSessionRow}
    (hplace : s.calls k = .redeemed invite madeAt newId founder session) :
    Inv platform
      { s.ended k with
        db := redemption platform invite newId founder session s.db
        issued := s.issued ++ [⟨invite, founder, session⟩] } := by
  have hended := h.ended k
  have hvalid := h.calls k
  rw [hplace] at hvalid
  obtain ⟨hstored, hpending⟩ := hvalid.selected invite rfl
  obtain ⟨hlt, -, hfounderId, hfresh⟩ := hvalid.sessioned
  refine
    { subjectKeys := Auth.nodup_upsertFounder h.subjectKeys
      inviteKeys := ?_, sessionKeys := ?_, invitesDrawn := ?_, sessionsDrawn := ?_,
      inviteLocks := hended.inviteLocks, subjectLocks := hended.subjectLocks,
      calls := ?_, newSessions := hended.newSessions, backed := ?_, issuedOnce := ?_ }
  · simp only [invites_redemption]
    rw [Table.map_updateWhere (fun _ => by rfl)]
    exact h.inviteKeys
  · simp only [sessions_redemption]
    exact Table.nodup_key_append h.sessionKeys hfresh
  · simp only [invites_redemption]
    refine Table.forall_mem_updateWhere.mpr fun i hi => ?_
    split <;> exact h.invitesDrawn i hi
  · simp only [sessions_redemption]
    intro x hx
    rcases List.mem_append.mp hx with hx | hx
    · exact h.sessionsDrawn x hx
    · rw [List.mem_singleton.mp hx]
      exact hlt
  · intro j
    by_cases hj : j = k
    · simp only [AuthSys.ended, hj, Function.update_self]
      exact RedeemPlace.valid_idle
    · simp only [AuthSys.ended, Function.update_of_ne hj]
      exact h.valid_commit hplace hj
  · intro e he
    rcases List.mem_append.mp he with he | he
    · obtain ⟨⟨i, hi, hid, hredeemed⟩, x, hx, hxid, hxfounder⟩ := h.backed e he
      refine ⟨⟨i, ?_, hid, hredeemed⟩, x, ?_, hxid, hxfounder⟩
      · rw [invites_redemption]
        exact Table.mem_updateWhere.mpr ⟨i, hi, if_neg (by simp [Auth.isPending, hredeemed])⟩
      · rw [sessions_redemption]
        exact List.mem_append_left _ hx
    · rw [List.mem_singleton.mp he]
      refine ⟨⟨{ invite with status := .redeemed, redeemedFounderId := some founder.id },
        ?_, rfl, rfl⟩, session, ?_, rfl, hfounderId⟩
      · rw [invites_redemption]
        refine Table.mem_updateWhere.mpr ⟨invite, hstored, if_pos ?_⟩
        simp [Auth.isPending, hpending]
      · rw [sessions_redemption]
        exact List.mem_append_right _ List.mem_cons_self
  · refine Table.nodup_key_append h.issuedOnce fun e he hid => ?_
    obtain ⟨⟨i, hi, hie, hredeemed⟩, -⟩ := h.backed e he
    have hsame : i = invite := Table.eq_of_key_eq h.inviteKeys hi hstored (hie.trans hid)
    rw [hsame, hpending] at hredeemed
    cases hredeemed

/-- Founders whose row no call holds. -/
theorem setFounderStatus (h : s.Inv platform) {founderId : Uuid} {status : FounderStatus}
    (hfree : s.founderLocked founderId = false) :
    Inv platform
      { s with
        db := { s.db with
          founders := Table.updateWhere (fun f => f.id = founderId)
            (fun f => { f with status := status }) s.db.founders } } := by
  refine
    { h with
      subjectKeys := by
        change (List.map _ (Table.updateWhere _ _ _)).Nodup
        rw [Table.map_updateWhere (fun _ => by rfl)]
        exact h.subjectKeys
      calls := fun k => (h.calls k).mono (fun _ _ hi => hi) (fun i hi => ?_)
        (fun _ _ hx => hx) le_rfl le_rfl
      backed := fun e he => ⟨(h.backed e he).invite, (h.backed e he).session⟩ }
  have hlock : s.subjectLocks (Auth.founderAuthSubject platform i.email) = some k :=
    h.subjectLocks k _ ⟨i, hi, rfl⟩
  refine congrArg List.head? ?_
  rw [Table.filter_updateWhere (fun _ => by rfl)]
  refine Table.updateWhere_eq_self fun f hf => ?_
  obtain ⟨hf, hsubject⟩ := List.mem_filter.mp hf
  by_contra hid
  rw [Bool.not_eq_false, decide_eq_true_eq] at hid
  refine Bool.eq_false_iff.mp hfree (List.any_eq_true.mpr ⟨f, hf, ?_⟩)
  simp [hid, of_decide_eq_true hsubject, hlock]

theorem issue (h : s.Inv platform) (row : FounderInviteRow) (hrow : row.id = s.nextId) :
    Inv platform
      { s with
        nextId := s.nextId + 1
        db := { s.db with invites := s.db.invites ++ [row] } } := by
  refine
    { h with
      inviteKeys := Table.nodup_key_append h.inviteKeys
        fun i hi => hrow ▸ (h.invitesDrawn i hi).ne
      invitesDrawn := fun i hi => ?_
      sessionsDrawn := fun x hx => (h.sessionsDrawn x hx).trans_le (Nat.le_succ _)
      calls := fun k => (h.calls k).mono (fun _ _ hi => List.mem_append_left _ hi)
        (fun _ _ => rfl) (fun _ _ hx => hx) le_rfl (Nat.le_succ _)
      backed := fun e he => ?_ }
  · rcases List.mem_append.mp hi with hi | hi
    · exact (h.invitesDrawn i hi).trans_le (Nat.le_succ _)
    · rw [List.mem_singleton.mp hi, hrow]
      exact Nat.lt_succ_self _
  · obtain ⟨⟨i, hi, hid⟩, hsession⟩ := h.backed e he
    exact ⟨⟨i, List.mem_append_left _ hi, hid⟩, hsession⟩

theorem upsert (h : s.Inv platform) {invite : FounderInviteRow} {madeAt : Timestamp}
    (hplace : s.calls k = .locked invite madeAt)
    (hfree : Locks.Free s.subjectLocks (Auth.founderAuthSubject platform invite.email) k) :
    (s.upserted k (Auth.founderAuthSubject platform invite.email)
      (.upserted invite madeAt s.nextId)).Inv platform := by
  have hvalid := h.calls k
  rw [hplace] at hvalid
  refine h.of_place (Nat.le_succ _) (h.inviteLocks.move ?_) (h.subjectLocks.acquire hfree ?_)
    ⟨hvalid.selected, hvalid.timely, trivial, trivial⟩ nofun
  · rw [hplace]
    exact fun key hkey => hkey
  · rintro key ⟨i, hi, hkey⟩
    obtain rfl := Option.some.inj hi
    exact .inl hkey.symm

/-- The sessions that calls are about to insert have their ids. -/
theorem session_lt (h : s.Inv platform) {x : FounderSessionRow}
    (hx : (s.calls k).session = some x) : x.id < s.nextId := by
  have hsessioned := (h.calls k).sessioned
  cases hcall : s.calls k with
  | opened | redeemed =>
      rw [hcall] at hx hsessioned
      obtain rfl := Option.some.inj hx
      exact hsessioned.1
  | _ =>
      rw [hcall] at hx
      cases hx

theorem openSession (h : s.Inv platform) {invite : FounderInviteRow} {madeAt : Timestamp}
    {newId : Uuid} {founder : FounderAccountRow}
    (hplace : s.calls k = .resolved invite madeAt newId founder) :
    Inv platform
      { s.moved k (.opened invite madeAt newId founder
          (Auth.sessionRow s.nextId founder.id (Auth.sessionTtl invite) s.now)) with
        nextId := s.nextId + 1 } := by
  have hvalid := h.calls k
  rw [hplace] at hvalid
  refine h.moved (Nat.le_succ _) (by rw [hplace]; rfl) (by rw [hplace]; rfl)
    ⟨hvalid.selected, hvalid.timely, hvalid.founded, Nat.lt_succ_self _, rfl, rfl, ?_⟩ ?_
  · exact fun y hy => (h.sessionsDrawn y hy).ne
  · intro j x y _ hx hy
    obtain rfl := Option.some.inj hx
    exact (h.session_lt hy).ne'

theorem signOut (h : s.Inv platform) (actorId sessionId : Uuid) :
    Inv platform { s with db := Auth.signOut actorId sessionId s.now s.db } := by
  have hkeys : ∀ {x}, (x ∈ (Auth.signOut actorId sessionId s.now s.db).sessions) →
      ∃ y ∈ s.db.sessions, y.id = x.id := by
    intro x hx
    obtain ⟨y, hy, rfl⟩ := Table.mem_updateWhere.mp hx
    refine ⟨y, hy, ?_⟩
    split <;> rfl
  refine
    { h with
      sessionKeys := ?_
      sessionsDrawn := fun x hx => ?_
      calls := fun k => (h.calls k).mono (fun _ _ hi => hi) (fun _ _ => rfl)
        (fun x _ hfresh y hy => ?_) le_rfl le_rfl
      backed := fun e he => ?_ }
  · change (List.map _ (Table.updateWhere _ _ _)).Nodup
    rw [Table.map_updateWhere (fun _ => by rfl)]
    exact h.sessionKeys
  · obtain ⟨y, hy, hid⟩ := hkeys hx
    exact hid ▸ h.sessionsDrawn y hy
  · obtain ⟨z, hz, hid⟩ := hkeys hy
    exact hid ▸ hfresh z hz
  · obtain ⟨hinvite, x, hx, hid, hfounder⟩ := h.backed e he
    refine ⟨hinvite, _, Table.mem_updateWhere.mpr ⟨x, hx, rfl⟩, ?_⟩
    split <;> exact ⟨hid, hfounder⟩

/-- Every step keeps the invariant. -/
theorem step (h : s.Inv platform) (hstep : AuthStep platform act s s') : s'.Inv platform := by
  cases hstep with
  | rest _ _ now nextId hnow hid =>
      exact
        { h with
          invitesDrawn := fun i hi => (h.invitesDrawn i hi).trans_le hid
          sessionsDrawn := fun x hx => (h.sessionsDrawn x hx).trans_le hid
          calls := fun k => (h.calls k).mono (fun _ _ hi => hi) (fun _ _ => rfl)
            (fun _ _ hx => hx) hnow hid }
  | issue dto token => exact h.issue _ rfl
  | make k token _ hidle =>
      exact h.moved le_rfl (by rw [hidle]; rfl) (by rw [hidle]; rfl)
        ⟨nofun, le_rfl, trivial, trivial⟩ nofun
  | refuse k | leave _ k => exact h.ended k
  | lock k tokenHash madeAt invite _ hplace hinvite hpending hfree hfresh =>
      have htimely := (h.calls k).timely
      rw [hplace] at htimely
      refine h.locked hfree rfl rfl rfl ⟨?_, htimely.trans_lt hfresh, trivial, trivial⟩
      rintro i hi
      obtain rfl := Option.some.inj hi
      exact ⟨hinvite, hpending⟩
  | expire k tokenHash madeAt invite _ hplace hinvite hpending hfree hlate =>
      refine h.locked hfree rfl rfl rfl ⟨?_, trivial, trivial, trivial⟩
      rintro i hi
      obtain rfl := Option.some.inj hi
      exact ⟨hinvite, hpending⟩
  | upsert k invite madeAt _ hplace hfree => exact h.upsert hplace hfree
  | resolve k invite madeAt newId founder _ hplace hfounder hactive =>
      have hvalid := h.calls k
      rw [hplace] at hvalid
      exact h.moved le_rfl (by rw [hplace]; rfl) (by rw [hplace]; rfl)
        ⟨hvalid.selected, hvalid.timely, ⟨hfounder, hactive⟩, trivial⟩ nofun
  | openSession k invite madeAt newId founder _ hplace => exact h.openSession hplace
  | markRedeemed k invite madeAt newId founder session _ hplace =>
      have hvalid := h.calls k
      rw [hplace] at hvalid
      refine h.moved le_rfl (by rw [hplace]; rfl) (by rw [hplace]; rfl)
        ⟨hvalid.selected, hvalid.timely, hvalid.founded, hvalid.sessioned⟩ ?_
      intro j x y hj hx hy
      refine h.newSessions k j x y (Ne.symm hj) ?_ hy
      rw [hplace]
      exact hx
  | commit k invite madeAt newId founder session _ hplace => exact h.commit hplace
  | setFounderStatus founderId status _ hfree => exact h.setFounderStatus hfree
  | signOut actorId sessionId => exact h.signOut actorId sessionId
  | setCompanies companies =>
      exact
        { h with
          calls := fun k => (h.calls k).mono (fun _ _ hi => hi) (fun _ _ => rfl)
            (fun _ _ hx => hx) le_rfl le_rfl
          backed := fun e he => ⟨(h.backed e he).invite, (h.backed e he).session⟩ }

end Inv

theorem inv_init (init : InitialAuth) : init.sys.Inv platform where
  subjectKeys := init.subjects
  inviteKeys := List.nodup_nil
  sessionKeys := List.nodup_nil
  invitesDrawn := nofun
  sessionsDrawn := nofun
  inviteLocks := nofun
  subjectLocks := nofun
  calls _ := RedeemPlace.valid_idle
  newSessions := nofun
  backed := nofun
  issuedOnce := List.nodup_nil

/-- The state a history reaches. -/
theorem inv_after (platform : AuthPlatform) (init : InitialAuth) (acts : List AuthAction) :
    (init.sys.after platform acts).Inv platform :=
  Transition.run_invariant (fun _ act hs => hs.step (step_spec act)) (inv_init init) acts

end AuthSys

end Aico
