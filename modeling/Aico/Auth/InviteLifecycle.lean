import Aico.Auth.AuthInvariant

/-!
# The lifecycle of an invite

An invite yields one session at most, and only a call made in time redeems it, for
an active founder. A call that fails leaves the committed rows as they were, and
that is what goes wrong for an invite that has run out: the call sets it `EXPIRED`
and throws in the same transaction, so the invite stays `PENDING`.
-/

namespace Aico

def AuthAction.call : AuthAction → Option ℕ
  | redeemInvite k _ | next k | lost k => some k
  | _ => none

namespace AuthSys

def sessionsFor (s : AuthSys) (inviteId : Uuid) : List FounderSessionRow :=
  s.db.sessions.filter fun x =>
    s.issued.any fun e => e.invite.id = inviteId ∧ e.session.id = x.id

/-- The step redeems the invite for a call made in time and an active founder, whose
one session is active. -/
def Redeems (platform : AuthPlatform) (act : AuthAction) (s s' : AuthSys)
    (i : FounderInviteRow) : Prop :=
  ∃ k invite madeAt newId founder session, act = .next k ∧
    s.calls k = .redeemed invite madeAt newId founder session ∧ invite.id = i.id ∧
    madeAt < i.expiresAt ∧ i.redeemedFounderId = some founder.id ∧
    founder ∈ s'.db.founders ∧ founder.status = .active ∧
    (∀ f ∈ s.db.founders, f.authSubject = Auth.founderAuthSubject platform i.email →
      f.status = .active) ∧
    s'.sessionsFor i.id = [session] ∧ session.status = .active ∧
    session.founderId = founder.id

/-- A call is refused because its invite, still pending, has run out. -/
def RefusesExpired (s : AuthSys) (act : AuthAction) : Prop :=
  ∃ k invite, act = .next k ∧ s.calls k = .expiring invite

/-- The law of one step. -/
structure LawfulStep (platform : AuthPlatform) (act : AuthAction) (s s' : AuthSys) : Prop where
  redeemed : ∀ i ∈ s'.db.invites, i.status = .redeemed →
    (∀ j ∈ s.db.invites, j.id = i.id → j.status ≠ .redeemed) → Redeems platform act s s' i
  expired : ∀ k invite, act = .next k → s.calls k = .expiring invite →
    s'.calls k = .idle ∧ s'.issued = s.issued ∧
      ∀ i ∈ s'.db.invites, i.id = invite.id → i.status = .expired
  failed : ∀ k, act.call = some k → ¬ s.RefusesExpired act → s'.issued = s.issued →
    s'.db = s.db

/-- The law of a history. -/
structure InviteLifecycle (platform : AuthPlatform) (s : AuthSys) (acts : List AuthAction) :
    Prop where
  single : ∀ acts₁ acts₂, acts = acts₁ ++ acts₂ → ∀ inviteId,
    ((s.after platform acts₁).sessionsFor inviteId).length ≤ 1
  step : ∀ acts₁ act acts₂, acts = acts₁ ++ act :: acts₂ →
    LawfulStep platform act (s.after platform acts₁)
      ((s.after platform acts₁).step platform act)

variable {platform : AuthPlatform} {s s' : AuthSys} {act : AuthAction}

namespace Inv

theorem sessionsFor_eq (h : s.Inv platform) {e : IssuedToken} (he : e ∈ s.issued) :
    s.sessionsFor e.invite.id = s.db.sessions.filter fun x => x.id = e.session.id := by
  refine List.filter_congr fun x _ => ?_
  rw [Bool.eq_iff_iff, List.any_eq_true, decide_eq_true_eq]
  constructor
  · rintro ⟨e', he', hfound⟩
    obtain ⟨hinvite, hsession⟩ := of_decide_eq_true hfound
    rw [Table.eq_of_key_eq h.issuedOnce he' he hinvite] at hsession
    exact hsession.symm
  · intro hid
    exact ⟨e, he, decide_eq_true ⟨rfl, hid.symm⟩⟩

theorem sessionsFor_le_one (h : s.Inv platform) (inviteId : Uuid) :
    (s.sessionsFor inviteId).length ≤ 1 := by
  by_cases hany : ∃ e ∈ s.issued, e.invite.id = inviteId
  · obtain ⟨e, he, rfl⟩ := hany
    rw [h.sessionsFor_eq he]
    obtain ⟨x, hx, hid, -⟩ := (h.backed e he).session
    rw [Table.filter_eq_singleton h.sessionKeys hx fun y _ => by rw [decide_eq_true_eq, hid]]
    exact le_rfl
  · have hnone : s.sessionsFor inviteId = [] := by
      refine List.filter_eq_nil_iff.mpr fun x _ hx => hany ?_
      obtain ⟨e, he, hfound⟩ := List.any_eq_true.mp hx
      exact ⟨e, he, (of_decide_eq_true hfound).1⟩
    rw [hnone]
    exact Nat.zero_le 1

/-- Founders of the subject, when a call commits that has read back its founder. -/
theorem active_of_ownFounder (h : s.Inv platform) {invite : FounderInviteRow} {newId : Uuid}
    {founder : FounderAccountRow}
    (hown : ownFounder platform invite newId s.db = some founder)
    (hactive : founder.status = .active) :
    ∀ f ∈ s.db.founders, f.authSubject = Auth.founderAuthSubject platform invite.email →
      f.status = .active := by
  intro f hf hsubject
  have hselect : Auth.selectFounder (Auth.founderAuthSubject platform invite.email) s.db =
      some f := by
    rw [Auth.selectFounder, Table.filter_eq_singleton h.subjectKeys hf fun f' _ => by
      rw [decide_eq_true_eq, hsubject]]
    rfl
  rw [ownFounder, Auth.selectFounder_upsertFounder, hselect] at hown
  rw [← Option.some.inj hown] at hactive
  exact hactive

theorem redeems_commit (h : s.Inv platform) {k : ℕ} {invite : FounderInviteRow}
    {madeAt : Timestamp} {newId : Uuid} {founder : FounderAccountRow}
    {session : FounderSessionRow}
    (hplace : s.calls k = .redeemed invite madeAt newId founder session)
    {i : FounderInviteRow}
    (hi : i ∈ (redemption platform invite newId founder session s.db).invites)
    (hredeemed : i.status = .redeemed)
    (hnew : ∀ j ∈ s.db.invites, j.id = i.id → j.status ≠ .redeemed) :
    Redeems platform (.next k) s
      { s.ended k with
        db := redemption platform invite newId founder session s.db
        issued := s.issued ++ [⟨invite, founder, session⟩] } i := by
  have hcommit := h.commit hplace
  have hvalid := h.calls k
  rw [hplace] at hvalid
  obtain ⟨hstored, -⟩ := hvalid.selected invite rfl
  obtain ⟨hown, hactive⟩ := hvalid.founded
  obtain ⟨-, hsession, hfounderId, -⟩ := hvalid.sessioned
  rw [invites_redemption] at hi
  obtain ⟨j, hj, hji⟩ := Table.mem_updateWhere.mp hi
  have hpending : Auth.isPending invite.id j = true := by
    by_contra hnot
    rw [if_neg hnot] at hji
    obtain rfl := hji
    exact hnew j hj rfl hredeemed
  rw [if_pos hpending] at hji
  obtain rfl : j = invite :=
    Table.eq_of_key_eq h.inviteKeys hj hstored (of_decide_eq_true hpending).1
  subst hji
  refine ⟨k, j, madeAt, newId, founder, session, rfl, hplace, rfl, hvalid.timely, rfl, ?_,
    hactive, h.active_of_ownFounder hown hactive, ?_, hsession, hfounderId⟩
  · exact (Auth.mem_of_selectFounder hown).1
  · refine (hcommit.sessionsFor_eq (List.mem_append_right _ List.mem_cons_self)).trans ?_
    refine Table.filter_eq_singleton hcommit.sessionKeys ?_ fun y _ => decide_eq_true_iff
    rw [sessions_redemption]
    exact List.mem_append_right _ List.mem_cons_self

/-- A step is lawful unless it refuses an invite that has run out. -/
theorem lawfulStep (h : s.Inv platform) (hstep : AuthStep platform act s s')
    (hsafe : ¬ s.RefusesExpired act) : LawfulStep platform act s s' := by
  have hexpired : ∀ k invite, act = .next k → s.calls k ≠ .expiring invite :=
    fun k invite hact hplace => hsafe ⟨k, invite, hact, hplace⟩
  cases hstep with
  | commit k invite madeAt newId founder session _ hplace =>
      refine ⟨fun i hi hredeemed hnew => h.redeems_commit hplace hi hredeemed hnew,
        fun k' i hact hplace' => absurd hplace' (hexpired k' i hact), fun _ _ _ hissued => ?_⟩
      simp at hissued
  | issue dto token _ hfree =>
      refine ⟨fun i hi hredeemed hnew => ?_,
        fun k' i hact hplace' => absurd hplace' (hexpired k' i hact), nofun⟩
      rcases List.mem_append.mp hi with hi | hi
      · exact absurd hredeemed (hnew i hi rfl)
      · rw [List.mem_singleton.mp hi] at hredeemed
        cases hredeemed
  | setFounderStatus | signOut | setCompanies =>
      exact ⟨fun i hi hredeemed hnew => absurd hredeemed (hnew i hi rfl),
        fun k' i hact hplace' => absurd hplace' (hexpired k' i hact), nofun⟩
  | _ =>
      exact ⟨fun i hi hredeemed hnew => absurd hredeemed (hnew i hi rfl),
        fun k' i hact hplace' => absurd hplace' (hexpired k' i hact), fun _ _ _ _ => rfl⟩

/-- The refusal of an invite that has run out leaves it pending. -/
theorem not_lawfulStep (h : s.Inv platform) (hrefuses : s.RefusesExpired act) :
    ¬ LawfulStep platform act s (s.step platform act) := by
  intro hlawful
  obtain ⟨k, invite, rfl, hplace⟩ := hrefuses
  have hended : s.step platform (.next k) = s.ended k := by
    rw [AuthSys.step, next, hplace]
  have hvalid := h.calls k
  rw [hplace] at hvalid
  obtain ⟨hstored, hpending⟩ := hvalid.selected invite rfl
  have hstatus := (hlawful.expired k invite rfl hplace).2.2 invite (hended ▸ hstored) rfl
  rw [hpending] at hstatus
  cases hstatus

/-- Stored, what the refused call has written would obey the law. -/
theorem lawfulStep_committed (h : s.Inv platform) {k : ℕ} {invite : FounderInviteRow}
    (hplace : s.calls k = .expiring invite) :
    LawfulStep platform (.next k) s (s.committed platform k) := by
  have hinvites : (s.committed platform k).db.invites =
      Table.updateWhere (Auth.isPending invite.id) (fun i => { i with status := .expired })
        s.db.invites := by
    rw [committed, ownDb, hplace]
    rfl
  refine ⟨fun i hi hredeemed hnew => ?_, fun k' invite' hact hplace' => ?_,
    fun _ _ hother => absurd ⟨k, invite, rfl, hplace⟩ hother⟩
  · rw [hinvites] at hi
    obtain ⟨j, hj, rfl⟩ := Table.mem_updateWhere.mp hi
    split at hredeemed
    next => cases hredeemed
    next hnot => exact absurd hredeemed (hnew j hj (by rw [if_neg hnot]))
  · obtain rfl : k = k' := AuthAction.next.inj hact
    obtain rfl : invite = invite' := RedeemPlace.expiring.inj (hplace.symm.trans hplace')
    have hvalid := h.calls k
    rw [hplace] at hvalid
    obtain ⟨hstored, hpending⟩ := hvalid.selected invite rfl
    refine ⟨Function.update_self .., rfl, fun i hi hid => ?_⟩
    rw [hinvites] at hi
    obtain ⟨j, hj, rfl⟩ := Table.mem_updateWhere.mp hi
    split
    next => rfl
    next hnot =>
      rw [if_neg hnot] at hid
      obtain rfl := Table.eq_of_key_eq h.inviteKeys hj hstored hid
      exact absurd (by simp [Auth.isPending, hpending]) hnot

end Inv

def demoInvite : IssueInviteDto where
  email := js "a@b.c"
  displayName := js "ab"
  inviteTtlSeconds := some 1
  sessionTtlSeconds := none

/-- The invite is issued, runs out, and a call for it has set it `EXPIRED`. -/
def lateRedemption : List AuthAction :=
  [.issueInvite demoInvite (js "token"), .tick 1000, .redeemInvite 0 (js "token"), .next 0]

end AuthSys

end Aico
