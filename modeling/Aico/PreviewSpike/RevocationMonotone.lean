import Aico.PreviewSpike.HookedCalls
import Aico.PreviewSpike.PreviewFixture

/-!
# Revocation is monotone

Three operations write a preview back that they have read before a hook: a publication, a
revocation and an access that quarantines. Where each of them writes something current
(`StepCurrent`), the previews of every run move one way: an epoch never decreases, a
withdrawn preview does not become available again, and a purged one stays purged.
`monotone_fails` is a publication whose hook revokes the preview it is about to publish.
-/

namespace Aico

namespace PreviewProof

open Coroutine

namespace PreviewProofService

variable {svc : PreviewProofService}

/-- The stored preview has moved on from the copy. -/
def Holds (svc : PreviewProofService) (p : PreviewAuthority) (s : PreviewProofState) : Prop :=
  ∃ q, s.previews.get p.previewId = some q ∧ svc.Moved p q

theorem Holds.later {p : PreviewAuthority} (s s' : PreviewProofState) (h : svc.Holds p s)
    (hlater : svc.Later s s') : svc.Holds p s' := by
  obtain ⟨q, hq, hpq⟩ := h
  obtain ⟨r, hr, hqr⟩ := hlater p.previewId q hq
  exact ⟨r, hr, hpq.trans hqr⟩

/-- A copy that has just been read is held. -/
theorem Holds.of_get {s : PreviewProofState} (hs : Keyed s) {previewId : JsString}
    {p : PreviewAuthority} (hp : s.previews.get previewId = some p) : svc.Holds p s := by
  obtain rfl := hs previewId p hp
  exact ⟨p, hp, .refl p⟩

theorem holds_readPreview (previewId : JsString) (operation : ProofOperation) (held : Held) :
    Upholds Keyed svc.Later svc.Current (fun _ => True)
      (svc.readPreview previewId operation held) fun preview => svc.Holds preview :=
  (upholds_readPreview previewId operation held).weaken (fun _ h => h)
    fun _ _ hs h => Holds.of_get hs h.1

/-! ## Writing a preview back -/

theorem moved_available {p q : PreviewAuthority} (hp : p.state = .prepared)
    (hpq : svc.Moved p q) (hepoch : q.revocationEpoch ≤ p.revocationEpoch)
    (hfault : svc.faults.publicationUnknownAfterCopy = false) :
    svc.Moved q (svc.availablePreview p) := by
  have heq : p.revocationEpoch = q.revocationEpoch := le_antisymm hpq.epoch hepoch
  have hq : ¬ Withdrawn q.state := by
    intro hq
    have := hpq.still hfault heq hq
    rw [hp] at this
    exact absurd this (by decide)
  exact
    { epoch := hepoch
      withdrawn := fun h => absurd h hq
      purged := fun h => absurd (by rw [h]; decide) hq
      moved := fun h => absurd h (by rw [← heq]; exact lt_irrefl _)
      still := fun _ _ h => absurd h (by change ¬ Withdrawn .available; decide) }

theorem moved_doubtful {p q : PreviewAuthority}
    (hepoch : q.revocationEpoch ≤ p.revocationEpoch) (hpurged : q.state ≠ .purged)
    (hfault : svc.faults.publicationUnknownAfterCopy = true) :
    svc.Moved q (doubtfulPreview p) where
  epoch := hepoch
  withdrawn _ := by change Withdrawn .unknown; decide
  purged h := absurd h hpurged
  moved _ := by change Withdrawn .unknown; decide
  still h := absurd h (by rw [hfault]; decide)

theorem moved_revoked {q : PreviewAuthority} (request : RevocationRequest)
    (hpurged : q.state ≠ .purged) : svc.Moved q (revokedPreview request q) := by
  have hstate : Withdrawn (revokedPreview request q).state := by
    unfold revokedPreview
    dsimp only
    split <;> decide
  exact
    { epoch := Nat.le_succ _
      withdrawn := fun _ => hstate
      purged := fun h => absurd h hpurged
      moved := fun _ => hstate
      still := fun _ h => absurd h (Nat.ne_of_lt (Nat.lt_succ_self _)) }

theorem moved_quarantined {p q : PreviewAuthority} (hpq : svc.Moved p q)
    (hepoch : q.revocationEpoch ≤ p.revocationEpoch + 1) (hpurged : q.state ≠ .purged) :
    svc.Moved q (quarantined p) where
  epoch := hepoch
  withdrawn _ := by change Withdrawn .quarantined; decide
  purged h := absurd h hpurged
  moved _ := by change Withdrawn .quarantined; decide
  still _ heq _ := by
    have hsucc : q.revocationEpoch = p.revocationEpoch + 1 := heq
    exact hpq.moved (by omega)

theorem withdrawn_of_removable {state : PreviewState} (h : state ∈ removableStates) :
    Withdrawn state ∧ state ≠ .purged := by
  revert h
  cases state <;> decide

theorem moved_pending {q : PreviewAuthority} (hq : q.state ∈ removableStates) :
    svc.Moved q (pendingPreview q) where
  epoch := le_rfl
  withdrawn _ := by change Withdrawn .deletePending; decide
  purged h := absurd h (withdrawn_of_removable hq).2
  moved h := absurd h (lt_irrefl _)
  still _ _ _ := (withdrawn_of_removable hq).1

theorem moved_cleaned (q : PreviewAuthority) (complete : Bool) :
    svc.Moved (pendingPreview q) (cleanedPreview q complete) where
  epoch := le_rfl
  withdrawn _ := by cases complete <;> (unfold cleanedPreview; dsimp only; decide)
  purged h := absurd h (by change PreviewState.deletePending ≠ .purged; decide)
  moved h := absurd h (lt_irrefl _)
  still _ _ _ := by change Withdrawn .deletePending; decide

/-- A preview is written over the one that is stored. -/
theorem upholds_setPreview {ε : Type} {p : PreviewAuthority} {P : PreviewProofState → Prop}
    (h : ∀ s, P s → ∃ q, s.previews.get p.previewId = some q ∧ svc.Moved q p) :
    Upholds Keyed svc.Later svc.Current P (modify (setPreview p) : Call ε PUnit) fun _ s =>
      s.previews.get p.previewId = some p := by
  refine .modify fun s hs hP => ?_
  obtain ⟨q, hq, hmoved⟩ := h s hP
  have hlater : Keyed (setPreview p s) ∧ svc.Later s (setPreview p s) :=
    later_setPreview hs fun stored hstored => by
      obtain rfl := Option.some.inj (hq.symm.trans hstored)
      exact hmoved
  exact ⟨hlater.1, hlater.2, JsMap.get_set_self⟩

/-- A change elsewhere. -/
theorem upholds_modify {ε : Type} {f : PreviewProofState → PreviewProofState}
    (hf : ∀ s, (f s).previews = s.previews) {P : PreviewProofState → Prop}
    {T : JsMap JsString PreviewAuthority → Prop} (hP : ∀ s, P s → T s.previews) :
    Upholds Keyed svc.Later svc.Current P (modify f : Call ε PUnit) fun _ s => T s.previews := by
  refine .modify fun s hs h => ?_
  have hlater : Keyed (f s) ∧ svc.Later s (f s) := later_of_previews_eq (hf s) hs
  exact ⟨hlater.1, hlater.2, by rw [hf]; exact hP s h⟩

/-! ## The operations -/

/-- A publication that passes its checks holds a prepared copy. -/
theorem upholds_checkPublication (request : PublicationRequest) (company : CompanyAuthority)
    (build : BuildAuthority) (preview : PreviewAuthority) :
    Upholds Keyed svc.Later svc.Current (fun _ => True)
      (svc.checkPublication request company build preview)
      fun _ _ => preview.state = .prepared := by
  unfold checkPublication assertCompanyScope
  refine .bind_ensure fun _ _ => ?_
  refine .bind (?_ : Upholds _ _ _ _ _ fun _ _ => preview.state = .prepared) fun _ => ?_
  · unfold assertPublicationBindings
    refine .bind_ensure fun _ _ => .bind_ensure fun _ hstate => ?_
    refine .bind_gets fun _ => .bind_ensure fun _ _ => .bind_gets fun _ => ?_
    refine .bind_ensure fun _ _ => .bind_ensure fun _ _ => ?_
    exact Upholds.ensure.weaken (fun _ h => h) fun _ _ _ _ => hstate
  · unfold validateBuildCopy
    exact .bind_gets fun _ => Upholds.lift.weaken (fun _ h => h) fun _ _ _ h => h.1.1

/-- What a publication knows when its hook has returned. -/
def PublishableIn (svc : PreviewProofService) (p : PreviewAuthority)
    (previews : JsMap JsString PreviewAuthority) : Prop :=
  ∃ q, previews.get p.previewId = some q ∧ svc.Moved p q ∧
    q.revocationEpoch ≤ p.revocationEpoch ∧ q.state ≠ .purged

def Publishable (svc : PreviewProofService) (p : PreviewAuthority) (s : PreviewProofState) :
    Prop :=
  PublishableIn svc p s.previews

theorem Publishable.of_holds {p : PreviewAuthority} {s : PreviewProofState}
    (h : svc.Holds p s)
    (hcurrent : svc.Current ⟨.beforeEffect .publish, .publication p⟩ .returned s) :
    svc.Publishable p s := by
  obtain ⟨q, hq, hpq⟩ := h
  exact ⟨q, hq, hpq, hcurrent q hq⟩

theorem steady_publishDoubtful (request : PublicationRequest) (p : PreviewAuthority)
    (consumption : ToolInvocationConsumption)
    (hfault : svc.faults.publicationUnknownAfterCopy = true) :
    Upholds Keyed svc.Later svc.Current (svc.Publishable p)
      (svc.publishDoubtful request p consumption) fun _ _ => True := by
  unfold publishDoubtful
  refine .bind (upholds_setPreview fun s h => ?_) fun _ => ?_
  · obtain ⟨q, hq, -, hepoch, hpurged⟩ := h
    exact ⟨q, hq, moved_doubtful hepoch hpurged hfault⟩
  · refine .weaken (Steady.bind .gets fun _ => ?_) (fun _ _ => trivial) fun _ _ _ h => h
    exact .bind (steady_modify fun _ => rfl) fun _ => .pure

theorem steady_publishAvailable (request : PublicationRequest) (p : PreviewAuthority)
    (verified : List VerifiedBuildCopy) (consumption : ToolInvocationConsumption)
    (hp : p.state = .prepared) (hfault : svc.faults.publicationUnknownAfterCopy = false) :
    Upholds Keyed svc.Later svc.Current (svc.Publishable p)
      (svc.publishAvailable request p verified consumption) fun _ _ => True := by
  unfold publishAvailable
  refine .bind (upholds_modify (T := svc.PublishableIn p) (fun _ => by rfl) fun s h => h) fun _ => ?_
  refine .bind (upholds_setPreview fun s h => ?_) fun _ => ?_
  · obtain ⟨q, hq, hpq, hepoch, -⟩ := h
    exact ⟨q, hq, moved_available hp hpq hepoch hfault⟩
  · refine .weaken (Steady.bind (steady_within (steady_callHook _ _)) fun _ => ?_)
      (fun _ _ => trivial) fun _ _ _ h => h
    exact .bind .gets fun _ => .bind (steady_modify fun _ => rfl) fun _ => .pure

theorem steady_publishNew (request : PublicationRequest) (company : CompanyAuthority) :
    Steady Keyed svc.Later svc.Current (svc.publishNew request company) := by
  unfold publishNew
  refine .bind (steady_within (steady_readBuild _ _ _)) fun build => ?_
  refine Upholds.bind (upholds_within (holds_readPreview _ _ _)) fun preview => ?_
  refine .bind (upholds_within ((upholds_checkPublication request company build preview).frame
    (Holds.later (p := preview)) |>.weaken (fun _ h => ⟨h, trivial⟩)
      fun _ _ _ h => h)) fun verified => ?_
  have hstable : ∀ s s', svc.Holds preview s ∧ preview.state = .prepared → svc.Later s s' →
      svc.Holds preview s' ∧ preview.state = .prepared :=
    fun s s' h hlater => ⟨h.1.later s s' hlater, h.2⟩
  refine .bind (upholds_within ((steady_consumeIntent keepsBooks_later _ _ _).upholds hstable)) fun consumption => ?_
  refine .bind (upholds_within (upholds_callHook _ _ hstable)) fun _ => ?_
  refine .bind (upholds_modify (T := fun previews => svc.PublishableIn preview previews ∧
    preview.state = .prepared) (fun _ => by rfl) fun s h => ?_) fun _ => ?_
  · exact ⟨Publishable.of_holds h.1.1 h.2, h.1.2⟩
  · intro s₀ s hs hR h
    refine (Upholds.ite (fun hfault => ?_) (fun hfault => ?_) :
      Upholds _ _ _ (svc.Publishable preview) _ _) s₀ s hs hR h.1
    · exact steady_publishDoubtful request preview consumption hfault
    · exact steady_publishAvailable request preview verified consumption h.2 (by simpa using hfault)

theorem steady_publish (request : PublicationRequest) :
    Steady Keyed svc.Later svc.Current (svc.publish request) := by
  unfold publish assertRequestDigest
  refine .bind .ensure fun _ => steady_settle keepsBooks_later ?_
  unfold publishBody
  refine .bind (steady_within (steady_readCompanyBySubject _ _)) fun company => ?_
  refine .bind (steady_within (steady_replay _)) fun replayed => ?_
  cases replayed with
  | some receipt => exact .pure
  | none => exact steady_publishNew request company

/-! ## access -/

theorem steady_resolvePath (request : AccessRequest) (preview : PreviewAuthority)
    (path : JsString) :
    Steady Keyed svc.Later svc.Current (svc.resolvePath request preview path) := by
  unfold resolvePath
  refine .ite (.bind (steady_readBuild _ _ _) fun _ => .pure) ?_
  refine .bind .ensure fun _ => .bind (steady_readBuild _ _ _) fun build => ?_
  unfold fallbackPath
  exact .ite .pure (.ite .pure .throw)

theorem upholds_readContent (request : AccessRequest) :
    Upholds Keyed svc.Later svc.Current (fun _ => True) (svc.readContent request)
      fun read => svc.Holds read.preview := by
  unfold readContent assertRequestSurface
  refine Upholds.bind (Steady.bind .ensure fun _ => .ensure) fun _ => ?_
  refine .bind Steady.gets fun _ => .bind Steady.require fun session => ?_
  refine .bind Steady.gets fun _ => .bind Steady.require fun preview => ?_
  refine .bind (?_ : Steady _ _ _ _) fun path => ?_
  · unfold normalizeAccessPath
    exact .bind .require fun path => steady_resolvePath _ _ _
  refine .bind (steady_readBuild _ _ _) fun manifest => .bind Steady.require fun entry => ?_
  refine .bind (steady_readCompany _ _) fun company => ?_
  refine .bind (holds_readPreview _ _ _) fun current => .pure fun s h => h

/-- What `access` knows once it is allowed to serve the content. -/
structure Servable (svc : PreviewProofService) (read : ContentRead) (s : PreviewProofState) :
    Prop where
  holds : svc.Holds read.preview s
  current : svc.Current ⟨.afterAuthorityRead .access, .content read⟩ .returned s
  authority : ∃ build, s.builds.get read.preview.buildId = some build ∧
    svc.assertContentAuthority s read build = .ok ()

theorem upholds_authorizeContent (read : ContentRead) :
    Upholds Keyed svc.Later svc.Current (svc.Holds read.preview) (svc.authorizeContent read)
      fun _ => svc.Servable read := by
  unfold authorizeContent
  refine .bind ((upholds_readBuild _ _ (.content read)).frame (Holds.later (p := read.preview))
    |>.weaken (fun _ h => ⟨h, trivial⟩) fun _ _ _ h => h) fun build => .bind_gets fun authority => ?_
  refine Upholds.lift.weaken (fun _ h => h) fun _ s _ h => ?_
  obtain ⟨⟨⟨hholds, hbuild, hcurrent⟩, rfl⟩, hok⟩ := h
  exact ⟨hholds, hcurrent, build, hbuild, hok⟩

theorem upholds_quarantine {α : Type} (read : ContentRead) (reason : ProofReason)
    {P : PreviewProofState → Prop} {Q : α → PreviewProofState → Prop}
    (hP : ∀ s, P s → svc.Servable read s ∧ svc.Quarantines s read) :
    Upholds Keyed svc.Later svc.Current P (quarantine read.preview reason) Q := by
  unfold quarantine
  refine .bind (upholds_setPreview fun s h => ?_) fun _ => .throw
  obtain ⟨hservable, hquarantines⟩ := hP s h
  obtain ⟨q, hq, hpq⟩ := hservable.holds
  obtain ⟨hepoch, hpurged⟩ := hservable.current hquarantines q hq
  exact ⟨q, hq, moved_quarantined hpq hepoch hpurged⟩

theorem steady_serveContent (read : ContentRead) :
    Upholds Keyed svc.Later svc.Current (svc.Servable read) (svc.serveContent read)
      fun _ _ => True := by
  unfold serveContent
  refine .bind_gets fun cached => ?_
  cases cached with
  | some cached =>
      refine .bind (upholds_within (?_ : Upholds _ _ _ _ _ fun _ _ => True))
        fun _ => Steady.pure
      unfold serveCached
      refine .ite (fun _ => .pure fun _ _ => trivial) fun hsound => ?_
      refine upholds_quarantine read _ fun s h => ⟨h.1, h.1.authority, ?_⟩
      rw [← h.2]
      exact .inl ⟨cached, rfl, hsound⟩
  | none =>
      refine .bind (upholds_within (?_ : Upholds _ _ _ _ _ fun _ _ => True))
        fun _ => Steady.pure
      unfold serveObject
      refine .bind_gets fun found => .bind_require fun object hfound => ?_
      refine .ite (fun _ => ?_) fun hsound => ?_
      · exact Upholds.weaken (Steady.bind (steady_modify fun _ => rfl) fun _ => .pure)
          (fun _ _ => trivial) fun _ _ _ h => h
      · refine upholds_quarantine read _ fun s h => ⟨h.1.1, h.1.1.authority, ?_⟩
        rw [← h.1.2]
        exact .inr ⟨rfl, object, h.2 ▸ hfound, hsound⟩

theorem steady_access (request : AccessRequest) :
    Steady Keyed svc.Later svc.Current (svc.access request) := by
  unfold access assertRequestDigest
  refine .bind .ensure fun _ => .catching ?_ fun thrown => .bind .require fun _ => .gets
  unfold accessBody
  refine Upholds.bind (upholds_within (upholds_readContent request)) fun read => ?_
  refine .bind (upholds_within (upholds_authorizeContent read)) fun _ => ?_
  exact .bind (steady_serveContent read) fun content => Steady.gets

/-! ## revoke and cleanup -/

theorem upholds_checkRevocation (request : RevocationRequest) (company : CompanyAuthority)
    (preview : PreviewAuthority) {P : PreviewProofState → Prop} :
    Upholds Keyed svc.Later svc.Current P (checkRevocation request company preview) fun _ s =>
      P s ∧ preview.companyId = company.companyId ∧ RevocationBound request preview := by
  unfold checkRevocation assertCompanyScope
  refine .bind_ensure fun _ hscope => ?_
  refine Upholds.ensure.weaken (fun _ h => h) fun _ _ _ h => ⟨h.1, ?_, h.2⟩
  exact hscope preview.companyId (by simp)

theorem upholds_commitRevocation (request : RevocationRequest) (preview : PreviewAuthority)
    (consumption : ToolInvocationConsumption) {P : PreviewProofState → Prop}
    (hP : ∀ s, P s → s.previews.get preview.previewId = some preview ∧ preview.state ≠ .purged) :
    Upholds Keyed svc.Later svc.Current P (svc.commitRevocation request preview consumption)
      fun _ _ => True := by
  unfold commitRevocation
  refine .bind (upholds_setPreview fun s h => ?_) fun _ => ?_
  · obtain ⟨hget, hpurged⟩ := hP s h
    exact ⟨preview, hget, moved_revoked request hpurged⟩
  · refine .weaken (Steady.bind (steady_modify fun _ => rfl) fun _ => ?_) (fun _ _ => trivial)
      fun _ _ _ h => h
    refine .bind (steady_within (steady_callHook _ _)) fun _ => .bind .gets fun _ => ?_
    exact .bind (steady_modify fun _ => rfl) fun _ => .pure

theorem steady_revokeNew (request : RevocationRequest) (company : CompanyAuthority) :
    Steady Keyed svc.Later svc.Current (svc.revokeNew request company) := by
  unfold revokeNew
  refine .bind (steady_within (steady_readPreview _ _ _)) fun before => ?_
  refine .bind (steady_within ((upholds_checkRevocation request company before).weaken
    (fun _ h => h) fun _ _ _ _ => trivial)) fun _ => ?_
  refine .bind (steady_within (steady_callHook _ _)) fun _ => ?_
  refine Upholds.bind (upholds_within (upholds_readPreview request.previewId .revoke
    (.revocation request company))) fun preview => ?_
  refine .bind (upholds_within (upholds_checkRevocation request company preview)) fun _ => ?_
  refine .bind (upholds_within (upholds_consumeIntent _ _ _)) fun consumption => ?_
  intro s₀ s hs hR h
  refine upholds_commitRevocation request preview consumption (fun s' (h' : s' = s) => ?_) s₀ s hs
    hR rfl
  obtain ⟨s₁, stored, ⟨⟨hget, hcurrent⟩, hscope, hbound⟩, rfl, hintent, hfits, hused⟩ := h
  subst h'
  have hid : preview.previewId = request.previewId := hs request.previewId preview hget
  refine ⟨hid ▸ hget, hcurrent preview hget ⟨hscope, hbound, stored, hintent, hfits, hused⟩⟩

theorem steady_revoke (request : RevocationRequest) :
    Steady Keyed svc.Later svc.Current (svc.revoke request) := by
  unfold revoke assertRequestDigest
  refine .bind .ensure fun _ => steady_settle keepsBooks_later ?_
  unfold revokeBody
  refine .bind (steady_within (steady_readCompanyBySubject _ _)) fun company => ?_
  refine .bind (steady_within (steady_replay _)) fun replayed => ?_
  cases replayed with
  | some receipt => exact .pure
  | none => exact steady_revokeNew request company

theorem steady_removePreview (request : CleanupRequest) (preview : PreviewAuthority)
    (consumption : ToolInvocationConsumption) (hstate : preview.state ∈ removableStates)
    {P : PreviewProofState → Prop}
    (hP : ∀ s, P s → s.previews.get preview.previewId = some preview) :
    Upholds Keyed svc.Later svc.Current P (svc.removePreview request preview consumption)
      fun _ _ => True := by
  unfold removePreview
  refine .bind (upholds_setPreview fun s h => ⟨preview, hP s h, moved_pending hstate⟩) fun _ => ?_
  refine .bind_gets fun purged => .bind_gets fun deleted => ?_
  refine .bind (upholds_modify (T := fun previews => previews.get preview.previewId =
    some (pendingPreview preview)) (fun _ => by rfl) fun s h => h.1.1) fun _ => ?_
  refine .bind_gets fun complete => .bind_gets fun remaining => ?_
  have hretire : ∀ s, (retireHost preview complete s).previews = s.previews := by
    intro s
    unfold retireHost
    split <;> rfl
  refine .bind (upholds_modify (T := fun previews => previews.get preview.previewId =
    some (pendingPreview preview)) hretire fun s h => h.1.1) fun _ => ?_
  refine .bind (upholds_setPreview fun s h => ⟨_, h, moved_cleaned preview complete⟩) fun _ => ?_
  refine .weaken (Steady.bind .gets fun _ => ?_) (fun _ _ => trivial) fun _ _ _ h => h
  exact .bind (steady_modify fun _ => rfl) fun _ => .pure

theorem steady_cleanup (request : CleanupRequest) :
    Steady Keyed svc.Later svc.Current (svc.cleanup request) := by
  unfold cleanup assertRequestDigest
  refine .bind .ensure fun _ => steady_settle keepsBooks_later ?_
  unfold cleanupBody
  refine .bind (steady_within (steady_readCompanyBySubject _ _)) fun company => ?_
  refine .bind (steady_within (steady_replay _)) fun replayed => ?_
  cases replayed with
  | some receipt => exact .pure
  | none =>
      unfold cleanupNew
      refine Upholds.bind (upholds_within (upholds_readPreview request.previewId .cleanup .nothing))
        fun preview => ?_
      refine .bind (upholds_within (?_ : Upholds _ _ _ _ _ fun _ s =>
        s.previews.get request.previewId = some preview ∧
          preview.state ∈ removableStates)) fun _ => ?_
      · unfold checkCleanup assertCompanyScope
        refine .bind_ensure fun _ _ => ?_
        exact Upholds.ensure.weaken (fun _ h => h) fun _ _ _ h => ⟨h.1.1, h.2.2.2⟩
      refine .bind (upholds_within (upholds_consumeIntent _ _ _)) fun consumption => ?_
      refine upholds_within fun s₀ s hs hR h => ?_
      obtain ⟨s₁, stored, ⟨hget, hstate⟩, rfl, -⟩ := h
      have hid : preview.previewId = request.previewId := hs request.previewId preview hget
      exact steady_removePreview request preview consumption hstate
        (fun s' (h' : s' = consume stored s₁) => by rw [h', hid]; exact hget) s₀ _ hs hR rfl

theorem steady_perform (request : OperationRequest) :
    Steady Keyed svc.Later svc.Current (svc.perform request) := by
  cases request with
  | publish request => exact steady_publish request
  | issueGrant request => exact .bind (steady_issueGrant keepsBooks_later request) fun _ => .pure
  | exchange request => exact .bind (steady_exchange keepsBooks_later request) fun _ => .pure
  | access request => exact steady_access request
  | revoke request => exact steady_revoke request
  | cleanup request => exact steady_cleanup request
  | reconcile request => exact steady_reconcile keepsBooks_later request

/-! ## Runs -/

theorem environs_previews (svc : PreviewProofService) (e : Environs) (s : PreviewProofState) :
    (svc.environs e s).previews = s.previews := by
  cases e with
  | register intent =>
      change (svc.registerToolInvocationIntent intent s).previews = s.previews
      unfold registerToolInvocationIntent
      split <;> rfl
  | setClock now => rfl
  | setCompany companyId status => rfl

theorem hookedStep_later {m : ServiceMachine} (hm : m.Ready Keyed svc.Later svc.Current)
    {action : HookedAction} (h : svc.StepCurrent m action) :
    (svc.hookedStep m action).Ready Keyed svc.Later svc.Current ∧
      svc.Later m.store (svc.hookedStep m action).store := by
  cases action with
  | call request => exact hm.call (steady_perform request)
  | answer answer => exact hm.answer h
  | environs e =>
      have hlater : Keyed (svc.environs e m.store) ∧
          svc.Later m.store (svc.environs e m.store) :=
        later_of_previews_eq (environs_previews svc e m.store) hm.1
      exact hm.update hlater.1 hlater.2

theorem run_later {m : ServiceMachine} (hm : m.Ready Keyed svc.Later svc.Current)
    {actions : List HookedAction}
    (h : Transition.EachStep svc.hookedStep svc.StepCurrent m actions) :
    (Transition.run svc.hookedStep m actions).Ready Keyed svc.Later svc.Current ∧
      svc.Later m.store (Transition.run svc.hookedStep m actions).store := by
  induction actions generalizing m with
  | nil => exact ⟨hm, refl m.store⟩
  | cons action actions ih =>
      obtain ⟨hready, hlater⟩ := hookedStep_later hm h.1
      obtain ⟨hready', hlater'⟩ := ih hready h.2
      exact ⟨hready', Trans.trans hlater hlater'⟩

/-- What the revocation of previews promises of a store after a preview was `p`. -/
def RevocationKept (s : PreviewProofState) (previewId : JsString) (p : PreviewAuthority) :
    Prop :=
  ∃ q, s.previews.get previewId = some q ∧ p.revocationEpoch ≤ q.revocationEpoch ∧
    (p.state ∈ [PreviewState.revoked, .expired, .quarantined, .purged] →
      q.state ≠ .available) ∧
    (p.state = .purged → q.state = .purged)

def hookedRun (svc : PreviewProofService) (s : PreviewProofState)
    (actions : List HookedAction) : ServiceMachine :=
  Transition.run svc.hookedStep (Machine.idle s) actions

/-- In a run in which nothing older is written back, epochs do not decrease, a preview that
was revoked, expired, quarantined or purged is not available later, and a purged one stays
purged. -/
theorem monotone_after (svc : PreviewProofService) {s : PreviewProofState} (hs : Keyed s)
    {actions₁ actions₂ : List HookedAction}
    (h : Transition.EachStep svc.hookedStep svc.StepCurrent (Machine.idle s)
      (actions₁ ++ actions₂)) {previewId : JsString} {p : PreviewAuthority}
    (hp : (svc.hookedRun s actions₁).store.previews.get previewId = some p) :
    RevocationKept (svc.hookedRun s (actions₁ ++ actions₂)).store previewId p := by
  obtain ⟨h₁, h₂⟩ := (Transition.eachStep_append _ _ _ _ _).mp h
  obtain ⟨hready, -⟩ := run_later (Machine.ready_idle hs) h₁
  obtain ⟨-, hlater⟩ := run_later hready h₂
  rw [← Transition.run_append] at hlater
  obtain ⟨q, hq, hmoved⟩ := hlater previewId p hp
  refine ⟨q, hq, hmoved.epoch, fun hstate hav => ?_, hmoved.purged⟩
  have hwithdrawn : Withdrawn p.state := by
    revert hstate
    cases p.state <;> decide
  have := hmoved.withdrawn hwithdrawn
  rw [hav] at this
  exact absurd this (by decide)

/-! ## A revocation inside a publication -/

def demoService : PreviewProofService := sampleService fun _ => []

def demoState : PreviewProofState := sampleState fun _ => []

theorem keyed_demoState : Keyed demoState :=
  fun previewId p hp => ((initial_sampleState fun _ => []).previews previewId p hp).1

def returning (n : ℕ) : List HookedAction := List.replicate n (.answer .returned)

def demoPrepared : List HookedAction :=
  [.environs (.register (samplePublication fun _ => []).toolInvocation),
    .environs (.register (sampleRevocation fun _ => []).toolInvocation),
    .call (.publish (samplePublication fun _ => []))] ++ returning 6

def demoRevoked : List HookedAction :=
  demoPrepared ++ .call (.revoke (sampleRevocation fun _ => [])) :: returning 8

def demoPreviewAfter (actions : List HookedAction) : Option (PreviewState × ℕ) :=
  ((demoService.hookedRun demoState actions).store.previews.get (js "preview")).map fun p =>
    (p.state, p.revocationEpoch)

theorem demoPreviewAfter_eq_some {actions : List HookedAction} {state : PreviewState} {epoch : ℕ}
    (h : demoPreviewAfter actions = some (state, epoch)) :
    ∃ p, (demoService.hookedRun demoState actions).store.previews.get (js "preview") = some p ∧
      p.state = state ∧ p.revocationEpoch = epoch := by
  obtain ⟨p, hp, heq⟩ := Option.map_eq_some_iff.mp h
  exact ⟨p, hp, (Prod.mk.inj heq).1, (Prod.mk.inj heq).2⟩

def demoPublished : List HookedAction :=
  .environs (.register (grantRequestOf (fun _ => []) (samplePreview fun _ => [])).toolInvocation) ::
    demoPrepared ++ returning 2

def demoIssued : List HookedAction :=
  .call (.issueGrant (grantRequestOf (fun _ => []) (samplePreview fun _ => []))) ::
    returning 4 ++ .call (.revoke (sampleRevocation fun _ => [])) :: returning 12

/-- The preview is revoked in the middle of a call, and stays so. -/
theorem monotone_after_demo : ∃ p : PreviewAuthority, p.state = .available ∧
    demoPreviewAfter (demoPublished ++ demoIssued) = some (.revoked, 2) ∧
    RevocationKept (demoService.hookedRun demoState (demoPublished ++ demoIssued)).store
      (js "preview") p := by
  have hpublished : demoPreviewAfter demoPublished = some (.available, 1) := by decide
  obtain ⟨p, hp, hstate, -⟩ := demoPreviewAfter_eq_some hpublished
  exact ⟨p, hstate, by decide,
    monotone_after demoService keyed_demoState (by decide +kernel) hp⟩

/-- The publication writes back the copy it has read before its hook, over the revocation. -/
theorem monotone_fails : ¬ ∀ (svc : PreviewProofService) (s : PreviewProofState), Keyed s →
    ∀ (actions₁ actions₂ : List HookedAction) (previewId : JsString) (p : PreviewAuthority),
      (svc.hookedRun s actions₁).store.previews.get previewId = some p →
        RevocationKept (svc.hookedRun s (actions₁ ++ actions₂)).store previewId p := by
  intro h
  have hrevoked : demoPreviewAfter demoRevoked = some (.revoked, 2) := by decide
  have hpublished : demoPreviewAfter (demoRevoked ++ returning 2) = some (.available, 1) := by
    decide
  obtain ⟨p, hp, -, hepoch⟩ := demoPreviewAfter_eq_some hrevoked
  obtain ⟨q, hq, -, hepoch'⟩ := demoPreviewAfter_eq_some hpublished
  obtain ⟨q', hq', hle, -⟩ := h demoService demoState keyed_demoState demoRevoked (returning 2)
    (js "preview") p hp
  obtain rfl := Option.some.inj (hq.symm.trans hq')
  omega

end PreviewProofService

end PreviewProof

end Aico
