import Aico.Foundation.RelyGuarantee
import Aico.Foundation.Transition
import Aico.PreviewSpike.PreviewLifecycle

/-!
# Calls inside calls

The machine of the service: a call may be started while others are stopped in their hooks,
and the innermost stopped call goes on when its hook returns or throws. `Later` says how
the previews of a store have moved since an earlier one. Every operation moves them this
way as long as what it writes back at the end is not older than what it finds there
(`Current`).
-/

namespace Aico

namespace PreviewProof

open Coroutine

def Withdrawn (state : PreviewState) : Prop :=
  state ∈ [PreviewState.revoked, .expired, .quarantined, .purged, .unknown, .deletePending]

instance (state : PreviewState) : Decidable (Withdrawn state) :=
  inferInstanceAs (Decidable (_ ∈ _))

/-- Every preview is stored under its own identifier. -/
def Keyed (s : PreviewProofState) : Prop :=
  ∀ previewId preview, s.previews.get previewId = some preview → preview.previewId = previewId

abbrev ServiceMachine : Type :=
  Machine PreviewProofState HookAnswer Stop ProofError ProofReceipt

inductive HookedAction where
  | call (request : OperationRequest)
  | answer (answer : HookAnswer)
  | environs (e : Environs)

namespace PreviewProofService

variable (svc : PreviewProofService)

/-- A preview before and after: the epoch does not decrease, a withdrawn preview stays
withdrawn, and a purged one purged. Withdrawing moves the epoch, unless publications may
end in doubt. -/
structure Moved (p q : PreviewAuthority) : Prop where
  epoch : p.revocationEpoch ≤ q.revocationEpoch
  withdrawn : Withdrawn p.state → Withdrawn q.state
  purged : p.state = .purged → q.state = .purged
  moved : p.revocationEpoch < q.revocationEpoch → Withdrawn q.state
  still : svc.faults.publicationUnknownAfterCopy = false →
    p.revocationEpoch = q.revocationEpoch → Withdrawn q.state → Withdrawn p.state

/-- Every preview of the earlier store has moved to one of the later store. -/
def Later (s s' : PreviewProofState) : Prop :=
  ∀ previewId p, s.previews.get previewId = some p →
    ∃ q, s'.previews.get previewId = some q ∧ svc.Moved p q

/-- Whether the commit of a revocation finds everything as its request has it. -/
def RevocationCommits (s : PreviewProofState) (request : RevocationRequest)
    (company : CompanyAuthority) (preview : PreviewAuthority) : Prop :=
  preview.companyId = company.companyId ∧ RevocationBound request preview ∧
    ∃ stored ∈ s.intents.get request.toolInvocation.id,
      svc.IntentFits s.now stored request.toolInvocation .revoke request.toKeyedHeader ∧
      stored.used = 0

/-- What a call writes when its hook returns is not older than what is stored: a
publication finds the epoch of its copy and no purged preview, a revocation no purged
preview, and an access that quarantines an epoch at most one above that of its copy and no
purged preview. -/
def Current (stop : Stop) (answer : HookAnswer) (s : PreviewProofState) : Prop :=
  match stop.held, answer with
  | .publication preview, .returned =>
      ∀ stored ∈ s.previews.get preview.previewId,
        stored.revocationEpoch ≤ preview.revocationEpoch ∧ stored.state ≠ .purged
  | .revocation request company, .returned =>
      ∀ stored ∈ s.previews.get request.previewId,
        svc.RevocationCommits s request company stored → stored.state ≠ .purged
  | .content read, .returned =>
      svc.Quarantines s read → ∀ stored ∈ s.previews.get read.preview.previewId,
        stored.revocationEpoch ≤ read.preview.revocationEpoch + 1 ∧ stored.state ≠ .purged
  | _, _ => True

instance (s : PreviewProofState) (read : ContentRead) : Decidable (svc.Quarantines s read) :=
  haveI (build : BuildAuthority) :
      Decidable (svc.assertContentAuthority s read build = .ok ()) := inferInstance
  inferInstanceAs (Decidable (_ ∧ (_ ∨ _ ∧ _)))

instance (s : PreviewProofState) (request : RevocationRequest) (company : CompanyAuthority)
    (preview : PreviewAuthority) :
    Decidable (svc.RevocationCommits s request company preview) :=
  inferInstanceAs (Decidable (_ ∧ _ ∧ ∃ stored ∈ s.intents.get request.toolInvocation.id, _ ∧ _))

instance : ∀ (stop : Stop) (answer : HookAnswer) (s : PreviewProofState),
    Decidable (svc.Current stop answer s)
  | ⟨_, .publication preview⟩, .returned, s =>
      inferInstanceAs (Decidable (∀ stored ∈ s.previews.get preview.previewId, _ ∧ _))
  | ⟨_, .revocation request _⟩, .returned, s =>
      inferInstanceAs (Decidable (∀ stored ∈ s.previews.get request.previewId, _ → _))
  | ⟨_, .content read⟩, .returned, s =>
      inferInstanceAs (Decidable (_ → ∀ stored ∈ s.previews.get read.preview.previewId, _ ∧ _))
  | ⟨_, .nothing⟩, .returned, _ => isTrue trivial
  | ⟨_, .nothing⟩, .threw _, _ => isTrue trivial
  | ⟨_, .publication _⟩, .threw _, _ => isTrue trivial
  | ⟨_, .revocation _ _⟩, .threw _, _ => isTrue trivial
  | ⟨_, .content _⟩, .threw _, _ => isTrue trivial

def hookedStep (m : ServiceMachine) : HookedAction → ServiceMachine
  | .call request => m.call (svc.perform request)
  | .answer answer => m.answer answer
  | .environs e => m.update (svc.environs e)

/-- The condition on a step: an answered hook lets a call write back what is current. -/
def StepCurrent (m : ServiceMachine) : HookedAction → Prop
  | .answer answer => ∀ stop ∈ m.point, svc.Current stop answer m.store
  | _ => True

instance (m : ServiceMachine) : ∀ action, Decidable (svc.StepCurrent m action)
  | .answer answer => inferInstanceAs (Decidable (∀ stop ∈ m.point, svc.Current stop answer m.store))
  | .call _ => isTrue trivial
  | .environs _ => isTrue trivial

namespace Moved

variable {svc} {p q r : PreviewAuthority}

theorem refl (p : PreviewAuthority) : svc.Moved p p where
  epoch := le_rfl
  withdrawn h := h
  purged h := h
  moved h := absurd h (lt_irrefl _)
  still _ _ h := h

theorem trans (h : svc.Moved p q) (h' : svc.Moved q r) : svc.Moved p r where
  epoch := h.epoch.trans h'.epoch
  withdrawn hp := h'.withdrawn (h.withdrawn hp)
  purged hp := h'.purged (h.purged hp)
  moved hlt := by
    rcases h.epoch.lt_or_eq with hpq | hpq
    · exact h'.withdrawn (h.moved hpq)
    · exact h'.moved (hpq ▸ hlt)
  still hfault heq hr := by
    have hpq : p.revocationEpoch = q.revocationEpoch :=
      le_antisymm h.epoch (heq ▸ h'.epoch)
    exact h.still hfault hpq (h'.still hfault (hpq ▸ heq) hr)

end Moved

instance : IsPreorder PreviewProofState svc.Later where
  refl _ _ p hp := ⟨p, hp, .refl p⟩
  trans _ _ _ h h' previewId p hp := by
    obtain ⟨q, hq, hpq⟩ := h previewId p hp
    obtain ⟨r, hr, hqr⟩ := h' previewId q hq
    exact ⟨r, hr, hpq.trans hqr⟩

variable {svc} {ε α : Type} {s : PreviewProofState}

section

variable {I : PreviewProofState → Prop} {R : PreviewProofState → PreviewProofState → Prop}
  {C : Stop → HookAnswer → PreviewProofState → Prop}

theorem steady_within {κ : Type} {locals : κ} {p : Call ProofError α}
    (hp : Steady I R C p) :
    Steady I R C (within locals p) :=
  .catching hp fun _ => .throw

theorem upholds_within {κ : Type} {locals : κ} {p : Call ProofError α}
    {P : PreviewProofState → Prop} {Q : α → PreviewProofState → Prop}
    (hp : Upholds I R C P p Q) :
    Upholds I R C P (within locals p) Q :=
  .catching hp fun _ => .throw

theorem steady_replay (header : KeyedHeader) :
    Steady I R C (replay header) := by
  unfold replay
  refine .bind .gets fun stored => ?_
  cases stored with
  | none => exact .pure
  | some stored => exact .bind .ensure fun _ => .pure

variable [IsPreorder PreviewProofState R]

theorem steady_callHook (hook : ProofHook) (held : Held) :
    Steady I R C (callHook hook held) := by
  unfold callHook
  refine .bind .pause fun answer => ?_
  cases answer with
  | returned => exact .pure
  | threw e => exact .throw

theorem steady_authorityRead (operation : ProofOperation) (held : Held) :
    Steady I R C (svc.authorityRead operation held) := by
  unfold authorityRead
  exact .bind (steady_callHook _ _) fun _ => .bind .ensure fun _ => steady_callHook _ _

theorem steady_readCompanyBySubject (subject : JsString) (operation : ProofOperation) :
    Steady I R C (svc.readCompanyBySubject subject operation) := by
  unfold readCompanyBySubject
  exact .bind (steady_authorityRead _ _) fun _ => .bind .gets fun _ => .require

theorem steady_readCompany (companyId : JsString) (operation : ProofOperation) :
    Steady I R C (svc.readCompany companyId operation) := by
  unfold readCompany
  exact .bind (steady_authorityRead _ _) fun _ => .bind .gets fun _ => .require

theorem steady_readBuild (buildId : JsString) (operation : ProofOperation) (held : Held) :
    Steady I R C (svc.readBuild buildId operation held) := by
  unfold readBuild
  exact .bind (steady_authorityRead _ _) fun _ => .bind .gets fun _ => .require

theorem steady_readPreview (previewId : JsString) (operation : ProofOperation) (held : Held) :
    Steady I R C (svc.readPreview previewId operation held) := by
  unfold readPreview
  exact .bind (steady_authorityRead _ _) fun _ => .bind .gets fun _ => .require

/-- Changes outside the previews and the builds keep the invariant and the relation. -/
def KeepsBooks (I : PreviewProofState → Prop)
    (R : PreviewProofState → PreviewProofState → Prop) : Prop :=
  ∀ s s' : PreviewProofState, s'.previews = s.previews → s'.builds = s.builds →
    I s → I s' ∧ R s s'

theorem KeepsBooks.steady {f : PreviewProofState → PreviewProofState}
    (hbooks : KeepsBooks I R) (hpreviews : ∀ s, (f s).previews = s.previews)
    (hbuilds : ∀ s, (f s).builds = s.builds) :
    Steady I R C (modify f : Call ε PUnit) :=
  .modify fun s hs => hbooks s (f s) (hpreviews s) (hbuilds s) hs

theorem steady_settle {ρ : Type} {header : KeyedHeader}
    {refusal : PreviewProofState → Classified → Locals → ρ} {receiptOf : ρ → ProofReceipt}
    {body : Call (ProofError × Locals) ρ} (hbooks : KeepsBooks I R)
    (hbody : Steady I R C body) : Steady I R C (settle header refusal receiptOf body) := by
  unfold settle
  refine .catching hbody fun thrown => ?_
  refine .bind .require fun classified => .bind .gets fun result => .bind ?_ fun _ => .pure
  refine hbooks.steady (fun s => ?_) fun s => ?_ <;>
    unfold storeIfStable <;> split <;> rfl

theorem steady_consumeIntent (hbooks : KeepsBooks I R) (supplied : ToolInvocationIntent)
    (action : ToolAction) (header : KeyedHeader) :
    Steady I R C (svc.consumeIntent supplied action header) := by
  unfold consumeIntent
  refine .bind .gets fun now => .bind .gets fun found => .bind .require fun stored => ?_
  refine .bind .ensure fun _ => .bind .ensure fun _ => .bind ?_ fun _ => .pure
  exact hbooks.steady (fun _ => rfl) fun _ => rfl

end

/-- A change that leaves the previews alone. -/
theorem later_of_previews_eq {s' : PreviewProofState} (h : s'.previews = s.previews)
    (hs : Keyed s) : Keyed s' ∧ svc.Later s s' := by
  refine ⟨fun previewId p hp => hs previewId p (h ▸ hp), fun previewId p hp => ?_⟩
  exact ⟨p, h ▸ hp, .refl p⟩

/-- A preview is written over an earlier copy. -/
theorem later_setPreview {p : PreviewAuthority} (hs : Keyed s)
    (h : ∀ stored, s.previews.get p.previewId = some stored → svc.Moved stored p) :
    Keyed (setPreview p s) ∧ svc.Later s (setPreview p s) := by
  constructor
  · intro previewId q hq
    rw [setPreview, JsMap.get_set] at hq
    split at hq
    · next hid => rw [hid, Option.some.inj hq]
    · exact hs previewId q hq
  · intro previewId q hq
    by_cases hid : previewId = p.previewId
    · refine ⟨p, ?_, h q (hid ▸ hq)⟩
      rw [setPreview, JsMap.get_set, if_pos hid]
    · refine ⟨q, ?_, .refl q⟩
      rw [setPreview, JsMap.get_set_of_ne hid]
      exact hq

theorem keepsBooks_later : KeepsBooks Keyed svc.Later :=
  fun _ _ hpreviews _ hs => later_of_previews_eq hpreviews hs

theorem steady_modify {f : PreviewProofState → PreviewProofState}
    (h : ∀ s, (f s).previews = s.previews) :
    Steady Keyed svc.Later svc.Current (modify f : Call ε PUnit) :=
  .modify fun s hs => later_of_previews_eq (h s) hs

theorem upholds_callHook {P : PreviewProofState → Prop} (hook : ProofHook) (held : Held)
    (hP : ∀ s s', P s → svc.Later s s' → P s') :
    Upholds Keyed svc.Later svc.Current P (callHook hook held) fun _ s =>
      P s ∧ svc.Current ⟨hook, held⟩ .returned s := by
  unfold callHook
  refine .bind .pause fun answer => ?_
  cases answer with
  | threw e => exact .throw
  | returned =>
      refine .pure ?_
      rintro s ⟨hcurrent, s₀, hs₀, hlater⟩
      exact ⟨hP s₀ s hs₀ hlater, hcurrent⟩

theorem upholds_authorityRead (operation : ProofOperation) (held : Held) :
    Upholds Keyed svc.Later svc.Current (fun _ => True) (svc.authorityRead operation held)
      fun _ => svc.Current ⟨.afterAuthorityRead operation, held⟩ .returned := by
  unfold authorityRead
  refine Upholds.bind (steady_callHook _ _) fun _ => .bind Steady.ensure fun _ => ?_
  exact (upholds_callHook _ held fun _ _ _ _ => trivial).weaken (fun _ h => h) fun _ _ _ h => h.2

/-- A preview that is read is stored, and the store is current when it is read. -/
theorem upholds_readPreview (previewId : JsString) (operation : ProofOperation) (held : Held) :
    Upholds Keyed svc.Later svc.Current (fun _ => True)
      (svc.readPreview previewId operation held) fun preview s =>
        s.previews.get previewId = some preview ∧
          svc.Current ⟨.afterAuthorityRead operation, held⟩ .returned s := by
  unfold readPreview
  refine .bind (upholds_authorityRead operation held) fun _ => .bind_gets fun found => ?_
  exact Upholds.require.weaken (fun _ h => h) fun p s _ h => ⟨h.1.2 ▸ h.2, h.1.1⟩

theorem upholds_readBuild (buildId : JsString) (operation : ProofOperation) (held : Held) :
    Upholds Keyed svc.Later svc.Current (fun _ => True)
      (svc.readBuild buildId operation held) fun build s =>
        s.builds.get buildId = some build ∧
          svc.Current ⟨.afterAuthorityRead operation, held⟩ .returned s := by
  unfold readBuild
  refine .bind (upholds_authorityRead operation held) fun _ => .bind_gets fun found => ?_
  exact Upholds.require.weaken (fun _ h => h) fun p s _ h => ⟨h.1.2 ▸ h.2, h.1.1⟩

/-- No hook runs while an intent is consumed. -/
theorem upholds_consumeIntent (supplied : ToolInvocationIntent) (action : ToolAction)
    (header : KeyedHeader) {P : PreviewProofState → Prop} :
    Upholds Keyed svc.Later svc.Current P (svc.consumeIntent supplied action header) fun _ s' =>
      ∃ s stored, P s ∧ s' = consume stored s ∧ s.intents.get supplied.id = some stored ∧
        svc.IntentFits s.now stored supplied action header ∧ stored.used = 0 := by
  unfold consumeIntent
  refine .bind_gets fun now => .bind_gets fun found => .bind_require fun stored hfound => ?_
  refine .bind_ensure fun _ hfits => .bind_ensure fun _ hused => ?_
  refine .bind (.modify fun s hs hP => ?_) fun _ => .pure fun s hP => hP
  obtain ⟨hkeyed, hlater⟩ := later_of_previews_eq rfl hs
  obtain ⟨⟨hP, rfl⟩, rfl⟩ := hP
  exact ⟨hkeyed, hlater, s, stored, hP, rfl, hfound, hfits, hused⟩

/-! ## Operations that write no preview -/

section

variable {I : PreviewProofState → Prop} {R : PreviewProofState → PreviewProofState → Prop}
  [IsPreorder PreviewProofState R] {C : Stop → HookAnswer → PreviewProofState → Prop}

theorem steady_issueGrant (hbooks : KeepsBooks I R) (request : GrantIssueRequest) :
    Steady I R C (svc.issueGrant request) := by
  unfold issueGrant assertRequestDigest
  refine .bind .ensure fun _ => steady_settle hbooks ?_
  unfold issueGrantBody
  refine .bind (steady_within (steady_readCompanyBySubject _ _)) fun company => ?_
  refine .bind (steady_within (steady_replay _)) fun replayed => ?_
  cases replayed with
  | some receipt => exact .bind .gets fun _ => .require
  | none =>
      unfold issueNewGrant
      refine .bind (steady_within (steady_readPreview _ _ _)) fun preview => ?_
      refine .bind (steady_within (steady_readBuild _ _ _)) fun build => ?_
      refine .bind (steady_within ?_) fun grant => ?_
      · unfold checkGrantIssue assertCompanyScope assertPreviewAvailable
        refine .bind .ensure fun _ => .bind (.bind .gets fun _ => .ensure) fun _ => ?_
        exact .bind .ensure fun _ => .bind .gets fun _ => .bind .ensure fun _ => .gets
      · refine .bind (steady_within (steady_consumeIntent hbooks _ _ _)) fun consumption => ?_
        refine .bind (steady_within (steady_callHook _ _)) fun _ => ?_
        refine .bind (hbooks.steady (fun _ => rfl) fun _ => rfl) fun _ => ?_
        refine .bind (steady_within (steady_callHook _ _)) fun _ => .bind .gets fun _ => ?_
        exact .bind (hbooks.steady (fun _ => rfl) fun _ => rfl) fun _ => .pure

theorem steady_exchangeNew (hbooks : KeepsBooks I R) (request : ExchangeRequest) (read : ExchangeRead) :
    Steady I R C (svc.exchangeNew request read) := by
  unfold exchangeNew assertCompanyScope assertExchangeBindings assertPreviewAvailable
  refine .bind .ensure fun _ => .bind ?_ fun _ => ?_
  · refine .bind .ensure fun _ => .bind .ensure fun _ => ?_
    exact .bind (.bind .gets fun _ => .ensure) fun _ => .bind .gets fun _ => .ensure
  · refine .bind (steady_callHook _ _) fun _ => .bind .gets fun _ => .bind .require fun grant => ?_
    refine .bind .ensure fun _ => .bind .gets fun now => ?_
    refine .bind (hbooks.steady (fun _ => rfl) fun _ => rfl) fun _ => .bind (steady_callHook _ _) fun _ => ?_
    refine .ite ?_ ?_
    · unfold exchangeDoubtful
      exact .bind .gets fun _ => .bind (hbooks.steady (fun _ => rfl) fun _ => rfl) fun _ => .pure
    · unfold exchangeSession
      refine .bind (hbooks.steady (fun _ => rfl) fun _ => rfl) fun _ => .bind .gets fun _ => ?_
      exact .bind (hbooks.steady (fun _ => rfl) fun _ => rfl) fun _ => .pure

theorem steady_exchange (hbooks : KeepsBooks I R) (request : ExchangeRequest) :
    Steady I R C (svc.exchange request) := by
  unfold exchange assertRequestDigest
  refine .bind .ensure fun _ => steady_settle hbooks (steady_within ?_)
  unfold exchangeBody
  refine .bind ?_ fun read => .bind (steady_replay _) fun replayed => ?_
  · unfold readExchange
    refine .bind .ensure fun _ => .bind .require fun claims => ?_
    refine .bind (steady_authorityRead _ _) fun _ => .bind .gets fun _ => ?_
    refine .bind .require fun grant => .bind (steady_readPreview _ _ _) fun preview => ?_
    refine .bind (steady_readBuild _ _ _) fun build => ?_
    exact .bind (steady_readCompany _ _) fun company => .pure
  · cases replayed with
    | some receipt => exact .bind .gets fun _ => .require
    | none => exact steady_exchangeNew hbooks request read

theorem steady_reconcile (hbooks : KeepsBooks I R) (request : ReconciliationRequest) :
    Steady I R C (svc.reconcile request) := by
  unfold reconcile assertRequestDigest
  refine .bind .ensure fun _ => steady_settle hbooks (steady_within ?_)
  unfold reconcileBody
  refine .bind (steady_replay _) fun replayed => ?_
  cases replayed with
  | some receipt => exact .pure
  | none =>
      unfold reconcileNew
      refine .bind .gets fun _ => .bind .require fun original => .bind .ensure fun _ => ?_
      refine .bind (steady_authorityRead _ _) fun _ => .bind .gets fun confirmed => ?_
      refine .bind (steady_consumeIntent hbooks _ _ _) fun consumption => ?_
      unfold reconciled
      exact .bind .gets fun _ => .bind (hbooks.steady (fun _ => rfl) fun _ => rfl) fun _ => .pure

end

end PreviewProofService

end PreviewProof

end Aico
