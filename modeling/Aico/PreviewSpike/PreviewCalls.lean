import Aico.Foundation.Atomic
import Aico.Foundation.Transition
import Aico.PreviewSpike.PreviewFixture

/-!
# Calls that run to completion

`completes` is a call whose hooks all return at once, so nothing happens in between. It is a
program over the store, and the lemmas here say what its statements and the reads of the service
come to.
-/

namespace Aico

namespace PreviewProof

open Coroutine

def completes {ε α : Type} (p : Call ε α) : Prog PreviewProofState ε α :=
  run .returned p

section Statements

variable {ε ε' α β : Type}

@[simp] theorem completes_pure (a : α) : completes (pure a : Call ε α) = pure a := rfl

@[simp] theorem completes_bind (p : Call ε α) (f : α → Call ε β) :
    completes (p >>= f) = completes p >>= fun a => completes (f a) :=
  run_bind _ p f

@[simp] theorem completes_throw (e : ε) : completes (throw e : Call ε α) = Prog.throw e := rfl

@[simp] theorem completes_gets (f : PreviewProofState → α) :
    completes (gets f : Call ε α) = Prog.gets f := rfl

@[simp] theorem completes_modify (f : PreviewProofState → PreviewProofState) :
    completes (modify f : Call ε PUnit) = Prog.modify f := rfl

@[simp] theorem completes_ensure (c : Prop) [Decidable c] (e : ε) :
    completes (ensure c e : Call ε PUnit) = Prog.ensure c e :=
  run_ensure _ c e

@[simp] theorem completes_require (o : Option α) (e : ε) :
    completes (require o e : Call ε α) = Prog.require o e :=
  run_require _ o e

@[simp] theorem completes_lift (r : Except ε α) :
    completes (lift r : Call ε α) = Prog.lift r := rfl

@[simp] theorem completes_catching (p : Call ε α) (handler : ε → Call ε' α) :
    completes (catching p handler) =
      Prog.catching (completes p) fun e => completes (handler e) :=
  run_catching _ p handler

end Statements

section Helpers

variable {α κ : Type} {s s' : PreviewProofState}

@[simp] theorem completes_callHook (hook : ProofHook) (held : Held) :
    completes (callHook hook held) = pure ⟨⟩ := by
  unfold callHook
  rw [completes_bind]
  rfl

theorem completes_within {locals : κ} (p : Call ProofError α) :
    completes (within locals p) =
      Prog.catching (completes p) fun e => Prog.throw (e, locals) := by
  unfold within
  rw [completes_catching]
  rfl

@[simp] theorem completes_within_eq_ok {locals : κ} {p : Call ProofError α} {a : α} :
    completes (within locals p) s = (.ok a, s') ↔ completes p s = (.ok a, s') := by
  rw [completes_within, Prog.catching_throw_eq_ok]

theorem completes_replay_eq_ok {header : KeyedHeader} {r : Option ProofReceipt} :
    completes (replay header) s = (.ok r, s') ↔ s' = s ∧
      ((s.operationReceipts.get header.logicalIdempotencyKey = none ∧ r = none) ∨
        ∃ stored, s.operationReceipts.get header.logicalIdempotencyKey = some stored ∧
          stored.requestDigest = header.requestDigest ∧
          r = some { stored.receipt with replayed := true }) := by
  unfold replay
  rw [completes_bind, completes_gets, Prog.bind_eq_ok]
  constructor
  · rintro ⟨found, s₁, hfound, hrun⟩
    obtain ⟨rfl, rfl⟩ := Prog.gets_eq_ok.mp hfound
    cases hget : s₁.operationReceipts.get header.logicalIdempotencyKey with
    | none =>
        rw [hget] at hrun
        obtain ⟨rfl, rfl⟩ := Prog.pure_eq_ok.mp hrun
        exact ⟨rfl, .inl ⟨rfl, rfl⟩⟩
    | some stored =>
        rw [hget] at hrun
        change completes (ensure _ _ >>= fun _ => pure _) s₁ = _ at hrun
        rw [completes_bind, completes_ensure, Prog.bind_eq_ok] at hrun
        obtain ⟨u, s₂, hcheck, hpure⟩ := hrun
        obtain ⟨hdigest, rfl⟩ := Prog.ensure_eq_ok.mp hcheck
        obtain ⟨rfl, rfl⟩ := Prog.pure_eq_ok.mp hpure
        exact ⟨rfl, .inr ⟨stored, rfl, hdigest, rfl⟩⟩
  · rintro ⟨rfl, ⟨hget, rfl⟩ | ⟨stored, hget, hdigest, rfl⟩⟩
    · refine ⟨none, s', Prog.gets_eq_ok.mpr ⟨hget.symm, rfl⟩, ?_⟩
      exact Prog.pure_eq_ok.mpr ⟨rfl, rfl⟩
    · refine ⟨some stored, s', Prog.gets_eq_ok.mpr ⟨hget.symm, rfl⟩, ?_⟩
      change completes (ensure _ _ >>= fun _ => pure _) s' = _
      rw [completes_bind, completes_ensure, Prog.bind_eq_ok]
      exact ⟨⟨⟩, s', Prog.ensure_eq_ok.mpr ⟨hdigest, rfl⟩, Prog.pure_eq_ok.mpr ⟨rfl, rfl⟩⟩

end Helpers

namespace PreviewProofService

variable {svc : PreviewProofService} {s s' : PreviewProofState}

theorem completes_authorityRead (operation : ProofOperation) (held : Held) :
    completes (svc.authorityRead operation held) =
      Prog.ensure (svc.faults.authorityUnavailable = false)
        (.denied .authorityUnavailable false) := by
  unfold authorityRead
  simp only [completes_bind, completes_callHook, Prog.pure_bind, completes_ensure]
  exact Prog.bind_pure _

theorem completes_read_eq_ok {α : Type} {operation : ProofOperation} {held : Held}
    {f : PreviewProofState → Option α} {e : ProofError} {a : α} :
    completes (do
      svc.authorityRead operation held
      let found ← gets f
      require found e) s = (.ok a, s') ↔
      svc.faults.authorityUnavailable = false ∧ f s = some a ∧ s' = s := by
  simp only [completes_bind, completes_authorityRead, completes_gets, completes_require, Prog.bind_eq_ok,
    Prog.ensure_eq_ok, Prog.gets_eq_ok, Prog.require_eq_ok]
  constructor
  · rintro ⟨_, _, ⟨havailable, rfl⟩, _, _, ⟨rfl, rfl⟩, hfound, rfl⟩
    exact ⟨havailable, hfound, rfl⟩
  · rintro ⟨havailable, hfound, rfl⟩
    exact ⟨⟨⟩, s', ⟨havailable, rfl⟩, _, s', ⟨rfl, rfl⟩, hfound, rfl⟩

theorem completes_readCompanyBySubject_eq_ok {subject : JsString} {operation : ProofOperation}
    {company : CompanyAuthority} :
    completes (svc.readCompanyBySubject subject operation) s = (.ok company, s') ↔
      svc.faults.authorityUnavailable = false ∧ companyOf s subject = some company ∧ s' = s :=
  completes_read_eq_ok

theorem completes_readCompany_eq_ok {companyId : JsString} {operation : ProofOperation}
    {company : CompanyAuthority} :
    completes (svc.readCompany companyId operation) s = (.ok company, s') ↔
      svc.faults.authorityUnavailable = false ∧ activeCompany s companyId = some company ∧
        s' = s :=
  completes_read_eq_ok

theorem completes_readBuild_eq_ok {buildId : JsString} {operation : ProofOperation}
    {held : Held} {build : BuildAuthority} :
    completes (svc.readBuild buildId operation held) s = (.ok build, s') ↔
      svc.faults.authorityUnavailable = false ∧ s.builds.get buildId = some build ∧ s' = s :=
  completes_read_eq_ok

theorem completes_readPreview_eq_ok {previewId : JsString} {operation : ProofOperation}
    {held : Held} {preview : PreviewAuthority} :
    completes (svc.readPreview previewId operation held) s = (.ok preview, s') ↔
      svc.faults.authorityUnavailable = false ∧ s.previews.get previewId = some preview ∧
        s' = s :=
  completes_read_eq_ok

structure Consumable (svc : PreviewProofService) (s : PreviewProofState)
    (supplied : ToolInvocationIntent) (action : ToolAction) (header : KeyedHeader)
    (stored : ToolInvocationIntent) : Prop where
  found : s.intents.get supplied.id = some stored
  fits : svc.IntentFits s.now stored supplied action header
  unused : stored.used = 0

theorem completes_consumeIntent_eq_ok {supplied : ToolInvocationIntent} {action : ToolAction}
    {header : KeyedHeader} {consumption : ToolInvocationConsumption} :
    completes (svc.consumeIntent supplied action header) s = (.ok consumption, s') ↔
      ∃ stored, svc.Consumable s supplied action header stored ∧
        consumption = svc.consumption s.now stored ∧ s' = consume stored s := by
  unfold consumeIntent
  simp only [completes_bind, completes_gets, completes_require, completes_ensure, completes_modify, completes_pure, Prog.bind_eq_ok,
    Prog.gets_eq_ok, Prog.ensure_eq_ok, Prog.require_eq_ok, Prog.modify_eq_ok, Prog.pure_eq_ok]
  constructor
  · rintro ⟨_, _, ⟨rfl, rfl⟩, _, _, ⟨rfl, rfl⟩, stored, _, ⟨hfound, rfl⟩, _, _, ⟨hfits, rfl⟩,
      _, _, ⟨hused, rfl⟩, _, _, rfl, rfl, rfl⟩
    exact ⟨stored, ⟨hfound, hfits, hused⟩, rfl, rfl⟩
  · rintro ⟨stored, ⟨hfound, hfits, hused⟩, rfl, rfl⟩
    exact ⟨_, s, ⟨rfl, rfl⟩, _, s, ⟨rfl, rfl⟩, stored, s, ⟨hfound, rfl⟩, ⟨⟩, s, ⟨hfits, rfl⟩,
      ⟨⟩, s, ⟨hused, rfl⟩, ⟨⟩, _, rfl, rfl, rfl⟩

/-! ## Refusals -/

def Refusing (thrown : ProofError × Locals) : Prop :=
  (classify thrown.1).isSome = true ∧ thrown.2.consumption = none

def Denies (e : ProofError) : Prop := (classify e).isSome = true

theorem denies_denied (reason : ProofReason) (read : Bool) : Denies (.denied reason read) := rfl

theorem denies_conflict (reason : ProofReason) : Denies (.conflict reason) := rfl

theorem atomic_within {α : Type} {p : Call ProofError α} (locals : Locals)
    (hlocals : locals.consumption = none) (hp : Prog.Atomic Denies (completes p)) :
    Prog.Atomic Refusing (completes (within locals p)) := by
  rw [completes_within]
  exact hp.mapError fun e he => ⟨he, hlocals⟩

theorem reading_within {α κ : Type} {p : Call ProofError α} (locals : κ)
    (hp : Prog.Reading (completes p)) : Prog.Reading (completes (within locals p)) := by
  rw [completes_within]
  exact hp.catching fun _ => .throw _

/-- The program reads, and refuses with an error of the service. -/
structure Checks {α : Type} (p : Call ProofError α) : Prop where
  reading : Prog.Reading (completes p)
  atomic : Prog.Atomic Denies (completes p)

namespace Checks

variable {α β : Type}

theorem pure (a : α) : Checks (Pure.pure a : Call ProofError α) := ⟨.pure a, .pure a⟩

theorem gets (f : PreviewProofState → α) : Checks (Coroutine.gets f : Call ProofError α) :=
  ⟨.gets f, .gets f⟩

theorem ensure (c : Prop) [Decidable c] {e : ProofError} (he : Denies e) :
    Checks (Coroutine.ensure c e : Call ProofError PUnit) := by
  constructor <;> rw [completes_ensure]
  · exact .ensure c e
  · exact .ensure he

theorem require (o : Option α) {e : ProofError} (he : Denies e) :
    Checks (Coroutine.require o e : Call ProofError α) := by
  constructor <;> rw [completes_require]
  · exact .require o e
  · exact .require he

theorem throw {e : ProofError} (he : Denies e) :
    Checks (Coroutine.throw e : Call ProofError α) := ⟨.throw e, .throw he⟩

theorem bind {p : Call ProofError α} {f : α → Call ProofError β} (hp : Checks p)
    (hf : ∀ a, Checks (f a)) : Checks (p >>= f) := by
  constructor <;> rw [completes_bind]
  · exact hp.reading.bind fun a => (hf a).reading
  · exact .bind hp.reading hp.atomic fun a => (hf a).atomic

/-- Checks before a part that refuses as they do. -/
theorem atomic_bind {p : Call ProofError α} {f : α → Call ProofError β} (hp : Checks p)
    (hf : ∀ a, Prog.Atomic Denies (completes (f a))) :
    Prog.Atomic Denies (completes (p >>= f)) := by
  rw [completes_bind]
  exact .bind hp.reading hp.atomic hf

theorem callHook (hook : ProofHook) (held : Held) : Checks (callHook hook held) := by
  constructor <;> rw [completes_callHook]
  · exact .pure _
  · exact .pure _

theorem ite {c : Prop} [Decidable c] {p q : Call ProofError α} (hp : Checks p) (hq : Checks q) :
    Checks (if c then p else q) := by
  split
  · exact hp
  · exact hq

/-- A value read off the store, or an error. -/
theorem gets_lift {f : PreviewProofState → Except ProofError α}
    (hf : ∀ s e, f s = .error e → Denies e) :
    Checks (Coroutine.gets f >>= Coroutine.lift : Call ProofError α) := by
  constructor <;> rw [completes_bind]
  · exact .bind (.gets f) fun _ => Prog.Reading.lift _
  · intro s e s' h
    obtain ⟨herror, rfl⟩ := Prod.mk.inj h
    exact ⟨rfl, hf s e herror⟩

theorem authorityRead (svc : PreviewProofService) (operation : ProofOperation) (held : Held) :
    Checks (svc.authorityRead operation held) := by
  constructor <;> rw [completes_authorityRead]
  · exact .ensure _ _
  · exact .ensure rfl

theorem readCompanyBySubject (subject : JsString) (operation : ProofOperation) :
    Checks (svc.readCompanyBySubject subject operation) := by
  unfold PreviewProofService.readCompanyBySubject
  exact .bind (authorityRead svc _ _) fun _ => .bind (.gets _) fun _ => .require _ rfl

theorem readCompany (companyId : JsString) (operation : ProofOperation) :
    Checks (svc.readCompany companyId operation) := by
  unfold PreviewProofService.readCompany
  exact .bind (authorityRead svc _ _) fun _ => .bind (.gets _) fun _ => .require _ rfl

theorem readBuild (buildId : JsString) (operation : ProofOperation) (held : Held) :
    Checks (svc.readBuild buildId operation held) := by
  unfold PreviewProofService.readBuild
  exact .bind (authorityRead svc _ _) fun _ => .bind (.gets _) fun _ => .require _ rfl

theorem readPreview (previewId : JsString) (operation : ProofOperation) (held : Held) :
    Checks (svc.readPreview previewId operation held) := by
  unfold PreviewProofService.readPreview
  exact .bind (authorityRead svc _ _) fun _ => .bind (.gets _) fun _ => .require _ rfl

theorem assertCompanyScope (company : CompanyAuthority) (companyIds : List JsString) :
    Checks (assertCompanyScope company companyIds) :=
  .ensure _ rfl

theorem replay (header : KeyedHeader) : Checks (replay header) := by
  unfold PreviewProof.replay
  refine .bind (.gets _) fun found => ?_
  cases found with
  | none => exact .pure _
  | some stored => exact .bind (.ensure _ rfl) fun _ => .pure _

end Checks

theorem atomic_consumeIntent (supplied : ToolInvocationIntent) (action : ToolAction)
    (header : KeyedHeader) :
    Prog.Atomic Denies (completes (svc.consumeIntent supplied action header)) := by
  unfold consumeIntent
  simp only [completes_bind, completes_gets, completes_require, completes_ensure, completes_modify, completes_pure]
  refine .bind (.gets _) (.gets _) fun now => .bind (.gets _) (.gets _) fun found => ?_
  refine .bind (.require _ _) (.require rfl) fun stored => ?_
  refine .bind (.ensure _ _) (.ensure rfl) fun _ => .bind (.ensure _ _) (.ensure rfl) fun _ => ?_
  exact .of_total (.bind (.modify _) fun _ => .pure _)

end PreviewProofService

end PreviewProof

end Aico
