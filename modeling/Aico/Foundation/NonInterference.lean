import Aico.Foundation.Program
import Aico.Foundation.Transition

/-!
# Programs that cannot tell two stores apart

`Agrees R p` says that `p`, run from two stores that `R` relates, gives one result and leaves
stores that `R` relates again. With `R` the agreement on what somebody may see, the rest of
the store does not interfere with what `p` shows him. It holds of a program when it holds of
its statements, and of a run when it holds of its steps.
-/

universe u

namespace Prog

variable {σ ε ε' α β : Type u} {R : σ → σ → Prop}

/-- From related stores the program gives the same result and leaves related stores. -/
def Agrees (R : σ → σ → Prop) (p : Prog σ ε α) : Prop :=
  ∀ s t, R s t → (p s).1 = (p t).1 ∧ R (p s).2 (p t).2

namespace Agrees

theorem pure (a : α) : Agrees R (Pure.pure a : Prog σ ε α) := fun _ _ h => ⟨rfl, h⟩

theorem throw (e : ε) : Agrees R (Prog.throw e : Prog σ ε α) := fun _ _ h => ⟨rfl, h⟩

theorem gets {f : σ → α} (hf : ∀ s t, R s t → f s = f t) :
    Agrees R (Prog.gets f : Prog σ ε α) :=
  fun s t h => ⟨congrArg Except.ok (hf s t h), h⟩

theorem modify {f : σ → σ} (hf : ∀ s t, R s t → R (f s) (f t)) :
    Agrees R (Prog.modify f : Prog σ ε PUnit) :=
  fun s t h => ⟨rfl, hf s t h⟩

theorem lift (r : Except ε α) : Agrees R (Prog.lift r : Prog σ ε α) := fun _ _ h => ⟨rfl, h⟩

theorem ite {c : Prop} [Decidable c] {p q : Prog σ ε α} (hp : Agrees R p) (hq : Agrees R q) :
    Agrees R (if c then p else q) := by
  split
  · exact hp
  · exact hq

theorem ensure (c : Prop) [Decidable c] (e : ε) :
    Agrees R (Prog.ensure c e : Prog σ ε PUnit) := by
  unfold Prog.ensure
  exact ite (pure _) (throw e)

theorem require (o : Option α) (e : ε) : Agrees R (Prog.require o e : Prog σ ε α) := by
  cases o with
  | none => exact throw e
  | some a => exact pure a

theorem runs {p : Prog σ ε α} (hp : Agrees R p) {s t : σ} (h : R s t) :
    ∃ r s' t', p s = (r, s') ∧ p t = (r, t') ∧ R s' t' := by
  obtain ⟨hresult, hstores⟩ := hp s t h
  exact ⟨(p s).1, (p s).2, (p t).2, rfl, Prod.ext hresult.symm rfl, hstores⟩

theorem bind {p : Prog σ ε α} {f : α → Prog σ ε β} (hp : Agrees R p)
    (hf : ∀ a, Agrees R (f a)) : Agrees R (p >>= f) := by
  intro s t h
  obtain ⟨r, s', t', hs, ht, hstores⟩ := hp.runs h
  rw [bind_apply, bind_apply, hs, ht]
  cases r with
  | error e => exact ⟨rfl, hstores⟩
  | ok a => exact hf a s' t' hstores

/-- The same where the rest may rely on what the first program returns. -/
theorem bind_of {p : Prog σ ε α} {f : α → Prog σ ε β} {Q : α → Prop} (hp : Agrees R p)
    (hQ : ∀ s t a s', R s t → p s = (.ok a, s') → Q a) (hf : ∀ a, Q a → Agrees R (f a)) :
    Agrees R (p >>= f) := by
  intro s t h
  obtain ⟨r, s', t', hs, ht, hstores⟩ := hp.runs h
  rw [bind_apply, bind_apply, hs, ht]
  cases r with
  | error e => exact ⟨rfl, hstores⟩
  | ok a => exact hf a (hQ s t a s' h hs) s' t' hstores

theorem require_bind {o : Option α} {a : α} {e : ε} {f : α → Prog σ ε β} (ho : o = some a)
    (hf : Agrees R (f a)) : Agrees R (Prog.require o e >>= f) := by
  rw [ho]
  exact hf

theorem catching {p : Prog σ ε α} {handler : ε → Prog σ ε' α} (hp : Agrees R p)
    (hhandler : ∀ e, Agrees R (handler e)) : Agrees R (Prog.catching p handler) := by
  intro s t h
  obtain ⟨r, s', t', hs, ht, hstores⟩ := hp.runs h
  unfold Prog.catching
  rw [hs, ht]
  cases r with
  | error e => exact hhandler e s' t' hstores
  | ok a => exact ⟨rfl, hstores⟩

theorem catchError {p : Prog σ ε α} {handler : ε → Prog σ ε α} (hp : Agrees R p)
    (hhandler : ∀ e, Agrees R (handler e)) : Agrees R (Prog.catchError p handler) :=
  catching hp hhandler

theorem transaction {restore : σ → σ → σ} {p : Prog σ ε α} (hp : Agrees R p)
    (hrestore : ∀ s t s' t', R s t → R s' t' → R (restore s s') (restore t t')) :
    Agrees R (Prog.transaction restore p) := by
  intro s t h
  obtain ⟨r, s', t', hs, ht, hstores⟩ := hp.runs h
  unfold Prog.transaction
  rw [hs, ht]
  cases r with
  | error e => exact ⟨rfl, hrestore s t s' t' h hstores⟩
  | ok a => exact ⟨rfl, hstores⟩

end Agrees

end Prog

namespace Transition

variable {S S' A : Type} {step : S → A → S} {step' : S' → A → S'}

/-- Two systems whose steps keep a relation, where the first one meets the condition, run
alike. -/
theorem run_simulates {R : S → S' → Prop} {C : S → A → Prop}
    (hstep : ∀ s s' a, R s s' → C s a → R (step s a) (step' s' a)) {s : S} {s' : S'}
    (h : R s s') {acts : List A} (hacts : EachStep step C s acts) :
    R (run step s acts) (run step' s' acts) := by
  induction acts generalizing s s' with
  | nil => exact h
  | cons a acts ih => exact ih (hstep s s' a h hacts.1) hacts.2

/-- Runs of the same steps from related states reach related states. -/
theorem run_agrees {R : S → S → Prop} {C : A → Prop}
    (hstep : ∀ s t a, C a → R s t → R (step s a) (step t a)) {s t : S}
    (h : R s t) {acts : List A} (hacts : ∀ a ∈ acts, C a) :
    R (run step s acts) (run step t acts) :=
  run_simulates (fun s t a h hC => hstep s t a hC h) h
    (eachStep_of_forall (fun a ha _ => hacts a ha) s)

end Transition
