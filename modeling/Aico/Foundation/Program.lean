import Mathlib.Logic.Basic
import Mathlib.Order.Defs.Unbundled

/-!
# Programs over a store

`Prog σ ε α` is a program over the store `σ`: it returns a value or throws an
error, and in both cases it leaves a store behind, so what a program did before
it threw is not lost. `transaction` is the exception: an error rolls back the
part of the store that `restore` names and is thrown on.

The inversion lemmas `bind_eq_ok`, `ensure_eq_ok` and so on read a successful
run backwards, statement by statement; they are the only place where the
definition of the monad is unfolded. `Respects R p` says that `p` leaves a store
related to the one it found, whether it returns or throws; it holds of a program
when it holds of its statements.
-/

universe u

/-- A program over the store `σ` with errors in `ε`. -/
def Prog (σ ε α : Type u) : Type u := σ → Except ε α × σ

namespace Prog

variable {σ ε α β : Type u}

protected def pure (a : α) : Prog σ ε α := fun s => (.ok a, s)

protected def bind (p : Prog σ ε α) (f : α → Prog σ ε β) : Prog σ ε β :=
  fun s =>
    match p s with
    | (.ok a, s') => f a s'
    | (.error e, s') => (.error e, s')

instance : Monad (Prog σ ε) where
  pure := Prog.pure
  bind := Prog.bind

def throw (e : ε) : Prog σ ε α := fun s => (.error e, s)

/-- Read a value off the store. -/
def gets (f : σ → α) : Prog σ ε α := fun s => (.ok (f s), s)

/-- Change the store. -/
def modify (f : σ → σ) : Prog σ ε PUnit := fun s => (.ok ⟨⟩, f s)

/-- Throw the error unless the condition holds. -/
def ensure (c : Prop) [Decidable c] (e : ε) : Prog σ ε PUnit :=
  if c then pure ⟨⟩ else throw e

/-- The value of the option, or the error when there is none. -/
def require (o : Option α) (e : ε) : Prog σ ε α :=
  match o with
  | some a => pure a
  | none => throw e

/-- Return the value, or throw the error. -/
def lift (r : Except ε α) : Prog σ ε α := fun s => (r, s)

/-- Run the handler on an error. The store the failed program left behind is
the one the handler starts from. -/
def catchError (p : Prog σ ε α) (handler : ε → Prog σ ε α) : Prog σ ε α :=
  fun s =>
    match p s with
    | (.ok a, s') => (.ok a, s')
    | (.error e, s') => handler e s'

def catching {ε' : Type u} (p : Prog σ ε α) (handler : ε → Prog σ ε' α) : Prog σ ε' α :=
  fun s =>
    match p s with
    | (.ok a, s') => (.ok a, s')
    | (.error e, s') => handler e s'

/-- Run the program as a transaction: an error is thrown on, and the store
becomes `restore s s'`, where `s` is the store before the program and `s'` the
one it had reached. -/
def transaction (restore : σ → σ → σ) (p : Prog σ ε α) : Prog σ ε α :=
  fun s =>
    match p s with
    | (.ok a, s') => (.ok a, s')
    | (.error e, s') => (.error e, restore s s')

theorem bind_apply (p : Prog σ ε α) (f : α → Prog σ ε β) (s : σ) :
    (p >>= f) s =
      match p s with
      | (.ok a, s') => f a s'
      | (.error e, s') => (.error e, s') := rfl

theorem bind_of_ok {p : Prog σ ε α} {f : α → Prog σ ε β} {s s' : σ} {a : α}
    (h : p s = (.ok a, s')) : (p >>= f) s = f a s' := by
  rw [bind_apply, h]

theorem bind_of_error {p : Prog σ ε α} {f : α → Prog σ ε β} {s s' : σ} {e : ε}
    (h : p s = (.error e, s')) : (p >>= f) s = (.error e, s') := by
  rw [bind_apply, h]

theorem bind_eq_ok {p : Prog σ ε α} {f : α → Prog σ ε β} {s s' : σ} {b : β} :
    (p >>= f) s = (.ok b, s') ↔
      ∃ a s₁, p s = (.ok a, s₁) ∧ f a s₁ = (.ok b, s') := by
  rw [bind_apply]
  rcases h : p s with ⟨r, s₁⟩
  cases r with
  | error e => simp
  | ok a =>
      constructor
      · intro hf
        exact ⟨a, s₁, rfl, hf⟩
      · rintro ⟨a', s₂, heq, hf⟩
        cases heq
        exact hf

theorem pure_eq_ok {a b : α} {s s' : σ} :
    (pure a : Prog σ ε α) s = (.ok b, s') ↔ b = a ∧ s' = s := by
  change ((.ok a, s) : Except ε α × σ) = (.ok b, s') ↔ _
  simp [eq_comm]

theorem throw_eq_ok {e : ε} {b : α} {s s' : σ} :
    (throw e : Prog σ ε α) s = (.ok b, s') ↔ False := by
  simp [throw]

theorem gets_eq_ok {f : σ → α} {b : α} {s s' : σ} :
    (gets f : Prog σ ε α) s = (.ok b, s') ↔ b = f s ∧ s' = s := by
  simp [gets, eq_comm]

theorem modify_eq_ok {f : σ → σ} {u : PUnit} {s s' : σ} :
    (modify f : Prog σ ε PUnit) s = (.ok u, s') ↔ s' = f s := by
  simp [modify, eq_comm]

theorem ensure_eq_ok {c : Prop} [Decidable c] {e : ε} {u : PUnit} {s s' : σ} :
    (ensure c e : Prog σ ε PUnit) s = (.ok u, s') ↔ c ∧ s' = s := by
  by_cases hc : c
  · simp [ensure, hc, pure_eq_ok]
  · simp [ensure, hc, throw_eq_ok]

theorem require_eq_ok {o : Option α} {e : ε} {b : α} {s s' : σ} :
    (require o e : Prog σ ε α) s = (.ok b, s') ↔ o = some b ∧ s' = s := by
  cases o with
  | none => simp [require, throw_eq_ok]
  | some a =>
      rw [Option.some.injEq, eq_comm (a := a)]
      exact pure_eq_ok

theorem lift_eq_ok {r : Except ε α} {b : α} {s s' : σ} :
    (lift r : Prog σ ε α) s = (.ok b, s') ↔ r = .ok b ∧ s' = s := by
  simp [lift, eq_comm]

theorem ite_eq_ok {c : Prop} [Decidable c] {p q : Prog σ ε α} {b : α} {s s' : σ} :
    (if c then p else q) s = (.ok b, s') ↔
      (c ∧ p s = (.ok b, s')) ∨ (¬ c ∧ q s = (.ok b, s')) := by
  by_cases hc : c <;> simp [hc]

theorem transaction_of_ok {restore : σ → σ → σ} {p : Prog σ ε α} {a : α} {s s' : σ}
    (h : p s = (.ok a, s')) : transaction restore p s = (.ok a, s') := by
  rw [transaction, h]

theorem transaction_of_error {restore : σ → σ → σ} {p : Prog σ ε α} {e : ε}
    {s s' : σ} (h : p s = (.error e, s')) :
    transaction restore p s = (.error e, restore s s') := by
  rw [transaction, h]

theorem transaction_eq_ok {restore : σ → σ → σ} {p : Prog σ ε α}
    {b : α} {s s' : σ} :
    transaction restore p s = (.ok b, s') ↔ p s = (.ok b, s') := by
  unfold transaction
  rcases p s with ⟨r, s₁⟩
  cases r <;> simp

/-- A transaction that throws leaves the restored store. -/
theorem transaction_eq_error {restore : σ → σ → σ} {p : Prog σ ε α}
    {e : ε} {s s' : σ} :
    transaction restore p s = (.error e, s') ↔
      ∃ s₁, p s = (.error e, s₁) ∧ s' = restore s s₁ := by
  unfold transaction
  rcases p s with ⟨r, s₁⟩
  cases r with
  | ok a => simp
  | error e' =>
      constructor
      · intro h
        cases h
        exact ⟨s₁, rfl, rfl⟩
      · rintro ⟨s₂, heq, rfl⟩
        cases heq
        rfl

theorem catchError_apply (p : Prog σ ε α) (handler : ε → Prog σ ε α) (s : σ) :
    catchError p handler s =
      match p s with
      | (.ok a, s') => (.ok a, s')
      | (.error e, s') => handler e s' := rfl

/-- A handler that throws on hides no error. -/
theorem catchError_throw_eq_ok {p : Prog σ ε α} {f : ε → ε} {a : α} {s s' : σ} :
    catchError p (fun e => throw (f e)) s = (.ok a, s') ↔ p s = (.ok a, s') := by
  rw [catchError_apply]
  rcases p s with ⟨r, s₁⟩
  cases r <;> simp [throw]

theorem catchError_throw_eq_error {p : Prog σ ε α} {f : ε → ε} {e : ε} {s s' : σ}
    (h : catchError p (fun e => throw (f e)) s = (.error e, s')) :
    ∃ e₀, p s = (.error e₀, s') := by
  rw [catchError_apply] at h
  rcases hrun : p s with ⟨r, s₁⟩
  rw [hrun] at h
  cases r with
  | ok a => cases h
  | error e₀ =>
      obtain ⟨-, rfl⟩ := Prod.mk.inj h
      exact ⟨e₀, rfl⟩

theorem catching_of_ok {ε' : Type u} {p : Prog σ ε α} {handler : ε → Prog σ ε' α} {s s' : σ}
    {a : α} (h : p s = (.ok a, s')) : catching p handler s = (.ok a, s') := by
  rw [catching, h]

theorem catching_of_error {ε' : Type u} {p : Prog σ ε α} {handler : ε → Prog σ ε' α}
    {s s' : σ} {e : ε} (h : p s = (.error e, s')) : catching p handler s = handler e s' := by
  rw [catching, h]

/-- The program leaves a store that is related to the one it found. -/
def Respects (R : σ → σ → Prop) (p : Prog σ ε α) : Prop := ∀ s, R s (p s).2

namespace Respects

variable {R : σ → σ → Prop}

section

variable [IsPreorder σ R]

theorem pure (a : α) : Respects R (Pure.pure a : Prog σ ε α) := fun s => refl s

theorem throw (e : ε) : Respects R (throw e : Prog σ ε α) := fun s => refl s

theorem gets (f : σ → α) : Respects R (gets f : Prog σ ε α) := fun s => refl s

theorem ensure (c : Prop) [Decidable c] (e : ε) :
    Respects R (ensure c e : Prog σ ε PUnit) := by
  intro s
  unfold Prog.ensure
  split <;> exact refl s

theorem require (o : Option α) (e : ε) : Respects R (require o e : Prog σ ε α) := by
  intro s
  cases o <;> exact refl s

theorem of_reads {p : Prog σ ε α} (h : Respects (· = ·) p) : Respects R p := by
  intro s
  rw [← h s]
  exact refl s

theorem bind {p : Prog σ ε α} {f : α → Prog σ ε β} (hp : Respects R p)
    (hf : ∀ a, Respects R (f a)) : Respects R (p >>= f) := by
  intro s
  have hs := hp s
  rw [bind_apply]
  rcases hrun : p s with ⟨r, s₁⟩
  rw [hrun] at hs
  cases r with
  | error e => exact hs
  | ok a => exact Trans.trans hs (hf a s₁)

theorem catchError {p : Prog σ ε α} {handler : ε → Prog σ ε α} (hp : Respects R p)
    (hhandler : ∀ e, Respects R (handler e)) : Respects R (catchError p handler) := by
  intro s
  have hs := hp s
  rw [catchError_apply]
  rcases hrun : p s with ⟨r, s₁⟩
  rw [hrun] at hs
  cases r with
  | ok a => exact hs
  | error e => exact Trans.trans hs (hhandler e s₁)

end

theorem modify {f : σ → σ} (hf : ∀ s, R s (f s)) :
    Respects R (modify f : Prog σ ε PUnit) := hf

theorem ite {c : Prop} [Decidable c] {p q : Prog σ ε α} (hp : Respects R p)
    (hq : Respects R q) : Respects R (if c then p else q) := by
  split
  · exact hp
  · exact hq

theorem transaction {restore : σ → σ → σ} {p : Prog σ ε α} (hp : Respects R p)
    (hrestore : ∀ s s', R s s' → R s (restore s s')) :
    Respects R (transaction restore p) := by
  intro s
  have hs := hp s
  unfold Prog.transaction
  rcases hrun : p s with ⟨r, s₁⟩
  rw [hrun] at hs
  cases r with
  | ok a => exact hs
  | error e => exact hrestore s s₁ hs

end Respects

/-- Where the rest only reads, the store is the one the first program leaves. -/
theorem snd_bind_of_reads {p : Prog σ ε α} {f : α → Prog σ ε β}
    (hf : ∀ a, Respects (· = ·) (f a)) (s : σ) : ((p >>= f) s).2 = (p s).2 := by
  rw [bind_apply]
  rcases p s with ⟨r, s₁⟩
  cases r with
  | error e => rfl
  | ok a => exact (hf a s₁).symm

end Prog
