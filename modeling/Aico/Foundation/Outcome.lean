import Aico.Foundation.Program

/-!
# How a program ends

A program started from a store either `Succeeds` or throws an error. A sequence succeeds when its
statements do, the later ones in the stores that the earlier ones leave.
-/

/-- A sequence of checks that passes, taken apart. -/
theorem Except.exists_of_bind_eq_ok {ε α β : Type} {x : Except ε α} {f : α → Except ε β} {b : β}
    (h : x >>= f = .ok b) : ∃ a, x = .ok a ∧ f a = .ok b := by
  cases x with
  | error e => cases h
  | ok a => exact ⟨a, rfl, h⟩

namespace Prog

variable {σ ε α β : Type}

/-- The program returns a value. -/
def Succeeds (p : Prog σ ε α) (s : σ) : Prop := ∃ a s', p s = (.ok a, s')

theorem succeeds_bind {p : Prog σ ε α} {f : α → Prog σ ε β} {s : σ} :
    Succeeds (p >>= f) s ↔ ∃ a s', p s = (.ok a, s') ∧ Succeeds (f a) s' := by
  constructor
  · rintro ⟨b, s'', h⟩
    obtain ⟨a, s', hp, hf⟩ := bind_eq_ok.mp h
    exact ⟨a, s', hp, b, s'', hf⟩
  · rintro ⟨a, s', hp, b, s'', hf⟩
    exact ⟨b, s'', bind_eq_ok.mpr ⟨a, s', hp, hf⟩⟩

theorem succeeds_ensure {c : Prop} [Decidable c] {e : ε} {f : PUnit → Prog σ ε β} {s : σ} :
    Succeeds (ensure c e >>= f) s ↔ c ∧ Succeeds (f ⟨⟩) s := by
  rw [succeeds_bind]
  constructor
  · rintro ⟨_, s', h, hf⟩
    obtain ⟨hc, rfl⟩ := ensure_eq_ok.mp h
    exact ⟨hc, hf⟩
  · rintro ⟨hc, hf⟩
    exact ⟨⟨⟩, s, ensure_eq_ok.mpr ⟨hc, rfl⟩, hf⟩

theorem succeeds_require {o : Option α} {e : ε} {f : α → Prog σ ε β} {s : σ} :
    Succeeds (require o e >>= f) s ↔ ∃ a, o = some a ∧ Succeeds (f a) s := by
  rw [succeeds_bind]
  constructor
  · rintro ⟨a, s', h, hf⟩
    obtain ⟨ho, rfl⟩ := require_eq_ok.mp h
    exact ⟨a, ho, hf⟩
  · rintro ⟨a, ho, hf⟩
    exact ⟨a, s, require_eq_ok.mpr ⟨ho, rfl⟩, hf⟩

theorem succeeds_pure (a : α) (s : σ) : Succeeds (pure a : Prog σ ε α) s := ⟨a, s, rfl⟩

theorem ensure_bind_eq_ok {c : Prop} [Decidable c] {e : ε} {f : PUnit → Prog σ ε β} {s s' : σ}
    {b : β} : (ensure c e >>= f) s = (.ok b, s') ↔ c ∧ f ⟨⟩ s = (.ok b, s') := by
  rw [bind_eq_ok]
  constructor
  · rintro ⟨_, s₁, hensure, hf⟩
    obtain ⟨hc, rfl⟩ := ensure_eq_ok.mp hensure
    exact ⟨hc, hf⟩
  · rintro ⟨hc, hf⟩
    exact ⟨⟨⟩, s, ensure_eq_ok.mpr ⟨hc, rfl⟩, hf⟩

theorem require_bind_eq_ok {o : Option α} {e : ε} {f : α → Prog σ ε β} {s s' : σ} {b : β} :
    (require o e >>= f) s = (.ok b, s') ↔ ∃ a, o = some a ∧ f a s = (.ok b, s') := by
  rw [bind_eq_ok]
  constructor
  · rintro ⟨a, s₁, hrequire, hf⟩
    obtain ⟨ha, rfl⟩ := require_eq_ok.mp hrequire
    exact ⟨a, ha, hf⟩
  · rintro ⟨a, ha, hf⟩
    exact ⟨a, s, require_eq_ok.mpr ⟨ha, rfl⟩, hf⟩

theorem lift_bind_eq_ok {r : Except ε α} {f : α → Prog σ ε β} {s s' : σ} {b : β} :
    (lift r >>= f) s = (.ok b, s') ↔ ∃ a, r = .ok a ∧ f a s = (.ok b, s') := by
  rw [bind_eq_ok]
  constructor
  · rintro ⟨a, s₁, hlift, hf⟩
    obtain ⟨ha, rfl⟩ := lift_eq_ok.mp hlift
    exact ⟨a, ha, hf⟩
  · rintro ⟨a, ha, hf⟩
    exact ⟨a, s, lift_eq_ok.mpr ⟨ha, rfl⟩, hf⟩

end Prog
