import Mathlib.Data.Nat.Notation
import Mathlib.Logic.Function.Basic

/-!
# Lock tables

Parties are numbered, each stands at a place, and `holds p key` says that a party
at the place `p` holds the lock. The lock table says who holds what. A party may
take a lock that is free or its own (`Free`), and gives up all its locks at once
(`release`). `Covers t holds places` says that the table knows of every lock a
party believes to hold, so no two parties hold the same one.
-/

namespace Locks

variable {κ ι : Type*} {t : κ → Option ℕ} {holds : ι → κ → Prop} {places : ℕ → ι}
  {key : κ} {p : ι} {i j : ℕ}

/-- The party may take the lock. -/
def Free (t : κ → Option ℕ) (key : κ) (i : ℕ) : Prop := t key = none ∨ t key = some i

instance (t : κ → Option ℕ) (key : κ) (i : ℕ) : Decidable (Free t key i) :=
  inferInstanceAs (Decidable (_ ∨ _))

/-- The party takes the lock. -/
def acquire [DecidableEq κ] (t : κ → Option ℕ) (key : κ) (i : ℕ) : κ → Option ℕ :=
  Function.update t key (some i)

/-- The party gives up its locks. -/
def release (t : κ → Option ℕ) (i : ℕ) : κ → Option ℕ :=
  fun key => if t key = some i then none else t key

/-- The table knows who holds what. -/
def Covers (t : κ → Option ℕ) (holds : ι → κ → Prop) (places : ℕ → ι) : Prop :=
  ∀ i key, holds (places i) key → t key = some i

namespace Covers

/-- A lock has one holder. -/
theorem eq_of_held (h : Covers t holds places) (hi : holds (places i) key)
    (hj : holds (places j) key) : i = j :=
  Option.some.inj ((h i key hi).symm.trans (h j key hj))

/-- A party moves on with locks it has. -/
theorem move (h : Covers t holds places) (hp : ∀ key, holds p key → holds (places i) key) :
    Covers t holds (Function.update places i p) := by
  intro j key hheld
  by_cases hj : j = i
  · rw [hj, Function.update_self] at hheld
    rw [hj]
    exact h i key (hp key hheld)
  · rw [Function.update_of_ne hj] at hheld
    exact h j key hheld

/-- A party takes a free lock. -/
theorem acquire [DecidableEq κ] (h : Covers t holds places) (hfree : Free t key i)
    (hp : ∀ key', holds p key' → key' = key ∨ holds (places i) key') :
    Covers (acquire t key i) holds (Function.update places i p) := by
  intro j key' hheld
  by_cases hkey : key' = key
  · rw [hkey, Locks.acquire, Function.update_self]
    by_cases hj : j = i
    · rw [hj]
    · rw [Function.update_of_ne hj] at hheld
      have howner := h j key' hheld
      rw [hkey] at howner
      rcases hfree with hnone | hown
      · rw [hnone] at howner
        cases howner
      · rw [hown] at howner
        exact howner
  · rw [Locks.acquire, Function.update_of_ne hkey]
    by_cases hj : j = i
    · rw [hj, Function.update_self] at hheld
      rw [hj]
      exact h i key' ((hp key' hheld).resolve_left hkey)
    · rw [Function.update_of_ne hj] at hheld
      exact h j key' hheld

/-- A party leaves without its locks. -/
theorem release (h : Covers t holds places) (hp : ∀ key, ¬ holds p key) :
    Covers (release t i) holds (Function.update places i p) := by
  intro j key hheld
  by_cases hj : j = i
  · rw [hj, Function.update_self] at hheld
    exact absurd hheld (hp key)
  · rw [Function.update_of_ne hj] at hheld
    have howner := h j key hheld
    rw [Locks.release, howner]
    exact if_neg fun heq => hj (Option.some.inj heq)

end Covers

end Locks
