import Mathlib.Data.Nat.Basic
import Aico.Foundation.Table

/-!
# Versioned values

A value carries a version `ver a`, and a reader sees `view a` of it. `Counts`
is the law of one step: where the view changes the version counts up by one.
`Agrees` is what a reader relies on over many steps: the version does not go
back, and the same version shows the same view. The first implies the second,
and the second composes.

The other way to keep versions is a row for each: `Chain` says that the rows of an
owner carry the versions `1` to `n`, in this order.
-/

namespace Version

variable {α β : Type*} {ver : α → ℕ} {view : α → β} {a b c : α}

structure Counts (ver : α → ℕ) (view : α → β) (a b : α) : Prop where
  le : ver a ≤ ver b
  changed : view b ≠ view a → ver b = ver a + 1

/-- The same version shows the same view. -/
structure Agrees (ver : α → ℕ) (view : α → β) (a b : α) : Prop where
  le : ver a ≤ ver b
  view_eq : ver b = ver a → view b = view a

theorem Counts.refl (a : α) : Counts ver view a a :=
  ⟨le_rfl, fun h => absurd rfl h⟩

/-- A step that counts up by one may change the view. -/
theorem Counts.of_succ (h : ver b = ver a + 1) : Counts ver view a b :=
  ⟨h ▸ Nat.le_succ _, fun _ => h⟩

theorem Counts.agrees (h : Counts ver view a b) : Agrees ver view a b where
  le := h.le
  view_eq hver := by
    by_contra hview
    have hsucc := h.changed hview
    omega

theorem Agrees.refl (a : α) : Agrees ver view a a := ⟨le_rfl, fun _ => rfl⟩

/-- Between two equal versions the version stood still. -/
theorem Agrees.trans (h : Agrees ver view a b) (h' : Agrees ver view b c) :
    Agrees ver view a c where
  le := Nat.le_trans h.le h'.le
  view_eq hver := by
    have hle := h.le
    have hle' := h'.le
    have hab : ver b = ver a := by omega
    have hbc : ver c = ver b := by omega
    rw [h'.view_eq hbc, h.view_eq hab]

/-! ## A row for each version -/

variable {ρ κ : Type*} [DecidableEq κ] {owner : ρ → κ} {version : ρ → ℕ} {k : κ} {n : ℕ}
  {rows : List ρ} {r : ρ}

def Chain (owner : ρ → κ) (version : ρ → ℕ) (k : κ) (n : ℕ) (rows : List ρ) : Prop :=
  (rows.filter fun r => owner r = k).map version = List.range' 1 n

namespace Chain

theorem of_forall_ne (h : ∀ r ∈ rows, owner r ≠ k) : Chain owner version k 0 rows := by
  have hnone : rows.filter (fun r => owner r = k) = [] :=
    List.filter_eq_nil_iff.mpr fun r hr => by simpa using h r hr
  rw [Chain, hnone]
  rfl

theorem append (h : Chain owner version k n rows) (hr : owner r = k)
    (hversion : version r = n + 1) : Chain owner version k (n + 1) (rows ++ [r]) := by
  rw [Chain, Table.filter_append_of_eq hr, List.map_append, h, List.range'_1_concat,
    List.map_singleton, hversion, Nat.add_comm n 1]

theorem append_of_ne (h : Chain owner version k n rows) (hr : owner r ≠ k) :
    Chain owner version k n (rows ++ [r]) := by
  rw [Chain, Table.filter_append_of_ne hr, h]

/-- The greatest version is the last one. -/
theorem foldl_max (h : Chain owner version k n rows) :
    ((rows.filter fun r => owner r = k).map version).foldl max 0 = n := by
  rw [h]
  clear h
  induction n with
  | zero => rfl
  | succ n ih =>
      rw [List.range'_1_concat, List.foldl_append, ih]
      simp [Nat.add_comm]

end Chain

end Version
