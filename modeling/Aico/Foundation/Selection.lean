import Mathlib.Data.List.Basic

/-!
# Selections from a part of a table

A query that only selects rows of a part of a table finds in the part what it finds in the
table.
-/

namespace Table

variable {ρ : Type*} {p q : ρ → Bool} {rows : List ρ}

theorem filter_filter_of_imp (h : ∀ r, q r = true → p r = true) (rows : List ρ) :
    (rows.filter p).filter q = rows.filter q := by
  rw [List.filter_filter]
  apply List.filter_congr
  intro r _
  cases hq : q r with
  | false => rfl
  | true => simp [h r hq]

theorem any_filter_of_imp (h : ∀ r ∈ rows, q r = true → p r = true) :
    (rows.filter p).any q = rows.any q := by
  rw [Bool.eq_iff_iff, List.any_eq_true, List.any_eq_true]
  constructor
  · rintro ⟨r, hr, hq⟩
    exact ⟨r, List.mem_of_mem_filter hr, hq⟩
  · rintro ⟨r, hr, hq⟩
    exact ⟨r, List.mem_filter.mpr ⟨hr, h r hr hq⟩, hq⟩

theorem find?_filter_of_imp (h : ∀ r, q r = true → p r = true) (rows : List ρ) :
    (rows.filter p).find? q = rows.find? q := by
  rw [← List.head?_filter, ← List.head?_filter, filter_filter_of_imp h]

end Table
