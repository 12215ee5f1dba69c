import Aico.Foundation.RegExp
import Aico.Json.Canonical

/-!
# Numerals

`decimal` prints a natural number and `digitsValue` reads it. A numeral without a leading zero
is what is printed for its value, so two index-like keys with one value are equal.
-/

namespace JsString

def unitValue (u : UInt16) : ℕ := u.toNat - 0x30

theorem unitValue_digitUnit {d : ℕ} (hd : d < 10) : unitValue (digitUnit d) = d := by
  interval_cases d <;> rfl

theorem digitUnit_unitValue {u : UInt16} (hu : RegExp.isDigit u = true) :
    unitValue u < 10 ∧ digitUnit (unitValue u) = u := by
  obtain ⟨hlow, hhigh⟩ := Bool.and_eq_true_iff.mp hu
  have hlow : 0x30 ≤ u.toNat := UInt16.le_iff_toNat_le.mp (of_decide_eq_true hlow)
  have hhigh : u.toNat ≤ 0x39 := UInt16.le_iff_toNat_le.mp (of_decide_eq_true hhigh)
  refine ⟨by unfold unitValue; omega, UInt16.toNat_inj.mp ?_⟩
  rw [digitUnit, unitValue, UInt16.toNat_ofNat', Nat.mod_eq_of_lt (by omega)]
  omega

theorem digitsValue_eq_zero_iff {s : JsString} :
    Json.digitsValue s = 0 ↔ ∀ u ∈ s, unitValue u = 0 := by
  have hfold (n : ℕ) : s.foldl (fun n u => 10 * n + unitValue u) n = 0 ↔
      n = 0 ∧ ∀ u ∈ s, unitValue u = 0 := by
    induction s generalizing n with
    | nil => simp
    | cons u s ih => rw [List.foldl_cons, ih, List.forall_mem_cons, ← and_assoc,
        Nat.add_eq_zero_iff, Nat.mul_eq_zero, or_iff_right (by decide)]
  exact (hfold 0).trans (and_iff_right rfl)

theorem digitsValue_eq_ofDigits (s : JsString) :
    Json.digitsValue s = Nat.ofDigits 10 (s.reverse.map unitValue) := by
  rw [Nat.ofDigits_eq_foldr, List.foldr_map, List.foldr_reverse, Json.digitsValue]
  congr 1
  funext n u
  exact Nat.add_comm _ _

/-- The decimal text is read back. -/
theorem digitsValue_decimal (n : ℕ) : Json.digitsValue (decimal n) = n := by
  by_cases hn : n = 0
  · rw [hn]
    rfl
  · have hmap : (Nat.digits 10 n).map (unitValue ∘ digitUnit) = Nat.digits 10 n := by
      refine (List.map_congr_left fun d hd => ?_).trans (List.map_id _)
      exact unitValue_digitUnit (Nat.digits_lt_base (by decide) hd)
    rw [decimal, if_neg hn, digitsValue_eq_ofDigits, List.reverse_reverse, List.map_map, hmap,
      Nat.ofDigits_digits]

/-- A numeral without a leading zero is the decimal text of its value. -/
theorem decimal_digitsValue {s : JsString} (hdigits : ∀ u ∈ s, RegExp.isDigit u = true)
    (hlead : ∀ u ∈ s.head?, u ≠ digitUnit 0) (hne : s ≠ []) : decimal (Json.digitsValue s) = s := by
  obtain ⟨u, rest, rfl⟩ := List.exists_cons_of_ne_nil hne
  have hread : Nat.digits 10 (Json.digitsValue (u :: rest)) =
      (u :: rest).reverse.map unitValue := by
    rw [digitsValue_eq_ofDigits]
    refine Nat.digits_ofDigits 10 (by decide) _ ?_ fun hnil hlast => ?_
    · intro d hd
      obtain ⟨v, hv, rfl⟩ := List.mem_map.mp hd
      exact (digitUnit_unitValue (hdigits v (List.mem_reverse.mp hv))).1
    · have hu := (digitUnit_unitValue (hdigits u List.mem_cons_self)).2
      have hzero : unitValue u = 0 := by simpa using hlast
      rw [hzero] at hu
      exact hlead u rfl hu.symm
  have hvalue : Json.digitsValue (u :: rest) ≠ 0 := by
    intro hzero
    rw [hzero] at hread
    simp at hread
  rw [decimal, if_neg hvalue, hread, List.map_map, ← List.map_reverse, List.reverse_reverse]
  refine (List.map_congr_left fun v hv => ?_).trans (List.map_id _)
  exact (digitUnit_unitValue (hdigits v hv)).2

theorem head_decimal {n : ℕ} (hn : 0 < n) : ∀ u ∈ (decimal n).head?, u ≠ digitUnit 0 := by
  intro u hu hzero
  rw [decimal, if_neg hn.ne', List.head?_reverse, List.getLast?_map] at hu
  obtain ⟨d, hd, rfl⟩ := Option.mem_map.mp hu
  have hne : Nat.digits 10 n ≠ [] := Nat.digits_ne_nil_iff_ne_zero.mpr hn.ne'
  rw [List.getLast?_eq_some_getLast hne] at hd
  obtain rfl := Option.some.inj hd
  have hlt : (Nat.digits 10 n).getLast hne < 10 :=
    Nat.digits_lt_base (by decide) (List.getLast_mem hne)
  exact Nat.getLast_digit_ne_zero 10 hn.ne' (digitUnit_inj hlt (by decide) hzero)

theorem isDigit_decimal {n : ℕ} {u : UInt16} (h : u ∈ decimal n) : RegExp.isDigit u = true := by
  obtain ⟨d, hd, rfl⟩ := mem_decimal h
  interval_cases d <;> rfl

end JsString

namespace Json

open JsString

variable {a b : JsString}

theorem decimal_digitsValue_of_isIndexKey (ha : isIndexKey a = true) :
    decimal (digitsValue a) = a := by
  simp only [isIndexKey, Bool.and_eq_true, Bool.or_eq_true, decide_eq_true_eq] at ha
  obtain ⟨⟨⟨hzero | hlead, hne⟩, hdigits⟩, _⟩ := ha
  · rw [hzero, digitsValue_decimal]
  · refine decimal_digitsValue (List.all_eq_true.mp hdigits) ?_ hne
    rintro u hu rfl
    exact hlead hu

theorem digitsValue_inj (ha : isIndexKey a = true) (hb : isIndexKey b = true)
    (h : digitsValue a = digitsValue b) : a = b := by
  rw [← decimal_digitsValue_of_isIndexKey ha, h, decimal_digitsValue_of_isIndexKey hb]

end Json
