import Mathlib.Data.Nat.Size
import Aico.Json.Text

/-!
# Natural numbers as doubles

A double has 53 significant bits. `roundToDouble` is the nearest double to a natural number,
ties going to the even one, and none of them from the largest finite double on. `shortest` is
the number with the fewest significant digits that is rounded to a double; its digits are what
`Number.prototype.toString` prints.
-/

namespace Double

/-- How many bits of a number lie below the 53 significant ones. -/
def shift (n : ℕ) : ℕ := n.size - 53

/-- The significant bits of a number, rounded. -/
def significand (n : ℕ) : ℕ :=
  let unit := 2 ^ shift n
  if unit < 2 * (n % unit) ∨ (unit = 2 * (n % unit) ∧ n / unit % 2 = 1) then n / unit + 1
  else n / unit

def roundToDouble (n : ℕ) : Option ℕ :=
  let m := significand n * 2 ^ shift n
  if m < 2 ^ 1024 then some m else none

def IsDouble (n : ℕ) : Prop := roundToDouble n = some n

instance (n : ℕ) : Decidable (IsDouble n) := inferInstanceAs (Decidable (_ = _))

/-- The shortest number that is rounded to `x`, where at most `zeros` digits at its end are
left out; of two of them the nearer one. -/
def shortestFrom (x : ℕ) : ℕ → ℕ
  | 0 => x
  | zeros + 1 =>
      let unit := 10 ^ (zeros + 1)
      let low := x / unit * unit
      let high := low + unit
      if roundToDouble low = some x then
        if roundToDouble high = some x ∧
            (unit < 2 * (x % unit) ∨ (unit = 2 * (x % unit) ∧ x / unit % 2 = 1)) then
          high
        else low
      else if roundToDouble high = some x then high
      else shortestFrom x zeros

def shortest (x : ℕ) : ℕ := shortestFrom x (Nat.digits 10 x).length

/-- The number is the shortest one of a double below `10 ^ 21`. -/
def IsShortest (n : ℕ) : Prop := ∃ x < 10 ^ 21, roundToDouble n = some x ∧ shortest x = n

/-- The text of a double from `10 ^ 21` on. -/
def exponentText (x : ℕ) : JsString :=
  let units := JsString.decimal (shortest x)
  let fraction := (units.drop 1).reverse.dropWhile (· = JsString.digitUnit 0) |>.reverse
  units.take 1 ++ (if fraction = [] then [] else 0x2E :: fraction) ++ js "e+" ++
    JsString.decimal (units.length - 1)

/-- `Number.prototype.toString`. -/
def toText (x : ℕ) : JsString :=
  if x < 10 ^ 21 then JsString.decimal (shortest x) else exponentText x

/-! ## Rounding -/

variable {n x : ℕ}

theorem size_le_shift (n : ℕ) : n.size ≤ 53 + shift n := by
  unfold shift
  omega

/-- A number with 53 significant bits is a double. -/
theorem roundToDouble_mul {q e : ℕ} (hq : q < 2 ^ 53) (hmax : q * 2 ^ e < 2 ^ 1024) :
    IsDouble (q * 2 ^ e) := by
  have hshift : shift (q * 2 ^ e) ≤ e := by
    have hsize : (q * 2 ^ e).size ≤ 53 + e := by
      rw [Nat.size_le, pow_add]
      exact Nat.mul_lt_mul_of_pos_right hq (Nat.two_pow_pos e)
    unfold shift
    omega
  have hdvd : 2 ^ shift (q * 2 ^ e) ∣ q * 2 ^ e :=
    Dvd.dvd.mul_left (pow_dvd_pow 2 hshift) q
  have hrest : (q * 2 ^ e) % 2 ^ shift (q * 2 ^ e) = 0 := Nat.mod_eq_zero_of_dvd hdvd
  have hpos := Nat.two_pow_pos (shift (q * 2 ^ e))
  have hexact : significand (q * 2 ^ e) = q * 2 ^ e / 2 ^ shift (q * 2 ^ e) := by
    unfold significand
    dsimp only
    rw [if_neg (by omega)]
  unfold IsDouble roundToDouble
  dsimp only
  rw [hexact, Nat.div_mul_cancel hdvd, if_pos hmax]

/-- Up to 53 bits every number is a double. -/
theorem isDouble_of_lt (h : n < 2 ^ 53) : IsDouble n := by
  have hmax : n * 2 ^ 0 < 2 ^ 1024 := by
    rw [pow_zero, mul_one]
    exact lt_of_lt_of_le h (Nat.pow_le_pow_right (by decide) (by decide))
  have hdouble := roundToDouble_mul (e := 0) h hmax
  rwa [pow_zero, mul_one] at hdouble

theorem significand_le (n : ℕ) : significand n ≤ 2 ^ 53 := by
  have hq : n / 2 ^ shift n < 2 ^ 53 := by
    rw [Nat.div_lt_iff_lt_mul (Nat.two_pow_pos _), ← pow_add]
    exact Nat.size_le.mp (size_le_shift n)
  unfold significand
  dsimp only
  split <;> omega

theorem isDouble_of_roundToDouble (h : roundToDouble n = some x) : IsDouble x := by
  unfold roundToDouble at h
  dsimp only at h
  split at h
  · next hmax =>
      obtain rfl := Option.some.inj h
      rcases (significand_le n).lt_or_eq with hlt | heq
      · exact roundToDouble_mul hlt hmax
      · have hcarry : significand n * 2 ^ shift n = 2 ^ 52 * 2 ^ (shift n + 1) := by
          rw [heq, pow_succ' 2 (shift n), ← mul_assoc]
          rfl
        rw [hcarry] at hmax ⊢
        exact roundToDouble_mul (by decide) hmax
  · cases h

/-- From `2 ^ 53` on, rounding goes to no smaller number. -/
theorem le_of_roundToDouble (hn : 2 ^ 53 ≤ n) (h : roundToDouble n = some x) : 2 ^ 53 ≤ x := by
  have hsize : 53 < n.size := Nat.lt_size.mpr hn
  have hshift : n.size = 53 + shift n := by
    unfold shift
    omega
  have hpow : 2 ^ 52 * 2 ^ shift n ≤ n := by
    rw [← pow_add]
    exact Nat.lt_size.mp (by omega)
  have hq : 2 ^ 52 ≤ significand n := by
    have hdiv : 2 ^ 52 ≤ n / 2 ^ shift n := (Nat.le_div_iff_mul_le (Nat.two_pow_pos _)).mpr hpow
    unfold significand
    dsimp only
    split <;> omega
  have htwo : 2 ^ 1 ≤ 2 ^ shift n := Nat.pow_le_pow_right (by decide) (by omega)
  unfold roundToDouble at h
  dsimp only at h
  split at h
  · obtain rfl := Option.some.inj h
    calc 2 ^ 53 = 2 ^ 52 * 2 ^ 1 := by rfl
      _ ≤ significand n * 2 ^ shift n := Nat.mul_le_mul hq htwo
  · cases h

/-! ## Printing -/

theorem roundToDouble_shortestFrom (h : IsDouble x) (zeros : ℕ) :
    roundToDouble (shortestFrom x zeros) = some x := by
  induction zeros with
  | zero => exact h
  | succ zeros ih =>
      unfold shortestFrom
      dsimp only
      split
      · next hlow =>
          split
          · next hhigh => exact hhigh.1
          · exact hlow
      · split
        · next hhigh => exact hhigh
        · exact ih

/-- The shortest number is rounded back. -/
theorem roundToDouble_shortest (h : IsDouble x) : roundToDouble (shortest x) = some x :=
  roundToDouble_shortestFrom h _

/-- No number below `2 ^ 53` has a shorter one that is rounded to it. -/
theorem eq_of_roundToDouble (hx : x < 2 ^ 53) (h : roundToDouble n = some x) : n = x := by
  rcases Nat.lt_or_ge n (2 ^ 53) with hn | hn
  · exact Option.some.inj ((isDouble_of_lt hn).symm.trans h)
  · exact absurd (le_of_roundToDouble hn h) (not_le.mpr hx)

theorem shortest_of_lt (hx : x < 2 ^ 53) : shortest x = x :=
  eq_of_roundToDouble hx (roundToDouble_shortest (isDouble_of_lt hx))

theorem shortest_pos (hpos : 0 < x) (h : IsDouble x) : 0 < shortest x := by
  refine Nat.pos_of_ne_zero fun hzero => hpos.ne ?_
  have hround := roundToDouble_shortest h
  rw [hzero, isDouble_of_lt (by decide)] at hround
  exact Option.some.inj hround

/-- Up to 53 bits every number is the shortest one. -/
theorem isShortest_of_lt (hn : n < 2 ^ 53) : IsShortest n :=
  ⟨n, hn.trans (by norm_num), isDouble_of_lt hn, shortest_of_lt hn⟩

theorem toText_of_lt (hx : x < 2 ^ 53) : toText x = JsString.decimal x := by
  have hmax : (2 : ℕ) ^ 53 < 10 ^ 21 := by norm_num
  rw [toText, if_pos (hx.trans hmax), shortest_of_lt hx]

end Double
