import Aico.Json.Numeral
import Mathlib.Data.Nat.Find

/-!
# Timestamps

A timestamp is the text of an instant in UTC, with up to nine digits of a second. `Parts` are
its fields as they are written; `Parts.time` is what `Date.parse` makes of them and
`toISOString` prints an instant with milliseconds. Instants are counted in milliseconds from
the first day of the year 0, and years are those of the Gregorian calendar.

Every instant that is written has a second spelling (`exists_respelled`), and what is printed
for it is written again, unless it is the first one of the year 10000 (`time_toISOString`).
-/

namespace JsDate

/-! ## The calendar -/

def leapDays (year : ℕ) : ℕ := (year + 3) / 4 + (year + 399) / 400 - (year + 99) / 100

def daysBeforeYear (year : ℕ) : ℕ := 365 * year + leapDays year

def leapDay (year : ℕ) : ℕ := leapDays (year + 1) - leapDays year

def daysBeforeMonth (year : ℕ) : ℕ → ℕ
  | 0 | 1 => 0
  | 2 => 31
  | 3 => 59 + leapDay year
  | 4 => 90 + leapDay year
  | 5 => 120 + leapDay year
  | 6 => 151 + leapDay year
  | 7 => 181 + leapDay year
  | 8 => 212 + leapDay year
  | 9 => 243 + leapDay year
  | 10 => 273 + leapDay year
  | 11 => 304 + leapDay year
  | _ => 334 + leapDay year

theorem daysBeforeYear_succ (year : ℕ) :
    daysBeforeYear (year + 1) = daysBeforeYear year + (365 + leapDay year) := by
  unfold daysBeforeYear leapDay leapDays
  omega

theorem leapDay_le (year : ℕ) : leapDay year ≤ 1 := by
  unfold leapDay leapDays
  omega

theorem daysBeforeYear_mono : Monotone daysBeforeYear :=
  monotone_nat_of_le_succ fun year => by
    rw [daysBeforeYear_succ]
    exact Nat.le_add_right _ _

theorem le_daysBeforeYear (year : ℕ) : 365 * year ≤ daysBeforeYear year := Nat.le_add_right _ _

theorem daysBeforeMonth_add_le (year : ℕ) {month : ℕ} (hmonth : month ≤ 12) :
    daysBeforeMonth year month + 31 ≤ 365 + leapDay year := by
  interval_cases month <;> simp only [daysBeforeMonth] <;> omega

/-- The next month starts 31 days later at most, and the year ends so. -/
theorem next_month_le (year : ℕ) {month : ℕ} (hpos : 1 ≤ month) (hmonth : month ≤ 11) :
    daysBeforeMonth year (month + 1) ≤ daysBeforeMonth year month + 31 := by
  have := leapDay_le year
  interval_cases month <;> simp only [daysBeforeMonth] <;> omega

def yearOf (day : ℕ) : ℕ := Nat.findGreatest (fun year => daysBeforeYear year ≤ day) (day / 365)

def monthOf (year day : ℕ) : ℕ := Nat.findGreatest (fun month => daysBeforeMonth year month ≤ day) 12

theorem yearOf_spec (day : ℕ) :
    daysBeforeYear (yearOf day) ≤ day ∧ day < daysBeforeYear (yearOf day + 1) := by
  refine ⟨Nat.findGreatest_spec (P := fun year => daysBeforeYear year ≤ day) (Nat.zero_le _)
    (Nat.zero_le _), ?_⟩
  by_contra hle
  have hle : daysBeforeYear (yearOf day + 1) ≤ day := not_lt.mp hle
  have hbound : yearOf day + 1 ≤ day / 365 :=
    (Nat.le_div_iff_mul_le (by decide)).mpr
      ((Nat.mul_comm _ _ ▸ le_daysBeforeYear (yearOf day + 1)).trans hle)
  exact Nat.findGreatest_is_greatest (Nat.lt_succ_self (yearOf day)) hbound hle

theorem monthOf_spec {year day : ℕ} (hday : day < 365 + leapDay year) :
    1 ≤ monthOf year day ∧ monthOf year day ≤ 12 ∧ daysBeforeMonth year (monthOf year day) ≤ day ∧
      day < daysBeforeMonth year (monthOf year day) + 31 := by
  have hpos : 1 ≤ monthOf year day := Nat.le_findGreatest (by decide) (Nat.zero_le _)
  have hle : monthOf year day ≤ 12 := Nat.findGreatest_le 12
  have hspec : daysBeforeMonth year (monthOf year day) ≤ day :=
    Nat.findGreatest_spec (P := fun month => daysBeforeMonth year month ≤ day) (Nat.zero_le _)
      (Nat.zero_le _)
  refine ⟨hpos, hle, hspec, ?_⟩
  rcases Nat.lt_or_eq_of_le hle with hlt | heq
  · have hnext : ¬ daysBeforeMonth year (monthOf year day + 1) ≤ day :=
      Nat.findGreatest_is_greatest (P := fun month => daysBeforeMonth year month ≤ day)
        (Nat.lt_succ_self (monthOf year day)) hlt
    have := next_month_le year hpos (Nat.le_of_lt_succ hlt)
    omega
  · rw [heq]
    have hlast : daysBeforeMonth year 12 = 334 + leapDay year := rfl
    omega

/-! ## Texts -/

open JsString Json

/-- The decimal text of the last `width` digits of a number. -/
def fixed : ℕ → ℕ → JsString
  | 0, _ => []
  | width + 1, n => fixed width (n / 10) ++ [digitUnit (n % 10)]

theorem length_fixed (width n : ℕ) : (fixed width n).length = width := by
  induction width generalizing n with
  | zero => rfl
  | succ width ih => rw [fixed, List.length_append, ih, List.length_singleton]

theorem isDigit_digitUnit {d : ℕ} (hd : d < 10) : RegExp.isDigit (digitUnit d) = true := by
  interval_cases d <;> rfl

theorem isDigit_fixed (width n : ℕ) : (fixed width n).all RegExp.isDigit = true := by
  induction width generalizing n with
  | zero => rfl
  | succ width ih =>
      rw [fixed, List.all_append, ih, Bool.true_and, List.all_cons, List.all_nil, Bool.and_true]
      exact isDigit_digitUnit (Nat.mod_lt n (by decide))

theorem digitsValue_fixed {width n : ℕ} (h : n < 10 ^ width) : digitsValue (fixed width n) = n := by
  induction width generalizing n with
  | zero =>
      obtain rfl := Nat.lt_one_iff.mp h
      rfl
  | succ width ih =>
      have hdiv : n / 10 < 10 ^ width := by
        rw [Nat.div_lt_iff_lt_mul (by decide), ← Nat.pow_succ]
        exact h
      have hunit := unitValue_digitUnit (Nat.mod_lt n (by decide : 0 < 10))
      rw [fixed, digitsValue, List.foldl_append, ← digitsValue, ih hdiv, List.foldl_cons,
        List.foldl_nil]
      change 10 * (n / 10) + unitValue (digitUnit (n % 10)) = n
      rw [hunit]
      omega

/-- The fields of a timestamp as they are written. A fraction of a second may be absent. -/
structure Parts where
  year : JsString
  month : JsString
  day : JsString
  hour : JsString
  minute : JsString
  second : JsString
  fraction : JsString
deriving DecidableEq

namespace Parts

def hyphen : UInt16 := 0x2D

def colon : UInt16 := 0x3A

def point : UInt16 := 0x2E

def ending (p : Parts) : JsString :=
  (if p.fraction = [] then [] else point :: p.fraction) ++ [0x5A]

def text (p : Parts) : JsString :=
  p.year ++ hyphen :: (p.month ++ hyphen :: (p.day ++ 0x54 :: (p.hour ++ colon ::
    (p.minute ++ colon :: (p.second ++ p.ending)))))

/-- `\d{width}` -/
def IsField (width : ℕ) (field : JsString) : Prop :=
  field.length = width ∧ field.all RegExp.isDigit = true

instance (width : ℕ) (field : JsString) : Decidable (IsField width field) :=
  inferInstanceAs (Decidable (_ ∧ _))

structure WellFormed (p : Parts) : Prop where
  year : IsField 4 p.year
  month : IsField 2 p.month
  day : IsField 2 p.day
  hour : IsField 2 p.hour
  minute : IsField 2 p.minute
  second : IsField 2 p.second
  fraction : p.fraction.length ≤ 9 ∧ p.fraction.all RegExp.isDigit = true

instance (p : Parts) : Decidable p.WellFormed :=
  decidable_of_iff (IsField 4 p.year ∧ IsField 2 p.month ∧ IsField 2 p.day ∧ IsField 2 p.hour ∧
      IsField 2 p.minute ∧ IsField 2 p.second ∧
      p.fraction.length ≤ 9 ∧ p.fraction.all RegExp.isDigit = true)
    ⟨fun ⟨hy, hmo, hd, hh, hmi, hs, hf⟩ => ⟨hy, hmo, hd, hh, hmi, hs, hf⟩,
      fun h => ⟨h.year, h.month, h.day, h.hour, h.minute, h.second, h.fraction⟩⟩

def ofText (s : JsString) : Parts where
  year := s.take 4
  month := (s.drop 5).take 2
  day := (s.drop 8).take 2
  hour := (s.drop 11).take 2
  minute := (s.drop 14).take 2
  second := (s.drop 17).take 2
  fraction := (s.drop 20).dropLast

theorem ofText_text {p : Parts} (h : p.WellFormed) : ofText p.text = p := by
  obtain ⟨year, month, day, hour, minute, second, fraction⟩ := p
  obtain ⟨⟨hyear, -⟩, ⟨hmonth, -⟩, ⟨hday, -⟩, ⟨hhour, -⟩, ⟨hminute, -⟩, ⟨hsecond, -⟩, -⟩ := h
  dsimp only at hyear hmonth hday hhour hminute hsecond
  obtain ⟨y₁, y₂, y₃, y₄, rfl⟩ := List.length_eq_four.mp hyear
  obtain ⟨mo₁, mo₂, rfl⟩ := List.length_eq_two.mp hmonth
  obtain ⟨d₁, d₂, rfl⟩ := List.length_eq_two.mp hday
  obtain ⟨h₁, h₂, rfl⟩ := List.length_eq_two.mp hhour
  obtain ⟨mi₁, mi₂, rfl⟩ := List.length_eq_two.mp hminute
  obtain ⟨s₁, s₂, rfl⟩ := List.length_eq_two.mp hsecond
  cases fraction with
  | nil => rfl
  | cons u rest =>
      simp only [ofText, text, ending, reduceCtorEq, if_false, List.cons_append, List.nil_append,
        List.drop_succ_cons, List.drop_zero, List.take_succ_cons, List.take_zero]
      rw [← List.cons_append, List.dropLast_concat]

def milliseconds (p : Parts) : ℕ := digitsValue ((p.fraction ++ js "000").take 3)

/-- Whether the fields name a day and a time of day. A day need not exist in its month, and
the end of a day may be written as its hour 24, where no digit after it counts. -/
def InRange (p : Parts) : Prop :=
  1 ≤ digitsValue p.month ∧ digitsValue p.month ≤ 12 ∧ 1 ≤ digitsValue p.day ∧
    digitsValue p.day ≤ 31 ∧
    (digitsValue p.hour < 24 ∧ digitsValue p.minute < 60 ∧ digitsValue p.second < 60 ∨
      digitsValue p.hour = 24 ∧ digitsValue p.minute = 0 ∧ digitsValue p.second = 0 ∧
        digitsValue p.fraction = 0)

instance (p : Parts) : Decidable p.InRange := inferInstanceAs (Decidable (_ ∧ _))

def dayNumber (p : Parts) : ℕ :=
  daysBeforeYear (digitsValue p.year) +
    daysBeforeMonth (digitsValue p.year) (digitsValue p.month) + (digitsValue p.day - 1)

def timeOfDay (p : Parts) : ℕ :=
  ((digitsValue p.hour * 60 + digitsValue p.minute) * 60 + digitsValue p.second) * 1000 +
    p.milliseconds

def instant (p : Parts) : ℕ := p.dayNumber * 86400000 + p.timeOfDay

/-- What `Date.parse` gives for the fields. -/
def time (p : Parts) : Option ℕ := if p.InRange then some p.instant else none

end Parts

/-- `/^\d{4}-\d{2}-\d{2}T\d{2}:\d{2}:\d{2}(?:\.\d{1,9})?Z$/` -/
def matchesPattern (s : JsString) : Bool :=
  decide ((Parts.ofText s).WellFormed) && decide ((Parts.ofText s).text = s)

def parse (s : JsString) : Option ℕ :=
  if matchesPattern s then (Parts.ofText s).time else none

/-- The fields of the text of an instant. -/
def partsOf (t : ℕ) : Parts :=
  let day := t / 86400000
  let year := yearOf day
  let dayOfYear := day - daysBeforeYear year
  let month := monthOf year dayOfYear
  { year := fixed 4 year
    month := fixed 2 month
    day := fixed 2 (dayOfYear - daysBeforeMonth year month + 1)
    hour := fixed 2 (t / 3600000 % 24)
    minute := fixed 2 (t / 60000 % 60)
    second := fixed 2 (t / 1000 % 60)
    fraction := fixed 3 (t % 1000) }

/-- `Date.prototype.toISOString`: the years from 10000 on have six digits and a sign. -/
def toISOString (t : ℕ) : JsString :=
  let year := yearOf (t / 86400000)
  if year < 10000 then (partsOf t).text
  else js "+" ++ { partsOf t with year := fixed 6 year }.text

theorem matchesPattern_iff {s : JsString} :
    matchesPattern s = true ↔ ∃ p : Parts, p.WellFormed ∧ p.text = s := by
  constructor
  · intro h
    obtain ⟨hwell, htext⟩ := Bool.and_eq_true_iff.mp h
    exact ⟨Parts.ofText s, of_decide_eq_true hwell, of_decide_eq_true htext⟩
  · rintro ⟨p, hwell, rfl⟩
    rw [matchesPattern, Parts.ofText_text hwell]
    exact Bool.and_eq_true_iff.mpr ⟨decide_eq_true hwell, decide_eq_true rfl⟩

theorem parse_text {p : Parts} (h : p.WellFormed) : parse p.text = p.time := by
  rw [parse, if_pos (matchesPattern_iff.mpr ⟨p, h, rfl⟩), Parts.ofText_text h]

theorem parse_eq_some {s : JsString} {t : ℕ} :
    parse s = some t ↔ ∃ p : Parts, p.WellFormed ∧ p.text = s ∧ p.time = some t := by
  constructor
  · intro h
    by_cases hmatches : matchesPattern s = true
    · obtain ⟨p, hwell, rfl⟩ := matchesPattern_iff.mp hmatches
      exact ⟨p, hwell, rfl, parse_text hwell ▸ h⟩
    · rw [parse, if_neg hmatches] at h
      cases h
  · rintro ⟨p, hwell, rfl, htime⟩
    rw [parse_text hwell, htime]

namespace Parts

variable {p : Parts}

theorem time_eq_some {t : ℕ} : p.time = some t ↔ p.InRange ∧ p.instant = t := by
  unfold time
  split
  · next h => simp [h]
  · next h => simp [h]

/-! ## Other spellings -/

/-- The same instant, with a digit more or less in its fraction. -/
def respelled (p : Parts) : Parts :=
  { p with
    fraction := if p.fraction.length < 9 then p.fraction ++ [0x30] else p.fraction.dropLast }

theorem milliseconds_respelled (h : p.WellFormed) : p.respelled.milliseconds = p.milliseconds := by
  obtain ⟨hle, -⟩ := h.fraction
  unfold milliseconds respelled
  dsimp only
  congr 1
  split
  · obtain ⟨year, month, day, hour, minute, second, fraction⟩ := p
    match fraction with
    | [] => rfl
    | [_] => rfl
    | [_, _] => rfl
    | _ :: _ :: _ :: _ => rfl
  · next hlong =>
      have hlast : (p.fraction.dropLast ++ js "000").take 3 = p.fraction.take 3 := by
        rw [List.take_append_of_le_length (by rw [List.length_dropLast]; omega),
          List.dropLast_eq_take, List.take_take, Nat.min_eq_left (by omega)]
      rw [hlast, List.take_append_of_le_length (by omega)]

theorem wellFormed_respelled (h : p.WellFormed) : p.respelled.WellFormed := by
  obtain ⟨hle, hdigits⟩ := h.fraction
  refine { h with fraction := ?_ }
  unfold respelled
  dsimp only
  split
  · next hshort =>
      refine ⟨by rw [List.length_append, List.length_singleton]; omega, ?_⟩
      rw [List.all_append, hdigits]
      rfl
  · refine ⟨by rw [List.length_dropLast]; omega, List.all_eq_true.mpr fun u hu => ?_⟩
    exact List.all_eq_true.mp hdigits u (List.dropLast_subset _ hu)

theorem fraction_respelled (h : digitsValue p.fraction = 0) :
    digitsValue p.respelled.fraction = 0 := by
  rw [digitsValue_eq_zero_iff] at h ⊢
  intro u hu
  unfold respelled at hu
  dsimp only at hu
  split at hu
  · rcases List.mem_append.mp hu with hu | hu
    · exact h u hu
    · rw [List.mem_singleton.mp hu]
      rfl
  · exact h u (List.dropLast_subset _ hu)

theorem time_respelled (h : p.WellFormed) {t : ℕ} (htime : p.time = some t) :
    p.respelled.time = some t := by
  obtain ⟨⟨hmonth, hlast, hday, hend, hclock⟩, rfl⟩ := time_eq_some.mp htime
  refine time_eq_some.mpr ⟨⟨hmonth, hlast, hday, hend, ?_⟩, ?_⟩
  · exact hclock.imp_right fun ⟨hhour, hminute, hsecond, hfraction⟩ =>
      ⟨hhour, hminute, hsecond, fraction_respelled hfraction⟩
  · unfold instant timeOfDay
    rw [milliseconds_respelled h]
    rfl

theorem respelled_ne (p : Parts) : p.respelled ≠ p := by
  intro heq
  have hlen := congrArg (fun q : Parts => q.fraction.length) heq
  unfold respelled at hlen
  dsimp only at hlen
  split at hlen
  · rw [List.length_append, List.length_singleton] at hlen
    omega
  · rw [List.length_dropLast] at hlen
    omega

end Parts

/-- Every instant that is written is written in another way, too. -/
theorem exists_respelled {s : JsString} {t : ℕ} (h : parse s = some t) :
    ∃ s', s' ≠ s ∧ parse s' = some t := by
  obtain ⟨p, hwell, rfl, htime⟩ := parse_eq_some.mp h
  refine ⟨p.respelled.text, fun heq => Parts.respelled_ne p ?_, ?_⟩
  · rw [← Parts.ofText_text (Parts.wellFormed_respelled hwell), heq, Parts.ofText_text hwell]
  · rw [parse_text (Parts.wellFormed_respelled hwell), Parts.time_respelled hwell htime]

/-! ## Printing -/

theorem digitsValue_lt {width : ℕ} {field : JsString} (h : Parts.IsField width field) :
    digitsValue field < 10 ^ width := by
  obtain ⟨rfl, hdigits⟩ := h
  rw [digitsValue_eq_ofDigits, ← List.length_reverse, ← List.length_map (f := unitValue)]
  refine Nat.ofDigits_lt_base_pow_length (by decide) fun d hd => ?_
  obtain ⟨u, hu, rfl⟩ := List.mem_map.mp hd
  exact (digitUnit_unitValue (List.all_eq_true.mp hdigits u (List.mem_reverse.mp hu))).1

theorem isField_fixed (width n : ℕ) : Parts.IsField width (fixed width n) :=
  ⟨length_fixed width n, isDigit_fixed width n⟩

/-- The first instant of the year 10000, which is also the end of the last day before it. -/
def yearTenThousand : ℕ := daysBeforeYear 10000 * 86400000

namespace Parts

variable {p : Parts}

theorem milliseconds_lt (h : p.WellFormed) : p.milliseconds < 1000 := by
  apply digitsValue_lt (show Parts.IsField 3 _ from ⟨?_, List.all_eq_true.mpr fun u hu => ?_⟩)
  · rw [List.length_take, List.length_append]
    change min 3 (p.fraction.length + 3) = 3
    omega
  · rcases List.mem_append.mp (List.mem_of_mem_take hu) with hu | hu
    · exact List.all_eq_true.mp h.fraction.2 u hu
    · have hzeros : (js "000").all RegExp.isDigit = true := by decide
      exact List.all_eq_true.mp hzeros u hu

theorem milliseconds_eq_zero (h : digitsValue p.fraction = 0) : p.milliseconds = 0 := by
  rw [digitsValue_eq_zero_iff] at h
  refine digitsValue_eq_zero_iff.mpr fun u hu => ?_
  rcases List.mem_append.mp (List.mem_of_mem_take hu) with hu | hu
  · exact h u hu
  · have hzeros : ((js "000").all fun u => unitValue u = 0) = true := by decide
    exact of_decide_eq_true (List.all_eq_true.mp hzeros u hu)

theorem instant_le (hwell : p.WellFormed) (h : p.InRange) : p.instant ≤ yearTenThousand := by
  obtain ⟨-, hmonth, -, hday, hclock⟩ := h
  have hyear : digitsValue p.year < 10 ^ 4 := digitsValue_lt hwell.year
  have hms := milliseconds_lt hwell
  have hclock : p.timeOfDay ≤ 86400000 := by
    unfold timeOfDay
    rcases hclock with hclock | ⟨hhour, hminute, hsecond, hfraction⟩
    · omega
    · rw [hhour, hminute, hsecond, milliseconds_eq_zero hfraction]
  have hmonths := daysBeforeMonth_add_le (digitsValue p.year) hmonth
  have hnext : daysBeforeYear (digitsValue p.year + 1) ≤ daysBeforeYear 10000 :=
    daysBeforeYear_mono (by omega)
  rw [daysBeforeYear_succ] at hnext
  have hdays : p.dayNumber + 1 ≤ daysBeforeYear 10000 := by
    unfold dayNumber
    omega
  have := Nat.mul_le_mul_right 86400000 hdays
  unfold instant yearTenThousand
  omega

end Parts

theorem parse_le {s : JsString} {t : ℕ} (h : parse s = some t) : t ≤ yearTenThousand := by
  obtain ⟨p, hwell, -, htime⟩ := parse_eq_some.mp h
  obtain ⟨hrange, rfl⟩ := Parts.time_eq_some.mp htime
  exact Parts.instant_le hwell hrange

theorem milliseconds_partsOf (t : ℕ) : (partsOf t).milliseconds = t % 1000 := by
  have htake : (fixed 3 (t % 1000) ++ js "000").take 3 = fixed 3 (t % 1000) := by
    rw [List.take_append_of_le_length (length_fixed 3 _).ge]
    exact List.take_of_length_le (length_fixed 3 _).le
  change digitsValue ((fixed 3 (t % 1000) ++ js "000").take 3) = t % 1000
  rw [htake]
  exact digitsValue_fixed (Nat.mod_lt t (by decide))

theorem wellFormed_partsOf (t : ℕ) : (partsOf t).WellFormed where
  year := isField_fixed 4 _
  month := isField_fixed 2 _
  day := isField_fixed 2 _
  hour := isField_fixed 2 _
  minute := isField_fixed 2 _
  second := isField_fixed 2 _
  fraction := ⟨by rw [partsOf, length_fixed]; decide, isDigit_fixed 3 _⟩

/-- The fields of an instant before the year 10000 give the instant back. -/
theorem time_partsOf {t : ℕ} (hlt : yearOf (t / 86400000) < 10000) :
    (partsOf t).time = some t := by
  obtain ⟨hyear, hnext⟩ := yearOf_spec (t / 86400000)
  rw [daysBeforeYear_succ] at hnext
  have hday : t / 86400000 - daysBeforeYear (yearOf (t / 86400000)) <
      365 + leapDay (yearOf (t / 86400000)) := by omega
  obtain ⟨hpos, hle, hmonth, hlast⟩ := monthOf_spec hday
  have hms := milliseconds_partsOf t
  have hy : digitsValue (partsOf t).year = yearOf (t / 86400000) := digitsValue_fixed hlt
  have hmo : digitsValue (partsOf t).month = monthOf (yearOf (t / 86400000))
      (t / 86400000 - daysBeforeYear (yearOf (t / 86400000))) :=
    digitsValue_fixed (by omega)
  have hd : digitsValue (partsOf t).day = t / 86400000 -
      daysBeforeYear (yearOf (t / 86400000)) - daysBeforeMonth (yearOf (t / 86400000))
        (monthOf (yearOf (t / 86400000))
          (t / 86400000 - daysBeforeYear (yearOf (t / 86400000)))) + 1 :=
    digitsValue_fixed (by omega)
  have hh : digitsValue (partsOf t).hour = t / 3600000 % 24 := digitsValue_fixed (by omega)
  have hmi : digitsValue (partsOf t).minute = t / 60000 % 60 := digitsValue_fixed (by omega)
  have hs : digitsValue (partsOf t).second = t / 1000 % 60 := digitsValue_fixed (by omega)
  refine Parts.time_eq_some.mpr ⟨?_, ?_⟩
  · unfold Parts.InRange
    rw [hmo, hd, hh, hmi, hs]
    omega
  · unfold Parts.instant Parts.dayNumber Parts.timeOfDay
    rw [hy, hmo, hd, hh, hmi, hs, hms]
    omega

/-- What is printed for an instant before the year 10000 is read as that instant. -/
theorem parse_toISOString {t : ℕ} (h : t < yearTenThousand) : parse (toISOString t) = some t := by
  have hday : t / 86400000 < daysBeforeYear 10000 :=
    (Nat.div_lt_iff_lt_mul (by decide)).mpr h
  have hlt : yearOf (t / 86400000) < 10000 := by
    by_contra hge
    have hle := daysBeforeYear_mono (not_lt.mp hge)
    have hspec := (yearOf_spec (t / 86400000)).1
    omega
  rw [toISOString, if_pos hlt, parse_text (wellFormed_partsOf t), time_partsOf hlt]

def yearTenThousandText : JsString := js "+010000-01-01T00:00:00.000Z"

theorem toISOString_yearTenThousand : toISOString yearTenThousand = yearTenThousandText := by
  decide

example : parse yearTenThousandText = none := by decide

theorem parse_endOfTime : parse (js "9999-12-31T24:00:00Z") = some yearTenThousand := by decide

example : parse (js "2024-01-01T24:00:00.0001Z") = none := by decide

/-! ## One spelling for each instant -/

/-- `new Date(s).toISOString()` on the texts of instants. -/
def respell (s : JsString) : JsString :=
  match parse s with
  | some t => toISOString t
  | none => s

theorem respell_of_some {s : JsString} {t : ℕ} (h : parse s = some t) :
    respell s = toISOString t := by
  rw [respell, h]

theorem respell_of_none {s : JsString} (h : parse s = none) : respell s = s := by
  rw [respell, h]

/-- The texts that no other text is respelled to are those of no instant, but for one. -/
def Settled (s : JsString) : Prop := parse s = none ∧ s ≠ yearTenThousandText

instance (s : JsString) : Decidable (Settled s) := inferInstanceAs (Decidable (_ ∧ _))

theorem Settled.respell_eq {s : JsString} (h : Settled s) : respell s = s := respell_of_none h.1

theorem Settled.eq_of_respell_eq {s s' : JsString} (h : Settled s) (heq : respell s' = s) :
    s' = s := by
  obtain ⟨hnone, hne⟩ := h
  cases hparse : parse s' with
  | none => rwa [respell_of_none hparse] at heq
  | some t =>
      rw [respell_of_some hparse] at heq
      rcases Nat.lt_or_eq_of_le (parse_le hparse) with hlt | rfl
      · rw [← heq, parse_toISOString hlt] at hnone
        cases hnone
      · rw [toISOString_yearTenThousand] at heq
        exact absurd heq.symm hne

/-- A text that is not settled is what an instant with another text is respelled to. -/
theorem exists_respell_eq {s : JsString} (h : ¬ Settled s) :
    ∃ s', s' ≠ s ∧ respell s' = respell s ∧ ∃ t, parse s' = some t := by
  cases hparse : parse s with
  | some t =>
      obtain ⟨s', hne, hparse'⟩ := exists_respelled hparse
      exact ⟨s', hne, by rw [respell_of_some hparse', respell_of_some hparse], t, hparse'⟩
  | none =>
      obtain rfl : s = yearTenThousandText := by
        by_contra hne
        exact h ⟨hparse, hne⟩
      refine ⟨js "9999-12-31T24:00:00Z", by decide, ?_, yearTenThousand, parse_endOfTime⟩
      rw [respell_of_some parse_endOfTime, respell_of_none hparse, toISOString_yearTenThousand]

/-- A text with no white space at either end. -/
theorem trim_eq_self {u v : UInt16} {s : JsString} (hu : isWhitespace u = false)
    (hv : isWhitespace v = false) : trim (u :: (s ++ [v])) = u :: (s ++ [v]) := by
  have hfirst : (u :: (s ++ [v])).dropWhile isWhitespace = u :: (s ++ [v]) := by
    rw [List.dropWhile_cons_of_neg (by rw [hu]; decide)]
  have hlast : (v :: (s.reverse ++ [u])).dropWhile isWhitespace = v :: (s.reverse ++ [u]) := by
    rw [List.dropWhile_cons_of_neg (by rw [hv]; decide)]
  have hreverse : (u :: (s ++ [v])).reverse = v :: (s.reverse ++ [u]) := by simp
  rw [trim, hfirst, hreverse, hlast, ← hreverse, List.reverse_reverse]

theorem isWhitespace_digit {u : UInt16} (h : RegExp.isDigit u = true) : isWhitespace u = false := by
  obtain ⟨hlt, hu⟩ := digitUnit_unitValue h
  rw [← hu]
  generalize unitValue u = d at hlt
  interval_cases d <;> rfl

/-- The text of an instant begins with a digit and ends with the zone. -/
theorem trim_of_parse {s : JsString} {t : ℕ} (h : parse s = some t) : trim s = s ∧ s ≠ [] := by
  obtain ⟨p, hwell, rfl, -⟩ := parse_eq_some.mp h
  obtain ⟨hlen, hdigits⟩ := hwell.year
  obtain ⟨y₁, y₂, y₃, y₄, hyear⟩ := List.length_eq_four.mp hlen
  have hdigit : RegExp.isDigit y₁ = true := by
    rw [hyear] at hdigits
    exact List.all_eq_true.mp hdigits y₁ List.mem_cons_self
  have htext : ∃ rest, p.text = y₁ :: (rest ++ [0x5A]) := by
    refine ⟨y₂ :: y₃ :: y₄ :: Parts.hyphen :: (p.month ++ Parts.hyphen :: (p.day ++ 0x54 ::
      (p.hour ++ Parts.colon :: (p.minute ++ Parts.colon :: (p.second ++
        if p.fraction = [] then [] else Parts.point :: p.fraction))))), ?_⟩
    simp [Parts.text, Parts.ending, hyear]
  obtain ⟨rest, htext⟩ := htext
  rw [htext]
  exact ⟨trim_eq_self (isWhitespace_digit hdigit) rfl, List.cons_ne_nil _ _⟩

/-- The text of an instant has 30 units at most. -/
theorem length_of_parse {s : JsString} {t : ℕ} (h : parse s = some t) : s.length ≤ 30 := by
  obtain ⟨p, hwell, rfl, -⟩ := parse_eq_some.mp h
  have hending : p.ending.length ≤ 11 := by
    unfold Parts.ending
    have hfraction := hwell.fraction.1
    split
    · decide
    · rw [List.length_append, List.length_cons]
      exact Nat.succ_le_succ (Nat.succ_le_succ hfraction)
  simp only [Parts.text, List.length_append, List.length_cons, hwell.year.1, hwell.month.1,
    hwell.day.1, hwell.hour.1, hwell.minute.1, hwell.second.1]
  omega

theorem settled_of_length {s : JsString} (h : 30 < s.length) : Settled s := by
  refine ⟨?_, ?_⟩
  · rw [Option.eq_none_iff_forall_ne_some]
    intro t ht
    exact absurd (length_of_parse ht) (not_le.mpr h)
  · rintro rfl
    exact absurd h (by decide)

end JsDate
