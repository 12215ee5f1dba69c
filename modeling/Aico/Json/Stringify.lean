import Aico.Json.Value

/-!
# `JSON.stringify`

`stringify` prints a value without white space. A string is quoted unit by
unit: the quote, the backslash, the control units and the lone surrogates are
escaped, everything else stands for itself.

Printing is injective. For strings the reason is a reader, `unescape`, that
undoes `escape` up to the closing quote; for values it is
`stringify_append_inj`, an induction on the value which shows that the text of
a value followed by a separator can be read in one way only.
-/

namespace JsString

def quote : UInt16 := 0x22
def backslash : UInt16 := 0x5C

/-- The escape sequence with four hexadecimal digits. -/
def unicodeEscape (u : UInt16) : JsString :=
  let v := u.toNat
  [backslash, 0x75, hexUnit (v / 4096), hexUnit (v / 256 % 16),
    hexUnit (v / 16 % 16), hexUnit (v % 16)]

/-- The text of a unit that is not half of a surrogate pair. -/
def escapeUnit (u : UInt16) : JsString :=
  if u = quote then [backslash, quote]
  else if u = backslash then [backslash, backslash]
  else if u = 0x08 then [backslash, 0x62]
  else if u = 0x09 then [backslash, 0x74]
  else if u = 0x0A then [backslash, 0x6E]
  else if u = 0x0C then [backslash, 0x66]
  else if u = 0x0D then [backslash, 0x72]
  else if u < 0x20 ∨ isHighSurrogate u ∨ isLowSurrogate u then unicodeEscape u
  else [u]

/-- The text of a string between its quotes. A surrogate pair stands for
itself. -/
def escape : JsString → JsString
  | [] => []
  | [u] => escapeUnit u
  | u :: v :: rest =>
      if isHighSurrogate u ∧ isLowSurrogate v then u :: v :: escape rest
      else escapeUnit u ++ escape (v :: rest)

def hexValue (u : UInt16) : ℕ :=
  if u.toNat < 0x40 then u.toNat - 0x30 else u.toNat - 0x57

def shortEscape (u : UInt16) : UInt16 :=
  if u = 0x62 then 0x08 else if u = 0x74 then 0x09 else if u = 0x6E then 0x0A
  else if u = 0x66 then 0x0C else if u = 0x72 then 0x0D else u

def unescape : JsString → Option (JsString × JsString)
  | [] => none
  | u :: rest =>
      if u = quote then some ([], rest)
      else if u = backslash then
        match rest with
        | [] => none
        | k :: rest' =>
            if k = 0x75 then
              match rest' with
              | a :: b :: c :: d :: tail =>
                  (unescape tail).map fun r =>
                    (UInt16.ofNat (4096 * hexValue a + 256 * hexValue b +
                      16 * hexValue c + hexValue d) :: r.1, r.2)
              | _ => none
            else (unescape rest').map fun r => (shortEscape k :: r.1, r.2)
      else (unescape rest).map fun r => (u :: r.1, r.2)

theorem hexValue_hexUnit {d : ℕ} (h : d < 16) : hexValue (hexUnit d) = d := by
  interval_cases d <;> decide

theorem unescape_plain {u : UInt16} (hq : u ≠ quote) (hb : u ≠ backslash)
    (rest : JsString) :
    unescape (u :: rest) = (unescape rest).map fun r => (u :: r.1, r.2) := by
  rw [unescape.eq_def]
  simp [hq, hb]

theorem unescape_unicodeEscape (u : UInt16) (rest : JsString) :
    unescape (unicodeEscape u ++ rest) =
      (unescape rest).map fun r => (u :: r.1, r.2) := by
  have hlt := u.toNat_lt
  have hval : UInt16.ofNat (4096 * (u.toNat / 4096) + 256 * (u.toNat / 256 % 16) +
      16 * (u.toNat / 16 % 16) + u.toNat % 16) = u := by
    apply UInt16.toNat_inj.mp
    rw [UInt16.toNat_ofNat']
    omega
  simp only [unicodeEscape, List.cons_append, List.nil_append]
  rw [unescape.eq_def]
  simp only [show backslash ≠ quote by decide, if_false, if_true]
  rw [hexValue_hexUnit (by omega), hexValue_hexUnit (by omega),
    hexValue_hexUnit (by omega), hexValue_hexUnit (by omega), hval]

/-- One unit of the string is read back from its text. -/
theorem unescape_escapeUnit (u : UInt16) (rest : JsString) :
    unescape (escapeUnit u ++ rest) =
      (unescape rest).map fun r => (u :: r.1, r.2) := by
  unfold escapeUnit
  split_ifs with h1 h2 h3 h4 h5 h6 h7 h8
  case pos => subst h1; rw [List.cons_append, unescape.eq_def]; rfl
  case pos => subst h2; rw [List.cons_append, unescape.eq_def]; rfl
  case pos => subst h3; rw [List.cons_append, unescape.eq_def]; rfl
  case pos => subst h4; rw [List.cons_append, unescape.eq_def]; rfl
  case pos => subst h5; rw [List.cons_append, unescape.eq_def]; rfl
  case pos => subst h6; rw [List.cons_append, unescape.eq_def]; rfl
  case pos => subst h7; rw [List.cons_append, unescape.eq_def]; rfl
  case pos => exact unescape_unicodeEscape u rest
  case neg => exact unescape_plain h1 h2 rest

theorem ne_quote_of_surrogate {u : UInt16}
    (h : isHighSurrogate u = true ∨ isLowSurrogate u = true) :
    u ≠ quote ∧ u ≠ backslash := by
  constructor
  · rintro rfl
    revert h
    decide
  · rintro rfl
    revert h
    decide

/-- The reader undoes the printer. -/
theorem unescape_escape (s rest : JsString) :
    unescape (escape s ++ quote :: rest) = some (s, rest) := by
  induction s using escape.induct with
  | case1 => rw [escape, List.nil_append, unescape.eq_def]; simp
  | case2 u =>
      rw [escape, unescape_escapeUnit, unescape.eq_def]
      simp
  | case3 u v tail h ih =>
      have hu := ne_quote_of_surrogate (u := u) (.inl h.1)
      have hv := ne_quote_of_surrogate (u := v) (.inr h.2)
      rw [escape, if_pos h, List.cons_append, List.cons_append,
        unescape_plain hu.1 hu.2, unescape_plain hv.1 hv.2, ih]
      rfl
  | case4 u v tail h ih =>
      rw [escape, if_neg h, List.append_assoc, unescape_escapeUnit, ih]
      rfl

end JsString

namespace Json

open JsString

def quoted (s : JsString) : JsString :=
  quote :: (escape s ++ [quote])

mutual

/-- `JSON.stringify` of a value. -/
def stringify : Json → JsString
  | .null => js "null"
  | .bool true => js "true"
  | .bool false => js "false"
  | .num n => n.text
  | .str s => quoted s
  | .arr elements => 0x5B :: stringifyElements elements ++ [0x5D]
  | .obj entries => 0x7B :: stringifyEntries entries ++ [0x7D]

def stringifyElements : List Json → JsString
  | [] => []
  | v :: rest => stringify v ++ stringifyMoreElements rest

def stringifyMoreElements : List Json → JsString
  | [] => []
  | v :: rest => 0x2C :: stringify v ++ stringifyMoreElements rest

def stringifyEntries : List (JsString × Json) → JsString
  | [] => []
  | (k, v) :: rest => quoted k ++ 0x3A :: stringify v ++ stringifyMoreEntries rest

def stringifyMoreEntries : List (JsString × Json) → JsString
  | [] => []
  | (k, v) :: rest =>
      0x2C :: quoted k ++ 0x3A :: stringify v ++ stringifyMoreEntries rest

end

theorem quoted_append_inj {s t x y : JsString}
    (h : quoted s ++ x = quoted t ++ y) : s = t ∧ x = y := by
  simp only [quoted, List.cons_append, List.append_assoc, List.nil_append,
    List.cons.injEq, true_and] at h
  have hs := unescape_escape s x
  rw [h, unescape_escape] at hs
  simpa [eq_comm] using hs

/-- The text does not continue a number. -/
def Stops (x : JsString) : Prop :=
  ∀ u ∈ x.head?, JsString.isNumberUnit u = false

theorem stops_cons {u : UInt16} (h : JsString.isNumberUnit u = false) (x : JsString) :
    Stops (u :: x) := by
  intro u' hu'
  rw [List.head?_cons, Option.mem_some_iff] at hu'
  exact hu' ▸ h

theorem number_append_inj {m n : JsNumber} {x y : JsString} (hx : Stops x)
    (hy : Stops y) (h : m.text ++ x = n.text ++ y) : m = n ∧ x = y := by
  have hread : ∀ (k : JsNumber) (z : JsString), Stops z →
      (k.text ++ z).takeWhile JsString.isNumberUnit = k.text := by
    intro k z hz
    rw [List.takeWhile_append_of_pos k.isNumberUnit]
    cases z with
    | nil => simp
    | cons u z =>
        have hu : JsString.isNumberUnit u = false := hz u rfl
        simp [hu]
  have htext : m.text = n.text := by
    rw [← hread m x hx, ← hread n y hy, h]
  rw [htext] at h
  exact ⟨JsNumber.ext htext, List.append_cancel_left h⟩

/-- The first unit of a text says what kind of value follows. -/
theorem stringify_num_cons (n : JsNumber) :
    ∃ u t, stringify (.num n) = u :: t ∧ JsString.isNumberUnit u = true := by
  rw [stringify]
  cases h : n.text with
  | nil => exact absurd h n.ne_nil
  | cons u t => exact ⟨u, t, rfl, n.isNumberUnit u (by rw [h]; exact List.mem_cons_self)⟩

theorem stringify_eq_cons (v : Json) :
    ∃ u t, stringify v = u :: t ∧ u ≠ 0x5D := by
  cases v with
  | null => exact ⟨0x6E, _, rfl, by decide⟩
  | bool b => cases b <;> exact ⟨_, _, rfl, by decide⟩
  | num n =>
      obtain ⟨u, t, h, hu⟩ := stringify_num_cons n
      refine ⟨u, t, h, ?_⟩
      rintro rfl
      exact absurd hu (by decide)
  | str s => exact ⟨quote, _, by rw [stringify, quoted], by decide⟩
  | arr elements => exact ⟨0x5B, _, by rw [stringify, List.cons_append], by decide⟩
  | obj entries => exact ⟨0x7B, _, by rw [stringify, List.cons_append], by decide⟩

/-- A value whose text, in front of a stop, is read in one way only. -/
def ReadsBack (v : Json) : Prop :=
  ∀ (w : Json) (x y : JsString), Stops x → Stops y →
    stringify v ++ x = stringify w ++ y → v = w ∧ x = y

theorem stops_moreElements (elements : List Json) (x : JsString) :
    Stops (stringifyMoreElements elements ++ 0x5D :: x) := by
  cases elements with
  | nil => exact stops_cons (by decide) _
  | cons v rest =>
      rw [stringifyMoreElements, List.cons_append, List.cons_append]
      exact stops_cons (by decide) _

theorem stops_moreEntries (entries : List (JsString × Json)) (x : JsString) :
    Stops (stringifyMoreEntries entries ++ 0x7D :: x) := by
  cases entries with
  | nil => exact stops_cons (by decide) _
  | cons e rest =>
      rw [stringifyMoreEntries]
      simp only [List.cons_append]
      exact stops_cons (by decide) _

theorem moreElements_append_inj :
    ∀ {es fs : List Json} {x y : JsString}, (∀ v ∈ es, ReadsBack v) →
      stringifyMoreElements es ++ 0x5D :: x = stringifyMoreElements fs ++ 0x5D :: y →
      es = fs ∧ x = y
  | [], [], x, y, _, h => by simpa [stringifyMoreElements] using h
  | [], w :: fs, x, y, _, h => by simp [stringifyMoreElements] at h
  | v :: es, [], x, y, _, h => by simp [stringifyMoreElements] at h
  | v :: es, w :: fs, x, y, hes, h => by
      simp only [stringifyMoreElements, List.cons_append, List.append_assoc,
        List.cons.injEq, true_and] at h
      obtain ⟨rfl, hrest⟩ := hes v List.mem_cons_self w _ _
        (stops_moreElements es x) (stops_moreElements fs y) h
      obtain ⟨rfl, hxy⟩ := moreElements_append_inj
        (fun v hv => hes v (List.mem_cons_of_mem _ hv)) hrest
      exact ⟨rfl, hxy⟩

theorem elements_append_inj {es fs : List Json} {x y : JsString}
    (hes : ∀ v ∈ es, ReadsBack v)
    (h : stringifyElements es ++ 0x5D :: x = stringifyElements fs ++ 0x5D :: y) :
    es = fs ∧ x = y := by
  cases es with
  | nil =>
      cases fs with
      | nil => simpa [stringifyElements] using h
      | cons w fs =>
          obtain ⟨u, t, hw, hu⟩ := stringify_eq_cons w
          simp only [stringifyElements, hw, List.nil_append, List.cons_append,
            List.cons.injEq] at h
          exact absurd h.1.symm hu
  | cons v es =>
      cases fs with
      | nil =>
          obtain ⟨u, t, hv, hu⟩ := stringify_eq_cons v
          simp only [stringifyElements, hv, List.nil_append, List.cons_append,
            List.cons.injEq] at h
          exact absurd h.1 hu
      | cons w fs =>
          simp only [stringifyElements, List.append_assoc] at h
          obtain ⟨rfl, hrest⟩ := hes v List.mem_cons_self w _ _
            (stops_moreElements es x) (stops_moreElements fs y) h
          obtain ⟨rfl, hxy⟩ := moreElements_append_inj
            (fun v hv => hes v (List.mem_cons_of_mem _ hv)) hrest
          exact ⟨rfl, hxy⟩

theorem moreEntries_append_inj :
    ∀ {es fs : List (JsString × Json)} {x y : JsString},
      (∀ e ∈ es, ReadsBack e.2) →
      stringifyMoreEntries es ++ 0x7D :: x = stringifyMoreEntries fs ++ 0x7D :: y →
      es = fs ∧ x = y
  | [], [], x, y, _, h => by simpa [stringifyMoreEntries] using h
  | [], (l, w) :: fs, x, y, _, h => by simp [stringifyMoreEntries] at h
  | (k, v) :: es, [], x, y, _, h => by simp [stringifyMoreEntries] at h
  | (k, v) :: es, (l, w) :: fs, x, y, hes, h => by
      simp only [stringifyMoreEntries, List.cons_append, List.append_assoc,
        List.cons.injEq, true_and] at h
      obtain ⟨rfl, hvalue⟩ := quoted_append_inj h
      obtain ⟨rfl, hrest⟩ := hes (k, v) List.mem_cons_self w _ _
        (stops_moreEntries es x) (stops_moreEntries fs y) (List.cons.inj hvalue).2
      obtain ⟨rfl, hxy⟩ := moreEntries_append_inj
        (fun e he => hes e (List.mem_cons_of_mem _ he)) hrest
      exact ⟨rfl, hxy⟩

theorem entries_append_inj {es fs : List (JsString × Json)} {x y : JsString}
    (hes : ∀ e ∈ es, ReadsBack e.2)
    (h : stringifyEntries es ++ 0x7D :: x = stringifyEntries fs ++ 0x7D :: y) :
    es = fs ∧ x = y := by
  have hquote : (0x7D : UInt16) ≠ quote := by decide
  cases es with
  | nil =>
      cases fs with
      | nil => simpa [stringifyEntries] using h
      | cons f fs =>
          simp only [stringifyEntries, quoted, List.nil_append, List.cons_append,
            List.cons.injEq] at h
          exact absurd h.1 hquote
  | cons e es =>
      cases fs with
      | nil =>
          simp only [stringifyEntries, quoted, List.nil_append, List.cons_append,
            List.cons.injEq] at h
          exact absurd h.1.symm hquote
      | cons f fs =>
          obtain ⟨k, v⟩ := e
          obtain ⟨l, w⟩ := f
          simp only [stringifyEntries, List.cons_append, List.append_assoc] at h
          obtain ⟨rfl, hvalue⟩ := quoted_append_inj h
          obtain ⟨rfl, hrest⟩ := hes (k, v) List.mem_cons_self w _ _
            (stops_moreEntries es x) (stops_moreEntries fs y) (List.cons.inj hvalue).2
          obtain ⟨rfl, hxy⟩ := moreEntries_append_inj
            (fun e he => hes e (List.mem_cons_of_mem _ he)) hrest
          exact ⟨rfl, hxy⟩

/-- A text that starts with no number unit is not the text of a number. -/
theorem num_absurd {n : JsNumber} {x t : JsString} {u : UInt16}
    (hu : JsString.isNumberUnit u = false) (h : stringify (.num n) ++ x = u :: t) :
    False := by
  obtain ⟨c, r, hn, hc⟩ := stringify_num_cons n
  rw [hn, List.cons_append] at h
  rw [(List.cons.inj h).1, hu] at hc
  exact absurd hc (by decide)

/-- Every value is read back from its text: two kinds of value never start with
the same unit, and within one kind the parts are read back in turn. -/
theorem readsBack (v : Json) : ReadsBack v := by
  induction v using Json.induct with
  | null =>
      intro w x y _ _ h
      cases w with
      | null => exact ⟨rfl, List.append_cancel_left h⟩
      | num n => exact (num_absurd (by decide) h.symm).elim
      | bool b => cases b <;> exact absurd (List.cons.inj h).1 (by decide)
      | str s => exact absurd (List.cons.inj h).1 (by decide)
      | arr fs => exact absurd (List.cons.inj h).1 (by decide)
      | obj fs => exact absurd (List.cons.inj h).1 (by decide)
  | bool b =>
      intro w x y _ _ h
      cases w with
      | null => cases b <;> exact absurd (List.cons.inj h).1 (by decide)
      | num n => cases b <;> exact (num_absurd (by decide) h.symm).elim
      | bool c =>
          cases b <;> cases c
          · exact ⟨rfl, List.append_cancel_left h⟩
          · exact absurd (List.cons.inj h).1 (by decide)
          · exact absurd (List.cons.inj h).1 (by decide)
          · exact ⟨rfl, List.append_cancel_left h⟩
      | str s => cases b <;> exact absurd (List.cons.inj h).1 (by decide)
      | arr fs => cases b <;> exact absurd (List.cons.inj h).1 (by decide)
      | obj fs => cases b <;> exact absurd (List.cons.inj h).1 (by decide)
  | num m =>
      intro w x y hx hy h
      cases w with
      | null => exact (num_absurd (by decide) h).elim
      | num n =>
          obtain ⟨rfl, hxy⟩ := number_append_inj hx hy h
          exact ⟨rfl, hxy⟩
      | bool b => cases b <;> exact (num_absurd (by decide) h).elim
      | str s => exact (num_absurd (by decide) h).elim
      | arr fs => exact (num_absurd (by decide) h).elim
      | obj fs => exact (num_absurd (by decide) h).elim
  | str s =>
      intro w x y _ _ h
      cases w with
      | null => exact absurd (List.cons.inj h).1 (by decide)
      | num n => exact (num_absurd (by decide) h.symm).elim
      | bool b => cases b <;> exact absurd (List.cons.inj h).1 (by decide)
      | str t =>
          obtain ⟨rfl, hxy⟩ := quoted_append_inj h
          exact ⟨rfl, hxy⟩
      | arr fs => exact absurd (List.cons.inj h).1 (by decide)
      | obj fs => exact absurd (List.cons.inj h).1 (by decide)
  | arr es ih =>
      intro w x y _ _ h
      cases w with
      | null => exact absurd (List.cons.inj h).1 (by decide)
      | num n => exact (num_absurd (by decide) h.symm).elim
      | bool b => cases b <;> exact absurd (List.cons.inj h).1 (by decide)
      | str t => exact absurd (List.cons.inj h).1 (by decide)
      | arr fs =>
          simp only [stringify, List.cons_append, List.append_assoc,
            List.nil_append, List.cons.injEq, true_and] at h
          obtain ⟨rfl, hxy⟩ := elements_append_inj ih h
          exact ⟨rfl, hxy⟩
      | obj fs => exact absurd (List.cons.inj h).1 (by decide)
  | obj es ih =>
      intro w x y _ _ h
      cases w with
      | null => exact absurd (List.cons.inj h).1 (by decide)
      | num n => exact (num_absurd (by decide) h.symm).elim
      | bool b => cases b <;> exact absurd (List.cons.inj h).1 (by decide)
      | str t => exact absurd (List.cons.inj h).1 (by decide)
      | arr fs => exact absurd (List.cons.inj h).1 (by decide)
      | obj fs =>
          simp only [stringify, List.cons_append, List.append_assoc,
            List.nil_append, List.cons.injEq, true_and] at h
          obtain ⟨rfl, hxy⟩ := entries_append_inj ih h
          exact ⟨rfl, hxy⟩

/-- `JSON.stringify` prints different values differently. -/
theorem stringify_injective : Function.Injective stringify := by
  intro v w h
  have hstop : Stops [] := by
    intro u hu
    simp at hu
  exact (readsBack v w [] [] hstop hstop (by rw [h])).1

end Json
