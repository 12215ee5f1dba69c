import Mathlib.Data.List.DropRight
import Mathlib.Data.List.TakeWhile
import Mathlib.Data.Nat.Digits.Defs
import Mathlib.Data.Nat.Digits.Lemmas

/-!
# JavaScript strings

A JavaScript string is a sequence of UTF-16 code units, so `JsString` is a list
of them; a lone surrogate is an ordinary element. `js` writes a string literal
in that form. `decimal n` is the text JavaScript prints for the integer `n`,
and `hexUnit` is one lowercase hexadecimal digit.
-/

/-- A JavaScript string, as its UTF-16 code units. -/
abbrev JsString := List UInt16

instance : LawfulBEq JsString := inferInstance

namespace JsString

/-- The code units of one character: two of them above the basic plane. -/
def utf16 (c : Char) : JsString :=
  let v := c.toNat
  if v < 0x10000 then [UInt16.ofNat v]
  else [UInt16.ofNat (0xD800 + (v - 0x10000) / 0x400),
    UInt16.ofNat (0xDC00 + (v - 0x10000) % 0x400)]

end JsString

/-- The code units of a well-formed string. Those of an ASCII string are its bytes, which the
kernel reads much faster than its characters. -/
def js (s : String) : JsString :=
  let bytes := s.toByteArray.data.toList
  if bytes.all fun b => b.toNat < 0x80 then bytes.map UInt8.toUInt16
  else s.toList.flatMap JsString.utf16

/-- Only an ASCII character has no byte from 0x80 on. -/
theorem toNat_le_of_utf8EncodeChar {c : Char}
    (h : ∀ b ∈ String.utf8EncodeChar c, b.toNat < 0x80) : c.toNat ≤ 0x7F := by
  by_contra hc
  have hc' : ¬ c.val.toNat ≤ 0x7F := hc
  unfold String.utf8EncodeChar at h
  simp only [hc', if_false] at h
  split at h
  case isTrue =>
    have hfirst := h _ List.mem_cons_self
    rw [UInt8.toNat_ofNat'] at hfirst
    omega
  case isFalse =>
    split at h
    all_goals
      have hfirst := h _ List.mem_cons_self
      rw [UInt8.toNat_ofNat'] at hfirst
      omega

theorem map_utf8EncodeChar {c : Char} (h : ∀ b ∈ String.utf8EncodeChar c, b.toNat < 0x80) :
    (String.utf8EncodeChar c).map UInt8.toUInt16 = JsString.utf16 c := by
  have hc := toNat_le_of_utf8EncodeChar h
  have hbytes : String.utf8EncodeChar c = [UInt8.ofNat c.toNat] := if_pos hc
  have hunits : JsString.utf16 c = [UInt16.ofNat c.toNat] := if_pos (by omega)
  have hunit : (UInt8.ofNat c.toNat).toUInt16 = UInt16.ofNat c.toNat := by
    apply UInt16.toNat_inj.mp
    rw [UInt8.toNat_toUInt16, UInt8.toNat_ofNat', UInt16.toNat_ofNat']
    omega
  rw [hbytes, hunits, List.map_singleton, hunit]

theorem js_eq (s : String) : js s = s.toList.flatMap JsString.utf16 := by
  have hbytes : s.toByteArray.data.toList = s.toList.flatMap String.utf8EncodeChar := by
    rw [← String.utf8Encode_toList, List.utf8Encode, List.toList_data_toByteArray]
  unfold js
  dsimp only
  rw [hbytes]
  split
  case isFalse => rfl
  case isTrue h =>
    rw [List.all_eq_true] at h
    rw [List.map_flatMap]
    refine List.flatMap_congr fun c hc => map_utf8EncodeChar fun b hb => ?_
    exact of_decide_eq_true (h b (List.mem_flatMap.mpr ⟨c, hc, hb⟩))

namespace JsString

/-- Whether the unit opens a surrogate pair. -/
def isHighSurrogate (u : UInt16) : Bool := 0xD800 ≤ u && u < 0xDC00

/-- Whether the unit closes a surrogate pair. -/
def isLowSurrogate (u : UInt16) : Bool := 0xDC00 ≤ u && u < 0xE000

/-- The number of characters of a string, as the database counts them. -/
def charLength : JsString → ℕ
  | [] => 0
  | [_] => 1
  | u :: v :: rest =>
      if isHighSurrogate u ∧ isLowSurrogate v then charLength rest + 1
      else charLength (v :: rest) + 1

/-- Whether the database stores the string in a document: it has no null character, and its
surrogates come in pairs. -/
def isStorable : JsString → Bool
  | [] => true
  | [u] => u ≠ 0 && !isHighSurrogate u && !isLowSurrogate u
  | u :: v :: rest =>
      if isHighSurrogate u then isLowSurrogate v && isStorable rest
      else u ≠ 0 && !isLowSurrogate u && isStorable (v :: rest)

def isWhitespace (u : UInt16) : Bool :=
  (0x09 ≤ u && u ≤ 0x0D) || u = 0x20 || u = 0xA0 || u = 0x1680 ||
    (0x2000 ≤ u && u ≤ 0x200A) || u = 0x2028 || u = 0x2029 || u = 0x202F ||
    u = 0x205F || u = 0x3000 || u = 0xFEFF

def trim (s : JsString) : JsString :=
  ((s.dropWhile isWhitespace).reverse.dropWhile isWhitespace).reverse

theorem trim_eq (s : JsString) :
    trim s = (s.dropWhile isWhitespace).rdropWhile isWhitespace := rfl

/-- A trimmed text is trimmed already. -/
theorem trim_trim (s : JsString) : trim (trim s) = trim s := by
  have hopening : (trim s).dropWhile isWhitespace = trim s := by
    rcases hs : trim s with _ | ⟨u, rest⟩
    · rfl
    · obtain ⟨tail, htail⟩ : trim s <+: s.dropWhile isWhitespace :=
        List.rdropWhile_prefix _ _
      have hu := List.head?_dropWhile_not isWhitespace s
      rw [← htail, hs] at hu
      exact List.dropWhile_cons_of_neg (by simpa using hu)
  rw [trim_eq (trim s), hopening]
  exact List.rdropWhile_idempotent _ _

/-- The digit `d < 10` as a code unit. -/
def digitUnit (d : ℕ) : UInt16 := UInt16.ofNat (0x30 + d)

/-- The digit `d < 16` as a code unit, in lower case. -/
def hexUnit (d : ℕ) : UInt16 :=
  if d < 10 then digitUnit d else UInt16.ofNat (0x57 + d)

def decimal (n : ℕ) : JsString :=
  if n = 0 then [digitUnit 0] else ((Nat.digits 10 n).map digitUnit).reverse

theorem digitUnit_inj {d d' : ℕ} (hd : d < 10) (hd' : d' < 10)
    (h : digitUnit d = digitUnit d') : d = d' := by
  have hval := congrArg UInt16.toNat h
  simp only [digitUnit, UInt16.toNat_ofNat'] at hval
  omega

theorem hexUnit_inj {d d' : ℕ} (hd : d < 16) (hd' : d' < 16)
    (h : hexUnit d = hexUnit d') : d = d' := by
  have hval := congrArg UInt16.toNat h
  unfold hexUnit digitUnit at hval
  split at hval <;> split at hval <;>
    simp only [UInt16.toNat_ofNat'] at hval <;> omega

/-- A map that is injective on the elements in play is injective on lists of
them. -/
theorem map_inj_on {α β : Type*} {f : α → β} {p : α → Prop}
    (hf : ∀ a b, p a → p b → f a = f b → a = b) :
    ∀ {l l' : List α}, (∀ a ∈ l, p a) → (∀ a ∈ l', p a) →
      l.map f = l'.map f → l = l'
  | [], [], _, _, _ => rfl
  | [], b :: l', _, _, h => by simp at h
  | a :: l, [], _, _, h => by simp at h
  | a :: l, b :: l', hl, hl', h => by
      rw [List.map_cons, List.map_cons, List.cons.injEq] at h
      have hhead : a = b :=
        hf a b (hl a List.mem_cons_self) (hl' b List.mem_cons_self) h.1
      have htail : l = l' := map_inj_on hf
        (fun x hx => hl x (List.mem_cons_of_mem _ hx))
        (fun x hx => hl' x (List.mem_cons_of_mem _ hx)) h.2
      rw [hhead, htail]

/-- Two texts that end before the same separator are the same. -/
theorem append_cons_inj {sep : UInt16} : ∀ {s s' t t' : JsString}, sep ∉ s → sep ∉ s' →
    s ++ sep :: t = s' ++ sep :: t' → s = s' ∧ t = t'
  | [], [], t, t', _, _, h => by simpa using h
  | [], u :: s', t, t', _, hs', h => by
      rw [List.nil_append, List.cons_append, List.cons.injEq] at h
      exact absurd (h.1 ▸ List.mem_cons_self) hs'
  | u :: s, [], t, t', hs, _, h => by
      rw [List.nil_append, List.cons_append, List.cons.injEq] at h
      exact absurd (h.1 ▸ List.mem_cons_self) hs
  | u :: s, u' :: s', t, t', hs, hs', h => by
      rw [List.cons_append, List.cons_append, List.cons.injEq] at h
      have htail := append_cons_inj (fun hmem => hs (List.mem_cons_of_mem _ hmem))
        (fun hmem => hs' (List.mem_cons_of_mem _ hmem)) h.2
      exact ⟨by rw [h.1, htail.1], htail.2⟩

theorem decimal_ne_nil (n : ℕ) : decimal n ≠ [] := by
  unfold decimal
  by_cases h : n = 0
  · simp [h]
  · simpa [h] using Nat.digits_ne_nil_iff_ne_zero.mpr h

theorem mem_decimal {n : ℕ} {u : UInt16} (h : u ∈ decimal n) :
    ∃ d < 10, u = digitUnit d := by
  unfold decimal at h
  split at h
  · exact ⟨0, by omega, List.mem_singleton.mp h⟩
  · obtain ⟨d, hd, rfl⟩ := List.mem_map.mp (List.mem_reverse.mp h)
    exact ⟨d, Nat.digits_lt_base (by omega) hd, rfl⟩

theorem decimal_injective : Function.Injective decimal := by
  intro m n h
  have hdigits : ∀ k d, d ∈ Nat.digits 10 k → d < 10 :=
    fun k d hd => Nat.digits_lt_base (by omega) hd
  have hlead : ∀ k, k ≠ 0 →
      ((Nat.digits 10 k).map digitUnit).reverse ≠ [digitUnit 0] := by
    intro k hk heq
    have hmap : (Nat.digits 10 k).map digitUnit = [0].map digitUnit := by
      simpa using congrArg List.reverse heq
    have hzero := map_inj_on (p := (· < 10)) (fun a b => digitUnit_inj)
      (hdigits k) (by simp) hmap
    have hk' := Nat.ofDigits_digits 10 k
    rw [hzero] at hk'
    exact hk (by simpa using hk'.symm)
  unfold decimal at h
  split at h <;> split at h
  · omega
  · exact absurd h.symm (hlead n ‹_›)
  · exact absurd h (hlead m ‹_›)
  · have hmap := List.reverse_injective h
    have := map_inj_on (p := (· < 10)) (fun a b => digitUnit_inj)
      (hdigits m) (hdigits n) hmap
    exact Nat.digits_inj_iff.mp this

/-- The units of a character determine it, also where more units follow. -/
theorem utf16_append_inj {c d : Char} {s t : JsString} (h : utf16 c ++ s = utf16 d ++ t) :
    c = d ∧ s = t := by
  have hc : c.toNat.isValidChar := c.valid
  have hd : d.toNat.isValidChar := d.valid
  unfold utf16 at h
  rw [← Char.toNat_inj]
  by_cases hlc : c.toNat < 0x10000 <;> by_cases hld : d.toNat < 0x10000 <;>
    simp only [hlc, hld, if_true, if_false, List.cons_append, List.nil_append, List.cons.injEq,
      ← UInt16.toNat_inj, UInt16.toNat_ofNat'] at h
  · exact ⟨by omega, h.2⟩
  · omega
  · omega
  · obtain ⟨hhigh, hlow, htail⟩ := h
    exact ⟨by omega, htail⟩

end JsString

theorem js_injective : Function.Injective js := by
  intro s t h
  apply String.toList_inj.mp
  rw [js_eq, js_eq] at h
  generalize s.toList = cs at h ⊢
  generalize t.toList = ds at h ⊢
  have hne (c : Char) : JsString.utf16 c ≠ [] := by
    unfold JsString.utf16
    dsimp only
    split <;> simp
  induction cs generalizing ds with
  | nil =>
      cases ds with
      | nil => rfl
      | cons d ds => simp [hne] at h
  | cons c cs ih =>
      cases ds with
      | nil => simp [hne] at h
      | cons d ds =>
          obtain ⟨hcd, htail⟩ := JsString.utf16_append_inj h
          rw [hcd, ih ds htail]
