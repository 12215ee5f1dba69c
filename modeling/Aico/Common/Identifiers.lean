import Aico.Json.Canonical

/-!
# Identifiers and clocks

`newId` draws identifiers from a supply that never repeats, so the identifier
handed out as number `n` is the number `n`. `Uuid.text` is the text the
database prints for it: five groups of lowercase hexadecimal digits.

A request names a resource by a text, which the database reads as a UUID value
without regard to letter case. `UuidText` is such a spelling: the code compares
the text with `===`, the database compares the value.

`canonicalDigest` hashes the serialisation of a value with sorted keys. The hash
function and the collation order are those of the platform (`Runtime`): a
comparator may tie keys that are different texts, and then the digest depends on
the order in which the keys stand.
-/

namespace Aico

/-- A UUID value, as its place in the supply of fresh identifiers. -/
abbrev Uuid := ℕ

/-- A point in time, in milliseconds. -/
abbrev Timestamp := ℕ

namespace Uuid

/-- The hexadecimal digits of the identifier, least significant first, padded
to the 32 digits of a UUID. -/
def digits (u : Uuid) : List ℕ :=
  Nat.digits 16 u ++ List.replicate (32 - (Nat.digits 16 u).length) 0

def hyphen : UInt16 := 0x2D

/-- The groups of a UUID text, least significant first and each reversed. -/
def grouped (units : JsString) : JsString :=
  units.take 12 ++ hyphen :: ((units.drop 12).take 4 ++
    hyphen :: ((units.drop 16).take 4 ++
      hyphen :: ((units.drop 20).take 4 ++ hyphen :: units.drop 24)))

def text (u : Uuid) : JsString :=
  (grouped ((digits u).map JsString.hexUnit)).reverse

theorem digits_lt {u : Uuid} {d : ℕ} (h : d ∈ digits u) : d < 16 := by
  rcases List.mem_append.mp h with h | h
  · exact Nat.digits_lt_base (by omega) h
  · have := List.eq_of_mem_replicate h
    omega

theorem ofDigits_digits (u : Uuid) : Nat.ofDigits 16 (digits u) = u := by
  rw [digits, Nat.ofDigits_append, Nat.ofDigits_digits]
  simp [Nat.ofDigits_replicate_zero]

theorem hexUnit_ne_hyphen {d : ℕ} (h : d < 16) : JsString.hexUnit d ≠ hyphen := by
  interval_cases d <;> decide

/-- Dropping the hyphens of the groups gives back the digits. -/
theorem filter_grouped {units : JsString} (h : ∀ c ∈ units, c ≠ hyphen) :
    (grouped units).filter (· ≠ hyphen) = units := by
  have hkeep : ∀ {l : JsString}, (∀ c ∈ l, c ∈ units) →
      l.filter (· ≠ hyphen) = l := by
    intro l hl
    apply List.filter_eq_self.mpr
    intro c hc
    simpa using h c (hl c hc)
  have htake : ∀ m n, ∀ c ∈ (units.drop m).take n, c ∈ units :=
    fun m n c hc => List.mem_of_mem_drop (List.mem_of_mem_take hc)
  have hdrop : ∀ m, ∀ c ∈ units.drop m, c ∈ units :=
    fun m c hc => List.mem_of_mem_drop hc
  unfold grouped
  simp only [List.filter_append, List.filter_cons, ne_eq, not_true_eq_false,
    decide_false, Bool.false_eq_true, if_false]
  simp only [← ne_eq]
  rw [hkeep fun c hc => List.mem_of_mem_take hc, hkeep (htake 12 4),
    hkeep (htake 16 4), hkeep (htake 20 4), hkeep (hdrop 24)]
  have h20 : (units.drop 20).take 4 ++ units.drop 24 = units.drop 20 := by
    simpa [List.drop_drop] using List.take_append_drop 4 (units.drop 20)
  have h16 : (units.drop 16).take 4 ++ units.drop 20 = units.drop 16 := by
    simpa [List.drop_drop] using List.take_append_drop 4 (units.drop 16)
  have h12 : (units.drop 12).take 4 ++ units.drop 16 = units.drop 12 := by
    simpa [List.drop_drop] using List.take_append_drop 4 (units.drop 12)
  rw [h20, h16, h12, List.take_append_drop]

/-- A text of an identifier consists of digits and hyphens. -/
theorem mem_text {u : Uuid} {c : UInt16} (h : c ∈ text u) :
    (∃ d < 16, c = JsString.hexUnit d) ∨ c = hyphen := by
  have hdigit : c ∈ (digits u).map JsString.hexUnit → ∃ d < 16, c = JsString.hexUnit d := by
    intro hmem
    obtain ⟨d, hd, rfl⟩ := List.mem_map.mp hmem
    exact ⟨d, digits_lt hd, rfl⟩
  have hdrop : ∀ m, c ∈ ((digits u).map JsString.hexUnit).drop m →
      ∃ d < 16, c = JsString.hexUnit d := fun m hmem => hdigit (List.mem_of_mem_drop hmem)
  have hmem := List.mem_reverse.mp h
  simp only [grouped, List.mem_append, List.mem_cons] at hmem
  rcases hmem with h | h | h | h | h | h | h | h | h
  · exact .inl (hdigit (List.mem_of_mem_take h))
  · exact .inr h
  · exact .inl (hdrop 12 (List.mem_of_mem_take h))
  · exact .inr h
  · exact .inl (hdrop 16 (List.mem_of_mem_take h))
  · exact .inr h
  · exact .inl (hdrop 20 (List.mem_of_mem_take h))
  · exact .inr h
  · exact .inl (hdrop 24 h)

theorem text_injective : Function.Injective text := by
  intro u u' h
  have hunits : ∀ v : Uuid, ∀ c ∈ (digits v).map JsString.hexUnit, c ≠ hyphen := by
    intro v c hc
    obtain ⟨d, hd, rfl⟩ := List.mem_map.mp hc
    exact hexUnit_ne_hyphen (digits_lt hd)
  have hgrouped := List.reverse_injective h
  have hmap : (digits u).map JsString.hexUnit = (digits u').map JsString.hexUnit := by
    rw [← filter_grouped (hunits u), ← filter_grouped (hunits u'), hgrouped]
  have hdigits := JsString.map_inj_on (p := (· < 16))
    (fun a b => JsString.hexUnit_inj) (fun d => digits_lt) (fun d => digits_lt) hmap
  rw [← ofDigits_digits u, ← ofDigits_digits u', hdigits]

def isHexUnit (u : UInt16) : Bool :=
  (0x30 ≤ u && u ≤ 0x39) || (0x41 ≤ u && u ≤ 0x46) || (0x61 ≤ u && u ≤ 0x66)

/-- The texts of the UUIDs of the versions 1 to 8, in any case. -/
def isVersioned (s : JsString) : Bool :=
  s.length = 36 && s.zipIdx.all fun (u, i) =>
    if i = 8 ∨ i = 13 ∨ i = 18 ∨ i = 23 then u = hyphen
    else if i = 14 then 0x31 ≤ u && u ≤ 0x38
    else if i = 19 then (js "89abAB").contains u
    else isHexUnit u

theorem length_of_isVersioned {s : JsString} (h : isVersioned s = true) : s.length = 36 :=
  of_decide_eq_true (Bool.and_eq_true_iff.mp h).1

end Uuid

/-- The lowercase form of a hexadecimal digit or hyphen. -/
def lowerUnit (u : UInt16) : UInt16 :=
  if 0x41 ≤ u ∧ u ≤ 0x46 then u + 0x20 else u

/-- A spelling of a UUID: the text of a request and the value the database
reads it as. -/
structure UuidText where
  value : Uuid
  text : JsString
  spells : text.map lowerUnit = value.text

namespace UuidText

/-- The text of a UUID without its hyphens has no capital letters, so lowering
it changes nothing. -/
theorem map_lowerUnit_text (u : Uuid) : u.text.map lowerUnit = u.text := by
  have hfix : ∀ c ∈ u.text, lowerUnit c = c := by
    intro c hc
    rcases Uuid.mem_text hc with ⟨d, hlt, rfl⟩ | rfl
    · interval_cases d <;> decide
    · decide
  calc u.text.map lowerUnit = u.text.map id := List.map_congr_left hfix
    _ = u.text := List.map_id _

/-- The canonical spelling, which is the one the database returns. -/
def ofUuid (u : Uuid) : UuidText where
  value := u
  text := u.text
  spells := map_lowerUnit_text u

@[simp] theorem value_ofUuid (u : Uuid) : (ofUuid u).value = u := rfl

/-- Equal texts are read as equal values. -/
theorem value_eq_of_text_eq {x y : UuidText} (h : x.text = y.text) :
    x.value = y.value := by
  apply Uuid.text_injective
  rw [← x.spells, ← y.spells, h]

end UuidText

abbrev Digest := JsString

/-- What the platform provides: the SHA-256 digest of a text in hexadecimal and
`String.prototype.localeCompare`. -/
structure Runtime where
  sha256 : JsString → Digest
  localeCompare : JsString → JsString → Ordering
  localeCompare_trans : Std.TransCmp localeCompare

namespace Runtime

variable (rt : Runtime)

/-- The digest of a value, independent of key order where the comparator ties no
keys. -/
def canonicalDigest (value : Json) : Digest :=
  rt.sha256 (Json.stringify (Json.sortJson rt.localeCompare value))

variable {rt}

theorem canonicalDigest_eq {v v' : Json} (h : Json.EqUpToKeyOrder v v')
    (hv : Json.TieFree rt.localeCompare v) (hv' : Json.TieFree rt.localeCompare v') :
    rt.canonicalDigest v = rt.canonicalDigest v' := by
  have := rt.localeCompare_trans
  rw [canonicalDigest, canonicalDigest, h.sortJson_eq hv hv']

/-- Without collisions, equal digests come from values that are equal up to key
order. -/
theorem eqUpToKeyOrder_of_canonicalDigest_eq (hsha : Function.Injective rt.sha256)
    {v v' : Json} (hv : Json.WellFormed v) (hv' : Json.WellFormed v')
    (h : rt.canonicalDigest v = rt.canonicalDigest v') : Json.EqUpToKeyOrder v v' :=
  Json.eqUpToKeyOrder_of_sortJson_eq hv hv' (Json.stringify_injective (hsha h))

/-! ## A sample platform -/

/-- The canonical decomposition of two accented letters; other code units stay. -/
def decompose (text : JsString) : JsString :=
  text.flatMap fun u =>
    if u = 0xE1 then [0x61, 0x301] else if u = 0xE9 then [0x65, 0x301] else [u]

/-- A platform that collates canonically equivalent texts as equal. -/
def sample (sha256 : JsString → Digest) : Runtime where
  sha256 := sha256
  localeCompare a b := Json.unitOrder (decompose a) (decompose b)
  localeCompare_trans :=
    { eq_swap := Std.OrientedCmp.eq_swap
      isLE_trans := Std.TransCmp.isLE_trans }

def foldDigest (text : JsString) : Digest :=
  let hash := text.foldl (fun h u => (h * 0x100000001B3 + u.toNat + 1) % 2 ^ 256) 0xCBF29CE484222325
  (List.range 64).map fun i => JsString.hexUnit (hash / 16 ^ i % 16)

def sha256On (text : JsString) (digest : Digest) (s : JsString) : Digest :=
  if s = text then digest else 0x2D :: s

theorem sha256On_injective {text : JsString} {digest : Digest}
    (hdigest : digest.head? ≠ some 0x2D) : Function.Injective (sha256On text digest) := by
  intro x y h
  unfold sha256On at h
  split at h <;> split at h
  case isTrue.isTrue hx hy => rw [hx, hy]
  case isTrue.isFalse =>
      rw [h] at hdigest
      exact absurd rfl hdigest
  case isFalse.isTrue =>
      rw [← h] at hdigest
      exact absurd rfl hdigest
  case isFalse.isFalse => exact List.tail_eq_of_cons_eq h

end Runtime

end Aico

namespace Json

def uuid (u : Aico.Uuid) : Json := .str u.text

/-- A time in a document; the number stands for its ISO text. -/
def time (t : Aico.Timestamp) : Json := .nat t

end Json
