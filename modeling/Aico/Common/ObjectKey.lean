import Aico.Common.CompanyScope
import Aico.Foundation.Double
import Aico.Foundation.RegExp
import Aico.Foundation.Words
import Aico.Json.Numeral

/-!
# The text of object keys

`buildObjectKey` writes the key of an object from its parts and `parseObjectKey` reads them
back. The pattern it reads by ignores the case of letters and takes any numeral, while a key is
written with a small `companies` and with the numeral that JavaScript prints for the version. So
just the keys of that form (`IsCanonicalKey`) are written back as they were read.
-/

namespace Aico

namespace ObjectKey

open RegExp (isDigit foldUnit)

/-- The version of an object: what `Number.parseInt` makes of a numeral, where none is
`Infinity`. -/
@[ext] structure Version where
  value : Option ℕ
  isDouble : ∀ x ∈ value, Double.IsDouble x

def parseInt (digits : JsString) : Version :=
  ⟨Double.roundToDouble (Json.digitsValue digits), fun _ h => Double.isDouble_of_roundToDouble h⟩

/-- The version is a positive number, which `Infinity` is too. -/
def Version.IsPositive (version : Version) : Prop := ∀ x ∈ version.value, 0 < x

structure ObjectKeyParts where
  companyId : JsString
  purpose : JsString
  objectId : JsString
  version : Version

/-- `OBJECT_PURPOSES`. -/
def objectPurposes : List JsString := [ObjectPurpose.qualityFixture, .attachment].map (js ·.text)

/-- Five parts with a slash after each of the first four. -/
def joined (scope companyId purpose objectId version : JsString) : JsString :=
  scope ++ slash :: (companyId ++ slash :: (purpose ++ slash :: (objectId ++ slash :: version)))

-- a version that is no natural number is refused like zero
def buildObjectKey (parts : ObjectKeyParts) : Except String JsString :=
  if parts.purpose ∉ objectPurposes then .error "Unsupported object purpose"
  else
    match parts.version.value with
    | some (x + 1) =>
        .ok (joined (js "companies") parts.companyId parts.purpose parts.objectId
          (Double.toText (x + 1)))
    | _ => .error "Object version must be a positive integer"

def isHex (u : UInt16) : Bool := isDigit u || (0x41 ≤ u && u ≤ 0x46) || (0x61 ≤ u && u ≤ 0x66)

/-- `[0-9a-f]{8}-[0-9a-f]{4}-[0-9a-f]{4}-[0-9a-f]{4}-[0-9a-f]{12}`, in any case. -/
def isUuid (s : JsString) : Bool :=
  let groups := s.splitOn Uuid.hyphen
  groups.map List.length = [8, 4, 4, 4, 12] && groups.all fun group => group.all isHex

/-- `[a-z0-9-]`, in any case. -/
def isPurposeUnit (u : UInt16) : Bool :=
  isDigit u || (0x41 ≤ u && u ≤ 0x5A) || (0x61 ≤ u && u ≤ 0x7A) || u = Uuid.hyphen

def matchedParts (key : JsString) : Option (JsString × JsString × JsString × JsString) :=
  match key.splitOn slash with
  | [scope, companyId, purpose, objectId, version] =>
      if scope.map (foldUnit true) = (js "companies").map (foldUnit true) ∧ isUuid companyId ∧
          purpose ≠ [] ∧ purpose.all isPurposeUnit ∧ isUuid objectId ∧ version ≠ [] ∧
          version.all isDigit then
        some (companyId, purpose, objectId, version)
      else none
  | _ => none

def parseObjectKey (objectKey : JsString) : Option ObjectKeyParts := do
  let (companyId, purpose, objectId, version) ← matchedParts objectKey
  if purpose ∈ objectPurposes then some ⟨companyId, purpose, objectId, parseInt version⟩
  else none

def authorizeObjectAccess (companyId objectKey : JsString) : Bool :=
  match parseObjectKey objectKey with
  | some parsed => parsed.companyId = companyId
  | none => false

/-- The numeral has no leading zero and is the shortest one of a double below `10 ^ 21`. -/
def IsPrinted (numeral : JsString) : Prop :=
  (∀ u ∈ numeral.head?, u ≠ JsString.digitUnit 0) ∧ Double.IsShortest (Json.digitsValue numeral)

/-- The key begins with a small `companies` and ends with a numeral as it is printed. -/
def IsCanonicalKey (key : JsString) : Prop :=
  (key.splitOn slash).head? = some (js "companies") ∧
    ∃ numeral ∈ (key.splitOn slash).getLast?, IsPrinted numeral

/-! ## The parts of a key -/

/-- What the pattern asks of the parts. -/
structure Matches (scope companyId purpose objectId version : JsString) : Prop where
  fold_scope : scope.map (foldUnit true) = (js "companies").map (foldUnit true)
  isUuid_companyId : isUuid companyId = true
  purpose_ne_nil : purpose ≠ []
  purposeUnits : purpose.all isPurposeUnit = true
  isUuid_objectId : isUuid objectId = true
  version_ne_nil : version ≠ []
  digits : version.all isDigit = true

theorem joined_eq_intercalate (scope companyId purpose objectId version : JsString) :
    joined scope companyId purpose objectId version =
      [slash].intercalate [scope, companyId, purpose, objectId, version] := by
  simp [joined]

theorem slash_notMem_of_isUuid {s : JsString} (h : isUuid s = true) : slash ∉ s := by
  intro hmem
  have hgroups := (Bool.and_eq_true_iff.mp h).2
  have hjoin : [Uuid.hyphen].intercalate (s.splitOn Uuid.hyphen) = s :=
    List.intercalate_splitOn Uuid.hyphen
  rw [← hjoin] at hmem
  rcases List.mem_of_mem_intercalate hmem with hsep | ⟨group, hgroup, hslash⟩
  · exact absurd hsep (by decide)
  · have hhex := List.all_eq_true.mp (List.all_eq_true.mp hgroups group hgroup) slash hslash
    exact absurd hhex (by decide)

theorem Matches.slash_notMem {scope companyId purpose objectId version : JsString}
    (h : Matches scope companyId purpose objectId version) :
    ∀ part ∈ [scope, companyId, purpose, objectId, version], slash ∉ part := by
  simp only [List.forall_mem_cons]
  refine ⟨fun hmem => ?_, slash_notMem_of_isUuid h.isUuid_companyId, fun hmem => ?_,
    slash_notMem_of_isUuid h.isUuid_objectId, fun hmem => ?_, List.forall_mem_nil _⟩
  · have hfold : foldUnit true slash ∈ scope.map (foldUnit true) := List.mem_map_of_mem hmem
    rw [h.fold_scope] at hfold
    exact absurd hfold (by decide)
  · exact absurd (List.all_eq_true.mp h.purposeUnits slash hmem) (by decide)
  · exact absurd (List.all_eq_true.mp h.digits slash hmem) (by decide)

theorem Matches.splitOn_joined {scope companyId purpose objectId version : JsString}
    (h : Matches scope companyId purpose objectId version) :
    (joined scope companyId purpose objectId version).splitOn slash =
      [scope, companyId, purpose, objectId, version] := by
  rw [joined_eq_intercalate]
  exact List.splitOn_intercalate slash h.slash_notMem (List.cons_ne_nil _ _)

theorem matchedParts_iff {key companyId purpose objectId version : JsString} :
    matchedParts key = some (companyId, purpose, objectId, version) ↔
      ∃ scope, key = joined scope companyId purpose objectId version ∧
        Matches scope companyId purpose objectId version := by
  constructor
  · intro h
    unfold matchedParts at h
    split at h
    · next scope _ _ _ _ hsplit =>
        split at h
        · next hparts =>
            obtain ⟨hscope, hcompany, hpurpose, hunits, hobject, hversion, hdigits⟩ := hparts
            cases h
            refine ⟨scope, ?_, hscope, hcompany, hpurpose, hunits, hobject, hversion, hdigits⟩
            rw [joined_eq_intercalate, ← hsplit, List.intercalate_splitOn]
        · cases h
    · cases h
  · rintro ⟨scope, rfl, h⟩
    unfold matchedParts
    rw [h.splitOn_joined]
    exact if_pos ⟨h.fold_scope, h.isUuid_companyId, h.purpose_ne_nil, h.purposeUnits,
      h.isUuid_objectId, h.version_ne_nil, h.digits⟩

theorem parseObjectKey_iff {key : JsString} {parts : ObjectKeyParts} :
    parseObjectKey key = some parts ↔
      parts.purpose ∈ objectPurposes ∧ ∃ scope numeral,
        key = joined scope parts.companyId parts.purpose parts.objectId numeral ∧
          Matches scope parts.companyId parts.purpose parts.objectId numeral ∧
            parts.version = parseInt numeral := by
  constructor
  · intro h
    obtain ⟨⟨companyId, purpose, objectId, numeral⟩, hmatched, h⟩ :=
      Option.bind_eq_some_iff.mp h
    dsimp only at h
    split at h
    · next hpurpose =>
        cases h
        obtain ⟨scope, hkey, hparts⟩ := matchedParts_iff.mp hmatched
        exact ⟨hpurpose, scope, numeral, hkey, hparts, rfl⟩
    · cases h
  · rintro ⟨hpurpose, scope, numeral, hkey, hparts, hversion⟩
    refine Option.bind_eq_some_iff.mpr ⟨_, matchedParts_iff.mpr ⟨scope, hkey, hparts⟩, ?_⟩
    dsimp only
    rw [if_pos hpurpose, ← hversion]

theorem buildObjectKey_iff {parts : ObjectKeyParts} {key : JsString} :
    buildObjectKey parts = .ok key ↔
      parts.purpose ∈ objectPurposes ∧ ∃ x, parts.version.value = some x ∧ 0 < x ∧
        key = joined (js "companies") parts.companyId parts.purpose parts.objectId
          (Double.toText x) := by
  unfold buildObjectKey
  constructor
  · intro h
    split at h
    · cases h
    · next hpurpose =>
        split at h
        · next x hvalue => exact ⟨not_not.mp hpurpose, x + 1, hvalue, x.succ_pos, by cases h; rfl⟩
        · cases h
  · rintro ⟨hpurpose, x, hvalue, hpos, rfl⟩
    obtain ⟨x, rfl⟩ := Nat.exists_eq_succ_of_ne_zero hpos.ne'
    rw [if_neg (not_not.mpr hpurpose), hvalue]

/-- The parts in the middle tell the first part and the last one. -/
theorem joined_inj {scope scope' companyId purpose objectId version version' : JsString}
    (hscope : slash ∉ scope) (hscope' : slash ∉ scope')
    (h : joined scope companyId purpose objectId version =
      joined scope' companyId purpose objectId version') : scope = scope' ∧ version = version' := by
  obtain ⟨hfirst, h⟩ := JsString.append_cons_inj hscope hscope' h
  refine ⟨hfirst, ?_⟩
  simpa using h

theorem slash_notMem_companies : slash ∉ js "companies" := by decide

/-! ## Numerals -/

theorem isDigit_toText {x : ℕ} : (Double.toText x).all isDigit = true ↔ x < 10 ^ 21 := by
  unfold Double.toText
  split
  · next hx =>
      refine iff_of_true (List.all_eq_true.mpr fun u hu => ?_) hx
      exact JsString.isDigit_decimal hu
  · next hx =>
      refine iff_of_false (fun hall => ?_) hx
      have hmem : 0x65 ∈ Double.exponentText x := by
        have hplus : (0x65 : UInt16) ∈ js "e+" := by decide
        exact List.mem_append_left _ (List.mem_append_right _ hplus)
      exact absurd (List.all_eq_true.mp hall _ hmem) (by decide)

theorem value_parseInt (digits : JsString) :
    (parseInt digits).value = Double.roundToDouble (Json.digitsValue digits) := by
  rw [parseInt]

/-- The numeral of a version below `10 ^ 21` is read back. -/
theorem parseInt_toText {version : Version} {x : ℕ} (hvalue : version.value = some x)
    (hx : x < 10 ^ 21) : parseInt (Double.toText x) = version := by
  apply Version.ext
  rw [value_parseInt, Double.toText, if_pos hx, hvalue, JsString.digitsValue_decimal]
  exact Double.roundToDouble_shortest (version.isDouble x hvalue)

/-- Just the printed numerals are what JavaScript prints for the positive version they name. -/
theorem isPrinted_iff {numeral : JsString} (hdigits : numeral.all isDigit = true)
    (hne : numeral ≠ []) :
    IsPrinted numeral ↔ ∃ x, (parseInt numeral).value = some x ∧ 0 < x ∧ x < 10 ^ 21 ∧
      Double.toText x = numeral := by
  constructor
  · rintro ⟨hlead, x, hx, hround, hshortest⟩
    have hread := JsString.decimal_digitsValue (List.all_eq_true.mp hdigits) hlead hne
    refine ⟨x, (value_parseInt numeral).trans hround, Nat.pos_of_ne_zero fun hzero => ?_, hx, ?_⟩
    · rw [hzero] at hround
      rw [Double.eq_of_roundToDouble (by decide) hround] at hread
      exact hlead (JsString.digitUnit 0) (by rw [← hread]; rfl) rfl
    · rw [Double.toText, if_pos hx, hshortest, hread]
  · rintro ⟨x, hvalue, hpos, hx, rfl⟩
    rw [value_parseInt] at hvalue
    have hshortest := Double.shortest_pos hpos (Double.isDouble_of_roundToDouble hvalue)
    rw [Double.toText, if_pos hx] at hvalue ⊢
    refine ⟨JsString.head_decimal hshortest, x, hx, hvalue, ?_⟩
    rw [JsString.digitsValue_decimal]

/-- Below `2 ^ 53` a numeral is printed as soon as it has no leading zero. -/
theorem isPrinted_of_lt {numeral : JsString} (hlt : Json.digitsValue numeral < 2 ^ 53) :
    IsPrinted numeral ↔ ∀ u ∈ numeral.head?, u ≠ JsString.digitUnit 0 :=
  and_iff_left (Double.isShortest_of_lt hlt)

/-! ## The round trips -/

theorem matches_of_purpose {companyId purpose objectId numeral : JsString}
    (hpurpose : purpose ∈ objectPurposes) (hcompany : isUuid companyId = true)
    (hobject : isUuid objectId = true) (hne : numeral ≠ []) (hdigits : numeral.all isDigit = true) :
    Matches (js "companies") companyId purpose objectId numeral := by
  have hunits : ∀ purpose ∈ objectPurposes, purpose ≠ [] ∧ purpose.all isPurposeUnit = true := by
    decide
  obtain ⟨hpurposeNe, hpurposeUnits⟩ := hunits purpose hpurpose
  exact ⟨rfl, hcompany, hpurposeNe, hpurposeUnits, hobject, hne, hdigits⟩

/-- A built key is read back when its version is printed without an exponent. -/
theorem parseObjectKey_of_build {parts : ObjectKeyParts} {key : JsString}
    (hbuild : buildObjectKey parts = .ok key) (hcompany : isUuid parts.companyId = true)
    (hobject : isUuid parts.objectId = true) :
    parseObjectKey key = some parts ↔ ∀ x ∈ parts.version.value, x < 10 ^ 21 := by
  obtain ⟨hpurpose, x, hvalue, hpos, hkey⟩ := buildObjectKey_iff.mp hbuild
  rw [hvalue, parseObjectKey_iff]
  constructor
  · rintro ⟨_, scope, numeral, hjoined, hmatches, _⟩
    have hscope := hmatches.slash_notMem scope List.mem_cons_self
    obtain ⟨_, rfl⟩ := joined_inj slash_notMem_companies hscope (hkey.symm.trans hjoined)
    rintro _ ⟨⟩
    exact isDigit_toText.mp hmatches.digits
  · intro hall
    have hx := hall x rfl
    have hne : Double.toText x ≠ [] := by
      rw [Double.toText, if_pos hx]
      exact JsString.decimal_ne_nil _
    exact ⟨hpurpose, js "companies", Double.toText x, hkey,
      matches_of_purpose hpurpose hcompany hobject hne (isDigit_toText.mpr hx),
      (parseInt_toText hvalue hx).symm⟩

theorem isCanonicalKey_joined {scope companyId purpose objectId numeral : JsString}
    (h : Matches scope companyId purpose objectId numeral) :
    IsCanonicalKey (joined scope companyId purpose objectId numeral) ↔
      scope = js "companies" ∧ IsPrinted numeral := by
  unfold IsCanonicalKey
  rw [h.splitOn_joined]
  simp

/-- A key that is read is written back just when it is canonical. -/
theorem buildObjectKey_of_parse {parts : ObjectKeyParts} {key : JsString}
    (hparse : parseObjectKey key = some parts) :
    buildObjectKey parts = .ok key ↔ IsCanonicalKey key := by
  obtain ⟨hpurpose, scope, numeral, rfl, hmatches, hversion⟩ := parseObjectKey_iff.mp hparse
  have hscope := hmatches.slash_notMem scope List.mem_cons_self
  rw [buildObjectKey_iff, isCanonicalKey_joined hmatches,
    isPrinted_iff hmatches.digits hmatches.version_ne_nil, ← hversion]
  constructor
  · rintro ⟨_, x, hvalue, hpos, hkey⟩
    obtain ⟨hsmall, htext⟩ := joined_inj hscope slash_notMem_companies hkey
    refine ⟨hsmall, x, hvalue, hpos, ?_, htext.symm⟩
    rw [← isDigit_toText, ← htext]
    exact hmatches.digits
  · rintro ⟨hsmall, x, hvalue, hpos, _, htext⟩
    exact ⟨hpurpose, x, hvalue, hpos, by rw [hsmall, htext]⟩

theorem eq_of_parseObjectKey {key key' : JsString} {parts : ObjectKeyParts}
    (hparse : parseObjectKey key = some parts) (hparse' : parseObjectKey key' = some parts)
    (hkey : IsCanonicalKey key) (hkey' : IsCanonicalKey key') : key = key' := by
  have hbuild := (buildObjectKey_of_parse hparse).mpr hkey
  rw [(buildObjectKey_of_parse hparse').mpr hkey'] at hbuild
  exact (Except.ok.inj hbuild).symm

theorem isPositive_of_build {parts : ObjectKeyParts} {key : JsString}
    (hbuild : buildObjectKey parts = .ok key) : parts.version.IsPositive := by
  obtain ⟨_, x, hvalue, hpos, _⟩ := buildObjectKey_iff.mp hbuild
  rw [Version.IsPositive, hvalue]
  rintro _ ⟨⟩
  exact hpos

theorem isUuid_of_parse {parts : ObjectKeyParts} {key : JsString}
    (hparse : parseObjectKey key = some parts) :
    isUuid parts.companyId = true ∧ isUuid parts.objectId = true := by
  obtain ⟨_, _, _, _, hmatches, _⟩ := parseObjectKey_iff.mp hparse
  exact ⟨hmatches.isUuid_companyId, hmatches.isUuid_objectId⟩

theorem authorizeObjectAccess_iff {companyId key : JsString} :
    authorizeObjectAccess companyId key = true ↔
      ∃ parts, parseObjectKey key = some parts ∧ parts.companyId = companyId := by
  unfold authorizeObjectAccess
  split
  · next parsed hparse => simp [hparse]
  · next hparse => simp [hparse]

/-- A key of a company: it is built from parts with UUIDs and a version below `10 ^ 21`. -/
def IsKeyOf (companyId key : JsString) : Prop :=
  ∃ parts : ObjectKeyParts, parts.companyId = companyId ∧ isUuid parts.companyId = true ∧
    isUuid parts.objectId = true ∧ (∀ x ∈ parts.version.value, x < 10 ^ 21) ∧
      buildObjectKey parts = .ok key

theorem authorize_iff_isKeyOf {companyId key : JsString} :
    authorizeObjectAccess companyId key = true ∧ IsCanonicalKey key ↔ IsKeyOf companyId key := by
  rw [authorizeObjectAccess_iff]
  constructor
  · rintro ⟨⟨parts, hparse, hcompany⟩, hkey⟩
    obtain ⟨hcompanyId, hobjectId⟩ := isUuid_of_parse hparse
    have hbuild := (buildObjectKey_of_parse hparse).mpr hkey
    exact ⟨parts, hcompany, hcompanyId, hobjectId,
      (parseObjectKey_of_build hbuild hcompanyId hobjectId).mp hparse, hbuild⟩
  · rintro ⟨parts, hcompany, hcompanyId, hobjectId, hversion, hbuild⟩
    have hparse := (parseObjectKey_of_build hbuild hcompanyId hobjectId).mpr hversion
    exact ⟨⟨parts, hparse, hcompany⟩, (buildObjectKey_of_parse hparse).mp hbuild⟩

/-- A built key is read back for just the versions below `10 ^ 21`, and a key that is read is
written back just when it is canonical. So the canonical keys have each their own parts, and
those that a company may reach are its own keys. -/
theorem codec_iff (companyId key : JsString) (parts : ObjectKeyParts) :
    (buildObjectKey parts = .ok key → isUuid parts.companyId = true →
      isUuid parts.objectId = true →
        (parseObjectKey key = some parts ↔ ∀ x ∈ parts.version.value, x < 10 ^ 21)) ∧
    (parseObjectKey key = some parts →
      (parts.version.IsPositive ∧ buildObjectKey parts = .ok key ↔ IsCanonicalKey key)) ∧
    (∀ key', parseObjectKey key = some parts → parseObjectKey key' = some parts →
      IsCanonicalKey key → IsCanonicalKey key' → key = key') ∧
    (authorizeObjectAccess companyId key = true ∧ IsCanonicalKey key ↔ IsKeyOf companyId key) := by
  refine ⟨parseObjectKey_of_build, fun hparse => ?_, fun key' => eq_of_parseObjectKey,
    authorize_iff_isKeyOf⟩
  rw [← buildObjectKey_of_parse hparse]
  exact and_iff_right_of_imp isPositive_of_build

theorem text_mem_objectPurposes (purpose : ObjectPurpose) :
    js purpose.text ∈ objectPurposes := by
  cases purpose <;> decide

/-- Below `2 ^ 53` the key of an object is the one of its record. -/
theorem buildObjectKey_text (companyId : Uuid) (purpose : ObjectPurpose) (objectId : Uuid)
    {version : ℕ} (hpos : 0 < version) (hlt : version < 2 ^ 53) :
    buildObjectKey ⟨companyId.text, js purpose.text, objectId.text, some version,
        fun _ hvalue => Option.some.inj hvalue ▸ Double.isDouble_of_lt hlt⟩ =
      .ok (Aico.buildObjectKey companyId purpose objectId version) := by
  refine buildObjectKey_iff.mpr ⟨text_mem_objectPurposes purpose, version, rfl, hpos, ?_⟩
  have hslash : js "/" = [slash] := by decide
  have hscope : js "companies/" = js "companies" ++ [slash] := by decide
  simp [Aico.buildObjectKey, joined, hslash, hscope, Double.toText_of_lt hlt]

/-! ## Keys of one object -/

def demoUuid : JsString := js "00000000-0000-4000-8000-00000000000a"

def demoKey (numeral : JsString) : JsString :=
  joined (js "companies") demoUuid (js "attachment") demoUuid numeral

section

variable {numeral : JsString}

theorem matches_demo (hne : numeral ≠ []) (hdigits : numeral.all isDigit = true) :
    Matches (js "companies") demoUuid (js "attachment") demoUuid numeral := by
  have huuid : isUuid demoUuid = true := by decide
  exact matches_of_purpose (text_mem_objectPurposes .attachment) huuid huuid hne hdigits

theorem parseObjectKey_demoKey (hne : numeral ≠ []) (hdigits : numeral.all isDigit = true) :
    parseObjectKey (demoKey numeral) =
      some ⟨demoUuid, js "attachment", demoUuid, parseInt numeral⟩ :=
  parseObjectKey_iff.mpr
    ⟨text_mem_objectPurposes .attachment, js "companies", numeral, rfl, matches_demo hne hdigits, rfl⟩

end

theorem codec_iff_demo :
    buildObjectKey ⟨demoUuid, js "attachment", demoUuid, parseInt (js "7")⟩ =
      .ok (demoKey (js "7")) := by
  have hne : js "7" ≠ [] := by decide
  have hdigits : (js "7").all isDigit = true := by decide
  have hvalue : Json.digitsValue (js "7") = 7 := by decide
  have hhead : (js "7").head? = some 0x37 := by decide
  have hprinted : IsPrinted (js "7") := by
    refine (isPrinted_of_lt (by rw [hvalue]; norm_num)).mpr fun u hu => ?_
    obtain rfl := Option.some.inj (hhead.symm.trans hu)
    decide
  have hkey := (isCanonicalKey_joined (matches_demo hne hdigits)).mpr ⟨rfl, hprinted⟩
  exact (((codec_iff demoUuid _ _).2.1 (parseObjectKey_demoKey hne hdigits)).mpr hkey).2

/-- A version may be zero or have a leading zero. -/
theorem codec_fails :
    (∃ key parts, parseObjectKey key = some parts ∧ ¬ parts.version.IsPositive) ∧
    ∃ key key' parts, key ≠ key' ∧ parseObjectKey key = some parts ∧
      parseObjectKey key' = some parts := by
  constructor
  · refine ⟨demoKey (js "0"), _, parseObjectKey_demoKey (by decide) (by decide), fun hpos => ?_⟩
    refine absurd (hpos 0 ?_) (lt_irrefl 0)
    exact (value_parseInt _).trans (Double.isDouble_of_lt (by decide))
  · have hvalue : Json.digitsValue (js "01") = Json.digitsValue (js "1") := by decide
    have hversion : parseInt (js "01") = parseInt (js "1") := by
      apply Version.ext
      rw [value_parseInt, value_parseInt, hvalue]
    refine ⟨demoKey (js "01"), demoKey (js "1"), _, fun hkey => ?_,
      parseObjectKey_demoKey (by decide) (by decide), ?_⟩
    · have hnumeral := (joined_inj slash_notMem_companies slash_notMem_companies hkey).2
      exact absurd hnumeral (by decide)
    · rw [hversion]
      exact parseObjectKey_demoKey (by decide) (by decide)

end ObjectKey

end Aico
