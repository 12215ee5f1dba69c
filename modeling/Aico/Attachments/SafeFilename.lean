import Mathlib.Data.List.DropRight
import Mathlib.Data.List.TakeWhile
import Aico.Attachments.AttachmentValidator
import Aico.Foundation.Words

/-!
# The names of attachments

`sanitizeAttachmentFilename` accepts a trimmed name of plain characters that climbs to no other
directory and whose extension, behind its last dot, is not denied. Behind a name that ends with
a dot there is no extension to deny, so a denied one can hide before dots and spaces.
-/

namespace Aico

namespace AttachmentPolicy

/-- `DENIED_FILENAME_EXTENSIONS`. -/
def deniedFilenameExtensions : List String :=
  ["exe", "bat", "cmd", "com", "dll", "html", "htm", "js", "mjs", "svg", "zip", "rar", "7z", "scr",
    "ps1", "sh"]

end AttachmentPolicy

namespace AttachmentValidator

open AttachmentPolicy

def dot : UInt16 := 0x2E

def space : UInt16 := 0x20

def isAlphanumeric (u : UInt16) : Bool :=
  (0x41 ≤ u && u ≤ 0x5A) || (0x61 ≤ u && u ≤ 0x7A) || (0x30 ≤ u && u ≤ 0x39)

/-- `[A-Za-z0-9._ -]`. -/
def isNameUnit (u : UInt16) : Bool :=
  isAlphanumeric u || u = dot || u = 0x5F || u = space || u = 0x2D

/-- `^[A-Za-z0-9][A-Za-z0-9._ -]*$`. -/
def isPlainName : JsString → Bool
  | [] => false
  | u :: rest => isAlphanumeric u && rest.all isNameUnit

/-- The control characters; no unit of a surrogate pair is one. -/
def isControl (u : UInt16) : Bool := u ≤ 31 || u = 127

/-- `String.prototype.toLowerCase` on the units of a plain name. -/
def lowerCase (s : JsString) : JsString :=
  s.map fun u => if 0x41 ≤ u ∧ u ≤ 0x5A then u + 0x20 else u

def extension (name : JsString) : JsString :=
  if dot ∈ name then lowerCase (((name.splitOnP (· = dot)).getLast?).getD []) else []

def isDenied (ext : JsString) : Bool := deniedFilenameExtensions.any fun d => ext = js d

def sanitizeAttachmentFilename (filename : JsString) : Except DomainError JsString := do
  let unsafeName := fail "attachment_validation_failed" "safe_filename" "filename"
  check (¬ (js ".." <:+: filename ∨ 0x2F ∈ filename ∨ 0x5C ∈ filename)) unsafeName
  let trimmed := filename.trim
  check (trimmed ≠ [] ∧ trimmed ≠ js "." ∧ trimmed ≠ js "..") unsafeName
  check (trimmed.length ≤ 200 ∧ ¬ trimmed.any isControl) unsafeName
  check (isPlainName trimmed) unsafeName
  check (¬ isDenied (extension trimmed))
    (fail "attachment_unsafe" "executable_filename" "filename")
  pure trimmed

def withoutTail (name : JsString) : JsString := name.rdropWhile fun u => u = dot || u = space

/-- A safe name. -/
structure IsSafeName (name : JsString) : Prop where
  fixed : sanitizeAttachmentFilename name = .ok name
  noSeparator : 0x2F ∉ name ∧ 0x5C ∉ name
  noClimb : ¬ js ".." <:+: name
  plain : ∀ u ∈ name, 0x20 ≤ u ∧ u ≤ 0x7E ∧ u ≠ 0x22 ∧ u ≠ 0x27 ∧ u ≠ 0x60
  opening : ∀ u ∈ name.head?, u ≠ dot ∧ u ≠ space
  harmless : ∀ stem ext, withoutTail name = stem ++ dot :: ext → dot ∉ ext →
    isDenied (lowerCase ext) = false

/-! ## What an accepted name is -/

theorem trim_isInfix (s : JsString) : s.trim <:+: s := by
  have hprefix : s.trim <+: s.dropWhile JsString.isWhitespace := List.rdropWhile_prefix _ _
  exact hprefix.isInfix.trans (List.dropWhile_suffix _).isInfix

theorem isPlainName_iff {name : JsString} : isPlainName name = true ↔
    (∃ u ∈ name.head?, isAlphanumeric u = true) ∧ ∀ u ∈ name, isNameUnit u = true := by
  cases name with
  | nil => simp [isPlainName]
  | cons u rest =>
      have hname : isAlphanumeric u = true → isNameUnit u = true := fun h => by
        simp [isNameUnit, h]
      simp only [isPlainName, Bool.and_eq_true, List.all_eq_true, List.forall_mem_cons,
        List.head?_cons, Option.mem_some_iff, exists_eq_left']
      constructor
      · rintro ⟨hu, hrest⟩
        exact ⟨hu, hname hu, hrest⟩
      · rintro ⟨hu, -, hrest⟩
        exact ⟨hu, hrest⟩

theorem isNameUnit_bounds {u : UInt16} (h : isNameUnit u = true) :
    0x20 ≤ u ∧ u ≤ 0x7E ∧ u ≠ 0x22 ∧ u ≠ 0x27 ∧ u ≠ 0x60 := by
  unfold isNameUnit isAlphanumeric dot space at h
  refine ⟨?_, ?_, ?_, ?_, ?_⟩ <;> grind

theorem check_bind_eq_ok {α : Type} {c : Bool} {e : DomainError}
    {f : PUnit → Except DomainError α} {a : α} :
    (check c e >>= f) = .ok a ↔ c = true ∧ f ⟨⟩ = .ok a := by
  cases c
  · exact ⟨fun h => (by cases h), fun h => (by cases h.1)⟩
  · exact ⟨fun h => ⟨rfl, h⟩, fun h => h.2⟩

/-- An accepted name is trimmed, climbs nowhere and is plain, and its extension is not
denied. -/
theorem sanitize_eq_ok {filename name : JsString} :
    sanitizeAttachmentFilename filename = .ok name ↔
      ¬ (js ".." <:+: filename ∨ 0x2F ∈ filename ∨ 0x5C ∈ filename) ∧ name = filename.trim ∧
        name.length ≤ 200 ∧ isPlainName name = true ∧ isDenied (extension name) = false := by
  simp only [sanitizeAttachmentFilename, check_bind_eq_ok, decide_eq_true_eq, pure, Except.pure,
    Except.ok.injEq, Bool.not_eq_true]
  constructor
  · rintro ⟨hclimb, -, ⟨hlength, -⟩, hplain, hdenied, rfl⟩
    exact ⟨hclimb, rfl, hlength, hplain, hdenied⟩
  · rintro ⟨hclimb, rfl, hlength, hplain, hdenied⟩
    obtain ⟨⟨u, hu, hfirst⟩, hunits⟩ := isPlainName_iff.mp hplain
    have hnot {t : JsString} (ht : ∀ v ∈ t.head?, isAlphanumeric v = false) :
        filename.trim ≠ t := by
      rintro htrim
      rw [ht u (htrim ▸ hu)] at hfirst
      cases hfirst
    refine ⟨hclimb, ⟨hnot (by simp), hnot ?_, hnot ?_⟩, ⟨hlength, ?_⟩, hplain, hdenied, rfl⟩
    · rintro v ⟨⟩
      rfl
    · rintro v ⟨⟩
      rfl
    · refine List.any_eq_false.mpr fun v hv => ?_
      have hbounds := isNameUnit_bounds (hunits v hv)
      unfold isControl
      grind

/-! ## The extension -/

/-- Behind the last dot stands the last of the parts between dots. -/
theorem extension_append {stem ext : JsString} (hext : dot ∉ ext) :
    extension (stem ++ dot :: ext) = lowerCase ext := by
  have hparts : (stem ++ dot :: ext).splitOnP (fun u => decide (u = dot)) =
      stem.splitOnP (fun u => decide (u = dot)) ++ [ext] := by
    have hdot : decide (dot = dot) = true := decide_eq_true rfl
    have hlast : ext.splitOnP (fun u => decide (u = dot)) = [ext] :=
      List.splitOnP_eq_singleton fun u hu => decide_eq_false fun h => hext (h ▸ hu)
    rw [List.splitOnP_append_cons stem ext hdot, hlast]
  rw [extension, if_pos (by simp), hparts, List.getLast?_concat, Option.getD_some]

theorem getLast_of_isDenied {ext : JsString} (h : isDenied (lowerCase ext) = true) :
    ∃ u ∈ ext.getLast?, u ≠ dot ∧ u ≠ space := by
  have hall : (deniedFilenameExtensions.all fun d =>
      (js d).getLast?.any fun u => u ≠ dot && u ≠ space) = true := by
    decide
  obtain ⟨d, hd, hsame⟩ := List.any_eq_true.mp h
  obtain ⟨v, hv, hlast⟩ := (Option.any_eq_true _ _).mp (List.all_eq_true.mp hall d hd)
  rw [← of_decide_eq_true hsame, lowerCase, List.getLast?_map] at hv
  obtain ⟨u, hu, rfl⟩ := Option.map_eq_some_iff.mp hv
  refine ⟨u, hu, ?_, ?_⟩
  · rintro rfl
    exact absurd hlast (by decide)
  · rintro rfl
    exact absurd hlast (by decide)

theorem dot_notMem_of_isDenied {ext : JsString} (h : isDenied (lowerCase ext) = true) :
    dot ∉ ext := by
  have hall : (deniedFilenameExtensions.all fun d => !(js d).contains dot) = true := by decide
  obtain ⟨d, hd, hsame⟩ := List.any_eq_true.mp h
  intro hmem
  have hnone := List.all_eq_true.mp hall d hd
  rw [← of_decide_eq_true hsame] at hnone
  have hlower : dot ∈ lowerCase ext := List.mem_map.mpr ⟨dot, hmem, by decide⟩
  simp [hlower] at hnone

def IsTail (tail : JsString) : Prop := ∀ u ∈ tail, u = dot ∨ u = space

theorem exists_tail (name : JsString) : ∃ tail, name = withoutTail name ++ tail ∧ IsTail tail := by
  refine ⟨name.rtakeWhile fun u => u = dot || u = space,
    List.rdropWhile_append_rtakeWhile.symm, fun u hu => ?_⟩
  simpa using List.mem_rtakeWhile_imp hu

theorem withoutTail_append {name tail : JsString} (htail : IsTail tail)
    (hname : ∀ u ∈ name.getLast?, u ≠ dot ∧ u ≠ space) : withoutTail (name ++ tail) = name := by
  induction tail using List.reverseRecOn with
  | nil =>
      rw [List.append_nil]
      refine List.rdropWhile_eq_self_iff.mpr fun hne hlast => ?_
      have hunit := hname _ (List.getLast?_eq_some_getLast hne)
      simp [hunit] at hlast
  | append_singleton tail u ih =>
      obtain ⟨htail, hu⟩ := List.forall_mem_append.mp htail
      rw [← List.append_assoc, withoutTail, List.rdropWhile_concat_pos]
      · exact ih htail
      · simpa using hu u (List.mem_singleton_self u)

/-- No denied extension stands before dots and spaces at the end of the name. -/
def HidesNothing (name : JsString) : Prop :=
  ∀ stem ext tail, name = stem ++ dot :: (ext ++ tail) → IsTail tail → tail ≠ [] →
    isDenied (lowerCase ext) = false

/-- An accepted name is a safe one just when it hides no denied extension before dots and
spaces at its end. -/
theorem safeName_iff {filename name : JsString}
    (h : sanitizeAttachmentFilename filename = .ok name) :
    IsSafeName name ↔ HidesNothing filename.trim := by
  obtain ⟨hclimb, rfl, hlength, hplain, hdenied⟩ := sanitize_eq_ok.mp h
  obtain ⟨⟨u, hu, hfirst⟩, hunits⟩ := isPlainName_iff.mp hplain
  constructor
  · intro hsafe stem ext tail hname htail _
    by_contra hbad
    rw [Bool.not_eq_false] at hbad
    obtain ⟨v, hv, hlast⟩ := getLast_of_isDenied hbad
    have hne : ext ≠ [] := by
      rintro rfl
      cases hv
    have hleft : withoutTail filename.trim = stem ++ dot :: ext := by
      rw [hname, ← List.cons_append, ← List.append_assoc]
      refine withoutTail_append htail fun w hw => ?_
      rw [List.getLast?_append_of_ne_nil _ (List.cons_ne_nil _ _),
        List.getLast?_cons_of_ne_nil hne] at hw
      obtain rfl := Option.mem_unique hv hw
      exact hlast
    rw [hsafe.harmless stem ext hleft (dot_notMem_of_isDenied hbad)] at hbad
    cases hbad
  · intro hhidden
    have hnone {v : UInt16} (hv : isNameUnit v = false) : v ∉ filename.trim :=
      fun hmem => absurd (hunits v hmem) (by simp [hv])
    have hinside {part : JsString} (hpart : part <:+: filename.trim) : part <:+: filename :=
      hpart.trans (trim_isInfix filename)
    refine ⟨?_, ⟨hnone rfl, hnone rfl⟩, fun hdots => hclimb (.inl (hinside hdots)),
      fun v hv => isNameUnit_bounds (hunits v hv), fun v hv => ?_, fun stem ext hleft hext => ?_⟩
    · refine sanitize_eq_ok.mpr ⟨?_, (JsString.trim_trim filename).symm, hlength, hplain, hdenied⟩
      rintro (hdots | hslash | hslash)
      · exact hclimb (.inl (hinside hdots))
      · exact hnone rfl hslash
      · exact hnone rfl hslash
    · obtain rfl := Option.mem_unique hu hv
      constructor
      · rintro rfl
        cases hfirst
      · rintro rfl
        cases hfirst
    · obtain ⟨tail, hname, htail⟩ := exists_tail filename.trim
      rw [hleft, List.append_assoc, List.cons_append] at hname
      by_cases hnil : tail = []
      · rw [hnil, List.append_nil] at hname
        rwa [hname, extension_append hext] at hdenied
      · exact hhidden stem ext tail hname htail hnil

theorem safeName_iff_demo : IsSafeName (js "notes.txt") := by
  have haccepted : sanitizeAttachmentFilename (js " notes.txt") = .ok (js "notes.txt") :=
    sanitize_eq_ok.mpr (by decide)
  refine (safeName_iff haccepted).mpr fun stem ext tail hname htail hne => ?_
  have hlast : (js " notes.txt").trim.getLast? = tail.getLast? := by
    rw [hname, ← List.cons_append, ← List.append_assoc, List.getLast?_append_of_ne_nil _ hne]
  have hunit := htail _ (List.mem_of_getLast? (hlast.symm.trans (by rfl)))
  exact absurd hunit (by decide)

/-- The name of a program is accepted when a dot is put behind it. -/
theorem safeName_fails :
    sanitizeAttachmentFilename (js "setup.exe.") = .ok (js "setup.exe.") ∧
      ¬ IsSafeName (js "setup.exe.") := by
  refine ⟨sanitize_eq_ok.mpr (by decide), fun hsafe => ?_⟩
  have hharmless := hsafe.harmless (js "setup") (js "exe") (by decide) (by decide)
  exact absurd hharmless (by decide)

end AttachmentValidator

end Aico
