import Aico.Attachments.AttachmentValidator
import Aico.Foundation.RegExpLanguage
import Aico.Foundation.RegExpSyntax

/-!
# Denied content

`detectMediaType` and `deniedClass` read the bytes of an upload. The markers of web pages,
images with scripts and active documents are looked for in the first 4096 bytes only, the
test string of virus scanners in all of them. `denied_content_iff` says for which accepted
uploads that is enough.
-/

namespace Aico

namespace AttachmentValidator

/-- `Buffer.prototype.toString('latin1')`. -/
def latin1 (bytes : Bytes) : JsString := bytes.map fun b => b.toUInt16

/-- `Buffer.prototype.toString('ascii')`, which drops the highest bit. -/
def ascii (bytes : Bytes) : JsString := bytes.map fun b => (b &&& 0x7F).toUInt16

def eicar : Bytes :=
  (js "X5O!P%@AP[4\\PZX54(P^)7CC)7\x7d$EICAR-STANDARD-ANTIVIRUS-TEST-FILE!$H+H*").map
    fun u => u.toUInt8

def pngSig : Bytes := [0x89, 0x50, 0x4E, 0x47, 0x0D, 0x0A, 0x1A, 0x0A]

def isContinuation (b : UInt8) : Bool := 0x80 ≤ b && b ≤ 0xBF

/-- Whether `b` may follow the first byte `a` of three. -/
def isSecondOfThree (a b : UInt8) : Bool :=
  isContinuation b && (a ≠ 0xE0 || 0xA0 ≤ b) && (a ≠ 0xED || b ≤ 0x9F)

/-- Whether `b` may follow the first byte `a` of four. -/
def isSecondOfFour (a b : UInt8) : Bool :=
  isContinuation b && (a ≠ 0xF0 || 0x90 ≤ b) && (a ≠ 0xF4 || b ≤ 0x8F)

/-- Whether reading the bytes as UTF-8 and writing them again gives them back: they are
well-formed UTF-8, since everything else is read as a replacement character. -/
def isMostlyText : Bytes → Bool
  | [] => true
  | a :: rest =>
      if a ≤ 0x7F then isMostlyText rest
      else
        match rest with
        | [] => false
        | b :: rest =>
            if 0xC2 ≤ a && a ≤ 0xDF then isContinuation b && isMostlyText rest
            else
              match rest with
              | [] => false
              | c :: rest =>
                  if 0xE0 ≤ a && a ≤ 0xEF then
                    isSecondOfThree a b && isContinuation c && isMostlyText rest
                  else
                    match rest with
                    | [] => false
                    | d :: rest =>
                        (0xF0 ≤ a && a ≤ 0xF4) && isSecondOfFour a b && isContinuation c &&
                          isContinuation d && isMostlyText rest

def detectMediaType (body : Bytes) : String :=
  if 8 ≤ body.length ∧ body.take 8 = pngSig then "image/png"
  else if 3 ≤ body.length ∧ body.take 3 = [0xFF, 0xD8, 0xFF] then "image/jpeg"
  else if 12 ≤ body.length ∧ ascii (body.take 4) = js "RIFF" ∧
      ascii ((body.drop 8).take 4) = js "WEBP" then
    "image/webp"
  else if 5 ≤ body.length ∧ ascii (body.take 5) = js "%PDF-" then "application/pdf"
  else if body.contains 0 || !isMostlyText body then "unknown"
  else "text/plain"

def htmlPattern : String := "<!DOCTYPE html|<html[\\s>]|<script[\\s>]"

def svgPattern : String := "<svg[\\s>]"

def encryptPattern : String := "\\/Encrypt(?:\\s|\\/|>>)"

def embeddedFilePattern : String := "\\/EmbeddedFile(?:\\s|\\/|>>)"

def activeContentPattern : String := "\\/(?:JavaScript|JS|RichMedia|Launch)(?:\\s|\\/|>>)"

def scannedBytes : ℕ := 4096

def deniedClass (body : Bytes) (detected : String) : Option String :=
  let ascii := latin1 (body.take (min body.length scannedBytes))
  if 2 ≤ body.length ∧ body.take 2 = [0x4D, 0x5A] then some "executable"
  else if 4 ≤ body.length ∧ body.take 4 = [0x7F, 0x45, 0x4C, 0x46] then some "executable"
  else if 4 ≤ body.length ∧ js "PK\x03\x04" <+: ascii then some "archive"
  else if js "#!" <+: ascii then some "script"
  else if RegExp.tests true htmlPattern ascii then some "html"
  else if RegExp.tests true svgPattern ascii then some "svg"
  else if detected = "application/pdf" ∧ RegExp.tests false encryptPattern ascii then
    some "encrypted_pdf"
  else if detected = "application/pdf" ∧ RegExp.tests false embeddedFilePattern ascii then
    some "embedded_file"
  else if detected = "application/pdf" ∧ RegExp.tests false activeContentPattern ascii then
    some "active_content"
  else if detected = "application/pdf" ∧ js "<html" <:+: ascii then some "polyglot"
  else if eicar <:+: body then some "malware"
  else none

/-- What the markers of a type are looked for with. -/
inductive Marker where
  | pattern (ignoreCase : Bool) (source : String)
  | text (units : JsString)

/-- The marker stands from `i` to `j` in the text. -/
def Marker.At (text : JsString) (i j : ℕ) : Marker → Prop
  | pattern ignoreCase source =>
      ∃ re, RegExp.compile ignoreCase source = some re ∧ re.Occurs text i j
  | Marker.text units => j = i + units.length ∧ units <+: text.drop i

def Marker.found (text : JsString) : Marker → Bool
  | pattern ignoreCase source => RegExp.tests ignoreCase source text
  | Marker.text units => units <:+: text

def markers (detected : String) : List Marker :=
  [.pattern true htmlPattern, .pattern true svgPattern] ++
    if detected = "application/pdf" then
      [.pattern false encryptPattern, .pattern false embeddedFilePattern,
        .pattern false activeContentPattern, .text (js "<html")]
    else []

/-- The validator with the readings of the bytes in place. -/
def contentParts (parts : ValidatorParts) : ValidatorParts :=
  { parts with detectMediaType := detectMediaType, deniedClass := deniedClass }

def Marker.isSpelled : Marker → Bool
  | pattern ignoreCase source =>
      (RegExp.compile ignoreCase source).any fun re => re.node.isSpelled
  | Marker.text _ => true

theorem isSpelled_of_mem_markers {detected : String} {m : Marker} (hm : m ∈ markers detected) :
    m.isSpelled = true := by
  have hall : ((markers "application/pdf").all Marker.isSpelled) = true := by decide
  refine List.all_eq_true.mp hall m ?_
  unfold markers at hm ⊢
  rw [if_pos rfl]
  rcases List.mem_append.mp hm with hm | hm
  · exact List.mem_append_left _ hm
  · split at hm
    · exact List.mem_append_right _ hm
    · cases hm

/-- A marker within the first `n` units is found in them. -/
theorem Marker.At.found_take {m : Marker} (hm : m.isSpelled = true) {text : JsString}
    {i j n : ℕ} (h : m.At text i j) (hn : j ≤ n) : m.found (text.take n) = true := by
  cases m with
  | pattern ignoreCase source =>
      obtain ⟨re, hcompile, hoccurs⟩ := h
      rw [Marker.isSpelled, hcompile] at hm
      rw [Marker.found, RegExp.tests, hcompile]
      exact hoccurs.test_take hm hn
  | text units =>
      obtain ⟨rfl, rest, hrest⟩ := h
      have hstart : text.take i ++ units <+: text.take n := by
        refine List.prefix_take_iff.mpr ⟨⟨rest, ?_⟩, ?_⟩
        · rw [List.append_assoc, hrest, List.take_append_drop]
        · rw [List.length_append]
          exact (Nat.add_le_add_right (List.length_take_le _ _) _).trans hn
      exact decide_eq_true ((List.suffix_append _ units).isInfix.trans hstart.isInfix)

/-- The name of a class that is denied, unless the rest of the checks is reached. -/
theorem ite_some_eq_none {c : Prop} [Decidable c] {name : String} {o : Option String} :
    (if c then some name else o) = none ↔ ¬ c ∧ o = none := by
  split <;> simp [*]

/-- Content that is not denied has no marker in its first bytes, and no test string. -/
theorem not_found_of_deniedClass {body : Bytes} {detected : String}
    (h : deniedClass body detected = none) :
    (∀ m ∈ markers detected, m.found (latin1 (body.take scannedBytes)) = false) ∧
      ¬ eicar <:+: body := by
  simp only [deniedClass, ite_some_eq_none] at h
  obtain ⟨-, -, -, -, hhtml, hsvg, hencrypt, hembedded, hactive, hpolyglot, heicar, -⟩ := h
  have hmin : body.take (min body.length scannedBytes) = body.take scannedBytes := by
    rw [Nat.min_comm]
    exact List.take_eq_take_min.symm
  rw [hmin] at hhtml hsvg hencrypt hembedded hactive hpolyglot
  refine ⟨fun m hm => Bool.eq_false_iff.mpr fun hfound => ?_, heicar⟩
  rcases List.mem_append.mp hm with hm | hm
  · simp only [List.mem_cons, List.not_mem_nil, or_false] at hm
    rcases hm with rfl | rfl
    · exact hhtml hfound
    · exact hsvg hfound
  · split at hm
    · next hpdf =>
        simp only [List.mem_cons, List.not_mem_nil, or_false] at hm
        rcases hm with rfl | rfl | rfl | rfl
        · exact hencrypt ⟨hpdf, hfound⟩
        · exact hembedded ⟨hpdf, hfound⟩
        · exact hactive ⟨hpdf, hfound⟩
        · exact hpolyglot ⟨hpdf, of_decide_eq_true hfound⟩
    · cases hm

theorem deniedClass_of_accepted {parts : ValidatorParts} {dto : CreateAttachmentDto}
    {body : Bytes} {validated : AttachmentValidationSuccess}
    (h : validateAttachmentIngest parts dto body = .ok validated) :
    parts.deniedClass body validated.mediaType = none := by
  obtain ⟨_, -, h⟩ := ok_of_bind h
  obtain ⟨safeFilename, -, h⟩ := ok_of_bind h
  obtain ⟨_, -, h⟩ := ok_of_bind h
  obtain ⟨_, -, h⟩ := ok_of_bind h
  obtain ⟨_, -, h⟩ := ok_of_bind h
  obtain ⟨_, hcontent, h⟩ := ok_of_bind h
  obtain rfl := Except.ok.inj h
  obtain ⟨_, -, hcontent⟩ := ok_of_bind hcontent
  obtain ⟨_, -, hcontent⟩ := ok_of_bind hcontent
  obtain ⟨_, hdeclared, hcontent⟩ := ok_of_bind hcontent
  have hdetected : detected parts dto.declaredMediaType body = dto.declaredMediaType :=
    of_decide_eq_true (check_eq_ok.mp hdeclared)
  rw [hdetected] at hcontent
  split at hcontent
  · cases hcontent
  · cases hcontent
  · next hnone => exact hnone

/-- Accepted content has no marker of its type and no test string anywhere, just when every
marker in it ends within the bytes that are searched. -/
theorem denied_content_iff (parts : ValidatorParts) (dto : CreateAttachmentDto) (body : Bytes)
    (validated : AttachmentValidationSuccess)
    (h : validateAttachmentIngest (contentParts parts) dto body = .ok validated) :
    ((∀ m ∈ markers validated.mediaType, ∀ i j, ¬ m.At (latin1 body) i j) ∧
        ∀ i, ¬ eicar <+: body.drop i) ↔
      ∀ m ∈ markers validated.mediaType, ∀ i j, m.At (latin1 body) i j → j ≤ scannedBytes := by
  obtain ⟨hfound, heicar⟩ := not_found_of_deniedClass (deniedClass_of_accepted h)
  constructor
  · rintro ⟨hnone, -⟩ m hm i j hat
    exact absurd hat (hnone m hm i j)
  · intro hends
    refine ⟨fun m hm i j hat => ?_, fun i hat => ?_⟩
    · have htake := hat.found_take (isSpelled_of_mem_markers hm) (hends m hm i j hat)
      rw [latin1, ← List.map_take] at htake
      exact absurd htake (Bool.eq_false_iff.mp (hfound m hm))
    · exact heicar (hat.isInfix.trans (List.drop_suffix i body).isInfix)

/-! ## Plain text -/

theorem isMostlyText_of_ascii {bytes : Bytes} (h : ∀ b ∈ bytes, b ≤ 0x7F) :
    isMostlyText bytes = true := by
  induction bytes with
  | nil => rfl
  | cons b bytes ih =>
      obtain ⟨hb, hbytes⟩ := List.forall_mem_cons.mp h
      rw [isMostlyText.eq_def]
      dsimp only
      rw [if_pos hb]
      exact ih hbytes

theorem tests_eq_false_of_needs {ignoreCase : Bool} {pattern : String} {v : UInt16}
    (hpattern : (RegExp.compile ignoreCase pattern).any (fun re =>
      re.node.isSpelled && re.node.needs v && (re.ignoreCase == ignoreCase)) = true)
    {text : JsString}
    (hnone : ∀ u ∈ text, RegExp.foldUnit ignoreCase u ≠ RegExp.foldUnit ignoreCase v) :
    RegExp.tests ignoreCase pattern text = false := by
  rw [RegExp.tests]
  cases hcompile : RegExp.compile ignoreCase pattern with
  | none => rfl
  | some re =>
      rw [hcompile] at hpattern
      obtain ⟨hneeds, hflag⟩ := Bool.and_eq_true_iff.mp hpattern
      obtain ⟨hspelled, hneeds⟩ := Bool.and_eq_true_iff.mp hneeds
      obtain rfl := beq_iff_eq.mp hflag
      exact RegExp.test_eq_false_of_needs hspelled hneeds hnone

/-- A platform on which every digest is the same. -/
def demoParts : ValidatorParts where
  sha256 _ := []
  toLowerCase := id
  sanitizeAttachmentFilename := .ok
  detectMediaType _ := "unknown"
  deniedClass _ _ := none
  pdfPageCount _ := 0
  pngPixels _ := none
  jpegPixels _ := none
  webpPixels _ := none

def demoUpload : CreateAttachmentDto := ⟨"text/plain", js "notes.txt", [], []⟩

/-- What follows the letter `a` in a text without the signs that markers begin with. -/
structure Harmless (rest : Bytes) : Prop where
  size : rest.length < 262144
  ascii : ∀ b ∈ rest, b ≤ 0x7F
  nonzero : 0 ∉ rest
  noTestString : 0x58 ∉ rest
  noMarker : 0x3C ∉ rest.take 4095

theorem detectMediaType_of_harmless {rest : Bytes} (h : Harmless rest) :
    detectMediaType (0x61 :: rest) = "text/plain" := by
  have hpdf : ascii (List.take 5 (0x61 :: rest)) ≠ js "%PDF-" := fun heq =>
    absurd (List.cons.inj heq).1 (by decide)
  have hriff : ascii (List.take 4 (0x61 :: rest)) ≠ js "RIFF" := fun heq =>
    absurd (List.cons.inj heq).1 (by decide)
  have htext : ((0x61 :: rest : Bytes).contains 0 || !isMostlyText (0x61 :: rest)) = false := by
    have hall : ∀ b ∈ (0x61 :: rest : Bytes), b ≤ 0x7F :=
      List.forall_mem_cons.mpr ⟨by decide, h.ascii⟩
    rw [isMostlyText_of_ascii hall]
    simpa using h.nonzero
  rw [detectMediaType, if_neg, if_neg, if_neg (fun h => hriff h.2.1), if_neg (fun h => hpdf h.2),
    if_neg (ne_true_of_eq_false htext)]
  · rintro ⟨-, heq⟩
    exact absurd (List.cons.inj heq).1 (by decide)
  · rintro ⟨-, heq⟩
    exact absurd (List.cons.inj heq).1 (by decide)

/-- No letter is read as the sign that markers begin with. -/
theorem eq_of_foldUnit_eq {u : UInt16}
    (h : RegExp.foldUnit true u = RegExp.foldUnit true 0x3C) : u = 0x3C := by
  unfold RegExp.foldUnit at h
  grind

theorem deniedClass_of_harmless {rest : Bytes} (h : Harmless rest) :
    deniedClass (0x61 :: rest) "text/plain" = none := by
  have hmin : (0x61 :: rest).take (min (0x61 :: rest).length scannedBytes) =
      0x61 :: rest.take 4095 := by
    rw [Nat.min_comm, ← List.take_eq_take_min]
    rfl
  have hnone : ∀ u ∈ latin1 (0x61 :: rest.take 4095),
      RegExp.foldUnit true u ≠ RegExp.foldUnit true 0x3C := by
    intro u hu hfold
    obtain ⟨b, hb, hunit⟩ := List.mem_map.mp hu
    obtain rfl : b = 0x3C := UInt8.toUInt16_inj.mp (hunit.trans (eq_of_foldUnit_eq hfold))
    exact h.noMarker ((List.mem_cons.mp hb).resolve_left (by decide))
  have heicar : ¬ eicar <:+: 0x61 :: rest := fun hpart => by
    have hmem : (0x58 : UInt8) ∈ 0x61 :: rest := hpart.subset (by decide)
    exact h.noTestString ((List.mem_cons.mp hmem).resolve_left (by decide))
  have hhtml : RegExp.tests true htmlPattern (latin1 (0x61 :: rest.take 4095)) = false :=
    tests_eq_false_of_needs (by decide) hnone
  have hsvg : RegExp.tests true svgPattern (latin1 (0x61 :: rest.take 4095)) = false :=
    tests_eq_false_of_needs (by decide) hnone
  have htype : ¬ "text/plain" = "application/pdf" := by decide
  simp only [deniedClass, ite_some_eq_none, hmin, hhtml, hsvg, htype, false_and, not_false_iff,
    Bool.false_eq_true, true_and, and_true]
  refine ⟨?_, ?_, ?_, ?_, heicar⟩
  · rintro ⟨-, heq⟩
    exact absurd (List.cons.inj heq).1 (by decide)
  · rintro ⟨-, heq⟩
    exact absurd (List.cons.inj heq).1 (by decide)
  · rintro ⟨-, heq⟩
    exact absurd (List.cons_prefix_cons.mp heq).1 (by decide)
  · exact fun heq => absurd (List.cons_prefix_cons.mp heq).1 (by decide)

theorem ok_bind {α β : Type} {x : Except DomainError α} {f : α → Except DomainError β} {a : α}
    {b : β} (hx : x = .ok a) (hf : f a = .ok b) : (x >>= f) = .ok b := by
  rw [hx]
  exact hf

theorem accepted_of_harmless {rest : Bytes} (h : Harmless rest) :
    validateAttachmentIngest (contentParts demoParts) demoUpload (0x61 :: rest) =
      .ok ⟨"text/plain", [], js "notes.txt", rest.length + 1⟩ := by
  have hdetected : detected (contentParts demoParts) "text/plain" (0x61 :: rest) =
      "text/plain" := by
    rw [detected, if_neg fun hmarkdown => absurd hmarkdown.1 (by decide)]
    exact detectMediaType_of_harmless h
  have hcontent : assertContent (contentParts demoParts) "text/plain" (0x61 :: rest) =
      .ok ⟨⟩ := by
    have hdenied : (contentParts demoParts).deniedClass (0x61 :: rest) "text/plain" = none :=
      deniedClass_of_harmless h
    rw [assertContent, hdetected]
    dsimp only
    rw [hdenied]
    rfl
  have hlimit : AttachmentPolicy.perFileMaxBytes "text/plain" = 262144 := by decide
  have hsize : (0x61 :: rest).length ≤ AttachmentPolicy.perFileMaxBytes "text/plain" := by
    rw [hlimit]
    exact h.size
  have hchecked {c : Bool} {e : DomainError} (hc : c = true) : check c e = .ok ⟨⟩ :=
    check_eq_ok.mpr hc
  refine ok_bind (hchecked rfl) (ok_bind rfl ?_)
  refine ok_bind (hchecked rfl) (ok_bind (hchecked (decide_eq_true hsize)) ?_)
  exact ok_bind (hchecked rfl) (ok_bind hcontent rfl)

theorem harmless_letters {n : ℕ} (hn : n < 262144) : Harmless (List.replicate n 0x61) where
  size := by
    rw [List.length_replicate]
    exact hn
  ascii b hb := by
    rw [List.eq_of_mem_replicate hb]
    decide
  nonzero h := absurd (List.eq_of_mem_replicate h) (by decide)
  noTestString h := absurd (List.eq_of_mem_replicate h) (by decide)
  noMarker h := absurd (List.eq_of_mem_replicate (List.mem_of_mem_take h)) (by decide)

/-- A text of 5001 letters, of which the last 905 are not searched, has no marker. -/
theorem denied_content_iff_demo :
    ((∀ m ∈ markers "text/plain", ∀ i j, ¬ m.At (latin1 (0x61 :: List.replicate 5000 0x61)) i j) ∧
        ∀ i, ¬ eicar <+: List.drop i (0x61 :: List.replicate 5000 0x61)) ↔
      ∀ m ∈ markers "text/plain", ∀ i j,
        m.At (latin1 (0x61 :: List.replicate 5000 0x61)) i j → j ≤ scannedBytes :=
  denied_content_iff demoParts demoUpload (0x61 :: List.replicate 5000 0x61) _
    (accepted_of_harmless (harmless_letters (by decide)))

/-- `<script>` -/
def script : Bytes := [0x3C, 0x73, 0x63, 0x72, 0x69, 0x70, 0x74, 0x3E]

theorem harmless_script : Harmless (List.replicate 4095 0x61 ++ script) where
  size := by
    rw [List.length_append, List.length_replicate]
    decide
  ascii b hb := by
    rcases List.mem_append.mp hb with hb | hb
    · rw [List.eq_of_mem_replicate hb]
      decide
    · simp only [script, List.mem_cons, List.not_mem_nil, or_false] at hb
      rcases hb with rfl | rfl | rfl | rfl | rfl | rfl | rfl | rfl <;> decide
  nonzero h := by
    rcases List.mem_append.mp h with h | h
    · exact absurd (List.eq_of_mem_replicate h) (by decide)
    · exact absurd h (by decide)
  noTestString h := by
    rcases List.mem_append.mp h with h | h
    · exact absurd (List.eq_of_mem_replicate h) (by decide)
    · exact absurd h (by decide)
  noMarker h := by
    rw [List.take_left' List.length_replicate] at h
    exact absurd (List.eq_of_mem_replicate h) (by decide)

/-- A script behind 4096 letters is accepted. -/
theorem denied_content_fails :
    ¬ ∀ (parts : ValidatorParts) (dto : CreateAttachmentDto) (body : Bytes)
        (validated : AttachmentValidationSuccess),
      validateAttachmentIngest (contentParts parts) dto body = .ok validated →
        (∀ m ∈ markers validated.mediaType, ∀ i j, ¬ m.At (latin1 body) i j) ∧
          ∀ i, ¬ eicar <+: body.drop i := by
  intro hall
  have haccepted := accepted_of_harmless harmless_script
  have hfinds : (RegExp.compile true htmlPattern).any (fun re => re.node.isSpelled &&
      (RegExp.run re.ignoreCase re.node ⟨[], latin1 script, []⟩).any fun t =>
        t.after.isEmpty) = true := by decide
  obtain ⟨re, hcompile, hre⟩ := Option.any_eq_true _ _ |>.mp hfinds
  obtain ⟨hspelled, hany⟩ := Bool.and_eq_true_iff.mp hre
  obtain ⟨t, ht, hafter⟩ := List.any_eq_true.mp hany
  have hoccurs := RegExp.occurs_append hspelled (latin1 (List.replicate 4096 0x61))
    ⟨t, ht, List.isEmpty_iff.mp hafter⟩
  have hbody : latin1 (List.replicate 4096 0x61) ++ latin1 script =
      latin1 (0x61 :: (List.replicate 4095 0x61 ++ script)) := by
    rw [latin1, latin1, ← List.map_append]
    rfl
  rw [hbody] at hoccurs
  exact (hall demoParts demoUpload _ _ haccepted).1 (.pattern true htmlPattern)
    (by simp [markers]) _ _ ⟨re, hcompile, hoccurs⟩

end AttachmentValidator

end Aico
