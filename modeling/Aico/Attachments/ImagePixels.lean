import Aico.Attachments.DeniedContent

/-!
# The pixels of an image

`pngPixels`, `jpegPixels` and `webpPixels` read the size of an image from the bytes of its
header, to be held against the limit. `Declares` says where the header of each form has the
size. Of the three forms of WebP only the extended one is read.
-/

namespace Aico

namespace AttachmentValidator

def byteAt (body : Bytes) (i : ℕ) : ℕ := (body[i]?.getD 0).toNat

/-- The number whose bytes are given, the highest one first. -/
def bigEndian (bytes : Bytes) : ℕ := bytes.foldl (fun n b => 256 * n + b.toNat) 0

/-- The number whose bytes are given, the lowest one first. -/
def littleEndian (bytes : Bytes) : ℕ := bytes.foldr (fun b n => b.toNat + 256 * n) 0

def readUInt32BE (body : Bytes) (offset : ℕ) : ℕ := bigEndian ((body.drop offset).take 4)

def readUInt16BE (body : Bytes) (offset : ℕ) : ℕ := bigEndian ((body.drop offset).take 2)

-- a product over the limit stays over it when it is rounded to a double
def pngPixels (body : Bytes) : Option ℕ :=
  if body.length < 24 then none else some (readUInt32BE body 16 * readUInt32BE body 20)

/-- The markers of a segment with the size of the image. -/
def isFrameMarker (marker : ℕ) : Bool :=
  0xC0 ≤ marker && marker ≤ 0xCF && marker ≠ 0xC4 && marker ≠ 0xC8 && marker ≠ 0xCC

/-- The loop of `jpegPixels`. -/
def jpegSegment (body : Bytes) (offset : ℕ) : Option ℕ :=
  if offset + 9 < body.length then
    if byteAt body offset ≠ 0xFF then jpegSegment body (offset + 1)
    else if isFrameMarker (byteAt body (offset + 1)) then
      some (readUInt16BE body (offset + 5) * readUInt16BE body (offset + 7))
    else jpegSegment body (offset + (2 + readUInt16BE body (offset + 2)))
  else none
termination_by body.length - offset

def jpegPixels (body : Bytes) : Option ℕ := jpegSegment body 2

def webpPixels (body : Bytes) : Option ℕ :=
  if body.length < 30 then none
  else if ascii ((body.drop 12).take 4) = js "VP8X" then
    let width := 1 + byteAt body 24 + byteAt body 25 * 2 ^ 8 + byteAt body 26 * 2 ^ 16
    let height := 1 + byteAt body 27 + byteAt body 28 * 2 ^ 8 + byteAt body 29 * 2 ^ 16
    some (width * height)
  else some 1

def imageParts (parts : ValidatorParts) : ValidatorParts :=
  { contentParts parts with
    pngPixels := pngPixels, jpegPixels := jpegPixels, webpPixels := webpPixels }

/-! ## Headers -/

/-- The forms of an image with its size at a fixed place. -/
inductive ImageForm where
  | png
  | extended
  | lossy
  | lossless
deriving DecidableEq

def asciiBytes (s : String) : Bytes := (js s).map UInt16.toUInt8

/-- The opening of a WebP file with its size, the tag of its first chunk and the chunk's
size. -/
structure IsWebpOpening (tag : String) (opening : Bytes) : Prop where
  parts : ∃ size chunk : Bytes, size.length = 4 ∧ chunk.length = 4 ∧
    opening = asciiBytes "RIFF" ++ (size ++ (asciiBytes "WEBP" ++ (asciiBytes tag ++ chunk)))

/-- The header of the form declares the width and the height: for PNG in the first chunk
`IHDR`, for the extended form of WebP less one in three bytes each, for a key frame of the
lossy form in 14 bits each, for the lossless form less one in fields of 14 bits. -/
inductive Declares : ImageForm → Bytes → ℕ → ℕ → Prop where
  | png (length width height rest : Bytes) (hlength : length.length = 4)
      (hwidth : width.length = 4) (hheight : height.length = 4) :
      Declares .png (pngSig ++ (length ++ (asciiBytes "IHDR" ++ (width ++ (height ++ rest)))))
        (bigEndian width) (bigEndian height)
  | extended (opening flags width height rest : Bytes) (hopening : IsWebpOpening "VP8X" opening)
      (hflags : flags.length = 4) (hwidth : width.length = 3) (hheight : height.length = 3) :
      Declares .extended (opening ++ (flags ++ (width ++ (height ++ rest))))
        (littleEndian width + 1) (littleEndian height + 1)
  | lossy (opening frame width height rest : Bytes) (hopening : IsWebpOpening "VP8 " opening)
      (hframe : frame.length = 3) (hkey : littleEndian frame % 2 = 0) (hwidth : width.length = 2)
      (hheight : height.length = 2) :
      Declares .lossy
        (opening ++ (frame ++ ([0x9D, 0x01, 0x2A] ++ (width ++ (height ++ rest)))))
        (littleEndian width % 2 ^ 14) (littleEndian height % 2 ^ 14)
  | lossless (opening fields rest : Bytes) (hopening : IsWebpOpening "VP8L" opening)
      (hfields : fields.length = 4) (hversion : littleEndian fields / 2 ^ 29 = 0) :
      Declares .lossless (opening ++ (0x2F :: (fields ++ rest)))
        (littleEndian fields % 2 ^ 14 + 1) (littleEndian fields / 2 ^ 14 % 2 ^ 14 + 1)

variable {body : Bytes} {width height : ℕ}

theorem tooManyPixels_eq_false {pixels : ℕ} :
    tooManyPixels (some pixels) = false ↔ pixels ≤ AttachmentPolicy.imagePixelsMax := by
  rw [tooManyPixels, decide_eq_false_iff_not, not_lt]

theorem pixels_of_accepted {parts : ValidatorParts} {dto : CreateAttachmentDto}
    {validated : AttachmentValidationSuccess}
    (h : validateAttachmentIngest parts dto body = .ok validated) :
    (parts.detectMediaType body = "image/png" → tooManyPixels (parts.pngPixels body) = false) ∧
      (parts.detectMediaType body = "image/webp" →
        tooManyPixels (parts.webpPixels body) = false) := by
  have hdetected {mediaType : String} (hne : mediaType ≠ "text/plain")
      (hmedia : parts.detectMediaType body = mediaType) :
      detected parts dto.declaredMediaType body = mediaType := by
    rw [detected, hmedia, if_neg fun hmarkdown => hne hmarkdown.2]
  obtain ⟨_, -, h⟩ := ok_of_bind h
  obtain ⟨safeFilename, -, h⟩ := ok_of_bind h
  obtain ⟨_, -, h⟩ := ok_of_bind h
  obtain ⟨_, -, h⟩ := ok_of_bind h
  obtain ⟨_, -, h⟩ := ok_of_bind h
  obtain ⟨_, hcontent, -⟩ := ok_of_bind h
  obtain ⟨_, -, hcontent⟩ := ok_of_bind hcontent
  obtain ⟨_, -, hcontent⟩ := ok_of_bind hcontent
  obtain ⟨_, -, hcontent⟩ := ok_of_bind hcontent
  split at hcontent
  · cases hcontent
  · cases hcontent
  · obtain ⟨_, -, hcontent⟩ := ok_of_bind hcontent
    obtain ⟨_, hpng, hcontent⟩ := ok_of_bind hcontent
    obtain ⟨_, -, hwebp⟩ := ok_of_bind hcontent
    have hpng := of_decide_eq_true (check_eq_ok.mp hpng)
    have hwebp := of_decide_eq_true (check_eq_ok.mp hwebp)
    constructor
    · exact fun hmedia => by simpa [hdetected (by decide) hmedia] using hpng
    · exact fun hmedia => by simpa [hdetected (by decide) hmedia] using hwebp

/-- The bytes of a field behind the first part of a body. -/
theorem take_drop_append (before field rest : Bytes) {offset n : ℕ}
    (hbefore : before.length = offset) (hfield : field.length = n) :
    ((before ++ (field ++ rest)).drop offset).take n = field := by
  rw [List.drop_left' hbefore, List.take_left' hfield]

theorem byteAt_append {before bytes : Bytes} {offset : ℕ} (hbefore : before.length = offset)
    (i : ℕ) : byteAt (before ++ bytes) (offset + i) = byteAt bytes i := by
  rw [byteAt, List.getElem?_append_right (by omega), hbefore, Nat.add_sub_cancel_left, byteAt]

theorem pngPixels_of_declares (h : Declares .png body width height) :
    detectMediaType body = "image/png" ∧ pngPixels body = some (width * height) := by
  obtain ⟨length, width, height, rest, hlength, hwidth, hheight⟩ := h
  have hsig : pngSig.length = 8 := rfl
  have htag : (asciiBytes "IHDR").length = 4 := by decide
  constructor
  · have hlength : 8 ≤ (pngSig ++ (length ++ (asciiBytes "IHDR" ++ (width ++
        (height ++ rest))))).length := by
      rw [List.length_append, hsig]
      exact Nat.le_add_right _ _
    rw [detectMediaType, if_pos ⟨hlength, List.take_left' rfl⟩]
  · have hw := take_drop_append (pngSig ++ (length ++ asciiBytes "IHDR")) width (height ++ rest)
      (show _ = 16 by simp [hsig, hlength, htag]) hwidth
    have hh := take_drop_append (pngSig ++ (length ++ (asciiBytes "IHDR" ++ width))) height rest
      (show _ = 20 by simp [hsig, hlength, htag, hwidth]) hheight
    simp only [List.append_assoc] at hw hh
    rw [pngPixels, if_neg, readUInt32BE, readUInt32BE, hw, hh]
    simp only [List.length_append, hsig, hlength, htag, hwidth, hheight]
    omega

theorem IsWebpOpening.detectMediaType {tag : String} {opening : Bytes}
    (h : IsWebpOpening tag opening) (htag : (asciiBytes tag).length = 4) (rest : Bytes) :
    opening.length = 20 ∧ AttachmentValidator.detectMediaType (opening ++ rest) = "image/webp" ∧
      ((opening ++ rest).drop 12).take 4 = asciiBytes tag := by
  obtain ⟨size, chunk, hsize, hchunk, rfl⟩ := h.parts
  have hriff : (asciiBytes "RIFF").length = 4 := by decide
  have hwebp : (asciiBytes "WEBP").length = 4 := by decide
  have hlength : (asciiBytes "RIFF" ++ (size ++ (asciiBytes "WEBP" ++
      (asciiBytes tag ++ chunk)))).length = 20 := by
    simp [hriff, hsize, hwebp, htag, hchunk]
  have hform := take_drop_append (asciiBytes "RIFF" ++ size) (asciiBytes "WEBP")
    (asciiBytes tag ++ (chunk ++ rest)) (show _ = 8 by simp [hriff, hsize]) hwebp
  have hfirst := take_drop_append (asciiBytes "RIFF" ++ (size ++ asciiBytes "WEBP"))
    (asciiBytes tag) (chunk ++ rest) (show _ = 12 by simp [hriff, hsize, hwebp]) htag
  simp only [List.append_assoc] at hform hfirst ⊢
  refine ⟨hlength, ?_, hfirst⟩
  have hopening (x : Bytes) : (asciiBytes "RIFF" ++ x).take 4 = asciiBytes "RIFF" :=
    List.take_left' hriff
  rw [AttachmentValidator.detectMediaType, if_neg, if_neg, if_pos]
  · refine ⟨?_, ?_, ?_⟩
    · simp only [List.length_append, hriff, hsize, hwebp]
      omega
    · rw [hopening]
      decide
    · rw [hform]
      decide
  · rintro ⟨-, heq⟩
    exact absurd (List.cons.inj heq).1 (by decide)
  · rintro ⟨-, heq⟩
    exact absurd (List.cons.inj heq).1 (by decide)

theorem webpPixels_of_declares (h : Declares .extended body width height) :
    detectMediaType body = "image/webp" ∧ webpPixels body = some (width * height) := by
  obtain _ | ⟨opening, flags, width, height, rest, hopening, hflags, hwidth, hheight⟩ := h
  obtain ⟨hlength, hmedia, htag⟩ := hopening.detectMediaType (by decide)
    (flags ++ (width ++ (height ++ rest)))
  refine ⟨hmedia, ?_⟩
  obtain ⟨w₀, w₁, w₂, rfl⟩ := List.length_eq_three.mp hwidth
  obtain ⟨h₀, h₁, h₂, rfl⟩ := List.length_eq_three.mp hheight
  have hbefore : (opening ++ flags).length = 24 := by rw [List.length_append, hlength, hflags]
  have hbyte (i : ℕ) : byteAt (opening ++ (flags ++ ([w₀, w₁, w₂] ++ ([h₀, h₁, h₂] ++ rest))))
      (24 + i) = byteAt ([w₀, w₁, w₂] ++ ([h₀, h₁, h₂] ++ rest)) i := by
    rw [← List.append_assoc]
    exact byteAt_append hbefore i
  have hw₀ : byteAt _ 24 = w₀.toNat := hbyte 0
  have hw₁ : byteAt _ 25 = w₁.toNat := hbyte 1
  have hw₂ : byteAt _ 26 = w₂.toNat := hbyte 2
  have hh₀ : byteAt _ 27 = h₀.toNat := hbyte 3
  have hh₁ : byteAt _ 28 = h₁.toNat := hbyte 4
  have hh₂ : byteAt _ 29 = h₂.toNat := hbyte 5
  have hvp8x : ascii (asciiBytes "VP8X") = js "VP8X" := by decide
  have hsum (a b c : UInt8) : 1 + a.toNat + b.toNat * 2 ^ 8 + c.toNat * 2 ^ 16 =
      littleEndian [a, b, c] + 1 := by
    simp only [littleEndian, List.foldr_cons, List.foldr_nil]
    omega
  rw [webpPixels, if_neg, htag, if_pos hvp8x]
  · dsimp only
    rw [hw₀, hw₁, hw₂, hh₀, hh₁, hh₂, hsum, hsum]
  · simp only [List.length_append, hlength, hflags, hwidth, hheight]
    omega

/-- Accepted images of a form keep to the limit of the pixels. -/
def KeepsToLimit (form : ImageForm) : Prop :=
  ∀ (parts : ValidatorParts) (dto : CreateAttachmentDto) (body : Bytes)
    (validated : AttachmentValidationSuccess) (width height : ℕ),
    validateAttachmentIngest (imageParts parts) dto body = .ok validated →
      Declares form body width height → width * height ≤ AttachmentPolicy.imagePixelsMax

/-! ## Forms that are not read -/

def webpUpload : CreateAttachmentDto := ⟨"image/webp", js "photo.webp", [], []⟩

def webpOpening (tag : String) : Bytes :=
  asciiBytes "RIFF" ++ ([0x16, 0, 0, 0] ++ (asciiBytes "WEBP" ++ (asciiBytes tag ++
    [0x0A, 0, 0, 0])))

theorem isWebpOpening (tag : String) : IsWebpOpening tag (webpOpening tag) :=
  ⟨_, _, rfl, rfl, rfl⟩

/-- A key frame of 16383 by 16383 pixels. -/
def lossyBody : Bytes :=
  webpOpening "VP8 " ++ ([0, 0, 0] ++ ([0x9D, 0x01, 0x2A] ++ ([0xFF, 0x3F] ++ ([0xFF, 0x3F] ++ []))))

def losslessBody : Bytes :=
  webpOpening "VP8L" ++ (0x2F :: ([0xFF, 0xFF, 0xFF, 0x0F] ++ [0, 0, 0, 0, 0]))

theorem exists_of_isOk {α ε : Type} {x : Except ε α} (h : x.isOk = true) : ∃ a, x = .ok a := by
  cases x with
  | error e => cases h
  | ok a => exact ⟨a, rfl⟩

theorem not_keepsToLimit {form : ImageForm} {body : Bytes} {width height : ℕ}
    (haccepted : (validateAttachmentIngest (imageParts demoParts) webpUpload body).isOk = true)
    (hdeclares : Declares form body width height)
    (hover : AttachmentPolicy.imagePixelsMax < width * height) : ¬ KeepsToLimit form := by
  intro hkeeps
  obtain ⟨validated, hok⟩ := exists_of_isOk haccepted
  exact absurd (hkeeps _ _ _ _ _ _ hok hdeclares) (not_le.mpr hover)

theorem declares_lossyBody : Declares .lossy lossyBody 16383 16383 :=
  .lossy _ _ _ _ _ (isWebpOpening "VP8 ") rfl rfl rfl rfl

theorem declares_losslessBody : Declares .lossless losslessBody 16384 16384 :=
  .lossless _ _ _ (isWebpOpening "VP8L") rfl rfl

theorem accepted_lossyBody :
    (validateAttachmentIngest (imageParts demoParts) webpUpload lossyBody).isOk = true := by
  decide

theorem accepted_losslessBody :
    (validateAttachmentIngest (imageParts demoParts) webpUpload losslessBody).isOk = true := by
  decide

/-- The limit of the pixels is kept by the PNG images and by the extended form of WebP, and
by no other form. -/
theorem pixelLimit_iff (form : ImageForm) : KeepsToLimit form ↔ form = .png ∨ form = .extended := by
  constructor
  · intro hkeeps
    cases form with
    | png => exact .inl rfl
    | extended => exact .inr rfl
    | lossy =>
        exact absurd hkeeps (not_keepsToLimit accepted_lossyBody declares_lossyBody (by decide))
    | lossless =>
        exact absurd hkeeps
          (not_keepsToLimit accepted_losslessBody declares_losslessBody (by decide))
  · intro hform parts dto body validated width height hok hdeclares
    obtain ⟨hpng, hwebp⟩ := pixels_of_accepted hok
    rcases hform with rfl | rfl
    · obtain ⟨hmedia, hpixels⟩ := pngPixels_of_declares hdeclares
      refine tooManyPixels_eq_false.mp ?_
      rw [← hpixels]
      exact hpng hmedia
    · obtain ⟨hmedia, hpixels⟩ := webpPixels_of_declares hdeclares
      refine tooManyPixels_eq_false.mp ?_
      rw [← hpixels]
      exact hwebp hmedia

/-- A file of 30 bytes that declares 16383 by 16383 pixels is accepted. -/
theorem pixelLimit_fails :
    ¬ ∀ form, KeepsToLimit form :=
  fun hall => not_keepsToLimit accepted_lossyBody declares_lossyBody (by decide) (hall .lossy)

end AttachmentValidator

end Aico
