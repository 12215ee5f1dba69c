import Aico.Attachments.Attachments

/-!
# Checking an upload

`validateAttachmentIngest` checks what was declared, the name, the size, the
declared digest and the bytes, and returns the digest and the size it has
measured itself. Reading the bytes (what type they are of, whether they are of a
denied class, how many pages or pixels they have) is a parameter.
-/

namespace Aico

/-- The parts of the validator, with the SHA-256 digest of bytes and
`String.prototype.toLowerCase`. A number of pixels may be infinite. -/
structure ValidatorParts where
  sha256 : Bytes → Digest
  toLowerCase : JsString → JsString
  sanitizeAttachmentFilename : JsString → Except DomainError JsString
  detectMediaType : Bytes → String
  deniedClass : Bytes → String → Option String
  pdfPageCount : Bytes → ℕ
  pngPixels : Bytes → Option ℕ
  jpegPixels : Bytes → Option ℕ
  webpPixels : Bytes → Option ℕ

namespace AttachmentPolicy

def allowedMediaTypes : List String :=
  ["text/plain", "text/markdown", "application/pdf", "image/png", "image/jpeg", "image/webp"]

def perFileMaxBytes (mediaType : String) : ℕ :=
  if mediaType = "text/plain" ∨ mediaType = "text/markdown" then 262144
  else if mediaType = "application/pdf" then 10485760
  else 5242880

def pdfPagesMax : ℕ := 50
def imagePixelsMax : ℕ := 20000000

end AttachmentPolicy

namespace AttachmentValidator

/-- The refusal of an upload. -/
def fail (code rule : String) (field : String := "file") : DomainError where
  status := 422
  code := code
  title := "The attachment could not be accepted"
  detail := "The file failed a required safety or type check and was not stored."
  errors := [.object [("field", .text field), ("rule", .text rule)]]
  remediation := ["replace_attachment"]

/-- Refuse the upload unless the condition holds. -/
def check (c : Bool) (e : DomainError) : Except DomainError PUnit :=
  if c then .ok ⟨⟩ else .error e

def tooManyPixels : Option ℕ → Bool
  | none => true
  | some pixels => AttachmentPolicy.imagePixelsMax < pixels

variable (parts : ValidatorParts)

def detected (declared : String) (body : Bytes) : String :=
  let detected := parts.detectMediaType body
  if declared = "text/markdown" ∧ detected = "text/plain" then "text/markdown" else detected

def assertContent (declared : String) (body : Bytes) : Except DomainError PUnit := do
  let detected := detected parts declared body
  check (detected ≠ "unknown") (fail "attachment_unsafe" "unknown_type")
  check (detected ∈ AttachmentPolicy.allowedMediaTypes)
    (fail "attachment_type_unsupported" "detected_type_allowlisted")
  check (detected = declared)
    (fail "attachment_validation_failed" "declared_matches_detected" "declared_media_type")
  match parts.deniedClass body detected with
  | some "malware" => .error (fail "attachment_unsafe" "malware_scan_clean")
  | some denied => .error (fail "attachment_unsafe" denied)
  | none => do
      let parserLimit := fun code => fail code "parser_limits_enforced"
      check (¬ (detected = "application/pdf" ∧
        AttachmentPolicy.pdfPagesMax < parts.pdfPageCount body))
        (parserLimit "attachment_pdf_too_long")
      check (¬ (detected = "image/png" ∧ tooManyPixels (parts.pngPixels body)))
        (parserLimit "attachment_image_too_large")
      check (¬ (detected = "image/jpeg" ∧ tooManyPixels (parts.jpegPixels body)))
        (parserLimit "attachment_image_too_large")
      check (¬ (detected = "image/webp" ∧ tooManyPixels (parts.webpPixels body)))
        (parserLimit "attachment_image_too_large")

def validateAttachmentIngest (dto : CreateAttachmentDto) (body : Bytes) :
    Except DomainError AttachmentValidationSuccess := do
  let declared := dto.declaredMediaType
  check (declared ∈ AttachmentPolicy.allowedMediaTypes)
    (fail "attachment_type_unsupported" "declared_type_allowlisted" "declared_media_type")
  let safeFilename ← parts.sanitizeAttachmentFilename dto.filename
  check (body.length ≠ 0) (fail "attachment_validation_failed" "byte_limit")
  check (body.length ≤ AttachmentPolicy.perFileMaxBytes declared)
    (fail "attachment_too_large" "byte_limit")
  let checksumSha256 := parts.sha256 body
  check (checksumSha256 = parts.toLowerCase dto.contentSha256)
    (fail "attachment_validation_failed" "sha256_verified" "content_sha256")
  assertContent parts declared body
  pure { mediaType := declared, checksumSha256 := checksumSha256,
         safeFilename := safeFilename, sizeBytes := body.length }

variable {parts : ValidatorParts}

theorem ok_of_bind {α β : Type} {x : Except DomainError α} {f : α → Except DomainError β}
    {b : β} (h : (x >>= f) = .ok b) : ∃ a, x = .ok a ∧ f a = .ok b := by
  cases x with
  | error e => cases h
  | ok a => exact ⟨a, rfl, h⟩

/-- An accepted upload is recorded with its own digest and length. -/
theorem measured {dto : CreateAttachmentDto} {body : Bytes}
    {validated : AttachmentValidationSuccess}
    (h : validateAttachmentIngest parts dto body = .ok validated) :
    validated.checksumSha256 = parts.sha256 body ∧ validated.sizeBytes = body.length := by
  obtain ⟨_, -, h⟩ := ok_of_bind h
  obtain ⟨safeFilename, -, h⟩ := ok_of_bind h
  obtain ⟨_, -, h⟩ := ok_of_bind h
  obtain ⟨_, -, h⟩ := ok_of_bind h
  obtain ⟨_, -, h⟩ := ok_of_bind h
  obtain ⟨_, -, h⟩ := ok_of_bind h
  obtain rfl := Except.ok.inj h
  exact ⟨rfl, rfl⟩

theorem check_eq_ok {c : Bool} {e : DomainError} {u : PUnit} :
    check c e = .ok u ↔ c = true := by
  cases c <;> simp [check]

/-- It is the digest the uploader has declared. -/
theorem declared {dto : CreateAttachmentDto} {body : Bytes}
    {validated : AttachmentValidationSuccess}
    (h : validateAttachmentIngest parts dto body = .ok validated) :
    validated.checksumSha256 = parts.toLowerCase dto.contentSha256 := by
  obtain ⟨_, -, h⟩ := ok_of_bind h
  obtain ⟨safeFilename, -, h⟩ := ok_of_bind h
  obtain ⟨_, -, h⟩ := ok_of_bind h
  obtain ⟨_, -, h⟩ := ok_of_bind h
  obtain ⟨_, hsum, h⟩ := ok_of_bind h
  obtain ⟨_, -, h⟩ := ok_of_bind h
  obtain rfl := Except.ok.inj h
  exact of_decide_eq_true (check_eq_ok.mp hsum)

end AttachmentValidator

end Aico
