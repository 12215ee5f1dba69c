import Mathlib.Data.List.DropRight
import Aico.Attachments.AttachmentValidator

/-!
# Base64

`encode` writes bytes in the alphabet of Base64, three bytes to four characters
and the last ones padded; `decode` reads the characters of the alphabet, and of
its URL-safe variant, and passes over everything else. The body of an upload is
accepted (`decodeBody`) where its text is the encoding of the bytes it decodes to,
up to the padding.
-/

namespace Aico

namespace Base64

/-- The padding character. -/
def pad : UInt16 := 0x3D

/-- The character of six bits. -/
def digit (n : ℕ) : UInt16 :=
  if n < 26 then UInt16.ofNat (0x41 + n)
  else if n < 52 then UInt16.ofNat (0x61 + (n - 26))
  else if n < 62 then UInt16.ofNat (0x30 + (n - 52))
  else if n = 62 then 0x2B
  else 0x2F

/-- The six bits a character stands for. -/
def sextet (c : UInt16) : Option ℕ :=
  if 0x41 ≤ c ∧ c ≤ 0x5A then some (c.toNat - 0x41)
  else if 0x61 ≤ c ∧ c ≤ 0x7A then some (c.toNat - 0x61 + 26)
  else if 0x30 ≤ c ∧ c ≤ 0x39 then some (c.toNat - 0x30 + 52)
  else if c = 0x2B ∨ c = 0x2D then some 62
  else if c = 0x2F ∨ c = 0x5F then some 63
  else none

/-- `body.toString('base64')`. -/
def encode : Bytes → JsString
  | [] => []
  | [a] => [digit (a.toNat / 4), digit (a.toNat % 4 * 16), pad, pad]
  | [a, b] =>
      [digit (a.toNat / 4), digit (a.toNat % 4 * 16 + b.toNat / 16), digit (b.toNat % 16 * 4), pad]
  | a :: b :: c :: rest =>
      digit (a.toNat / 4) :: digit (a.toNat % 4 * 16 + b.toNat / 16) ::
        digit (b.toNat % 16 * 4 + c.toNat / 64) :: digit (c.toNat % 64) :: encode rest

/-- The bytes of a sequence of six bits each; the bits that fill no byte are
dropped. -/
def ofSextets : List ℕ → Bytes
  | x :: y :: z :: u :: rest =>
      UInt8.ofNat (x * 4 + y / 16) :: UInt8.ofNat (y % 16 * 16 + z / 4) ::
        UInt8.ofNat (z % 4 * 64 + u) :: ofSextets rest
  | [x, y, z] => [UInt8.ofNat (x * 4 + y / 16), UInt8.ofNat (y % 16 * 16 + z / 4)]
  | [x, y] => [UInt8.ofNat (x * 4 + y / 16)]
  | _ => []

/-- `Buffer.from(value, 'base64')`. -/
def decode (value : JsString) : Bytes := ofSextets (value.filterMap sextet)

/-- `value.replace(/=+$/, '')`. -/
def unpadded (value : JsString) : JsString := value.rdropWhile fun c => c = pad

theorem sextet_digit {n : ℕ} (hn : n < 64) : sextet (digit n) = some n := by
  interval_cases n <;> rfl

theorem sextet_pad : sextet pad = none := rfl

theorem ofNat_toNat_eq {a : UInt8} {n : ℕ} (h : n = a.toNat) : UInt8.ofNat n = a := by
  rw [h, UInt8.ofNat_toNat]

/-- The bytes are read back. -/
@[simp] theorem decode_encode (body : Bytes) : decode (encode body) = body := by
  induction body using encode.induct with
  | case1 => rfl
  | case2 a =>
      have ha := a.toNat_lt
      have hx := sextet_digit (n := a.toNat / 4) (by omega)
      have hy := sextet_digit (n := a.toNat % 4 * 16) (by omega)
      simp only [decode, encode, List.filterMap_cons, List.filterMap_nil, hx, hy, sextet_pad,
        ofSextets]
      rw [ofNat_toNat_eq (a := a) (by omega)]
  | case3 a b =>
      have ha := a.toNat_lt
      have hb := b.toNat_lt
      have hx := sextet_digit (n := a.toNat / 4) (by omega)
      have hy := sextet_digit (n := a.toNat % 4 * 16 + b.toNat / 16) (by omega)
      have hz := sextet_digit (n := b.toNat % 16 * 4) (by omega)
      simp only [decode, encode, List.filterMap_cons, List.filterMap_nil, hx, hy, hz, sextet_pad,
        ofSextets]
      rw [ofNat_toNat_eq (a := a) (by omega), ofNat_toNat_eq (a := b) (by omega)]
  | case4 a b c rest ih =>
      have ha := a.toNat_lt
      have hb := b.toNat_lt
      have hc := c.toNat_lt
      have hx := sextet_digit (n := a.toNat / 4) (by omega)
      have hy := sextet_digit (n := a.toNat % 4 * 16 + b.toNat / 16) (by omega)
      have hz := sextet_digit (n := b.toNat % 16 * 4 + c.toNat / 64) (by omega)
      have hu := sextet_digit (n := c.toNat % 64) (by omega)
      rw [decode] at ih
      simp only [decode, encode, List.filterMap_cons, hx, hy, hz, hu, ofSextets, ih]
      rw [ofNat_toNat_eq (a := a) (by omega), ofNat_toNat_eq (a := b) (by omega),
        ofNat_toNat_eq (a := c) (by omega)]

theorem length_encode (body : Bytes) : (encode body).length % 4 = 0 := by
  induction body using encode.induct with
  | case4 a b c rest ih =>
      simp only [encode, List.length_cons]
      omega
  | _ => simp [encode]

/-- Padding stands for nothing. -/
theorem decode_unpadded (value : JsString) : decode (unpadded value) = decode value := by
  induction value using List.reverseRecOn with
  | nil => rfl
  | append_singleton value c ih =>
      rw [unpadded, List.rdropWhile_concat]
      by_cases hc : c = pad
      · have hnone : [c].filterMap sextet = [] := by rw [hc]; rfl
        rw [if_pos (decide_eq_true hc), ← unpadded, ih, decode, decode, List.filterMap_append, hnone,
          List.append_nil]
      · rw [if_neg (by simpa using hc)]

end Base64

namespace Attachments

def notBase64 : DomainError where
  status := 400
  code := "validation_failed"
  title := "Request validation failed"
  detail := "One or more request fields are invalid."
  errors := [.object [("field", .text "content_base64"), ("rule", .text "base64")]]
  remediation := ["correct_request_fields"]

def decodeBody (value : JsString) : Except DomainError Bytes :=
  if value.length % 4 ≠ 0 then .error notBase64
  else
    let body := Base64.decode value
    if Base64.unpadded (Base64.encode body) ≠ Base64.unpadded value then .error notBase64
    else .ok body

/-- An accepted text is the encoding of the bytes, up to the padding, and of no
others. -/
theorem decodeBody_eq_ok {value : JsString} {body : Bytes} (h : decodeBody value = .ok body) :
    Base64.unpadded (Base64.encode body) = Base64.unpadded value ∧
      ∀ body', Base64.unpadded (Base64.encode body') = Base64.unpadded value → body' = body := by
  unfold decodeBody at h
  dsimp only at h
  split at h
  · cases h
  · split at h
    · cases h
    next hsame =>
      obtain rfl := Except.ok.inj h
      refine ⟨not_not.mp hsame, fun body' hbody' => ?_⟩
      calc body' = Base64.decode (Base64.unpadded (Base64.encode body')) := by
            rw [Base64.decode_unpadded, Base64.decode_encode]
        _ = Base64.decode value := by rw [hbody', Base64.decode_unpadded]

/-- Every sequence of bytes can be uploaded. -/
theorem decodeBody_encode (body : Bytes) : decodeBody (Base64.encode body) = .ok body := by
  rw [decodeBody, if_neg (not_not.mpr (Base64.length_encode body))]
  simp

end Attachments

end Aico
