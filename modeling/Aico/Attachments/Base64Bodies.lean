import Aico.Attachments.Base64

/-!
# Bodies in Base64

A body has passed the validators of `CreateAttachmentDto` when it is a text of the alphabet
with at most two padding characters behind it. Of these texts just the encodings of bytes are
decoded: the padding of an encoding is determined by its length, and a text with other bits
behind its last byte is not what its bytes are encoded to.
-/

namespace Aico

namespace Base64

def isAlphabet (c : UInt16) : Bool :=
  (0x41 ≤ c && c ≤ 0x5A) || (0x61 ≤ c && c ≤ 0x7A) || (0x30 ≤ c && c ≤ 0x39) ||
    c = 0x2B || c = 0x2F

theorem isAlphabet_digit {n : ℕ} (hn : n < 64) : isAlphabet (digit n) = true := by
  interval_cases n <;> rfl

/-- An encoding is text of the alphabet and at most two padding characters. -/
theorem encode_eq (body : Bytes) : ∃ digits k, encode body = digits ++ List.replicate k pad ∧
    (∀ c ∈ digits, isAlphabet c = true) ∧ k ≤ 2 ∧ (body ≠ [] → digits ≠ []) := by
  induction body using encode.induct with
  | case1 => exact ⟨[], 0, rfl, List.forall_mem_nil _, Nat.zero_le _, fun h => absurd rfl h⟩
  | case2 a =>
      have ha := a.toNat_lt
      refine ⟨[digit (a.toNat / 4), digit (a.toNat % 4 * 16)], 2, rfl, ?_, Nat.le_refl _, by simp⟩
      simp only [List.forall_mem_cons]
      exact ⟨isAlphabet_digit (by omega), isAlphabet_digit (by omega), List.forall_mem_nil _⟩
  | case3 a b =>
      have ha := a.toNat_lt
      have hb := b.toNat_lt
      refine ⟨[digit (a.toNat / 4), digit (a.toNat % 4 * 16 + b.toNat / 16),
        digit (b.toNat % 16 * 4)], 1, rfl, ?_, by decide, by simp⟩
      simp only [List.forall_mem_cons]
      exact ⟨isAlphabet_digit (by omega), isAlphabet_digit (by omega),
        isAlphabet_digit (by omega), List.forall_mem_nil _⟩
  | case4 a b c rest ih =>
      have ha := a.toNat_lt
      have hb := b.toNat_lt
      have hc := c.toNat_lt
      obtain ⟨digits, k, hrest, hdigits, hk, -⟩ := ih
      refine ⟨digit (a.toNat / 4) :: digit (a.toNat % 4 * 16 + b.toNat / 16) ::
        digit (b.toNat % 16 * 4 + c.toNat / 64) :: digit (c.toNat % 64) :: digits, k, ?_, ?_, hk,
        by simp⟩
      · rw [encode, hrest]
        rfl
      · simp only [List.forall_mem_cons]
        exact ⟨isAlphabet_digit (by omega), isAlphabet_digit (by omega),
          isAlphabet_digit (by omega), isAlphabet_digit (by omega), hdigits⟩

theorem unpadded_append {digits : JsString} (h : ∀ c ∈ digits, isAlphabet c = true) (k : ℕ) :
    unpadded (digits ++ List.replicate k pad) = digits := by
  induction k with
  | zero =>
      rw [List.replicate_zero, List.append_nil]
      refine List.rdropWhile_eq_self_iff.mpr fun hne hpad => ?_
      have hlast := h _ (List.getLast_mem hne)
      rw [of_decide_eq_true hpad] at hlast
      exact absurd hlast (by decide)
  | succ k ih =>
      rw [List.replicate_succ', ← List.append_assoc, unpadded, List.rdropWhile_concat_pos]
      · exact ih
      · exact decide_eq_true rfl

theorem length_encode_le (body : Bytes) : (encode body).length ≤ 4 * ((body.length + 2) / 3) := by
  induction body using encode.induct with
  | case4 a b c rest ih =>
      simp only [encode, List.length_cons]
      omega
  | _ => simp [encode]

theorem length_le_encode (body : Bytes) (h : body ≠ []) : 4 ≤ (encode body).length := by
  cases body using encode.induct with
  | case1 => exact absurd rfl h
  | case2 a => exact Nat.le_refl _
  | case3 a b => exact Nat.le_refl _
  | case4 a b c rest => simp [encode]

end Base64

namespace Attachments

open Base64

/-- The validators of `content_base64`: its length, and `^[A-Za-z0-9+/]+={0,2}$`. -/
def isContentBase64 (value : JsString) : Bool :=
  let digits := value.takeWhile isAlphabet
  let padding := value.dropWhile isAlphabet
  4 ≤ value.length && value.length ≤ 14000000 && digits ≠ [] && padding.length ≤ 2 &&
    padding.all (· = pad)

theorem isContentBase64_iff {value : JsString} : isContentBase64 value = true ↔
    4 ≤ value.length ∧ value.length ≤ 14000000 ∧ ∃ digits k,
      value = digits ++ List.replicate k pad ∧ (∀ c ∈ digits, isAlphabet c = true) ∧ k ≤ 2 ∧
        digits ≠ [] := by
  simp only [isContentBase64, Bool.and_eq_true, decide_eq_true_eq, and_assoc]
  refine and_congr_right fun _ => and_congr_right fun _ => ?_
  constructor
  · rintro ⟨hne, hlength, hpads⟩
    have hpadding : value.dropWhile isAlphabet =
        List.replicate (value.dropWhile isAlphabet).length pad :=
      List.eq_replicate_of_mem fun c hc => of_decide_eq_true (List.all_eq_true.mp hpads c hc)
    refine ⟨value.takeWhile isAlphabet, _, ?_, fun c hc => List.mem_takeWhile_imp hc, hlength, hne⟩
    rw [← hpadding, List.takeWhile_append_dropWhile]
  · rintro ⟨digits, k, rfl, hdigits, hk, hne⟩
    have hpad : ∀ n, (List.replicate n pad).takeWhile isAlphabet = [] ∧
        (List.replicate n pad).dropWhile isAlphabet = List.replicate n pad := by
      intro n
      cases n with
      | zero => exact ⟨rfl, rfl⟩
      | succ n => exact ⟨rfl, rfl⟩
    rw [List.takeWhile_append_of_pos hdigits, List.dropWhile_append_of_pos hdigits, (hpad k).1,
      (hpad k).2, List.append_nil, List.length_replicate]
    refine ⟨hne, hk, List.all_eq_true.mpr fun c hc => ?_⟩
    exact decide_eq_true (List.eq_of_mem_replicate hc)

/-- Of the texts that the validators accept, just the encodings of bytes are decoded, to the
bytes they encode. -/
theorem decodeBody_iff {value : JsString} (h : isContentBase64 value = true) (body : Bytes) :
    decodeBody value = .ok body ↔ value = encode body := by
  constructor
  · intro hok
    obtain ⟨-, -, digits, k, rfl, hdigits, hk, -⟩ := isContentBase64_iff.mp h
    obtain ⟨digits', k', hencode, hdigits', hk', -⟩ := encode_eq body
    have hsame := (decodeBody_eq_ok hok).1
    rw [hencode, unpadded_append hdigits', unpadded_append hdigits] at hsame
    have hlength : (digits ++ List.replicate k pad).length % 4 = 0 := by
      by_contra hodd
      rw [decodeBody, if_pos hodd] at hok
      cases hok
    have hlength' := length_encode body
    rw [hencode] at hlength' ⊢
    rw [List.length_append, List.length_replicate] at hlength hlength'
    subst hsame
    have hpads : k = k' := by omega
    rw [hpads]
  · rintro rfl
    exact decodeBody_encode body

/-- The encoding of a body within the limits passes the validators. -/
theorem isContentBase64_encode {mediaType : String} {body : Bytes} (hne : body ≠ [])
    (hmax : body.length ≤ AttachmentPolicy.perFileMaxBytes mediaType) :
    isContentBase64 (encode body) = true := by
  have hlimit : AttachmentPolicy.perFileMaxBytes mediaType ≤ 10485760 := by
    unfold AttachmentPolicy.perFileMaxBytes
    split
    · decide
    · split <;> decide
  have hlength := length_encode_le body
  obtain ⟨digits, k, hencode, hdigits, hk, hfull⟩ := encode_eq body
  refine isContentBase64_iff.mpr ⟨length_le_encode body hne, ?_, digits, k, hencode, hdigits, hk,
    hfull hne⟩
  omega

/-- A body that has passed the validators is decoded just when it is the encoding of bytes, and
to these bytes; every sequence of bytes within the limits can be sent, in one way only. -/
theorem contentBase64_exact :
    (∀ value, isContentBase64 value = true →
      ((∃ body, decodeBody value = .ok body) ↔ ∃ body, value = encode body) ∧
        ∀ body, value = encode body → decodeBody value = .ok body) ∧
    (∀ mediaType body, body ≠ [] → body.length ≤ AttachmentPolicy.perFileMaxBytes mediaType →
      isContentBase64 (encode body) = true ∧ decodeBody (encode body) = .ok body) ∧
    ∀ value value' body, isContentBase64 value = true → isContentBase64 value' = true →
      decodeBody value = .ok body → decodeBody value' = .ok body → value = value' := by
  refine ⟨fun value h => ⟨exists_congr fun body => decodeBody_iff h body, ?_⟩, ?_, ?_⟩
  · exact fun body hvalue => (decodeBody_iff h body).mpr hvalue
  · exact fun mediaType body hne hmax => ⟨isContentBase64_encode hne hmax, decodeBody_encode body⟩
  · intro value value' body h h' hok hok'
    exact ((decodeBody_iff h body).mp hok).trans ((decodeBody_iff h' body).mp hok').symm

theorem contentBase64_exact_demo : decodeBody (js "QQ==") = .ok [0x41] ∧
    ¬ ∃ body, decodeBody (js "QR==") = .ok body := by
  obtain ⟨hexact, -, -⟩ := contentBase64_exact
  refine ⟨(hexact (js "QQ==") (by decide)).2 [0x41] (by decide), fun hok => ?_⟩
  obtain ⟨body, hbody⟩ := (hexact (js "QR==") (by decide)).1.mp hok
  have hread : body = [0x41] := by
    rw [← decode_encode body, ← hbody]
    decide
  rw [hread] at hbody
  exact absurd hbody (by decide)

end Attachments

end Aico
