import Aico.Json.Text

/-!
# Texts of one byte each

The characters of a literal whose characters have one byte each are its bytes, which are found
faster than by decoding the literal.
-/

namespace JsString

def asciiChars (s : String) : List Char :=
  s.toByteArray.data.toList.map fun b => Char.ofNat b.toNat

def isAscii (s : String) : Bool := s.toByteArray.data.toList.all fun b => b < 128

theorem utf8EncodeChar_ofNat :
    ∀ n < 128, String.utf8EncodeChar (Char.ofNat n) = [UInt8.ofNat n] := by
  decide

theorem toList_of_isAscii {s : String} (h : isAscii s = true) : s.toList = asciiChars s := by
  have hbyte : ∀ b ∈ s.toByteArray.data.toList,
      String.utf8EncodeChar (Char.ofNat b.toNat) = [b] := by
    intro b hb
    have hlt : b < 128 := of_decide_eq_true (List.all_eq_true.mp h b hb)
    rw [utf8EncodeChar_ofNat _ (UInt8.lt_iff_toNat_lt.mp hlt), UInt8.ofNat_toNat]
  have hbytes : (asciiChars s).flatMap String.utf8EncodeChar = s.toByteArray.data.toList := by
    rw [asciiChars, List.flatMap_map]
    conv_rhs => rw [← List.flatMap_singleton' s.toByteArray.data.toList]
    exact List.flatMap_congr hbyte
  have hs : s = String.ofList (asciiChars s) := by
    apply String.toByteArray_inj.mp
    apply ByteArray.ext
    apply Array.ext'
    rw [← hbytes]
    exact List.toList_data_toByteArray.symm
  conv_lhs => rw [hs]
  exact String.toList_ofList

end JsString
