import VerifierApi.DsnGrammar
import VerifierApi.InstructionEvent

/-!
# Single bytes in a text

The bytes of a text below 128 are its characters below 128: no other
character has such a byte in its encoding.
-/

namespace VerifierApi

theorem textBytes_append (s t : String) :
    textBytes (s ++ t) = textBytes s ++ textBytes t := by
  simp [textBytes, String.toByteArray_append, ByteArray.data_append]

theorem textBytes_eq_flatMap (text : String) :
    textBytes text = text.toList.flatMap String.utf8EncodeChar := by
  conv_lhs => rw [← String.ofList_toList (s := text)]
  rw [textBytes, String.toByteArray_ofList, List.utf8Encode,
    List.data_toByteArray]

theorem textBytes_injective : Function.Injective textBytes := by
  intro s t h
  have hdata : s.toByteArray.data = t.toByteArray.data :=
    Array.toList_inj.mp h
  exact String.toByteArray_inj.mp (ByteArray.ext hdata)

theorem toNat_ascii {c : Char} (h : c.val.toNat ≤ 127) :
    (ascii c).toNat = c.val.toNat := by
  rw [ascii, Char.toUInt8, UInt32.toNat_toUInt8]
  omega

/-- A byte below 128 encodes itself. -/
theorem eq_of_ascii_mem_utf8EncodeChar {c c' : Char}
    (h : c.val.toNat ≤ 127) (hmem : ascii c ∈ String.utf8EncodeChar c') :
    c' = c := by
  have hascii := toNat_ascii h
  have hbyte : ∀ {n : ℕ}, 128 ≤ n % 256 → ascii c ≠ UInt8.ofNat n := by
    intro n hn heq
    have hsame := congrArg UInt8.toNat heq
    rw [UInt8.toNat_ofNat', hascii] at hsame
    omega
  simp only [String.utf8EncodeChar] at hmem
  split_ifs at hmem with hone htwo hthree
  · rw [List.mem_singleton] at hmem
    have hsame := congrArg UInt8.toNat hmem
    rw [UInt8.toNat_ofNat', hascii] at hsame
    have hval : c'.val.toNat = c.val.toNat := by omega
    exact Char.ext (UInt32.toNat_inj.mp hval)
  · simp only [List.mem_cons, List.not_mem_nil, or_false] at hmem
    rcases hmem with hmem | hmem
    · exact absurd hmem (hbyte (by omega))
    · exact absurd hmem (hbyte (by omega))
  · simp only [List.mem_cons, List.not_mem_nil, or_false] at hmem
    rcases hmem with hmem | hmem | hmem
    · exact absurd hmem (hbyte (by omega))
    · exact absurd hmem (hbyte (by omega))
    · exact absurd hmem (hbyte (by omega))
  · simp only [List.mem_cons, List.not_mem_nil, or_false] at hmem
    rcases hmem with hmem | hmem | hmem | hmem
    · exact absurd hmem (hbyte (by omega))
    · exact absurd hmem (hbyte (by omega))
    · exact absurd hmem (hbyte (by omega))
    · exact absurd hmem (hbyte (by omega))

theorem mem_toList_of_ascii_mem {c : Char} (hc : c.val.toNat ≤ 127)
    {text : String} (h : ascii c ∈ textBytes text) : c ∈ text.toList := by
  rw [textBytes_eq_flatMap, List.mem_flatMap] at h
  obtain ⟨c', hc', hbyte⟩ := h
  rwa [eq_of_ascii_mem_utf8EncodeChar hc hbyte] at hc'

end VerifierApi
