import Mathlib.Data.List.Basic
import Mathlib.Data.Nat.Digits.Defs

/-!
# Fixed-width byte strings and their hexadecimal text

Keys and columns hold byte strings as lower-case hexadecimal text.  The
encoding has a fixed width for each byte, hence it is injective, and it stays
injective behind any variable-length text.
-/

namespace VerifierApi

/-- A byte string of a fixed length. -/
structure FixedBytes (n : ℕ) where
  bytes : List UInt8
  length_bytes : bytes.length = n
deriving DecidableEq

namespace FixedBytes

@[ext] theorem ext {n : ℕ} {a b : FixedBytes n}
    (h : a.bytes = b.bytes) : a = b := by
  cases a
  cases b
  simpa using h

/-- The byte string all of whose bytes are equal to the given one. -/
def replicate (n : ℕ) (byte : UInt8) : FixedBytes n :=
  ⟨List.replicate n byte, List.length_replicate⟩

/-- The bytes of a list, cut or padded with zeros on the right. -/
def rightPad (n : ℕ) (bytes : List UInt8) : FixedBytes n :=
  ⟨(bytes ++ List.replicate n 0).take n, by simp⟩

end FixedBytes

/-- The two digits of a byte. -/
def hexByte (byte : UInt8) : List Char :=
  [Nat.digitChar (byte.toNat / 16), Nat.digitChar (byte.toNat % 16)]

def hexDigits (bytes : List UInt8) : List Char :=
  bytes.flatMap hexByte

/-- The value of a digit; both cases are accepted. -/
def hexValue (digit : Char) : Option ℕ :=
  if '0' ≤ digit ∧ digit ≤ '9' then some (digit.toNat - '0'.toNat)
  else if 'a' ≤ digit ∧ digit ≤ 'f' then
    some (digit.toNat - 'a'.toNat + 10)
  else if 'A' ≤ digit ∧ digit ≤ 'F' then
    some (digit.toNat - 'A'.toNat + 10)
  else none

/-- Decoding fails on an odd number of digits and on any other character. -/
def decodeHexDigits : List Char → Option (List UInt8)
  | [] => some []
  | [_] => none
  | high :: low :: rest =>
      match hexValue high, hexValue low, decodeHexDigits rest with
      | some h, some l, some bytes => some (UInt8.ofNat (h * 16 + l) :: bytes)
      | _, _, _ => none

theorem hexValue_digitChar :
    ∀ n, n < 16 → hexValue (Nat.digitChar n) = some n := by
  decide

theorem decodeHexDigits_hexDigits (bytes : List UInt8) :
    decodeHexDigits (hexDigits bytes) = some bytes := by
  induction bytes with
  | nil => rfl
  | cons byte rest ih =>
      have hbound : byte.toNat < 256 := byte.toNat_lt
      have hhigh := hexValue_digitChar (byte.toNat / 16) (by omega)
      have hlow := hexValue_digitChar (byte.toNat % 16) (by omega)
      have hvalue :
          byte.toNat / 16 * 16 + byte.toNat % 16 = byte.toNat := by omega
      have hrest : decodeHexDigits (rest.flatMap hexByte) = some rest := ih
      simp [hexDigits, hexByte, decodeHexDigits, hhigh, hlow, hrest, hvalue]

theorem length_hexDigits (bytes : List UInt8) :
    (hexDigits bytes).length = 2 * bytes.length := by
  induction bytes with
  | nil => rfl
  | cons byte rest ih =>
      have hcons : hexDigits (byte :: rest) = hexByte byte ++ hexDigits rest :=
        rfl
      rw [hcons, List.length_append, ih]
      simp [hexByte]
      omega

theorem hexDigits_injective : Function.Injective hexDigits := by
  intro a b h
  have hdecode := congrArg decodeHexDigits h
  simpa [decodeHexDigits_hexDigits] using hdecode

theorem hexDigits_ne_upperX (bytes : List UInt8) : 'X' ∉ hexDigits bytes := by
  have hdigit : ∀ n, n < 16 → Nat.digitChar n ≠ 'X' := by decide
  induction bytes with
  | nil => simp [hexDigits]
  | cons byte rest ih =>
      have hbound : byte.toNat < 256 := byte.toNat_lt
      have hhigh := hdigit (byte.toNat / 16) (by omega)
      have hlow := hdigit (byte.toNat % 16) (by omega)
      have hcons : hexDigits (byte :: rest) = hexByte byte ++ hexDigits rest :=
        rfl
      rw [hcons, List.mem_append]
      rintro (hhead | htail)
      · simp only [hexByte, List.mem_cons, List.not_mem_nil,
          or_false] at hhead
        rcases hhead with h | h
        · exact hhigh h.symm
        · exact hlow h.symm
      · exact ih htail

/-- A text followed by a separator and the digits of a fixed number of bytes
determines both parts, whatever characters the text holds. -/
theorem append_hexDigits_inj {n : ℕ}
    {text text' separator : List Char} {a b : FixedBytes n}
    (h : text ++ (separator ++ hexDigits a.bytes) =
      text' ++ (separator ++ hexDigits b.bytes)) :
    text = text' ∧ a = b := by
  have hlength :
      (separator ++ hexDigits a.bytes).length =
        (separator ++ hexDigits b.bytes).length := by
    simp only [List.length_append, length_hexDigits, a.length_bytes,
      b.length_bytes]
  obtain ⟨htext, htail⟩ := List.append_inj' h hlength
  refine ⟨htext, FixedBytes.ext ?_⟩
  exact hexDigits_injective (List.append_cancel_left htail)

end VerifierApi
