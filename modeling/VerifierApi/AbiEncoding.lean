import VerifierApi.HexText
import Mathlib.Data.List.Forall2

/-!
# The Solidity encoding of a list of values

`abi.encode` writes one head word for each value, and behind the heads one
tail for each string.  The head of a string is the offset of its tail.  Values
of the same types, of which at most one is a string, are determined by their
encoding: the length of the whole bounds the length of the string from both
sides, hence nothing is assumed of it.
-/

namespace VerifierApi

/-- A number below `2 ^ 256` as a big-endian word. -/
def abiWord (n : ℕ) : List UInt8 :=
  (List.range 32).map fun i => UInt8.ofNat (n / 256 ^ (31 - i))

@[simp] theorem length_abiWord (n : ℕ) : (abiWord n).length = 32 := by
  simp [abiWord]

theorem digit_eq_of_abiWord {m n : ℕ} (h : abiWord m = abiWord n) {k : ℕ}
    (hk : k < 32) : m / 256 ^ k % 256 = n / 256 ^ k % 256 := by
  have hbytes := List.map_inj_left.mp h (31 - k)
    (List.mem_range.mpr (by omega))
  have hexponent : 31 - (31 - k) = k := by omega
  rw [hexponent] at hbytes
  have hvalues := congrArg UInt8.toNat hbytes
  simpa using hvalues

theorem mod_eq_of_abiWord {m n : ℕ} (h : abiWord m = abiWord n) :
    m % 256 ^ 32 = n % 256 ^ 32 := by
  have hlow : ∀ k, k ≤ 32 → m % 256 ^ k = n % 256 ^ k := by
    intro k
    induction k with
    | zero =>
        intro _
        simp [Nat.mod_one]
    | succ k ih =>
        intro hk
        rw [Nat.mod_pow_succ, Nat.mod_pow_succ, ih (by omega),
          digit_eq_of_abiWord h (by omega)]
  exact hlow 32 le_rfl

theorem abiWord_uint64_inj {m n : UInt64}
    (h : abiWord m.toNat = abiWord n.toNat) : m = n := by
  have hmod := mod_eq_of_abiWord h
  have hm := m.toNat_lt
  have hn := n.toNat_lt
  apply UInt64.toNat_inj.mp
  omega

inductive AbiType where
  | bytes32
  | uint64
  | string
deriving DecidableEq, Repr

inductive AbiValue where
  | bytes32 (word : FixedBytes 32)
  | uint64 (n : UInt64)
  | string (bytes : List UInt8)
deriving DecidableEq

namespace AbiValue

def type : AbiValue → AbiType
  | .bytes32 _ => .bytes32
  | .uint64 _ => .uint64
  | .string _ => .string

def isString (value : AbiValue) : Bool :=
  value.type = .string

def head (offset : ℕ) : AbiValue → List UInt8
  | .bytes32 word => word.bytes
  | .uint64 n => abiWord n.toNat
  | .string _ => abiWord offset

/-- The length of a string and its bytes, padded with zeros to full words. -/
def tail : AbiValue → List UInt8
  | .string bytes =>
      abiWord bytes.length ++ (bytes ++
        List.replicate ((bytes.length + 31) / 32 * 32 - bytes.length) 0)
  | _ => []

end AbiValue

/-- The heads of the values, whose tails start at the offset. -/
def abiHeads : ℕ → List AbiValue → List UInt8
  | _, [] => []
  | offset, value :: rest =>
      value.head offset ++ abiHeads (offset + value.tail.length) rest

def abiEncode (values : List AbiValue) : List UInt8 :=
  abiHeads (32 * values.length) values ++ values.flatMap AbiValue.tail

namespace AbiValue

@[simp] theorem length_head (value : AbiValue) (offset : ℕ) :
    (value.head offset).length = 32 := by
  cases value with
  | bytes32 word => exact word.length_bytes
  | uint64 n => exact length_abiWord _
  | string bytes => exact length_abiWord _

theorem eq_of_head {a b : AbiValue} (htype : a.type = b.type)
    (hstatic : a.isString = false) {offset offset' : ℕ}
    (h : a.head offset = b.head offset') : a = b := by
  cases a with
  | bytes32 word =>
      cases b with
      | bytes32 word' => exact congrArg bytes32 (FixedBytes.ext h)
      | _ => simp [type] at htype
  | uint64 n =>
      cases b with
      | uint64 n' => exact congrArg uint64 (abiWord_uint64_inj h)
      | _ => simp [type] at htype
  | string bytes => simp [isString, type] at hstatic

theorem tail_of_static {a : AbiValue} (hstatic : a.isString = false) :
    a.tail = [] := by
  cases a with
  | string bytes => simp [isString, type] at hstatic
  | _ => rfl

/-- The tail of a string determines it: trailing zeros of the string count
towards its length, those of the padding do not. -/
theorem string_of_tail {a b : List UInt8}
    (h : (string a).tail = (string b).tail) : a = b := by
  obtain ⟨hword, hdata⟩ := List.append_inj h (by simp)
  have hmod := mod_eq_of_abiWord hword
  have htotal := congrArg List.length hdata
  simp only [List.length_append, List.length_replicate] at htotal
  have hlength : a.length = b.length := by omega
  exact (List.append_inj hdata hlength).1

theorem eq_of_tail {a b : AbiValue} (htype : a.type = b.type)
    (hstring : a.isString = true) (h : a.tail = b.tail) : a = b := by
  cases a with
  | string bytes =>
      cases b with
      | string bytes' => exact congrArg string (string_of_tail h)
      | _ => simp [type] at htype
  | _ => simp [isString, type] at hstring

end AbiValue

theorem length_abiHeads (offset : ℕ) (values : List AbiValue) :
    (abiHeads offset values).length = 32 * values.length := by
  induction values generalizing offset with
  | nil => rfl
  | cons value rest ih =>
      simp only [abiHeads, List.length_append, AbiValue.length_head, ih,
        List.length_cons]
      omega

theorem abiEncode_ne_nil {values : List AbiValue} (h : values ≠ []) :
    abiEncode values ≠ [] := by
  have hlength := List.length_pos_iff.mpr h
  apply List.ne_nil_of_length_pos
  rw [abiEncode, List.length_append, length_abiHeads]
  omega

/-- The values of two lists agree up to their strings. -/
def AgreeUpToStrings : List AbiValue → List AbiValue → Prop :=
  List.Forall₂ fun a b => a.type = b.type ∧ (a.isString = false → a = b)

theorem agreeUpToStrings_of_heads {values values' : List AbiValue}
    (htypes : values.map AbiValue.type = values'.map AbiValue.type)
    {offset offset' : ℕ}
    (h : abiHeads offset values = abiHeads offset' values') :
    AgreeUpToStrings values values' := by
  induction values generalizing values' offset offset' with
  | nil =>
      obtain rfl : values' = [] := by simpa using htypes.symm
      exact .nil
  | cons value rest ih =>
      cases values' with
      | nil => simp at htypes
      | cons value' rest' =>
          simp only [List.map_cons, List.cons.injEq] at htypes
          obtain ⟨hhead, hrest⟩ := List.append_inj h (by simp)
          refine .cons ⟨htypes.1, ?_⟩ (ih htypes.2 hrest)
          intro hstatic
          exact AbiValue.eq_of_head htypes.1 hstatic hhead

theorem AgreeUpToStrings.eq_of_static {values values' : List AbiValue}
    (h : AgreeUpToStrings values values')
    (hstatic : values.countP AbiValue.isString = 0) : values = values' := by
  induction h with
  | nil => rfl
  | cons hvalue _ ih =>
      rw [List.countP_cons] at hstatic
      split at hstatic
      next => omega
      next hhead =>
        rw [hvalue.2 (by simpa using hhead), ih hstatic]

theorem flatMap_tail_of_static {values : List AbiValue}
    (hstatic : values.countP AbiValue.isString = 0) :
    values.flatMap AbiValue.tail = [] := by
  rw [List.countP_eq_zero] at hstatic
  rw [List.flatMap_eq_nil_iff]
  intro value hmem
  exact AbiValue.tail_of_static (by simpa using hstatic value hmem)

/-- The string is the last thing to be compared: behind it there are no other
tails. -/
theorem AgreeUpToStrings.eq_of_tails {values values' : List AbiValue}
    (h : AgreeUpToStrings values values')
    (hone : values.countP AbiValue.isString ≤ 1)
    (htails : values.flatMap AbiValue.tail =
      values'.flatMap AbiValue.tail) : values = values' := by
  induction h with
  | nil => rfl
  | @cons value value' rest rest' hvalue hrest ih =>
      rw [List.countP_cons] at hone
      rw [List.flatMap_cons, List.flatMap_cons] at htails
      split at hone
      next hstring =>
        have hstatic : rest.countP AbiValue.isString = 0 := by omega
        have hequal : rest = rest' := eq_of_static hrest hstatic
        rw [← hequal, flatMap_tail_of_static hstatic, List.append_nil,
          List.append_nil] at htails
        rw [AbiValue.eq_of_tail hvalue.1 hstring htails, hequal]
      next hstatic =>
        have hequal := hvalue.2 (by simpa using hstatic)
        rw [hequal] at htails
        rw [hequal, ih hone (List.append_cancel_left htails)]

/-- The encoding determines the values, if at most one of them is a
string. -/
theorem abiEncode_inj {values values' : List AbiValue}
    (htypes : values.map AbiValue.type = values'.map AbiValue.type)
    (hone : values.countP AbiValue.isString ≤ 1)
    (h : abiEncode values = abiEncode values') : values = values' := by
  have hlength : values.length = values'.length := by
    simpa using congrArg List.length htypes
  obtain ⟨hheads, htails⟩ := List.append_inj h (by
    simp only [length_abiHeads, hlength])
  exact (agreeUpToStrings_of_heads htypes hheads).eq_of_tails hone htails

end VerifierApi
