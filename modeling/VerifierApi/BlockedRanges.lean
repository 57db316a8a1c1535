import VerifierApi.UrlValidation
import Mathlib.Algebra.Order.Ring.Nat
import Mathlib.Tactic.Ring

/-!
# The documented address ranges

The documentation lists the blocked addresses as CIDR blocks.  Here a block is
an interval of addresses and a byte slice denotes an address; the two
predicates of the URL validation decide membership in the listed blocks.
-/

namespace VerifierApi

/-! ## Big-endian numbers -/

namespace Addr

theorem foldl_bigEndian (bytes : List UInt8) (value : ℕ) :
    bytes.foldl (fun value byte => value * 256 + byte.toNat) value =
      value * 256 ^ bytes.length + bigEndian bytes := by
  induction bytes generalizing value with
  | nil => simp [bigEndian]
  | cons byte bytes ih =>
    have hvalue := ih (value * 256 + byte.toNat)
    have hzero := ih (0 * 256 + byte.toNat)
    simp only [bigEndian, List.foldl_cons, List.length_cons] at *
    rw [hvalue, hzero, pow_succ]
    ring

theorem bigEndian_append (front back : List UInt8) :
    bigEndian (front ++ back) =
      bigEndian front * 256 ^ back.length + bigEndian back := by
  unfold bigEndian
  rw [List.foldl_append, foldl_bigEndian]
  rfl

theorem bigEndian_cons (byte : UInt8) (bytes : List UInt8) :
    bigEndian (byte :: bytes) =
      byte.toNat * 256 ^ bytes.length + bigEndian bytes := by
  have hfold := foldl_bigEndian bytes (0 * 256 + byte.toNat)
  simpa [bigEndian] using hfold

theorem bigEndian_lt (bytes : List UInt8) :
    bigEndian bytes < 256 ^ bytes.length := by
  induction bytes with
  | nil => simp [bigEndian]
  | cons byte bytes ih =>
    have hbyte : byte.toNat ≤ 255 := Nat.le_of_lt_succ byte.toNat_lt
    have hmul : byte.toNat * 256 ^ bytes.length ≤
        255 * 256 ^ bytes.length := Nat.mul_le_mul_right _ hbyte
    rw [bigEndian_cons, List.length_cons, pow_succ]
    omega

theorem bigEndian_inj {left right : List UInt8}
    (hlength : left.length = right.length)
    (hvalue : bigEndian left = bigEndian right) : left = right := by
  induction left generalizing right with
  | nil => exact (List.length_eq_zero_iff.mp hlength.symm).symm
  | cons byte left ih =>
    cases right with
    | nil => simp at hlength
    | cons byte' right =>
      have hlength' : left.length = right.length := by
        simpa using hlength
      have hpos : 0 < 256 ^ right.length := Nat.pow_pos (by omega)
      have hleft := bigEndian_lt left
      have hright := bigEndian_lt right
      rw [bigEndian_cons, bigEndian_cons, hlength'] at hvalue
      rw [hlength'] at hleft
      -- the first byte is the quotient, what follows is the remainder
      have hbyte : byte.toNat = byte'.toNat := by
        have hdiv := congrArg (· / 256 ^ right.length) hvalue
        simpa [Nat.mul_add_div hpos, Nat.div_eq_of_lt hleft,
          Nat.div_eq_of_lt hright, Nat.mul_comm] using hdiv
      have hrest : bigEndian left = bigEndian right := by
        rw [hbyte] at hvalue
        omega
      rw [UInt8.toNat_inj.mp hbyte, ih hlength' hrest]

end Addr

/-! ## Blocks as intervals -/

/-- The addresses of a block: those from its base on, as many as the free
bits count. -/
def IPPrefix.Covers : IPPrefix → Addr → Prop
  | ⟨.v4 base, bits⟩, .v4 value =>
      base ≤ value ∧ value < base + 2 ^ (32 - bits)
  | ⟨.v6 base, bits⟩, .v6 value =>
      base ≤ value ∧ value < base + 2 ^ (128 - bits)
  | _, _ => False

def v4Block (a b c d bits : ℕ) : IPPrefix :=
  ⟨.v4 (((a * 256 + b) * 256 + c) * 256 + d), bits⟩

/-- The block whose base starts with the given 16-bit groups. -/
def v6Block (groups : List ℕ) (bits : ℕ) : IPPrefix :=
  ⟨.v6 (groups.foldl (fun value group => value * 65536 + group) 0 *
    65536 ^ (8 - groups.length)), bits⟩

/-- The documented blocks that are refused in every mode, but for `::/96`,
from which the loopback address is carved out. -/
def alwaysBlocked : List IPPrefix :=
  [v4Block 0 0 0 0 8,
    v4Block 100 64 0 0 10,
    v4Block 169 254 0 0 16,
    v4Block 198 18 0 0 15,
    v4Block 224 0 0 0 4,
    v6Block [0x64, 0xff9b] 96,
    v6Block [0x100] 64,
    v6Block [0x2001, 0] 32,
    v6Block [0x2001, 0xdb8] 32,
    v6Block [0x2002] 16,
    v6Block [0xfe80] 10,
    v6Block [0xfec0] 10,
    v6Block [0xff00] 8,
    v6Block [0xfd00, 0xec2, 0, 0, 0, 0, 0, 0x254] 128]

def ipv4Compatible : IPPrefix := v6Block [] 96

/-- The documented blocks that are refused unless private networks are
allowed. -/
def privateOrLoopback : List IPPrefix :=
  [v4Block 127 0 0 0 8,
    v4Block 10 0 0 0 8,
    v4Block 172 16 0 0 12,
    v4Block 192 168 0 0 16,
    v6Block [0xfc00] 7,
    v6Block [0, 0, 0, 0, 0, 0, 0, 1] 128]

def Addr.AlwaysBlocked (addr : Addr) : Prop :=
  (∃ block ∈ alwaysBlocked, block.Covers addr) ∨
    ipv4Compatible.Covers addr ∧ addr ≠ .v6 1

def Addr.PrivateOrLoopback (addr : Addr) : Prop :=
  ∃ block ∈ privateOrLoopback, block.Covers addr

/-- The first twelve bytes of `::ffff:a.b.c.d`. -/
def mappedHead : List UInt8 := List.replicate 10 0 ++ [0xff, 0xff]

/-- The address that a slice stands for, `::ffff:a.b.c.d` as `a.b.c.d`. -/
def denoted (ip : List UInt8) : Option Addr :=
  if ip.length = 4 then some (.v4 (Addr.bigEndian ip))
  else if ip.length = 16 then
    if ip.take 12 = mappedHead then
      some (.v4 (Addr.bigEndian (ip.drop 12)))
    else some (.v6 (Addr.bigEndian ip))
  else none

theorem denoted_eq_none_iff (ip : List UInt8) :
    denoted ip = none ↔ ip.length ≠ 4 ∧ ip.length ≠ 16 := by
  unfold denoted
  split
  · simp_all
  · split
    · split <;> simp_all
    · simp_all

theorem unmap_bigEndian {ip : List UInt8} (hlength : ip.length = 16) :
    (Addr.v6 (Addr.bigEndian ip)).unmap =
      if ip.take 12 = mappedHead then
        .v4 (Addr.bigEndian (ip.drop 12))
      else .v6 (Addr.bigEndian ip) := by
  have htail : (ip.drop 12).length = 4 := by simp [hlength]
  have hhead : (ip.take 12).length = mappedHead.length := by
    simp [hlength, mappedHead]
  have hlt : Addr.bigEndian (ip.drop 12) < 2 ^ 32 := by
    have hbound := Addr.bigEndian_lt (ip.drop 12)
    rw [htail] at hbound
    omega
  have hsplit : Addr.bigEndian ip =
      Addr.bigEndian (ip.take 12) * 2 ^ 32 +
        Addr.bigEndian (ip.drop 12) := by
    conv_lhs => rw [← List.take_append_drop 12 ip]
    rw [Addr.bigEndian_append, htail]
    norm_num
  have hdiv : Addr.bigEndian ip / 2 ^ 32 =
      Addr.bigEndian (ip.take 12) := by omega
  have hmod : Addr.bigEndian ip % 2 ^ 32 =
      Addr.bigEndian (ip.drop 12) := by omega
  have hmapped : Addr.bigEndian mappedHead = 0xffff := by decide
  have hiff : Addr.bigEndian (ip.take 12) = 0xffff ↔
      ip.take 12 = mappedHead := by
    constructor
    · intro hvalue
      exact Addr.bigEndian_inj hhead (hvalue.trans hmapped.symm)
    · intro heq
      rw [heq, hmapped]
  simp only [Addr.unmap, hdiv, hmod, hiff]

theorem fromSlice_unmap (ip : List UInt8) :
    (Addr.fromSlice ip).map Addr.unmap = denoted ip := by
  unfold Addr.fromSlice denoted
  split
  · rfl
  · split
    next hlength =>
      rw [Option.map_some, unmap_bigEndian hlength]
      split <;> rfl
    next => rfl

/-! ## The predicates decide the blocks -/

/-- The checks of `isDangerousIP` on an address. -/
def Addr.dangerous (addr : Addr) : Bool :=
  addr.isLinkLocalUnicast || addr.isLinkLocalMulticast ||
    addr.isMulticast || addr.isUnspecified ||
    (ipv4CompatPrefix.contains addr && addr ≠ .v6 1) ||
    blockedIPPrefixes.any fun blocked => blocked.contains addr

theorem isDangerousIP_eq (ip : List UInt8) :
    isDangerousIP ip = (denoted ip).elim true Addr.dangerous := by
  rw [← fromSlice_unmap]
  unfold isDangerousIP
  cases Addr.fromSlice ip <;> rfl

theorem isPrivateOrLocalIP_eq (ip : List UInt8) :
    isPrivateOrLocalIP ip =
      (isDangerousIP ip || (denoted ip).elim false fun addr =>
        addr.isLoopback || addr.isPrivate) := by
  rw [← fromSlice_unmap]
  unfold isPrivateOrLocalIP
  cases Addr.fromSlice ip <;> rfl

/-- Multicast of the link-local scope is multicast. -/
theorem isMulticast_of_linkLocal {value : ℕ} (hlt : value < 2 ^ 128)
    (h : value / 2 ^ 112 &&& 0xff0f = 0xff02) :
    value / 2 ^ 120 = 0xff := by
  have hand := congrArg (· / 2 ^ 8) h
  simp only [Nat.and_div_two_pow] at hand
  have hmask : value / 2 ^ 112 / 2 ^ 8 % 2 ^ 8 = 0xff := by
    rw [← Nat.and_two_pow_sub_one_eq_mod]
    simpa using hand
  omega

theorem dangerous_iff {addr : Addr}
    (hlt : ∀ value, addr = .v6 value → value < 2 ^ 128) :
    addr.dangerous = true ↔ addr.AlwaysBlocked := by
  cases addr <;> simp only [Addr.dangerous, Addr.AlwaysBlocked, alwaysBlocked,
    ipv4Compatible, blockedIPPrefixes, ipv4CompatPrefix, v4Block, v6Block,
    IPPrefix.contains, IPPrefix.Covers, Addr.isLinkLocalUnicast,
    Addr.isLinkLocalMulticast, Addr.isMulticast, Addr.isUnspecified,
    List.any_cons, List.any_nil, List.exists_mem_cons_iff,
    List.not_mem_nil, Bool.or_eq_true, decide_eq_true_eq,
    Bool.false_eq_true, Bool.and_eq_true, false_and, or_false,
    exists_false]
  case v4 value =>
    norm_num
    omega
  case v6 value =>
    replace hlt := hlt value rfl
    have hscope := isMulticast_of_linkLocal hlt
    generalize value / 2 ^ 112 &&& 0xff0f = scope at *
    norm_num at *
    omega

theorem privateOrLoopback_iff (addr : Addr) :
    (addr.isLoopback || addr.isPrivate) = true ↔
      addr.PrivateOrLoopback := by
  cases addr <;>
  · simp only [Addr.PrivateOrLoopback, privateOrLoopback, v4Block, v6Block,
      IPPrefix.Covers, Addr.isLoopback, Addr.isPrivate,
      List.exists_mem_cons_iff, List.not_mem_nil, Bool.or_eq_true,
      decide_eq_true_eq, false_and, exists_false]
    norm_num
    omega

theorem denoted_lt {ip : List UInt8} {value : ℕ}
    (h : denoted ip = some (.v6 value)) : value < 2 ^ 128 := by
  unfold denoted at h
  split at h
  · simp at h
  · split at h
    next hlength =>
      have hbound := Addr.bigEndian_lt ip
      rw [hlength] at hbound
      split at h
      · simp at h
      · obtain rfl : Addr.bigEndian ip = value := by simpa using h
        norm_num at hbound ⊢
        exact hbound
    next => simp at h

theorem isDangerousIP_iff (ip : List UInt8) :
    isDangerousIP ip = true ↔
      (ip.length ≠ 4 ∧ ip.length ≠ 16) ∨
        ∃ addr, denoted ip = some addr ∧ addr.AlwaysBlocked := by
  rw [isDangerousIP_eq, ← denoted_eq_none_iff]
  cases haddr : denoted ip with
  | none => simp
  | some addr =>
    have hlt : ∀ value, addr = .v6 value → value < 2 ^ 128 := by
      rintro value rfl
      exact denoted_lt haddr
    simp [dangerous_iff hlt]

theorem isPrivateOrLocalIP_iff (ip : List UInt8) :
    isPrivateOrLocalIP ip = true ↔
      isDangerousIP ip = true ∨
        ∃ addr, denoted ip = some addr ∧ addr.PrivateOrLoopback := by
  rw [isPrivateOrLocalIP_eq, Bool.or_eq_true]
  cases denoted ip with
  | none => simp
  | some addr => simp [← privateOrLoopback_iff]

/-! ## Embedded IPv4 addresses -/

/-- The IPv6 addresses that carry an IPv4 address.  `::1` is the loopback
address and not an IPv4-compatible one. -/
inductive Embeds (ipv4 : List UInt8) : List UInt8 → Prop
  | mapped : Embeds ipv4 (mappedHead ++ ipv4)
  | compatible (loopback : ipv4 ≠ [0, 0, 0, 1]) :
      Embeds ipv4 (List.replicate 12 0 ++ ipv4)
  | nat64 :
      Embeds ipv4 (([0x00, 0x64, 0xff, 0x9b] ++ List.replicate 8 0) ++ ipv4)
  | sixToFour (rest : List UInt8) (hrest : rest.length = 10) :
      Embeds ipv4 ([0x20, 0x02] ++ (ipv4 ++ rest))
  | teredoServer (rest : List UInt8) (hrest : rest.length = 8) :
      Embeds ipv4 ([0x20, 0x01, 0x00, 0x00] ++ (ipv4 ++ rest))
  | teredoClient (rest : List UInt8) (hrest : rest.length = 8) :
      Embeds ipv4
        ([0x20, 0x01, 0x00, 0x00] ++ (rest ++ ipv4.map (~~~ ·)))

theorem denoted_mapped {ipv4 : List UInt8} (hlength : ipv4.length = 4) :
    denoted (mappedHead ++ ipv4) = denoted ipv4 := by
  have hhead : mappedHead.length = 12 := rfl
  simp [denoted, hlength, hhead]

theorem isDangerousIP_mapped {ipv4 : List UInt8}
    (hlength : ipv4.length = 4) :
    isDangerousIP (mappedHead ++ ipv4) = isDangerousIP ipv4 := by
  rw [isDangerousIP_eq, isDangerousIP_eq, denoted_mapped hlength]

theorem isPrivateOrLocalIP_mapped {ipv4 : List UInt8}
    (hlength : ipv4.length = 4) :
    isPrivateOrLocalIP (mappedHead ++ ipv4) =
      isPrivateOrLocalIP ipv4 := by
  rw [isPrivateOrLocalIP_eq, isPrivateOrLocalIP_eq, denoted_mapped hlength,
    isDangerousIP_mapped hlength]

/-- An address lies in the block that its first bytes span. -/
theorem covers_of_head {head rest : List UInt8}
    (hlength : head.length + rest.length = 16) :
    (IPPrefix.mk (.v6 (Addr.bigEndian head * 256 ^ rest.length))
      (8 * head.length)).Covers (.v6 (Addr.bigEndian (head ++ rest))) := by
  have hrest := Addr.bigEndian_lt rest
  have hfree : 128 - 8 * head.length = 8 * rest.length := by omega
  have hpow : 2 ^ (8 * rest.length) = 256 ^ rest.length := by
    rw [pow_mul]
    norm_num
  simp only [IPPrefix.Covers, Addr.bigEndian_append, hfree, hpow]
  omega

theorem denoted_of_head {head rest : List UInt8}
    (hlength : head.length + rest.length = 16)
    (hhead : head.length ≤ 12) (hne : mappedHead.take head.length ≠ head) :
    denoted (head ++ rest) = some (.v6 (Addr.bigEndian (head ++ rest))) := by
  have hmapped : (head ++ rest).take 12 ≠ mappedHead := by
    intro htake
    apply hne
    rw [← htake, List.take_take, Nat.min_eq_left hhead]
    exact List.take_left
  have htotal : (head ++ rest).length = 16 := by
    rw [List.length_append, hlength]
  unfold denoted
  rw [if_neg (by omega), if_pos htotal, if_neg hmapped]

theorem isDangerousIP_of_head {head rest : List UInt8}
    (hlength : head.length + rest.length = 16)
    (hhead : head.length ≤ 12) (hne : mappedHead.take head.length ≠ head)
    (hblock : IPPrefix.mk (.v6 (Addr.bigEndian head * 256 ^ rest.length))
      (8 * head.length) ∈ alwaysBlocked) :
    isDangerousIP (head ++ rest) = true := by
  rw [isDangerousIP_iff]
  exact .inr ⟨_, denoted_of_head hlength hhead hne,
    .inl ⟨_, hblock, covers_of_head hlength⟩⟩

theorem isDangerousIP_compatible {ipv4 : List UInt8}
    (hlength : ipv4.length = 4) (hloopback : ipv4 ≠ [0, 0, 0, 1]) :
    isDangerousIP (List.replicate 12 0 ++ ipv4) = true := by
  have htotal : (List.replicate 12 (0 : UInt8)).length + ipv4.length = 16 := by
    simp [hlength]
  have hzero : Addr.bigEndian (List.replicate 12 0) = 0 := by decide
  rw [isDangerousIP_iff]
  refine .inr ⟨_, denoted_of_head htotal (by simp) (by decide), .inr ⟨?_, ?_⟩⟩
  · have hcovers := covers_of_head htotal
    rw [hzero, Nat.zero_mul] at hcovers
    exact hcovers
  · intro heq
    have hvalue : Addr.bigEndian ipv4 = Addr.bigEndian [0, 0, 0, 1] := by
      rw [Addr.bigEndian_append, hzero, Nat.zero_mul, Nat.zero_add] at heq
      exact (Addr.v6.inj heq).trans (by decide)
    exact hloopback (Addr.bigEndian_inj hlength hvalue)

theorem isDangerousIP_of_embeds {ip ipv4 : List UInt8}
    (hlength : ipv4.length = 4) (hembeds : Embeds ipv4 ip) :
    ip = mappedHead ++ ipv4 ∨ isDangerousIP ip = true := by
  cases hembeds with
  | mapped => exact .inl rfl
  | compatible loopback =>
    exact .inr (isDangerousIP_compatible hlength loopback)
  | nat64 =>
    right
    apply isDangerousIP_of_head (by simp [hlength]) (by simp) (by decide)
    rw [hlength]
    decide
  | sixToFour rest hrest =>
    right
    have htail : (ipv4 ++ rest).length = 14 := by simp [hlength, hrest]
    apply isDangerousIP_of_head (by simp [htail]) (by simp) (by decide)
    rw [htail]
    decide
  | teredoServer rest hrest =>
    right
    have htail : (ipv4 ++ rest).length = 12 := by simp [hlength, hrest]
    apply isDangerousIP_of_head (by simp [htail]) (by simp) (by decide)
    rw [htail]
    decide
  | teredoClient rest hrest =>
    right
    have htail : (rest ++ ipv4.map (~~~ ·)).length = 12 := by
      simp [hlength, hrest]
    apply isDangerousIP_of_head (by simp [htail]) (by simp) (by decide)
    rw [htail]
    decide

theorem isPrivateOrLocalIP_of_dangerous {ip : List UInt8}
    (h : isDangerousIP ip = true) : isPrivateOrLocalIP ip = true := by
  rw [isPrivateOrLocalIP_eq, h, Bool.true_or]

theorem block_predicates_documented (ip : List UInt8) :
    (isDangerousIP ip = true ↔
      (ip.length ≠ 4 ∧ ip.length ≠ 16) ∨
        ∃ addr, denoted ip = some addr ∧ addr.AlwaysBlocked) ∧
    (isPrivateOrLocalIP ip = true ↔
      isDangerousIP ip = true ∨
        ∃ addr, denoted ip = some addr ∧ addr.PrivateOrLoopback) ∧
    ∀ ipv4 : List UInt8, ipv4.length = 4 →
      (ip = mappedHead ++ ipv4 →
        isDangerousIP ip = isDangerousIP ipv4 ∧
          isPrivateOrLocalIP ip = isPrivateOrLocalIP ipv4) ∧
      (Embeds ipv4 ip →
        (isDangerousIP ipv4 = true → isDangerousIP ip = true) ∧
        (isPrivateOrLocalIP ipv4 = true →
          isPrivateOrLocalIP ip = true)) := by
  refine ⟨isDangerousIP_iff ip, isPrivateOrLocalIP_iff ip,
    fun ipv4 hlength => ⟨?_, fun hembeds => ?_⟩⟩
  · rintro rfl
    exact ⟨isDangerousIP_mapped hlength, isPrivateOrLocalIP_mapped hlength⟩
  · rcases isDangerousIP_of_embeds hlength hembeds with rfl | hdangerous
    · rw [isDangerousIP_mapped hlength, isPrivateOrLocalIP_mapped hlength]
      exact ⟨id, id⟩
    · exact ⟨fun _ => hdangerous,
        fun _ => isPrivateOrLocalIP_of_dangerous hdangerous⟩

theorem block_predicates_documented_sixToFour :
    isDangerousIP [127, 0, 0, 1] = false ∧
      isPrivateOrLocalIP
        ([0x20, 0x02] ++ ([127, 0, 0, 1] ++ List.replicate 10 0)) = true :=
  ⟨by decide,
    (((block_predicates_documented _).2.2 [127, 0, 0, 1] rfl).2
      (.sixToFour _ rfl)).2 (by decide)⟩

-- the loopback address is the one address of `::/96` left to the mode
example : isDangerousIP (List.replicate 15 0 ++ [1]) = false ∧
    isDangerousIP (List.replicate 15 0 ++ [2]) = true := by decide

end VerifierApi
