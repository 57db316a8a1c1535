import VerifierApi.Sentinels
import Mathlib.Algebra.Group.Nat.Defs

/-!
# Binding a sequence to a payment

The contract assigns the payment with number `p` the sequence
`initialNonce + p - 1`.  The binder recomputes this sequence in `uint64` and
refuses every other one.
-/

namespace VerifierApi

def maxUint64 : UInt64 := 0xFFFFFFFFFFFFFFFF

/-- What one read of the initial nonce answers. -/
abbrev NonceAnswer := Except ExternalError UInt64

def initialNonce (answer : NonceAnswer) (account : String) :
    Except GoError UInt64 :=
  answer.mapError fun err : ExternalError =>
    .wrapf s!"cannot read initialNonce for account {account}: {err.text}"
      errDatabase

def verifySequence (answer : NonceAnswer) (account : String)
    (paymentId gotSequence : UInt64) : Except GoError Unit := do
  ensure (paymentId ≠ 0) (.wrapf "paymentId must be >= 1" errDatabase)
  let initial ← initialNonce answer account
  ensure (initial ≤ maxUint64 - (paymentId - 1))
    (.wrapf
      s!"initialNonce {initial} + paymentId {paymentId} overflows uint64"
      errDatabase)
  let want := initial + paymentId - 1
  ensure (gotSequence = want)
    (.wrapf
      s!"XRP sequence mismatch for paymentId {paymentId}: event Nonce {gotSequence} != initialNonce {initial} + paymentId - 1 (= {want})"
      errDatabase)

/-- The sequence which the contract assigns a payment, in exact
arithmetic. -/
def AssignedSequence (initial paymentId sequence : UInt64) : Prop :=
  1 ≤ paymentId.toNat ∧
    sequence.toNat + 1 = initial.toNat + paymentId.toNat

theorem one_le_toNat_iff {n : UInt64} : 1 ≤ n.toNat ↔ n ≠ 0 := by
  rw [Ne, ← UInt64.toNat_inj, UInt64.toNat_zero]
  omega

theorem le_maxUint64_sub_iff {initial paymentId : UInt64}
    (hpositive : paymentId ≠ 0) :
    initial ≤ maxUint64 - (paymentId - 1) ↔
      initial.toNat + paymentId.toNat ≤ 2 ^ 64 := by
  have hmax : maxUint64.toNat = 2 ^ 64 - 1 := rfl
  have hone : (1 : UInt64).toNat = 1 := rfl
  have hinitial := initial.toNat_lt
  have hpayment := paymentId.toNat_lt
  have hone_le := one_le_toNat_iff.mpr hpositive
  rw [UInt64.le_iff_toNat_le, UInt64.toNat_sub, UInt64.toNat_sub, hmax, hone]
  omega

theorem toNat_add_sub_one {initial paymentId : UInt64}
    (hpositive : paymentId ≠ 0)
    (hbound : initial.toNat + paymentId.toNat ≤ 2 ^ 64) :
    (initial + paymentId - 1).toNat + 1 =
      initial.toNat + paymentId.toNat := by
  have hone : (1 : UInt64).toNat = 1 := rfl
  have hone_le := one_le_toNat_iff.mpr hpositive
  rw [UInt64.toNat_sub, UInt64.toNat_add, hone]
  omega

theorem verifySequence_eq_ok_iff
    {answer : NonceAnswer} {account : String}
    {paymentId gotSequence : UInt64} {u : Unit} :
    verifySequence answer account paymentId gotSequence = .ok u ↔
      ∃ initial, answer = .ok initial ∧
        AssignedSequence initial paymentId gotSequence := by
  simp only [verifySequence, initialNonce, bind_eq_ok, ensure_eq_ok,
    mapError_eq_ok, exists_const, AssignedSequence]
  constructor
  · rintro ⟨hpositive, initial, hanswer, hbound, rfl⟩
    rw [le_maxUint64_sub_iff hpositive] at hbound
    exact ⟨initial, hanswer, one_le_toNat_iff.mpr hpositive,
      toNat_add_sub_one hpositive hbound⟩
  · rintro ⟨initial, hanswer, hone, hsequence⟩
    have hpositive := one_le_toNat_iff.mp hone
    have hbound : initial.toNat + paymentId.toNat ≤ 2 ^ 64 := by
      have := gotSequence.toNat_lt
      omega
    refine ⟨hpositive, initial, hanswer,
      (le_maxUint64_sub_iff hpositive).mpr hbound, ?_⟩
    have hwant := toNat_add_sub_one hpositive hbound
    apply UInt64.toNat_inj.mp
    omega

theorem verifySequence_fails (answer : NonceAnswer) (account : String)
    (paymentId gotSequence : UInt64) :
    FailsWith IndexerFault
      (verifySequence answer account paymentId gotSequence) := by
  unfold verifySequence initialNonce
  refine FailsWith.ensure_bind (.wrapf _ .errDatabase) fun _ => ?_
  apply FailsWith.bind
  · exact FailsWith.mapError_of_forall fun _ => .wrapf _ .errDatabase
  · intro initial _
    refine FailsWith.ensure_bind (.wrapf _ .errDatabase) fun _ => ?_
    exact FailsWith.ensure (.wrapf _ .errDatabase)

/-- Under one initial nonce, distinct payments have distinct sequences. -/
theorem AssignedSequence.paymentId_inj
    {initial paymentId paymentId' sequence : UInt64}
    (h : AssignedSequence initial paymentId sequence)
    (h' : AssignedSequence initial paymentId' sequence) :
    paymentId = paymentId' := by
  apply UInt64.toNat_inj.mp
  have hsequence := h.2
  have hsequence' := h'.2
  omega

end VerifierApi
