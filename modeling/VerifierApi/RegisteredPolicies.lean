import VerifierApi.RelayCutover

/-!
# Registered policies and the zero hash

A Relay answers the zero hash for an id it holds no policy for.  The check
compares an answer with the attested hash and does not look at the value, so
an attested zero hash matches every id that nobody registered.
-/

namespace VerifierApi

/-- The policies of a Relay, none of which has the zero hash. -/
structure RelayContents where
  policy : ℕ → Option Hash
  nonzero : ∀ id hash, policy id = some hash → hash ≠ zeroHash

/-- The default of the mapping for an id without a policy. -/
def RelayContents.answer (contents : RelayContents) (id : ℕ) : Hash :=
  (contents.policy id).getD zeroHash

/-- A Relay before its first policy. -/
def RelayContents.empty : RelayContents := ⟨fun _ => none, by simp⟩

/-- What a check finds on chain: the two Relays, and the fault of each
lookup. -/
structure PolicyChain where
  cutover : Option UInt32
  contents : RelayContract → RelayContents
  fault : PolicySide → Option ExternalError

namespace PolicyChain

variable (chain : PolicyChain) (info : TeeInfo) (side : PolicySide)

def check (delay : PolicySide → ℕ → Option ContextError) : PolicyCheck where
  cutover := chain.cutover
  relays side _ contract id :=
    match chain.fault side with
    | some err => .error err
    | none => .ok ((chain.contents contract).answer id)
  delay := delay

/-- The contents of the Relay that owns the id of a side. -/
def ownContents : RelayContents :=
  chain.contents (relayOwner chain.cutover (side.id info).toNat)

/-- The id of a side is registered on the Relay that owns it. -/
def Registered : Prop :=
  ∃ hash, (chain.ownContents info side).policy (side.id info).toNat =
    some hash

/-- An id that nobody registered, attested with the zero hash. -/
def ZeroPolicy : Prop :=
  ¬ chain.Registered info side ∧ side.hash info = zeroHash

/-- A side for which the report is refused whatever the other side is. -/
def RefusedSide : Prop :=
  ¬ Routable chain.cutover (side.id info).toNat ∨
    chain.fault side ≠ none ∨
    (chain.ownContents info side).answer (side.id info).toNat ≠
      side.hash info

variable {chain info side}

theorem answer_of_not_registered (h : ¬ chain.Registered info side) :
    (chain.ownContents info side).answer (side.id info).toNat = zeroHash := by
  have hnone : (chain.ownContents info side).policy (side.id info).toNat =
      none := by
    by_contra hsome
    exact h (Option.ne_none_iff_exists'.mp hsome)
  rw [RelayContents.answer, hnone, Option.getD_none]

theorem matches_iff_not_refused
    {delay : PolicySide → ℕ → Option ContextError} :
    (chain.check delay).Matches info side ↔
      ¬ chain.RefusedSide info side := by
  have hanswer : (chain.check delay).ownAnswer info side =
      .ok (side.hash info) ↔
      chain.fault side = none ∧
        (chain.ownContents info side).answer (side.id info).toNat =
          side.hash info := by
    simp only [PolicyCheck.ownAnswer, check, ownContents]
    cases chain.fault side <;> simp
  unfold PolicyCheck.Matches RefusedSide
  rw [hanswer]
  simp only [check, not_or, not_not, ne_eq]

/-- Every zero policy of a report is made up for by a refusal. -/
def RefusesZeroPolicies (chain : PolicyChain) (info : TeeInfo) : Prop :=
  ∀ side, chain.ZeroPolicy info side →
    ∃ other, chain.RefusedSide info other

/-- A valid verdict speaks for registered policies only, if and only if every
zero policy comes with a refusal. -/
theorem valid_registered_iff {delay : PolicySide → ℕ → Option ContextError}
    {schedule : List Side} {verdict : TeeSampleState × Option GoError}
    {asked : List (RelayContract × Int)}
    (hrun : (chain.check delay).run info schedule = some (verdict, asked)) :
    (verdict.1 = .valid → ∀ side, chain.Registered info side) ↔
      chain.RefusesZeroPolicies info := by
  rw [(PolicyCheck.run_valid_iff hrun).1]
  simp only [matches_iff_not_refused]
  constructor
  · intro h side hzero
    by_contra hnone
    have haccepted : ∀ other, ¬ chain.RefusedSide info other := by
      intro other hrefused
      exact hnone ⟨other, hrefused⟩
    exact hzero.1 (h haccepted side)
  · intro h haccepted side
    by_contra hunregistered
    have hanswer : (chain.ownContents info side).answer
        (side.id info).toNat = side.hash info := by
      by_contra hne
      exact haccepted side (.inr (.inr hne))
    have hzero : chain.ZeroPolicy info side :=
      ⟨hunregistered,
        hanswer.symm.trans (answer_of_not_registered hunregistered)⟩
    obtain ⟨other, hrefused⟩ := h side hzero
    exact haccepted other hrefused

/-- A report whose hashes are not zero meets the condition. -/
theorem refusesZeroPolicies_of_nonzero
    (h : ∀ side : PolicySide, side.hash info ≠ zeroHash) :
    chain.RefusesZeroPolicies info := by
  intro side hzero
  exact absurd hzero.2 (h side)

end PolicyChain

/-! ## A next Relay that is not initialised -/

/-- The current Relay holds one policy, under the id 249, and the next one,
from 250 on, none. -/
def uninitialisedNext : PolicyChain where
  cutover := some 250
  contents
    | .current => ⟨fun id =>
        if id = 249 then some (FixedBytes.ofNat 32 1) else none, by
          intro id hash h
          split at h
          · obtain rfl := Option.some.inj h
            decide
          · simp at h⟩
    | .next => .empty
  fault _ := none

theorem uninitialisedNext_not_registered {info : TeeInfo}
    (h : info.lastSigningPolicyID = 250) :
    ¬ uninitialisedNext.Registered info .last := by
  rintro ⟨hash, hpolicy⟩
  have hnone : (uninitialisedNext.ownContents info .last).policy
      (PolicySide.last.id info).toNat = none := by
    simp only [PolicyChain.ownContents, PolicySide.id, h]
    rfl
  rw [hnone] at hpolicy
  simp at hpolicy

/-- A report for the epoch of the cutover, with a zero hash, is valid. -/
theorem unregistered_policy_valid :
    let info := policyReport 249 250 (FixedBytes.ofNat 32 1) zeroHash
    ∃ verdict asked,
      (uninitialisedNext.check fun _ _ => none).run info
          [.left, .left, .right, .right] = some (verdict, asked) ∧
        ¬ (verdict.1 = .valid →
          ∀ side, uninitialisedNext.Registered info side) := by
  intro info
  refine ⟨(.valid, none), [(.current, 249), (.next, 250)], rfl, fun h => ?_⟩
  exact uninitialisedNext_not_registered rfl (h rfl .last)

/-- With a hash that is not zero the same report is refused. -/
theorem valid_registered_iff_nonzero :
    let info := policyReport 249 250 (FixedBytes.ofNat 32 1)
      (FixedBytes.ofNat 32 2)
    ∃ verdict asked,
      (uninitialisedNext.check fun _ _ => none).run info
          [.left, .left, .right, .right] = some (verdict, asked) ∧
        (verdict.1 = .valid →
          ∀ side, uninitialisedNext.Registered info side) := by
  intro info
  obtain ⟨result, hrun⟩ : ∃ result,
      (uninitialisedNext.check fun _ _ => none).run info
        [.left, .left, .right, .right] = some result := ⟨_, rfl⟩
  refine ⟨result.1, result.2, hrun,
    (PolicyChain.valid_registered_iff hrun).mpr ?_⟩
  apply PolicyChain.refusesZeroPolicies_of_nonzero
  intro side
  cases side <;> decide

end VerifierApi
