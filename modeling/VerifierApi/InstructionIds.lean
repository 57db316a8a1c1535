import VerifierApi.InstructionEvent

/-!
# Instruction ids are unambiguous

Two generators hash encodings of the same shape.  The bytes that they hash
determine the generator and all of its arguments, so that an event filed
under an id answers the lookup of one instruction only.
-/

namespace VerifierApi

/-- A call of one of the two generators. -/
inductive IdRequest where
  | pay (opType sourceID : Hash) (account : List UInt8) (paymentId : UInt64)
  | reissue (opType sourceID : Hash) (account : List UInt8)
      (paymentId reissueNumber : UInt64)
deriving DecidableEq

namespace IdRequest

def generate (keccak256 : Keccak) : IdRequest → Except GoError Hash
  | .pay opType sourceID account paymentId =>
      generateInstructionIDOfBytes keccak256 .pay opType sourceID account
        paymentId 0
  | .reissue opType sourceID account paymentId reissueNumber =>
      generateInstructionIDOfBytes keccak256 .reissue opType sourceID account
        paymentId reissueNumber

/-- The word of a command. -/
def commandWord (command : Command) : Hash :=
  FixedBytes.rightPad 32 (textBytes command.text)

/-- What is handed to the encoder. -/
def arguments : IdRequest → List AbiValue
  | .pay opType sourceID account paymentId =>
      [.bytes32 opType, .bytes32 (commandWord .pay), .bytes32 sourceID,
        .string account, .uint64 paymentId, .uint64 0]
  | .reissue opType sourceID account paymentId reissueNumber =>
      [.bytes32 opType, .bytes32 (commandWord .reissue), .bytes32 sourceID,
        .string account, .uint64 paymentId, .uint64 reissueNumber]

def preimage (request : IdRequest) : List UInt8 :=
  abiEncode request.arguments

end IdRequest

theorem packInstruction_eq_abiEncode (opType opCommand sourceID : Hash)
    (account : List UInt8) (paymentId reissueNumber : UInt64) :
    packInstruction opType opCommand sourceID account paymentId
        reissueNumber =
      abiEncode [.bytes32 opType, .bytes32 opCommand, .bytes32 sourceID,
        .string account, .uint64 paymentId, .uint64 reissueNumber] := by
  simp [packInstruction, abiEncode, abiHeads, AbiValue.head, AbiValue.tail]

theorem stringToCommonHash_text (command : Command) :
    stringToCommonHash command.text =
      .ok (IdRequest.commandWord command) := by
  cases command <;> rfl

theorem generateInstructionIDOfBytes_eq (keccak256 : Keccak)
    (command : Command) (opType sourceID : Hash) (account : List UInt8)
    (paymentId reissueNumber : UInt64) :
    generateInstructionIDOfBytes keccak256 command opType sourceID account
        paymentId reissueNumber =
      .ok (keccak256 (packInstruction opType (IdRequest.commandWord command)
        sourceID account paymentId reissueNumber)) := by
  unfold generateInstructionIDOfBytes
  rw [stringToCommonHash_text]

namespace IdRequest

theorem generate_eq (keccak256 : Keccak) (request : IdRequest) :
    request.generate keccak256 = .ok (keccak256 request.preimage) := by
  cases request with
  | pay opType sourceID account paymentId =>
      simp only [generate, generateInstructionIDOfBytes_eq,
        packInstruction_eq_abiEncode, preimage, arguments]
  | reissue opType sourceID account paymentId reissueNumber =>
      simp only [generate, generateInstructionIDOfBytes_eq,
        packInstruction_eq_abiEncode, preimage, arguments]

theorem arguments_injective : Function.Injective arguments := by
  have hcommands : commandWord .pay ≠ commandWord .reissue := by decide
  intro a b h
  cases a with
  | pay opType sourceID account paymentId =>
      cases b with
      | pay => simp_all [arguments]
      | reissue =>
          simp only [arguments, List.cons.injEq, AbiValue.bytes32.injEq] at h
          exact absurd h.2.1 hcommands
  | reissue opType sourceID account paymentId reissueNumber =>
      cases b with
      | pay =>
          simp only [arguments, List.cons.injEq, AbiValue.bytes32.injEq] at h
          exact absurd h.2.1.symm hcommands
      | reissue => simp_all [arguments]

theorem types_arguments (request : IdRequest) :
    request.arguments.map AbiValue.type =
      [.bytes32, .bytes32, .bytes32, .string, .uint64, .uint64] := by
  cases request <;> rfl

theorem countP_arguments (request : IdRequest) :
    request.arguments.countP AbiValue.isString = 1 := by
  cases request <;> rfl

/-- Equal bytes are hashed for equal calls of the same generator only. -/
theorem preimage_injective : Function.Injective preimage := by
  intro a b h
  apply arguments_injective
  apply abiEncode_inj
  · rw [types_arguments, types_arguments]
  · rw [countP_arguments]
  · exact h

theorem generate_inj {keccak256 : Keccak} {requests : Set IdRequest}
    (hkeccak : Set.InjOn keccak256 (preimage '' requests)) {a b : IdRequest}
    (ha : a ∈ requests) (hb : b ∈ requests)
    (h : a.generate keccak256 = b.generate keccak256) : a = b := by
  rw [generate_eq, generate_eq] at h
  have hhash : keccak256 a.preimage = keccak256 b.preimage := by
    simpa using h
  have hpreimage : a.preimage = b.preimage :=
    hkeccak (Set.mem_image_of_mem _ ha) (Set.mem_image_of_mem _ hb) hhash
  exact preimage_injective hpreimage

end IdRequest

theorem DBRepo.id_of_mem_instructionLogs {repo : DBRepo} {eventHash : String}
    {row : DbLog} {id filed : Hash}
    (hfiled : row.topic2 = removeHexPrefix filed.hex)
    (hfound : row ∈ repo.instructionLogs eventHash id) : id = filed := by
  have hmatches := (List.mem_filter.mp hfound).2
  simp only [Bool.and_eq_true, decide_eq_true_eq] at hmatches
  apply removeHexPrefix_hex_injective
  rw [← hmatches.2, hfiled]

theorem DBRepo.id_of_mem_anyInstructionLogs {repo : DBRepo}
    {eventHash : String} {row : DbLog} {ids : List Hash} {filed : Hash}
    (hfiled : row.topic2 = removeHexPrefix filed.hex)
    (hfound : row ∈ repo.anyInstructionLogs eventHash ids) :
    filed ∈ ids := by
  have hmatches := (List.mem_filter.mp hfound).2
  simp only [Bool.and_eq_true, decide_eq_true_eq, List.mem_map] at hmatches
  obtain ⟨id, hid, htopic⟩ := hmatches.2
  have heq : id = filed := by
    apply removeHexPrefix_hex_injective
    rw [htopic, hfiled]
  rwa [← heq]

/-- The two generators hash the head and tail layout of their arguments, with
their own command; what is hashed determines the generator and the arguments;
and, where the hash has no collision, the event of one call answers the
lookup of no other. -/
theorem instruction_ids_unambiguous (keccak256 : Keccak) :
    (∀ opType sourceID accountAddress paymentId,
      generateInstructionID keccak256 opType sourceID accountAddress
          paymentId =
        (IdRequest.pay opType sourceID (textBytes accountAddress)
          paymentId).generate keccak256) ∧
    (∀ opType sourceID accountAddress paymentId reissueNumber,
      generateReissueInstructionID keccak256 opType sourceID accountAddress
          paymentId reissueNumber =
        (IdRequest.reissue opType sourceID (textBytes accountAddress)
          paymentId reissueNumber).generate keccak256) ∧
    (∀ opType sourceID account paymentId,
      (IdRequest.pay opType sourceID account paymentId).generate keccak256 =
          .ok (keccak256
            (IdRequest.pay opType sourceID account paymentId).preimage) ∧
        (IdRequest.pay opType sourceID account paymentId).preimage =
          opType.bytes ++ (FixedBytes.rightPad 32 (textBytes "PAY")).bytes ++
            sourceID.bytes ++ abiWord 192 ++ abiWord paymentId.toNat ++
            abiWord 0 ++ abiWord account.length ++ account ++
            List.replicate
              ((account.length + 31) / 32 * 32 - account.length) 0) ∧
    (∀ opType sourceID account paymentId reissueNumber,
      (IdRequest.reissue opType sourceID account paymentId
          reissueNumber).generate keccak256 =
          .ok (keccak256 (IdRequest.reissue opType sourceID account paymentId
            reissueNumber).preimage) ∧
        (IdRequest.reissue opType sourceID account paymentId
            reissueNumber).preimage =
          opType.bytes ++
            (FixedBytes.rightPad 32 (textBytes "REISSUE")).bytes ++
            sourceID.bytes ++ abiWord 192 ++ abiWord paymentId.toNat ++
            abiWord reissueNumber.toNat ++ abiWord account.length ++
            account ++ List.replicate
              ((account.length + 31) / 32 * 32 - account.length) 0) ∧
    Function.Injective IdRequest.preimage ∧
    ∀ requests : Set IdRequest,
      Set.InjOn keccak256 (IdRequest.preimage '' requests) →
      ∀ event ∈ requests, ∀ filed, event.generate keccak256 = .ok filed →
      ∀ (repo : DBRepo) (eventHash : String) (row : DbLog),
        row.topic2 = removeHexPrefix filed.hex →
        (∀ request ∈ requests, ∀ id, request.generate keccak256 = .ok id →
          row ∈ repo.instructionLogs eventHash id → request = event) ∧
        ∀ batch ⊆ requests, ∀ ids : List Hash,
          (∀ id ∈ ids, ∃ request ∈ batch,
            request.generate keccak256 = .ok id) →
          row ∈ repo.anyInstructionLogs eventHash ids → event ∈ batch := by
  refine ⟨fun _ _ _ _ => rfl, fun _ _ _ _ _ => rfl, ?_, ?_,
    IdRequest.preimage_injective, ?_⟩
  · intro opType sourceID account paymentId
    refine ⟨IdRequest.generate_eq keccak256 _, ?_⟩
    exact (packInstruction_eq_abiEncode opType _ sourceID account paymentId
      0).symm
  · intro opType sourceID account paymentId reissueNumber
    refine ⟨IdRequest.generate_eq keccak256 _, ?_⟩
    exact (packInstruction_eq_abiEncode opType _ sourceID account paymentId
      reissueNumber).symm
  · intro requests hkeccak event hevent filed hfiled repo eventHash row hrow
    constructor
    · intro request hrequest id hid hfound
      have heq : id = filed := repo.id_of_mem_instructionLogs hrow hfound
      apply IdRequest.generate_inj hkeccak hrequest hevent
      rw [hid, hfiled, heq]
    · intro batch hbatch ids hids hfound
      have hmem : filed ∈ ids := repo.id_of_mem_anyInstructionLogs hrow hfound
      obtain ⟨request, hrequest, hid⟩ := hids filed hmem
      have heq : request = event := by
        apply IdRequest.generate_inj hkeccak (hbatch hrequest) hevent
        rw [hid, hfiled]
      rwa [← heq]

/-- The digits of a hash. -/
def hashOfHex (digits : String) : Hash :=
  FixedBytes.rightPad 32 ((decodeHexDigits digits.toList).getD [])

/-- The payment of the contract's reference encoding, and its first
reissue. -/
def pinnedPay : IdRequest :=
  .pay (FixedBytes.rightPad 32 (textBytes "F_XRP"))
    (FixedBytes.rightPad 32 (textBytes "testXRP"))
    (textBytes "renoX7N3xcss6nbh62tYAhaTH1XG17Arc") 11263155

def pinnedReissue : IdRequest :=
  .reissue (FixedBytes.rightPad 32 (textBytes "F_XRP"))
    (FixedBytes.rightPad 32 (textBytes "testXRP"))
    (textBytes "renoX7N3xcss6nbh62tYAhaTH1XG17Arc") 11263155 1

/-- The hash on the two encodings, whose values the contract fixes. -/
def pinnedKeccak (data : List UInt8) : Hash :=
  if data = pinnedPay.preimage then
    hashOfHex
      "e5add181f8ca03c9d20dad331b07fb7386d957ca35dcd643bb0a16f48ec0ec09"
  else
    hashOfHex
      "692a7a505622d10e9727201d8fdd0562188fdad19b4c6a45436a740a180109f5"

theorem injOn_pinnedKeccak :
    Set.InjOn pinnedKeccak
      (IdRequest.preimage '' {pinnedPay, pinnedReissue}) := by
  have hother : pinnedReissue.preimage ≠ pinnedPay.preimage := by
    intro h
    exact absurd (IdRequest.preimage_injective h) (by decide)
  have hvalues : pinnedKeccak pinnedPay.preimage ≠
      pinnedKeccak pinnedReissue.preimage := by
    simp only [pinnedKeccak, if_true, if_neg hother]
    decide
  rw [Set.image_pair, Set.injOn_pair]
  intro h
  exact absurd h hvalues

/-- The event of the reissue does not answer the lookup of the payment. -/
theorem instruction_ids_unambiguous_pinned :
    ∀ (repo : DBRepo) (eventHash : String) (row : DbLog),
      row.topic2 = removeHexPrefix
        (pinnedKeccak pinnedReissue.preimage).hex →
      row ∉ repo.instructionLogs eventHash
        (pinnedKeccak pinnedPay.preimage) := by
  intro repo eventHash row hrow hfound
  obtain ⟨-, -, -, -, -, hlookup⟩ := instruction_ids_unambiguous pinnedKeccak
  have hanswers := (hlookup {pinnedPay, pinnedReissue} injOn_pinnedKeccak
    pinnedReissue (by simp) _ (IdRequest.generate_eq _ _) repo eventHash row
    hrow).1 pinnedPay (by simp) _ (IdRequest.generate_eq _ _) hfound
  exact absurd hanswers (by decide)

end VerifierApi
