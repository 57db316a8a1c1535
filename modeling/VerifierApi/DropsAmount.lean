import VerifierApi.Sentinels
import Mathlib.Algebra.Ring.Int.Defs
import Mathlib.Data.List.AList

/-!
# Amounts in drops

Decimal strings of the XRP indexer, the supply bound on decoded amounts, and
the amount which a transaction's metadata credits to an address.  A
`*big.Int` that may be nil is an optional integer.
-/

namespace VerifierApi

def maxXRPDrops : ℕ := 100_000_000_000 * 1_000_000

/-- A nil value and a value outside `uint64` count as exceeding. -/
def exceedsMaxXRPDrops : Option Int → Bool
  | none => true
  | some v => v < 0 ∨ 2 ^ 64 ≤ v ∨ (maxXRPDrops : Int) < v

theorem exceedsMaxXRPDrops_eq_false_iff (v : Option Int) :
    exceedsMaxXRPDrops v = false ↔
      ∃ n, v = some n ∧ 0 ≤ n ∧ n ≤ (maxXRPDrops : Int) := by
  cases v with
  | none => simp [exceedsMaxXRPDrops]
  | some n =>
      have hmax : (maxXRPDrops : Int) = 100000000000000000 := rfl
      simp only [exceedsMaxXRPDrops, decide_eq_false_iff_not,
        Option.some.injEq, exists_eq_left']
      omega

def maxDropsDigits : ℕ := 25

def decimalValue (digits : List Char) : Option ℕ :=
  if digits ≠ [] ∧ digits.all Char.isDigit then
    some (digits.foldl (fun n c => 10 * n + (c.toNat - '0'.toNat)) 0)
  else none

/-- `big.Int.SetString` in base ten: an optional sign and at least one
digit. -/
def setStringBase10 (text : String) : Option Int :=
  match text.toList with
  | '+' :: digits => (decimalValue digits).map fun n => (n : Int)
  | '-' :: digits => (decimalValue digits).map fun n => -(n : Int)
  | digits => (decimalValue digits).map fun n => (n : Int)

def parseNonNegativeBigInt (text : String) : Except GoError Int := do
  ensure (text.utf8ByteSize ≤ maxDropsDigits)
    (.new s!"decimal value too long: {text.utf8ByteSize} chars (max {maxDropsDigits})")
  match setStringBase10 text with
  | none => .error (.new s!"invalid big.Int string: {text}")
  | some i => do
      ensure (0 ≤ i) (.new s!"expected non-negative big.Int, got {text}")
      .ok i

theorem parseNonNegativeBigInt_fails (text : String) :
    FailsWith IndexerFault (parseNonNegativeBigInt text) := by
  unfold parseNonNegativeBigInt
  refine FailsWith.ensure_bind (.new _) fun _ => ?_
  split
  next => exact FailsWith.error (.new _)
  next value _ =>
    exact FailsWith.ensure_bind (.new _) fun _ => .ok _

/-! ## Transaction metadata -/

/-- A value of a decoded JSON object: only strings are looked into. -/
inductive JsonField where
  | string (value : String)
  | other
deriving DecidableEq

abbrev JsonObject := AList fun _ : String => JsonField

structure CreatedNode where
  ledgerEntryType : String
  newFields : Option JsonObject

structure ModifiedNode where
  ledgerEntryType : String
  finalFields : Option JsonObject
  previousFields : Option JsonObject

structure AffectedNode where
  createdNode : Option CreatedNode
  modifiedNode : Option ModifiedNode

structure TransactionMetaData where
  transactionResult : String
  affectedNodes : List AffectedNode

structure AddressAmount where
  address : String
  amount : Int

def getStringField (fields : JsonObject) (key : String) : Option String :=
  match fields.lookup key with
  | some (.string value) => some value
  | _ => none

/-- One balance of a node: it must parse and stay within the supply. -/
def nodeBalance (invalid : String) (exceeding : Int → String)
    (text : String) : Except GoError Int := do
  let balance ← (parseNonNegativeBigInt text).mapError fun _ =>
    .new (invalid ++ text)
  ensure (exceedsMaxXRPDrops (some balance) = false)
    (.wrapf (exceeding balance ++ " exceeds total XRP supply in drops")
      errDatabase)
  .ok balance

def extractFromModifiedNode (mod : ModifiedNode) :
    Except GoError (Option AddressAmount) :=
  if mod.ledgerEntryType ≠ "AccountRoot" then .ok none
  else
    match mod.finalFields, mod.previousFields with
    | some finalFields, some previousFields =>
        match getStringField finalFields "Account",
            getStringField finalFields "Balance",
            getStringField previousFields "Balance" with
        | some account, some finalBalStr, some prevBalStr => do
            let finalBal ← nodeBalance
              s!"invalid final balance format for account {account}: "
              (fun finalBal =>
                s!"final balance {finalBal} for account {account}")
              finalBalStr
            let prevBal ← nodeBalance
              s!"invalid previous balance format for account {account}: "
              (fun prevBal =>
                s!"previous balance {prevBal} for account {account}")
              prevBalStr
            if finalBal - prevBal ≤ 0 then .ok none
            else .ok (some ⟨account, finalBal - prevBal⟩)
        | _, _, _ => .ok none
    | _, _ => .ok none

def extractFromCreatedNode (created : CreatedNode) :
    Except GoError (Option AddressAmount) :=
  if created.ledgerEntryType ≠ "AccountRoot" then .ok none
  else
    match created.newFields with
    | none => .ok none
    | some newFields =>
        match getStringField newFields "Account",
            getStringField newFields "Balance" with
        | some account, some balanceStr => do
            let balance ← nodeBalance
              s!"invalid balance format in CreatedNode for account {account}: "
              (fun balance =>
                s!"created-node balance {balance} for account {account}")
              balanceStr
            .ok (some ⟨account, balance⟩)
        | _, _ => .ok none

/-- A modified node hides a created node of the same entry. -/
def extractFromNode (node : AffectedNode) :
    Except GoError (Option AddressAmount) :=
  match node.modifiedNode, node.createdNode with
  | some mod, _ => extractFromModifiedNode mod
  | none, some created => extractFromCreatedNode created
  | none, none => .ok none

def receivedAmount : List AffectedNode → Except GoError (List AddressAmount)
  | [] => .ok []
  | node :: rest => do
      let amount ← extractFromNode node
      let amounts ← receivedAmount rest
      .ok (amount.toList ++ amounts)

def findReceivedAmountForAddress (metaData : TransactionMetaData)
    (receiver : String) : Except GoError Int := do
  let amounts ← receivedAmount metaData.affectedNodes
  match amounts.find? fun ra => ra.address = receiver with
  | some ra => .ok ra.amount
  | none => .ok 0

theorem nodeBalance_fails
    (invalid : String) (exceeding : Int → String) (text : String) :
    FailsWith IndexerFault (nodeBalance invalid exceeding text) := by
  unfold nodeBalance
  apply FailsWith.bind
  · exact FailsWith.mapError_of_forall fun _ => .new _
  · intro balance _
    exact FailsWith.ensure_bind (.wrapf _ .errDatabase) fun _ => .ok _

theorem extractFromModifiedNode_fails (mod : ModifiedNode) :
    FailsWith IndexerFault (extractFromModifiedNode mod) := by
  unfold extractFromModifiedNode
  split
  next => exact FailsWith.ok _
  next =>
    split
    next =>
      split
      next =>
        apply FailsWith.bind (nodeBalance_fails _ _ _)
        intro finalBal _
        apply FailsWith.bind (nodeBalance_fails _ _ _)
        intro prevBal _
        exact FailsWith.of_ite (fun _ => .ok _) (fun _ => .ok _)
      next => exact FailsWith.ok _
    next => exact FailsWith.ok _

theorem extractFromCreatedNode_fails (created : CreatedNode) :
    FailsWith IndexerFault (extractFromCreatedNode created) := by
  unfold extractFromCreatedNode
  split
  next => exact FailsWith.ok _
  next =>
    split
    next => exact FailsWith.ok _
    next =>
      split
      next =>
        apply FailsWith.bind (nodeBalance_fails _ _ _)
        intro balance _
        exact FailsWith.ok _
      next => exact FailsWith.ok _

theorem extractFromNode_fails (node : AffectedNode) :
    FailsWith IndexerFault (extractFromNode node) := by
  unfold extractFromNode
  split
  next => exact extractFromModifiedNode_fails _
  next => exact extractFromCreatedNode_fails _
  next => exact FailsWith.ok _

theorem receivedAmount_fails (nodes : List AffectedNode) :
    FailsWith IndexerFault (receivedAmount nodes) := by
  induction nodes with
  | nil => exact FailsWith.ok _
  | cons node rest ih =>
      unfold receivedAmount
      apply FailsWith.bind (extractFromNode_fails node)
      intro amount _
      apply FailsWith.bind ih
      intro amounts _
      exact FailsWith.ok _

theorem findReceivedAmountForAddress_fails
    (metaData : TransactionMetaData) (receiver : String) :
    FailsWith IndexerFault
      (findReceivedAmountForAddress metaData receiver) := by
  unfold findReceivedAmountForAddress
  apply FailsWith.bind (receivedAmount_fails _)
  intro amounts _
  split
  next => exact FailsWith.ok _
  next => exact FailsWith.ok _

end VerifierApi
