import VerifierApi.PaymentStatusVerifier
import Mathlib.Data.List.Perm.Basic

/-!
# The received amount

What a transaction credits to an address, as a function of the balance
changes its metadata carries.  A change counts wherever its node stands:
every malformed balance fails the read, and the amounts of distinct accounts
do not depend on the order of the nodes.
-/

namespace VerifierApi

/-! ## Drops -/

/-- A decimal of at most 25 characters within the supply. -/
def dropsValue (text : String) : Option Int :=
  if text.length ≤ maxDropsDigits then
    (setStringBase10 text).filter fun n => 0 ≤ n ∧ n ≤ (maxXRPDrops : Int)
  else none

theorem dropsValue_bounds {text : String} {n : Int}
    (h : dropsValue text = some n) : 0 ≤ n ∧ n ≤ (maxXRPDrops : Int) := by
  unfold dropsValue at h
  split at h
  · have hbounds := (Option.filter_eq_some_iff.mp h).2
    simpa using hbounds
  · simp at h

theorem utf8Size_of_isDigit {c : Char} (h : c.isDigit = true) :
    c.utf8Size = 1 := by
  simp only [Char.isDigit, Bool.and_eq_true, decide_eq_true_eq] at h
  have hle : c.val ≤ 0x7f := UInt32.le_trans h.2 (by decide)
  simp [Char.utf8Size, hle]

theorem utf8ByteSize_ofList_of_ascii {chars : List Char}
    (h : ∀ c ∈ chars, c.utf8Size = 1) :
    (String.ofList chars).utf8ByteSize = chars.length := by
  induction chars with
  | nil => rfl
  | cons c rest ih =>
    have hrest := ih fun other hother => h other (List.mem_cons_of_mem _ hother)
    have hsplit : String.ofList (c :: rest) =
        String.singleton c ++ String.ofList rest := by
      rw [String.singleton_eq_ofList, ← String.ofList_append]
      rfl
    rw [hsplit, String.utf8ByteSize_append, String.utf8ByteSize_singleton,
      hrest, h c List.mem_cons_self, List.length_cons, Nat.add_comm]

theorem utf8Size_of_decimalValue {digits : List Char}
    (h : decimalValue digits ≠ none) : ∀ c ∈ digits, c.utf8Size = 1 := by
  intro c hc
  unfold decimalValue at h
  split at h
  next hall => exact utf8Size_of_isDigit (List.all_eq_true.mp hall.2 c hc)
  next => exact absurd rfl h

/-- A decimal has as many bytes as characters. -/
theorem utf8ByteSize_of_decimal {text : String}
    (h : setStringBase10 text ≠ none) : text.utf8ByteSize = text.length := by
  have hascii : ∀ c ∈ text.toList, c.utf8Size = 1 := by
    unfold setStringBase10 at h
    split at h
    next digits htext =>
      have hdigits : decimalValue digits ≠ none := by
        intro hnone
        simp [hnone] at h
      rw [htext]
      exact List.forall_mem_cons.mpr
        ⟨rfl, utf8Size_of_decimalValue hdigits⟩
    next digits htext =>
      have hdigits : decimalValue digits ≠ none := by
        intro hnone
        simp [hnone] at h
      rw [htext]
      exact List.forall_mem_cons.mpr
        ⟨rfl, utf8Size_of_decimalValue hdigits⟩
    next =>
      have hdigits : decimalValue text.toList ≠ none := by
        intro hnone
        simp [hnone] at h
      exact utf8Size_of_decimalValue hdigits
  have hsize := utf8ByteSize_ofList_of_ascii hascii
  rwa [String.ofList_toList, String.length_toList] at hsize

theorem parseNonNegativeBigInt_eq_ok_iff {text : String} {n : Int} :
    parseNonNegativeBigInt text = .ok n ↔
      text.length ≤ maxDropsDigits ∧ setStringBase10 text = some n ∧
        0 ≤ n := by
  unfold parseNonNegativeBigInt
  rw [ensure_bind_eq_ok]
  cases hvalue : setStringBase10 text with
  | none => simp
  | some value =>
    rw [utf8ByteSize_of_decimal (by simp [hvalue])]
    simp only [ensure_bind_eq_ok, Except.ok.injEq, Option.some.injEq]
    constructor
    · rintro ⟨hlength, hnonneg, rfl⟩
      exact ⟨hlength, rfl, hnonneg⟩
    · rintro ⟨hlength, rfl, hnonneg⟩
      exact ⟨hlength, hnonneg, rfl⟩

theorem dropsValue_eq_some_iff {text : String} {n : Int} :
    dropsValue text = some n ↔
      text.length ≤ maxDropsDigits ∧ setStringBase10 text = some n ∧
        0 ≤ n ∧ n ≤ (maxXRPDrops : Int) := by
  unfold dropsValue
  split
  next hlength => simp [Option.filter_eq_some_iff, hlength]
  next hlength => simp [hlength]

theorem nodeBalance_eq_ok_iff {invalid : String} {exceeding : Int → String}
    {text : String} {n : Int} :
    nodeBalance invalid exceeding text = .ok n ↔ dropsValue text = some n := by
  unfold nodeBalance
  simp only [bind_eq_ok, mapError_eq_ok, ensure_eq_ok, exists_unit,
    Except.ok.injEq, exceedsMaxXRPDrops_eq_false_iff,
    parseNonNegativeBigInt_eq_ok_iff, dropsValue_eq_some_iff]
  constructor
  · rintro ⟨value, ⟨hlength, hvalue, -⟩, ⟨_, heq, hbounds⟩, rfl⟩
    obtain rfl := Option.some.inj heq
    exact ⟨hlength, hvalue, hbounds⟩
  · rintro ⟨hlength, hvalue, hbounds⟩
    exact ⟨n, ⟨hlength, hvalue, hbounds.1⟩, ⟨n, rfl, hbounds⟩, rfl⟩

/-! ## Balance changes -/

/-- The balances that a node carries for an account, as texts: a created
account has no previous one. -/
structure BalanceChange where
  account : String
  final : String
  previous : Option String
deriving DecidableEq

/-- The string fields of a modified `AccountRoot`. -/
def ModifiedNode.balanceChange (mod : ModifiedNode) : Option BalanceChange :=
  if mod.ledgerEntryType = "AccountRoot" then do
    let finalFields ← mod.finalFields
    let previousFields ← mod.previousFields
    let account ← getStringField finalFields "Account"
    let final ← getStringField finalFields "Balance"
    let previous ← getStringField previousFields "Balance"
    some ⟨account, final, some previous⟩
  else none

/-- The string fields of a created `AccountRoot`. -/
def CreatedNode.balanceChange (created : CreatedNode) :
    Option BalanceChange :=
  if created.ledgerEntryType = "AccountRoot" then do
    let newFields ← created.newFields
    let account ← getStringField newFields "Account"
    let balance ← getStringField newFields "Balance"
    some ⟨account, balance, none⟩
  else none

def AffectedNode.balanceChange (node : AffectedNode) :
    Option BalanceChange :=
  match node.modifiedNode with
  | some mod => mod.balanceChange
  | none => node.createdNode.bind CreatedNode.balanceChange

namespace BalanceChange

/-- The amount a change credits, if its balances are drops. -/
def credit (change : BalanceChange) : Option Int :=
  match change.previous with
  | some previous => do
      let final ← dropsValue change.final
      let prev ← dropsValue previous
      some (max 0 (final - prev))
  | none => dropsValue change.final

/-- The entry that the code keeps of a change: none of a modified account
that gained nothing. -/
def entry (change : BalanceChange) (amount : Int) : Option AddressAmount :=
  if change.previous ≠ none ∧ amount ≤ 0 then none
  else some ⟨change.account, amount⟩

theorem credit_bounds {change : BalanceChange} {amount : Int}
    (h : change.credit = some amount) :
    0 ≤ amount ∧ amount ≤ (maxXRPDrops : Int) := by
  unfold credit at h
  split at h
  next previous _ =>
    obtain ⟨final, hfinal, h⟩ := Option.bind_eq_some_iff.mp h
    obtain ⟨prev, hprev, h⟩ := Option.bind_eq_some_iff.mp h
    obtain rfl := Option.some.inj h
    have hfinal' := dropsValue_bounds hfinal
    have hprev' := dropsValue_bounds hprev
    omega
  next => exact dropsValue_bounds h

end BalanceChange

/-- What is extracted from a node with the given change. -/
def Extracts (carried : Option BalanceChange) (out : Option AddressAmount) :
    Prop :=
  match carried with
  | none => out = none
  | some change => ∃ amount, change.credit = some amount ∧
      out = change.entry amount

/-- What the code keeps of a gain is the entry of its credit. -/
theorem keptGain (account final previous : String) (gain : Int) :
    (if gain ≤ 0 then .ok none else .ok (some ⟨account, gain⟩) :
        Except GoError (Option AddressAmount)) =
      .ok ((BalanceChange.mk account final (some previous)).entry
        (max 0 gain)) := by
  by_cases hgain : gain ≤ 0
  · rw [if_pos hgain, max_eq_left hgain]
    rfl
  · have hpos : 0 ≤ gain := by omega
    rw [if_neg hgain, max_eq_right hpos, BalanceChange.entry]
    simp [hgain]

theorem extractFromModifiedNode_eq_ok_iff {mod : ModifiedNode}
    {out : Option AddressAmount} :
    extractFromModifiedNode mod = .ok out ↔
      Extracts mod.balanceChange out := by
  unfold extractFromModifiedNode ModifiedNode.balanceChange
  by_cases htype : mod.ledgerEntryType = "AccountRoot"
  · rw [if_neg (not_not.mpr htype), if_pos htype]
    cases mod.finalFields with
    | none => simp [Extracts, eq_comm]
    | some finalFields =>
      cases mod.previousFields with
      | none => simp [Extracts, eq_comm]
      | some previousFields =>
        simp only [Option.bind_eq_bind, Option.bind_some]
        cases getStringField finalFields "Account" with
        | none => simp [Extracts, eq_comm]
        | some account =>
          cases getStringField finalFields "Balance" with
          | none => simp [Extracts, eq_comm]
          | some finalBalStr =>
            cases getStringField previousFields "Balance" with
            | none => simp [Extracts, eq_comm]
            | some prevBalStr =>
              simp only [bind_eq_ok, nodeBalance_eq_ok_iff, Option.bind_some,
                keptGain account finalBalStr prevBalStr, Extracts,
                BalanceChange.credit, Option.bind_eq_bind,
                Option.bind_eq_some_iff, Option.some.injEq, Except.ok.injEq]
              constructor
              · rintro ⟨final, hfinal, prev, hprev, hout⟩
                exact ⟨_, ⟨final, hfinal, prev, hprev, rfl⟩, hout.symm⟩
              · rintro ⟨_, ⟨final, hfinal, prev, hprev, rfl⟩, hout⟩
                exact ⟨final, hfinal, prev, hprev, hout.symm⟩
  · rw [if_pos htype, if_neg htype]
    simp [Extracts, eq_comm]

theorem extractFromCreatedNode_eq_ok_iff {created : CreatedNode}
    {out : Option AddressAmount} :
    extractFromCreatedNode created = .ok out ↔
      Extracts created.balanceChange out := by
  unfold extractFromCreatedNode CreatedNode.balanceChange
  by_cases htype : created.ledgerEntryType = "AccountRoot"
  · rw [if_neg (not_not.mpr htype), if_pos htype]
    cases created.newFields with
    | none => simp [Extracts, eq_comm]
    | some newFields =>
      simp only [Option.bind_eq_bind, Option.bind_some]
      cases getStringField newFields "Account" with
      | none => simp [Extracts, eq_comm]
      | some account =>
        cases getStringField newFields "Balance" with
        | none => simp [Extracts, eq_comm]
        | some balanceStr =>
          simp only [bind_eq_ok, nodeBalance_eq_ok_iff, Option.bind_some,
            Extracts, BalanceChange.credit, BalanceChange.entry,
            Except.ok.injEq, ne_eq, not_true_eq_false, false_and, if_false]
          exact exists_congr fun amount => and_congr_right fun _ => eq_comm
  · rw [if_pos htype, if_neg htype]
    simp [Extracts, eq_comm]

theorem extractFromNode_eq_ok_iff {node : AffectedNode}
    {out : Option AddressAmount} :
    extractFromNode node = .ok out ↔ Extracts node.balanceChange out := by
  unfold extractFromNode AffectedNode.balanceChange
  cases node.modifiedNode with
  | some mod => exact extractFromModifiedNode_eq_ok_iff
  | none =>
    cases node.createdNode with
    | some created => exact extractFromCreatedNode_eq_ok_iff
    | none => simp [Extracts, eq_comm]

/-- The changes of a transaction, in the order of its nodes. -/
def balanceChanges (nodes : List AffectedNode) : List BalanceChange :=
  nodes.filterMap AffectedNode.balanceChange

/-- The entries of well-formed changes. -/
def creditEntries (changes : List BalanceChange) : List AddressAmount :=
  changes.flatMap fun change =>
    (change.entry (change.credit.getD 0)).toList

theorem receivedAmount_eq_ok_iff {nodes : List AffectedNode}
    {amounts : List AddressAmount} :
    receivedAmount nodes = .ok amounts ↔
      (∀ change ∈ balanceChanges nodes, change.credit ≠ none) ∧
        amounts = creditEntries (balanceChanges nodes) := by
  induction nodes generalizing amounts with
  | nil => simp [receivedAmount, balanceChanges, creditEntries, eq_comm]
  | cons node rest ih =>
    simp only [receivedAmount, bind_eq_ok, extractFromNode_eq_ok_iff, ih,
      Except.ok.injEq]
    cases hchange : node.balanceChange with
    | none =>
      have hcons : balanceChanges (node :: rest) = balanceChanges rest := by
        simp [balanceChanges, hchange]
      rw [hcons]
      constructor
      · rintro ⟨_, rfl, _, ⟨hvalid, rfl⟩, rfl⟩
        exact ⟨hvalid, rfl⟩
      · rintro ⟨hvalid, rfl⟩
        exact ⟨none, rfl, _, ⟨hvalid, rfl⟩, rfl⟩
    | some change =>
      have hcons : balanceChanges (node :: rest) =
          change :: balanceChanges rest := by
        simp [balanceChanges, hchange]
      rw [hcons, List.forall_mem_cons]
      constructor
      · rintro ⟨_, ⟨amount, hcredit, rfl⟩, _, ⟨hvalid, rfl⟩, rfl⟩
        refine ⟨⟨by simp [hcredit], hvalid⟩, ?_⟩
        simp [creditEntries, hcredit]
      · rintro ⟨⟨hfirst, hvalid⟩, rfl⟩
        obtain ⟨amount, hcredit⟩ := Option.ne_none_iff_exists'.mp hfirst
        refine ⟨_, ⟨amount, hcredit, rfl⟩, _, ⟨hvalid, rfl⟩, ?_⟩
        simp [creditEntries, hcredit]

/-! ## The amount of one receiver -/

theorem entry_address {change : BalanceChange} {amount : Int}
    {kept : AddressAmount} (h : change.entry amount = some kept) :
    kept.address = change.account := by
  unfold BalanceChange.entry at h
  split at h
  · simp at h
  · obtain rfl := Option.some.inj h
    rfl

theorem find_creditEntries_of_absent {changes : List BalanceChange}
    {receiver : String}
    (h : ∀ change ∈ changes, change.account ≠ receiver) :
    (creditEntries changes).find? (fun ra => ra.address = receiver) =
      none := by
  rw [List.find?_eq_none]
  intro kept hkept haddress
  obtain ⟨change, hchange, hentry⟩ := List.mem_flatMap.mp hkept
  have hsame := entry_address (Option.mem_toList.mp hentry)
  exact h change hchange (hsame.symm.trans (by simpa using haddress))

/-- Under distinct accounts the first match is the only one; where nothing was
kept, nothing was gained. -/
theorem find_creditEntries {changes : List BalanceChange}
    (hdistinct : changes.Pairwise fun a b => a.account ≠ b.account)
    {change : BalanceChange} (hmem : change ∈ changes) {amount : Int}
    (hcredit : change.credit = some amount) :
    (((creditEntries changes).find? fun ra =>
      ra.address = change.account).elim 0 AddressAmount.amount) =
        amount := by
  induction changes with
  | nil => simp at hmem
  | cons first rest ih =>
    obtain ⟨hfirst, hrest⟩ := List.pairwise_cons.mp hdistinct
    have hsplit : creditEntries (first :: rest) =
        (first.entry (first.credit.getD 0)).toList ++ creditEntries rest := by
      simp [creditEntries]
    rw [hsplit, List.find?_append]
    rcases List.mem_cons.mp hmem with rfl | hlater
    · have habsent := find_creditEntries_of_absent (fun other hother =>
        (hfirst other hother).symm)
      rw [habsent, hcredit, Option.getD_some, BalanceChange.entry]
      split
      next hnothing =>
        have hnonneg := (BalanceChange.credit_bounds hcredit).1
        simp only [Option.toList_none, List.find?_nil, Option.none_or,
          Option.elim_none]
        omega
      next => simp
    · have hnone : (first.entry (first.credit.getD 0)).toList.find?
          (fun ra => ra.address = change.account) = none := by
        rw [List.find?_eq_none]
        intro kept hkept haddress
        have hsame := entry_address (Option.mem_toList.mp hkept)
        exact hfirst change hlater (hsame.symm.trans (by simpa using haddress))
      rw [hnone, Option.none_or]
      exact ih hrest hlater

/-- The balances of a change. -/
def BalanceChange.balances (change : BalanceChange) : List String :=
  change.final :: change.previous.toList

theorem BalanceChange.credit_eq_none_iff {change : BalanceChange} :
    change.credit = none ↔
      ∃ text ∈ change.balances, dropsValue text = none := by
  obtain ⟨account, final, previous⟩ := change
  cases previous with
  | none => simp [credit, balances]
  | some previous =>
    cases hfinal : dropsValue final with
    | none => simp [credit, balances, hfinal]
    | some value =>
      cases hprevious : dropsValue previous with
      | none => simp [credit, balances, hfinal, hprevious]
      | some prev => simp [credit, balances, hfinal, hprevious]

/-- The amount that the changes of a transaction bring to an address. -/
structure Receives (changes : List BalanceChange) (receiver : String)
    (amount : Int) : Prop where
  modified : ∀ change ∈ changes, change.account = receiver →
    ∀ previous, change.previous = some previous →
      ∃ final prev, dropsValue change.final = some final ∧
        dropsValue previous = some prev ∧ amount = max 0 (final - prev)
  created : ∀ change ∈ changes, change.account = receiver →
    change.previous = none → dropsValue change.final = some amount
  absent : (∀ change ∈ changes, change.account ≠ receiver) → amount = 0
  bounds : 0 ≤ amount ∧ amount ≤ (maxXRPDrops : Int)

theorem findReceivedAmountForAddress_eq_ok_iff {metaData : TransactionMetaData}
    {receiver : String} {amount : Int} :
    findReceivedAmountForAddress metaData receiver = .ok amount ↔
      (∀ change ∈ balanceChanges metaData.affectedNodes,
        change.credit ≠ none) ∧
      amount = ((creditEntries (balanceChanges metaData.affectedNodes)).find?
        fun ra => ra.address = receiver).elim 0 AddressAmount.amount := by
  unfold findReceivedAmountForAddress
  simp only [bind_eq_ok, receivedAmount_eq_ok_iff]
  constructor
  · rintro ⟨_, ⟨hvalid, rfl⟩, hfound⟩
    refine ⟨hvalid, ?_⟩
    split at hfound
    next ra hra => rw [hra]; exact (Except.ok.inj hfound).symm
    next hra => rw [hra]; exact (Except.ok.inj hfound).symm
  · rintro ⟨hvalid, rfl⟩
    refine ⟨_, ⟨hvalid, rfl⟩, ?_⟩
    split
    next ra hra => rw [hra]; rfl
    next hra => rw [hra]; rfl

/-- A change of the receiver decides the amount. -/
theorem credit_of_find {metaData : TransactionMetaData} {receiver : String}
    (hdistinct : (balanceChanges metaData.affectedNodes).Pairwise
      fun a b => a.account ≠ b.account) {amount : Int}
    (h : findReceivedAmountForAddress metaData receiver = .ok amount)
    {change : BalanceChange}
    (hmem : change ∈ balanceChanges metaData.affectedNodes)
    (haccount : change.account = receiver) :
    change.credit = some amount := by
  obtain ⟨hvalid, rfl⟩ := findReceivedAmountForAddress_eq_ok_iff.mp h
  obtain ⟨credited, hcredit⟩ :=
    Option.ne_none_iff_exists'.mp (hvalid change hmem)
  have hfound := find_creditEntries hdistinct hmem hcredit
  rw [haccount] at hfound
  rw [hcredit, hfound]

theorem amount_of_absent {metaData : TransactionMetaData} {receiver : String}
    {amount : Int}
    (h : findReceivedAmountForAddress metaData receiver = .ok amount)
    (habsent : ∀ change ∈ balanceChanges metaData.affectedNodes,
      change.account ≠ receiver) : amount = 0 := by
  obtain ⟨-, rfl⟩ := findReceivedAmountForAddress_eq_ok_iff.mp h
  rw [find_creditEntries_of_absent habsent]
  rfl

theorem receives_of_find {metaData : TransactionMetaData} {receiver : String}
    (hdistinct : (balanceChanges metaData.affectedNodes).Pairwise
      fun a b => a.account ≠ b.account) {amount : Int}
    (h : findReceivedAmountForAddress metaData receiver = .ok amount) :
    Receives (balanceChanges metaData.affectedNodes) receiver amount where
  modified := by
    intro change hmem haccount previous hprevious
    have hcredit := credit_of_find hdistinct h hmem haccount
    rw [BalanceChange.credit, hprevious] at hcredit
    obtain ⟨final, hfinal, hcredit⟩ := Option.bind_eq_some_iff.mp hcredit
    obtain ⟨prev, hprev, hcredit⟩ := Option.bind_eq_some_iff.mp hcredit
    exact ⟨final, prev, hfinal, hprev, (Option.some.inj hcredit).symm⟩
  created := by
    intro change hmem haccount hprevious
    have hcredit := credit_of_find hdistinct h hmem haccount
    rwa [BalanceChange.credit, hprevious] at hcredit
  absent := amount_of_absent h
  bounds := by
    by_cases hsome : ∃ change ∈ balanceChanges metaData.affectedNodes,
        change.account = receiver
    · obtain ⟨change, hmem, haccount⟩ := hsome
      exact BalanceChange.credit_bounds
        (credit_of_find hdistinct h hmem haccount)
    · have habsent : ∀ change ∈ balanceChanges metaData.affectedNodes,
          change.account ≠ receiver :=
        fun change hmem haccount => hsome ⟨change, hmem, haccount⟩
      rw [amount_of_absent h habsent]
      exact ⟨le_rfl, Int.natCast_nonneg _⟩

theorem find_fails_iff {metaData : TransactionMetaData} {receiver : String} :
    (∃ err, findReceivedAmountForAddress metaData receiver = .error err) ↔
      ∃ change ∈ balanceChanges metaData.affectedNodes,
        ∃ text ∈ change.balances, dropsValue text = none := by
  constructor
  · rintro ⟨err, herr⟩
    by_contra hall
    have hvalid : ∀ change ∈ balanceChanges metaData.affectedNodes,
        change.credit ≠ none := fun change hmem hnone =>
      hall ⟨change, hmem, BalanceChange.credit_eq_none_iff.mp hnone⟩
    have hok : ∃ amount, findReceivedAmountForAddress metaData receiver =
        .ok amount :=
      ⟨_, findReceivedAmountForAddress_eq_ok_iff.mpr ⟨hvalid, rfl⟩⟩
    obtain ⟨amount, hamount⟩ := hok
    cases herr.symm.trans hamount
  · rintro ⟨change, hmem, hinvalid⟩
    cases hfind : findReceivedAmountForAddress metaData receiver with
    | error err => exact ⟨err, rfl⟩
    | ok amount =>
      obtain ⟨hvalid, -⟩ := findReceivedAmountForAddress_eq_ok_iff.mp hfind
      exact absurd (BalanceChange.credit_eq_none_iff.mpr hinvalid)
        (hvalid change hmem)

/-- The changes at distinct accounts leave one amount for each receiver. -/
theorem Receives.unique {changes changes' : List BalanceChange}
    (hmem : ∀ change, change ∈ changes ↔ change ∈ changes')
    {receiver : String} {amount amount' : Int}
    (h : Receives changes receiver amount)
    (h' : Receives changes' receiver amount') : amount = amount' := by
  by_cases hsome : ∃ change ∈ changes, change.account = receiver
  · obtain ⟨change, hchange, haccount⟩ := hsome
    have hchange' := (hmem change).mp hchange
    cases hprevious : change.previous with
    | none =>
      have hcreated := h.created change hchange haccount hprevious
      have hcreated' := h'.created change hchange' haccount hprevious
      exact Option.some.inj (hcreated.symm.trans hcreated')
    | some previous =>
      obtain ⟨final, prev, hfinal, hprev, rfl⟩ :=
        h.modified change hchange haccount previous hprevious
      obtain ⟨final', prev', hfinal', hprev', rfl⟩ :=
        h'.modified change hchange' haccount previous hprevious
      obtain rfl := Option.some.inj (hfinal.symm.trans hfinal')
      obtain rfl := Option.some.inj (hprev.symm.trans hprev')
      rfl
  · have habsent : ∀ change ∈ changes, change.account ≠ receiver :=
      fun change hchange haccount => hsome ⟨change, hchange, haccount⟩
    rw [h.absent habsent, h'.absent fun change hchange' =>
      habsent change ((hmem change).mpr hchange')]

theorem find_toOption_of_perm {metaData metaData' : TransactionMetaData}
    (hdistinct : (balanceChanges metaData.affectedNodes).Pairwise
      fun a b => a.account ≠ b.account)
    (hperm : metaData'.affectedNodes.Perm metaData.affectedNodes)
    (receiver : String) :
    (findReceivedAmountForAddress metaData' receiver).toOption =
      (findReceivedAmountForAddress metaData receiver).toOption := by
  have hchanges : (balanceChanges metaData'.affectedNodes).Perm
      (balanceChanges metaData.affectedNodes) := hperm.filterMap _
  have hdistinct' : (balanceChanges metaData'.affectedNodes).Pairwise
      fun a b => a.account ≠ b.account :=
    (hchanges.pairwise_iff (fun h => h.symm)).mpr hdistinct
  have hfails : (∃ err,
      findReceivedAmountForAddress metaData' receiver = .error err) ↔
        ∃ err, findReceivedAmountForAddress metaData receiver =
          .error err := by
    rw [find_fails_iff, find_fails_iff]
    exact exists_congr fun change =>
      and_congr_left fun _ => hchanges.mem_iff
  cases hfind : findReceivedAmountForAddress metaData receiver with
  | error err =>
    obtain ⟨err', herr'⟩ := hfails.mpr ⟨err, hfind⟩
    rw [herr']
    rfl
  | ok amount =>
    cases hfind' : findReceivedAmountForAddress metaData' receiver with
    | error err' =>
      obtain ⟨err, herr⟩ := hfails.mp ⟨err', hfind'⟩
      rw [hfind] at herr
      cases herr
    | ok amount' =>
      have hsame := Receives.unique (fun change => hchanges.mem_iff)
        (receives_of_find hdistinct' hfind') (receives_of_find hdistinct hfind)
      rw [hsame]

/-- The accounts of a transaction's changes are distinct on the XRP ledger: a
node is an entry of it, and an account has one `AccountRoot`. -/
theorem findReceivedAmountForAddress_outcome
    (metaData : TransactionMetaData) (receiver : String)
    (hdistinct : (balanceChanges metaData.affectedNodes).Pairwise
      fun a b => a.account ≠ b.account) :
    ((∃ err, findReceivedAmountForAddress metaData receiver = .error err) ↔
      ∃ change ∈ balanceChanges metaData.affectedNodes,
        ∃ text ∈ change.balances, dropsValue text = none) ∧
    (∀ amount, findReceivedAmountForAddress metaData receiver = .ok amount →
      Receives (balanceChanges metaData.affectedNodes) receiver amount ∧
        PaymentStatus.checkDropsBound "received amount" (some amount) =
          .ok ()) ∧
    ∀ metaData' : TransactionMetaData,
      metaData'.affectedNodes.Perm metaData.affectedNodes →
        (findReceivedAmountForAddress metaData' receiver).toOption =
          (findReceivedAmountForAddress metaData receiver).toOption := by
  refine ⟨find_fails_iff, ?_, ?_⟩
  · intro amount hfind
    have hreceives := receives_of_find hdistinct hfind
    refine ⟨hreceives, PaymentStatus.checkDropsBound_eq_ok_iff.mpr ?_⟩
    exact (exceedsMaxXRPDrops_eq_false_iff _).mpr
      ⟨amount, rfl, hreceives.bounds⟩
  · intro metaData' hperm
    exact find_toOption_of_perm hdistinct hperm receiver

/-- A transfer that creates the account it pays. -/
def fundingMetaData : TransactionMetaData where
  transactionResult := "tesSUCCESS"
  affectedNodes :=
    [⟨none, some ⟨"AccountRoot",
        some (AList.insert "Account" (.string "rSender")
          (AList.insert "Balance" (.string "40") ∅)),
        some (AList.insert "Balance" (.string "100") ∅)⟩⟩,
      ⟨some ⟨"AccountRoot",
        some (AList.insert "Account" (.string "rNew")
          (AList.insert "Balance" (.string "50") ∅))⟩, none⟩]

theorem findReceivedAmountForAddress_outcome_funding :
    (balanceChanges fundingMetaData.affectedNodes =
      [⟨"rSender", "40", some "100"⟩, ⟨"rNew", "50", none⟩]) ∧
    Receives (balanceChanges fundingMetaData.affectedNodes) "rNew" 50 := by
  have hchanges : balanceChanges fundingMetaData.affectedNodes =
      [⟨"rSender", "40", some "100"⟩, ⟨"rNew", "50", none⟩] := by decide
  have hfind : findReceivedAmountForAddress fundingMetaData "rNew" =
      .ok 50 := by decide
  have houtcome := findReceivedAmountForAddress_outcome fundingMetaData "rNew"
    (by rw [hchanges]; simp)
  exact ⟨hchanges, (houtcome.2.1 50 hfind).1⟩

end VerifierApi
