import VerifierApi.ServerEnvironment
import VerifierApi.ServiceBoot

/-!
# The network that a node reports

A node reports its network as a number or as a string, or leaves it out.  The
field is read leniently, and yet nothing but a spelling of the expected
network passes the check of a source, and nothing but a spelling of another
one keeps a process from booting.
-/

namespace VerifierApi

/-! ## Digits -/

theorem le_ofDigitChars (digits : List Char) (n : ℕ) :
    n ≤ Nat.ofDigitChars 10 digits n := by
  rw [Nat.ofDigitChars_eq_ofDigitChars_zero]
  have hpow : 1 ≤ 10 ^ digits.length := Nat.one_le_pow _ _ (by decide)
  have hmul := Nat.mul_le_mul_right n hpow
  omega

theorem parseDigits_eq_ok_iff {maxVal n value : ℕ} {digits : List Char}
    (hn : n ≤ maxVal) :
    parseDigits maxVal digits n = .ok value ↔
      (∀ c ∈ digits, c.isDigit = true) ∧
        Nat.ofDigitChars 10 digits n = value ∧ value ≤ maxVal := by
  induction digits generalizing n with
  | nil =>
      simp only [parseDigits, Except.ok.injEq, List.not_mem_nil,
        false_implies, implies_true, true_and, Nat.ofDigitChars_nil]
      constructor
      · rintro rfl
        exact ⟨rfl, hn⟩
      · exact fun h => h.1
  | cons c rest ih =>
      have hstep : Nat.ofDigitChars 10 (c :: rest) n =
          Nat.ofDigitChars 10 rest (n * 10 + (c.toNat - '0'.toNat)) := by
        rw [Nat.ofDigitChars_cons, Nat.mul_comm]
      rw [parseDigits, List.forall_mem_cons, hstep]
      by_cases hdigit : c.isDigit = true
      · simp only [hdigit, if_true, true_and]
        split
        next hlong =>
          have hle := le_ofDigitChars rest
            (n * 10 + (c.toNat - '0'.toNat))
          simp only [reduceCtorEq, false_iff]
          rintro ⟨-, rfl, hbound⟩
          omega
        next hle => exact ih (Nat.not_lt.mp hle)
      · simp [hdigit]

theorem parseUint_eq_ok_iff {text : String} {bitSize value : ℕ} :
    parseUint text bitSize = .ok value ↔
      text ≠ "" ∧ (∀ c ∈ text.toList, c.isDigit = true) ∧
        Nat.ofDigitChars 10 text.toList 0 = value ∧
        value ≤ 2 ^ bitSize - 1 := by
  unfold parseUint
  rw [mapError_eq_ok]
  split
  next hempty => simp [hempty]
  next hne =>
      rw [parseDigits_eq_ok_iff (Nat.zero_le _)]
      simp [hne]

/-- Trimming leaves the middle of a text, if it has none of the trimmed
characters. -/
theorem dropWhile_rdropWhile_middle {α : Type} {p : α → Bool}
    {before middle after : List α} (hbefore : ∀ c ∈ before, p c = true)
    (hmiddle : ∀ c ∈ middle, p c = false) (hne : middle ≠ [])
    (hafter : ∀ c ∈ after, p c = true) :
    ((before ++ (middle ++ after)).dropWhile p).rdropWhile p = middle := by
  have hstops : ∀ chars rest : List α, chars ≠ [] →
      (∀ c ∈ chars, p c = false) →
        (chars ++ rest).dropWhile p = chars ++ rest := by
    intro chars rest hne h
    obtain ⟨first, others, rfl⟩ := List.exists_cons_of_ne_nil hne
    simp [h first (List.mem_cons_self ..)]
  have hreversed := hstops middle.reverse [] (by simpa using hne)
    (fun c hc => hmiddle c (List.mem_reverse.mp hc))
  rw [List.append_nil] at hreversed
  rw [List.dropWhile_append_of_pos hbefore, hstops middle after hne hmiddle,
    List.rdropWhile, List.reverse_append,
    List.dropWhile_append_of_pos fun c hc =>
      hafter c (List.mem_reverse.mp hc), hreversed, List.reverse_reverse]

theorem dropWhile_rdropWhile_of_forall {α : Type} {p : α → Bool}
    {chars : List α} (h : ∀ c ∈ chars, p c = false) (hne : chars ≠ []) :
    (chars.dropWhile p).rdropWhile p = chars := by
  have htrim := @dropWhile_rdropWhile_middle α p [] chars [] (by simp) h hne
    (by simp)
  simpa only [List.nil_append, List.append_nil] using htrim

namespace Multisig

/-! ## The field -/

/-- `bytes.Trim` with a quote. -/
def trimQuotes (text : String) : String :=
  String.ofList
    ((text.toList.dropWhile (· = '"')).rdropWhile (· = '"'))

/-- `NetworkID.UnmarshalJSON`, on the text of a value; nothing is read where
the network is not present. -/
def unmarshalNetworkID (b : String) :
    Except ExternalError (Option UInt32) :=
  let s := trimQuotes (Environment.trimSpace b)
  if s = "" ∨ s = "null" then .ok none
  else do
    let v ← (parseUint s 32).mapError fun err : ExternalError =>
      ⟨s!"invalid network_id {quote s}: {err.text}", []⟩
    .ok (some (UInt32.ofNat v))

/-- An answer to `server_info`, with the text of its `network_id` if it has
one. -/
structure ServerInfoResponse where
  status : String
  networkID : Option String

/-- What the client makes of an answer. -/
def ServerInfoResponse.decode (answer : ServerInfoResponse) :
    Except ExternalError ServerInfoResult :=
  match answer.networkID with
  | none => .ok ⟨answer.status, none⟩
  | some field => do
      let networkID ← unmarshalNetworkID field
      .ok ⟨answer.status, networkID⟩

/-- The field is a number in decimal digits, between white space and
quotes. -/
structure Spells (field : String) (n : UInt32) : Prop where
  ne_empty : trimQuotes (Environment.trimSpace field) ≠ ""
  digits : ∀ c ∈ (trimQuotes (Environment.trimSpace field)).toList,
    c.isDigit = true
  value : Nat.ofDigitChars 10
    (trimQuotes (Environment.trimSpace field)).toList 0 = n.toNat

theorem Spells.unique {field : String} {n m : UInt32} (h : Spells field n)
    (h' : Spells field m) : n = m :=
  UInt32.toNat_inj.mp (h.value.symm.trans h'.value)

/-- A field is read as a number exactly when it spells the number. -/
theorem unmarshalNetworkID_eq_some_iff {field : String} {n : UInt32} :
    unmarshalNetworkID field = .ok (some n) ↔ Spells field n := by
  unfold unmarshalNetworkID
  dsimp only
  split
  next hnone =>
      simp only [Except.ok.injEq, reduceCtorEq, false_iff]
      rintro ⟨hne, hdigits, -⟩
      rcases hnone with hempty | hnull
      · exact hne hempty
      · rw [hnull] at hdigits
        exact absurd (hdigits 'n' (by simp)) (by decide)
  next hsome =>
      simp only [bind_eq_ok, mapError_eq_ok, parseUint_eq_ok_iff,
        Except.ok.injEq, Option.some.injEq]
      constructor
      · rintro ⟨v, ⟨hne, hdigits, hvalue, hbound⟩, rfl⟩
        refine ⟨hne, hdigits, ?_⟩
        rw [hvalue, UInt32.toNat_ofNat_of_lt']
        exact Nat.lt_of_le_pred (by decide) hbound
      · rintro ⟨hne, hdigits, hvalue⟩
        refine ⟨n.toNat, ⟨hne, hdigits, hvalue, ?_⟩, UInt32.ofNat_toNat⟩
        exact Nat.le_pred_of_lt n.toNat_lt

/-- Digits are neither white space nor quotes. -/
theorem isDigit_bounds {c : Char} (h : c.isDigit = true) :
    48 ≤ c.toNat ∧ c.toNat ≤ 57 := by
  obtain ⟨hlow, hhigh⟩ := Bool.and_eq_true_iff.mp h
  exact ⟨of_decide_eq_true hlow, of_decide_eq_true hhigh⟩

theorem isSpace_of_bounds {c : Char} (hlow : 33 ≤ c.toNat)
    (hhigh : c.toNat ≤ 57) : Environment.isSpace c = false := by
  unfold Environment.isSpace
  simp only [List.mem_cons, List.not_mem_nil, or_false,
    decide_eq_false_iff_not]
  omega

theorem trimSpace_of_forall {text : String} (hne : text ≠ "")
    (h : ∀ c ∈ text.toList, Environment.isSpace c = false) :
    Environment.trimSpace text = text := by
  have hchars : text.toList ≠ [] := by
    simpa using hne
  unfold Environment.trimSpace
  rw [dropWhile_rdropWhile_of_forall h hchars, String.ofList_toList]

/-- A number is spelled by its digits, alone and in quotes. -/
theorem spells_toString (n : UInt32) :
    Spells (toString n.toNat) n ∧
      Spells ("\"" ++ toString n.toNat ++ "\"") n := by
  have hlist : (toString n.toNat).toList = Nat.toDigits 10 n.toNat := by
    rw [Nat.toString_eq_repr, Nat.toList_repr]
  have hdigit : ∀ c ∈ (toString n.toNat).toList, c.isDigit = true := by
    rw [hlist]
    exact fun c hc => Nat.isDigit_of_mem_toDigits (by decide) (by decide) hc
  have hne : (toString n.toNat).toList ≠ [] := by
    rw [hlist]
    exact Nat.toDigits_ne_nil
  have hquote : ∀ c ∈ (toString n.toNat).toList, decide (c = '"') = false := by
    intro c hc
    have hbounds := isDigit_bounds (hdigit c hc)
    rw [decide_eq_false_iff_not]
    rintro rfl
    exact absurd hbounds (by decide)
  have hspells : ∀ field,
      trimQuotes (Environment.trimSpace field) = toString n.toNat →
        Spells field n := by
    intro field hfield
    refine ⟨?_, ?_, ?_⟩
    · rw [hfield]
      exact fun hempty => hne (by rw [hempty]; rfl)
    · rw [hfield]
      exact hdigit
    · rw [hfield, hlist, Nat.ofDigitChars_ten_toDigits]
  have hspace : ∀ c ∈ (toString n.toNat).toList,
      Environment.isSpace c = false := by
    intro c hc
    obtain ⟨hlow, hhigh⟩ := isDigit_bounds (hdigit c hc)
    exact isSpace_of_bounds (by omega) hhigh
  have hquoted : ("\"" ++ toString n.toNat ++ "\"").toList =
      ['"'] ++ ((toString n.toNat).toList ++ ['"']) := by
    rw [String.toList_append, String.toList_append, List.append_assoc]
    rfl
  constructor
  · apply hspells
    have htext : toString n.toNat ≠ "" :=
      fun hempty => hne (by rw [hempty]; rfl)
    rw [trimSpace_of_forall htext hspace]
    unfold trimQuotes
    rw [dropWhile_rdropWhile_of_forall hquote hne, String.ofList_toList]
  · apply hspells
    rw [trimSpace_of_forall]
    · unfold trimQuotes
      rw [hquoted, dropWhile_rdropWhile_middle (by simp) hquote hne
        (by simp), String.ofList_toList]
    · simp
    · rw [hquoted]
      intro c hc
      rcases List.mem_append.mp hc with hmark | hc
      · rw [List.mem_singleton.mp hmark]
        rfl
      · rcases List.mem_append.mp hc with hc | hmark
        · exact hspace c hc
        · rw [List.mem_singleton.mp hmark]
          rfl

/-! ## The check -/

/-- The node reports the network, in one of the spellings of its number. -/
structure ServerInfoResponse.Reports (answer : ServerInfoResponse)
    (n : UInt32) : Prop where
  status : answer.status = "success"
  field : ∃ field, answer.networkID = some field ∧ Spells field n

theorem fetchNetworkID_decode_eq_some_iff {answer : ServerInfoResponse}
    {n : UInt32} :
    fetchNetworkID answer.decode = .ok (some n) ↔ answer.Reports n := by
  obtain ⟨status, networkID⟩ := answer
  rw [fetchNetworkID_eq_ok_iff]
  unfold ServerInfoResponse.decode
  cases networkID with
  | none =>
      constructor
      · rintro ⟨result, hanswer, -, hnetwork⟩
        obtain rfl := Except.ok.inj hanswer
        cases hnetwork
      · rintro ⟨-, field, hfield, -⟩
        cases hfield
  | some field =>
      simp only [bind_eq_ok, Except.ok.injEq]
      constructor
      · rintro ⟨_, ⟨networkID, hfield, rfl⟩, hstatus, rfl⟩
        exact ⟨hstatus, field, rfl, unmarshalNetworkID_eq_some_iff.mp hfield⟩
      · rintro ⟨hstatus, _, ⟨⟩, hspells⟩
        exact ⟨_, ⟨some n, unmarshalNetworkID_eq_some_iff.mpr hspells, rfl⟩,
          hstatus, rfl⟩

/-- The check of a source passes exactly when the node reports the network
of the source, and a process is kept from booting exactly when the node reports
another one.  A node reports one network at most, and any network can be
reported as a number and as a string. -/
theorem network_field_decides {source : SourceName} {expected : UInt32}
    (hsource : expectedNetworkID source = some expected)
    (answer : ServerInfoResponse) :
    (checkNetwork source answer.decode = .ok () ↔
      answer.Reports expected) ∧
    ((∃ err, verifyNetwork source answer.decode = .error err) ↔
      ∃ got, answer.Reports got ∧ got ≠ expected) ∧
    (∀ n m, answer.Reports n → answer.Reports m → n = m) ∧
    ∀ n : UInt32,
      (⟨"success", some (toString n.toNat)⟩ : ServerInfoResponse).Reports n ∧
      (⟨"success", some ("\"" ++ toString n.toNat ++ "\"")⟩ :
        ServerInfoResponse).Reports n := by
  refine ⟨?_, ?_, ?_, ?_⟩
  · rw [checkNetwork_eq_ok_iff hsource, ProbeMatches,
      ← fetchNetworkID_eq_ok_iff, fetchNetworkID_decode_eq_some_iff]
  · have hboots : (∃ err, verifyNetwork source answer.decode =
        .error err) ↔ OnOtherNetwork source answer.decode := by
      rw [← not_iff_not, ← verifyNetwork_eq_ok_iff (u := ())]
      rcases exists_ok_or_error (verifyNetwork source answer.decode) with
        ⟨⟨⟩, hok⟩ | ⟨err, herr⟩
      · simp [hok]
      · simp [herr]
    rw [hboots, onOtherNetwork_iff hsource]
    simp only [fetchNetworkID_decode_eq_some_iff]
  · rintro n m ⟨-, field, hfield, hn⟩ ⟨-, field', hfield', hm⟩
    rw [hfield] at hfield'
    obtain rfl := Option.some.inj hfield'
    exact hn.unique hm
  · intro n
    obtain ⟨hnumber, hstring⟩ := spells_toString n
    exact ⟨⟨rfl, _, rfl, hnumber⟩, ⟨rfl, _, rfl, hstring⟩⟩

/-- A node which reports the network of the test ledger as a string. -/
theorem network_field_decides_clio :
    checkNetwork .testXRP
      (ServerInfoResponse.mk "success" (some "\"1\"")).decode = .ok () := by
  obtain ⟨hpasses, -, -, hspelled⟩ := network_field_decides
    (rfl : expectedNetworkID .testXRP = some 1) ⟨"success", some "\"1\""⟩
  exact hpasses.mpr (hspelled 1).2

end Multisig

end VerifierApi
