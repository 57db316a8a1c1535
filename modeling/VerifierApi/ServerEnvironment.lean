import VerifierApi.DeploymentConfig
import Mathlib.Data.List.DropRight

/-!
# The environment of a server

A server reads its settings from the environment.  The keys of its clients
stand in one setting, separated by commas; blanks around them and empty
entries are skipped, and a short one is refused by its length alone.
-/

namespace VerifierApi

namespace Environment

/-! ## Single settings -/

/-- `unicode.IsSpace`. -/
def isSpace (c : Char) : Bool :=
  (9 ≤ c.toNat ∧ c.toNat ≤ 13) ∨ (0x2000 ≤ c.toNat ∧ c.toNat ≤ 0x200a) ∨
    c.toNat ∈
      [0x20, 0x85, 0xa0, 0x1680, 0x2028, 0x2029, 0x202f, 0x205f, 0x3000]

/-- `strings.TrimSpace`. -/
def trimSpace (text : String) : String :=
  String.ofList ((text.toList.dropWhile isSpace).rdropWhile isSpace)

/-- The process environment, in which an unset name reads as empty. -/
abbrev Getenv := String → String

def getEnvOrError (getenv : Getenv) (key : String) :
    Except GoError String := do
  let val := trimSpace (getenv key)
  ensure (val ≠ "") (.new s!"{key} must be set")
  .ok val

def parseSourceID (value : String) : Except GoError SourceID :=
  require (sourceIDs.find? fun source => source.text = value)
    (.new s!"invalid source id: {value}")

/-- Every source has types to serve. -/
def resolveAttestationTypes (source : SourceID) : List AttestationType :=
  sourceAttestationTypes source

/-! ## The keys -/

def minAPIKeyLength : ℕ := 16

def splitEntries (raw : String) : List String :=
  (raw.toList.splitOn ',').map String.ofList

/-- The loop over the entries; the length of a short one is all that its
error shows. -/
def readAPIKeys : List String → Except GoError (List String)
  | [] => .ok []
  | key :: rest =>
      let trimmed := trimSpace key
      if trimmed = "" then readAPIKeys rest
      else do
        ensure (minAPIKeyLength ≤ trimmed.utf8ByteSize)
          (.new
            s!"{envAPIKeys} entries must be at least {minAPIKeyLength} characters; got one of length {trimmed.utf8ByteSize}")
        let apiKeys ← readAPIKeys rest
        .ok (trimmed :: apiKeys)

def getAPIKeys (getenv : Getenv) : Except GoError (List String) := do
  let raw := getenv envAPIKeys
  ensure (trimSpace raw ≠ "") (.new s!"{envAPIKeys} must be set")
  let apiKeys ← readAPIKeys (splitEntries raw)
  ensure (apiKeys ≠ []) (.new s!"{envAPIKeys} contains only empty values")
  .ok apiKeys

/-- `LoadEnvConfig`, after the optional reading of a `.env` file. -/
def loadEnvConfig (getenv : Getenv) : Except GoError EnvConfig := do
  let port ← getEnvOrError getenv envPort
  let sourceIDStr ← getEnvOrError getenv envSourceID
  let sourceID ← parseSourceID sourceIDStr
  let attestationTypes := resolveAttestationTypes sourceID
  let apiKeys ← getAPIKeys getenv
  .ok {
    relayCutoverContractAddress := getenv envRelayCutoverContractAddress
    relayCutoverStartingRewardEpoch :=
      getenv envRelayCutoverStartingRewardEpoch
    sourceRPCURL := getenv envSourceRPCURL
    flareRPCURL := getenv envFlareRPCURL
    relayContractAddress := getenv envRelayContractAddress
    flareTeeManagerContractAddress :=
      getenv envFlareTeeManagerContractAddress
    teePaymentsContractAddress := getenv envTeePaymentsContractAddress
    sourceDatabaseURL := getenv envSourceDatabaseURL
    cChainDatabaseURL := getenv envCChainDatabaseURL
    allowTeeDebug := getenv envAllowTeeDebug
    disableAttestationCheckE2E := getenv envDisableAttestationCheckE2E
    allowPrivateNetworks := getenv envAllowPrivateNetworks
    teeAudience := getenv envTeeAudience
    chainID := getenv envChainID
    destinationChainURLSlug := getenv envDestinationChainURLSlug
    sourceURLSlug := getenv envSourceURLSlug
    port := port
    apiKeys := apiKeys
    attestationType := none
    attestationTypes := attestationTypes
    sourceID := sourceID }

/-! ## Trimming -/

theorem trimSpace_eq_empty_iff {text : String} :
    trimSpace text = "" ↔ ∀ c ∈ text.toList, isSpace c = true := by
  have hempty : trimSpace text = "" ↔
      (text.toList.dropWhile isSpace).rdropWhile isSpace = [] := by
    unfold trimSpace
    exact String.ofList_eq_empty_iff
  rw [hempty, List.rdropWhile_eq_nil_iff, ← List.dropWhile_eq_nil_iff,
    List.dropWhile_idempotent, List.dropWhile_eq_nil_iff]

theorem trimSpace_idempotent (text : String) :
    trimSpace (trimSpace text) = trimSpace text := by
  have hleft : ∀ chars : List Char, chars.dropWhile isSpace = chars →
      (chars.rdropWhile isSpace).dropWhile isSpace =
        chars.rdropWhile isSpace := by
    intro chars hchars
    rw [List.dropWhile_eq_self_iff] at hchars ⊢
    intro hpos
    have hstart := List.rdropWhile_prefix isSpace chars
    have hlong := hpos.trans_le hstart.length_le
    rw [hstart.getElem hpos]
    exact hchars hlong
  unfold trimSpace
  rw [String.toList_ofList, hleft _ (List.dropWhile_idempotent _ _),
    List.rdropWhile_idempotent]

theorem getEnvOrError_eq_ok_iff {getenv : Getenv} {key val : String} :
    getEnvOrError getenv key = .ok val ↔
      val = trimSpace (getenv key) ∧ val ≠ "" := by
  simp only [getEnvOrError, ensure_bind_eq_ok, Except.ok.injEq]
  constructor
  · rintro ⟨hne, rfl⟩
    exact ⟨rfl, hne⟩
  · rintro ⟨rfl, hne⟩
    exact ⟨hne, rfl⟩

theorem parseSourceID_eq_ok_iff {value : String} {source : SourceID} :
    parseSourceID value = .ok source ↔ source.text = value := by
  unfold parseSourceID
  rw [require_eq_ok]
  constructor
  · intro h
    simpa using List.find?_some h
  · rintro rfl
    cases source <;> decide

/-! ## Entries -/

theorem notMem_of_mem_splitOn {α : Type} [DecidableEq α] {sep : α}
    {s part : List α} (h : part ∈ s.splitOn sep) : sep ∉ part := by
  induction s generalizing part with
  | nil =>
      obtain rfl : part = [] := by simpa using h
      exact List.not_mem_nil
  | cons b rest ih =>
      rw [List.splitOn_cons_eq_if_modifyHead] at h
      split_ifs at h with hb
      · rcases List.mem_cons.mp h with rfl | hrest
        · exact List.not_mem_nil
        · exact ih hrest
      · cases hsplit : rest.splitOn sep with
        | nil => exact absurd hsplit (List.splitOn_ne_nil sep rest)
        | cons first more =>
            rw [hsplit] at h ih
            rcases List.mem_cons.mp h with rfl | hmore
            · have hne : sep ≠ b := fun hsame => hb (beq_iff_eq.mpr hsame.symm)
              rw [List.mem_cons, not_or]
              exact ⟨hne, ih List.mem_cons_self⟩
            · exact ih (List.mem_cons_of_mem first hmore)

theorem readAPIKeys_eq_ok_iff {entries keys : List String} :
    readAPIKeys entries = .ok keys ↔
      keys = (entries.map trimSpace).filter (· ≠ "") ∧
        ∀ key ∈ keys, minAPIKeyLength ≤ key.utf8ByteSize := by
  induction entries generalizing keys with
  | nil =>
      simp only [readAPIKeys, Except.ok.injEq, List.map_nil, List.filter_nil]
      constructor
      · rintro rfl
        exact ⟨rfl, by simp⟩
      · rintro ⟨rfl, -⟩
        rfl
  | cons entry rest ih =>
      rw [readAPIKeys]
      by_cases hempty : trimSpace entry = ""
      · simp only [hempty, if_true, ih, List.map_cons]
        simp
      · simp only [hempty, if_false, bind_eq_ok, ensure_eq_ok, exists_const,
          ih, Except.ok.injEq, List.map_cons]
        constructor
        · rintro ⟨hlong, more, ⟨rfl, hmore⟩, rfl⟩
          refine ⟨by simp [hempty], ?_⟩
          rw [List.forall_mem_cons]
          exact ⟨hlong, hmore⟩
        · rintro ⟨rfl, hall⟩
          rw [List.filter_cons_of_pos (by simpa using hempty),
            List.forall_mem_cons] at hall
          exact ⟨hall.1, _, ⟨rfl, hall.2⟩, by simp [hempty]⟩

/-- What may stand in the list of keys. -/
structure APIKey (key : String) : Prop where
  comma_notMem : ',' ∉ key.toList
  trimmed : trimSpace key = key
  long : minAPIKeyLength ≤ key.utf8ByteSize

theorem APIKey.ne_empty {key : String} (h : APIKey key) : key ≠ "" := by
  rintro rfl
  exact absurd h.long (by decide)

theorem splitEntries_of_notMem {raw : String} (h : ',' ∉ raw.toList) :
    splitEntries raw = [raw] := by
  rw [splitEntries, List.splitOn_eq_singleton h, List.map_singleton,
    String.ofList_toList]

theorem isSpace_comma : isSpace ',' = false := by decide

/-- An empty setting has one entry, which is empty. -/
theorem splitEntries_of_trimSpace_eq_empty {raw : String}
    (h : trimSpace raw = "") : splitEntries raw = [raw] := by
  apply splitEntries_of_notMem
  intro hcomma
  have hspace := trimSpace_eq_empty_iff.mp h ',' hcomma
  rw [isSpace_comma] at hspace
  cases hspace

theorem getAPIKeys_eq_ok_iff {getenv : Getenv} {keys : List String} :
    getAPIKeys getenv = .ok keys ↔
      keys = ((splitEntries (getenv envAPIKeys)).map trimSpace).filter
          (· ≠ "") ∧
        keys ≠ [] ∧ ∀ key ∈ keys, minAPIKeyLength ≤ key.utf8ByteSize := by
  simp only [getAPIKeys, bind_eq_ok, ensure_eq_ok, exists_const,
    readAPIKeys_eq_ok_iff, Except.ok.injEq]
  constructor
  · rintro ⟨-, _, ⟨hkeys, hlong⟩, hne, rfl⟩
    exact ⟨hkeys, hne, hlong⟩
  · rintro ⟨hkeys, hne, hlong⟩
    refine ⟨?_, keys, ⟨hkeys, hlong⟩, hne, rfl⟩
    intro hempty
    rw [splitEntries_of_trimSpace_eq_empty hempty] at hkeys
    rw [hkeys] at hne
    exact hne (by simp [hempty])

/-- The texts of a list of keys. -/
def joinKeys (keys : List String) : String :=
  ",".intercalate keys

theorem splitEntries_joinKeys {keys : List String} (hne : keys ≠ [])
    (h : ∀ key ∈ keys, ',' ∉ key.toList) :
    splitEntries (joinKeys keys) = keys := by
  have hcomma : ",".toList = [','] := rfl
  rw [splitEntries, joinKeys, String.toList_intercalate, hcomma,
    List.splitOn_intercalate _ (by simpa using h) (by simpa using hne),
    List.map_map]
  simp [Function.comp_def]

theorem notMem_trimSpace {c : Char} {text : String} (h : c ∉ text.toList) :
    c ∉ (trimSpace text).toList := by
  rw [trimSpace, String.toList_ofList]
  intro hmem
  have hleft := (List.rdropWhile_prefix isSpace _).subset hmem
  exact h ((List.dropWhile_suffix isSpace).subset hleft)

/-- A setting is accepted exactly when its entries, without the blanks around
them and without the empty ones, are a nonempty list of keys of sixteen bytes
at least, and it gives this list.  The accepted settings give exactly the
nonempty lists of keys without commas, without blanks at the ends and of
sixteen bytes at least, and the joined texts of any such list give it back. -/
theorem getAPIKeys_accepts (keys : List String) :
    (∀ getenv, getAPIKeys getenv = .ok keys ↔
      keys = ((splitEntries (getenv envAPIKeys)).map trimSpace).filter
          (· ≠ "") ∧
        keys ≠ [] ∧ ∀ key ∈ keys, minAPIKeyLength ≤ key.utf8ByteSize) ∧
    ((∃ getenv, getAPIKeys getenv = .ok keys) ↔
      keys ≠ [] ∧ ∀ key ∈ keys, APIKey key) ∧
    ∀ getenv : Getenv, getenv envAPIKeys = joinKeys keys → keys ≠ [] →
      (∀ key ∈ keys, APIKey key) → getAPIKeys getenv = .ok keys := by
  have hround : ∀ getenv : Getenv, getenv envAPIKeys = joinKeys keys →
      keys ≠ [] → (∀ key ∈ keys, APIKey key) →
        getAPIKeys getenv = .ok keys := by
    intro getenv hgetenv hne hkeys
    rw [getAPIKeys_eq_ok_iff, hgetenv, splitEntries_joinKeys hne
      fun key hkey => (hkeys key hkey).comma_notMem]
    refine ⟨?_, hne, fun key hkey => (hkeys key hkey).long⟩
    have htrim : keys.map trimSpace = keys := by
      conv_rhs => rw [← List.map_id keys]
      exact List.map_congr_left fun key hkey => (hkeys key hkey).trimmed
    rw [htrim, List.filter_eq_self.mpr]
    intro key hkey
    simpa using (hkeys key hkey).ne_empty
  refine ⟨fun _ => getAPIKeys_eq_ok_iff, ⟨?_, ?_⟩, hround⟩
  · rintro ⟨getenv, h⟩
    obtain ⟨hkeys, hne, hlong⟩ := getAPIKeys_eq_ok_iff.mp h
    refine ⟨hne, fun key hkey => ?_⟩
    have hmem := hkey
    rw [hkeys] at hmem
    obtain ⟨entry, hentry, rfl⟩ :=
      List.mem_map.mp (List.mem_filter.mp hmem).1
    obtain ⟨part, hpart, rfl⟩ := List.mem_map.mp hentry
    have hcomma : ',' ∉ (String.ofList part).toList := by
      rw [String.toList_ofList]
      exact notMem_of_mem_splitOn hpart
    exact ⟨notMem_trimSpace hcomma, trimSpace_idempotent _, hlong _ hkey⟩
  · rintro ⟨hne, hkeys⟩
    exact ⟨fun _ => joinKeys keys, hround _ rfl hne hkeys⟩

/-! ## What a refusal shows -/

/-- The lengths of the entries without blanks around them. -/
def entryLengths (raw : String) : List ℕ :=
  (splitEntries raw).map fun entry => (trimSpace entry).utf8ByteSize

/-- The refusal of the entries, from their lengths. -/
def lengthsRefused : List ℕ → Option GoError
  | [] => none
  | length :: rest =>
      if length = 0 then lengthsRefused rest
      else if minAPIKeyLength ≤ length then lengthsRefused rest
      else some (.new
        s!"{envAPIKeys} entries must be at least {minAPIKeyLength} characters; got one of length {length}")

theorem readAPIKeys_eq_error_iff {entries : List String} {err : GoError} :
    readAPIKeys entries = .error err ↔
      lengthsRefused (entries.map fun entry =>
        (trimSpace entry).utf8ByteSize) = some err := by
  induction entries with
  | nil => simp [readAPIKeys, lengthsRefused]
  | cons entry rest ih =>
      rw [readAPIKeys, List.map_cons, lengthsRefused]
      by_cases hempty : trimSpace entry = ""
      · simp [hempty, ih]
      · have hpos : (trimSpace entry).utf8ByteSize ≠ 0 := by
          simpa using hempty
        simp only [hempty, hpos, if_false]
        by_cases hlong : minAPIKeyLength ≤ (trimSpace entry).utf8ByteSize
        · simp only [hlong, if_true, ← ih, bind_eq_error, ensure_eq_ok]
          simp [ensure]
        · simp [hlong, ensure, bind, Except.bind]

theorem entryLengths_eq_singleton_zero_iff {raw : String} :
    entryLengths raw = [0] ↔ trimSpace raw = "" := by
  constructor
  · intro h
    have hlength := congrArg List.length h
    rw [entryLengths, List.length_map] at hlength
    obtain ⟨entry, hentry⟩ := List.length_eq_one_iff.mp hlength
    have hjoined : [','].intercalate (raw.toList.splitOn ',') = raw.toList :=
      List.intercalate_splitOn ','
    obtain ⟨part, hpart, rfl⟩ := List.map_eq_singleton_iff.mp hentry
    rw [hpart, List.intercalate_singleton] at hjoined
    rw [entryLengths, hentry, hjoined, String.ofList_toList] at h
    simpa using h
  · intro h
    rw [entryLengths, splitEntries_of_trimSpace_eq_empty h]
    simp [h]

/-- The refusal of a setting, from the lengths of its entries. -/
def keysRefused (lengths : List ℕ) : Option GoError :=
  if lengths = [0] then some (.new s!"{envAPIKeys} must be set")
  else match lengthsRefused lengths with
    | some err => some err
    | none =>
        if ∀ length ∈ lengths, length = 0 then
          some (.new s!"{envAPIKeys} contains only empty values")
        else none

theorem readAPIKeys_eq_nil_iff {entries : List String} :
    readAPIKeys entries = .ok [] ↔ ∀ length ∈ entries.map fun entry =>
      (trimSpace entry).utf8ByteSize, length = 0 := by
  rw [readAPIKeys_eq_ok_iff, eq_comm, List.filter_eq_nil_iff]
  simp

theorem lengthsRefused_of_forall_zero {lengths : List ℕ}
    (h : ∀ length ∈ lengths, length = 0) : lengthsRefused lengths = none := by
  induction lengths with
  | nil => rfl
  | cons length rest ih =>
      rw [List.forall_mem_cons] at h
      rw [lengthsRefused, if_pos h.1]
      exact ih h.2

theorem getAPIKeys_eq_error_iff {getenv : Getenv} {err : GoError} :
    getAPIKeys getenv = .error err ↔
      keysRefused (entryLengths (getenv envAPIKeys)) = some err := by
  generalize hraw : getenv envAPIKeys = raw
  unfold keysRefused
  by_cases hempty : trimSpace raw = ""
  · rw [if_pos (entryLengths_eq_singleton_zero_iff.mpr hempty)]
    simp only [getAPIKeys, hraw, bind_eq_error, ensure_eq_error,
      ensure_eq_ok, hempty]
    simp
  · rw [if_neg (entryLengths_eq_singleton_zero_iff.not.mpr hempty)]
    have hsteps : getAPIKeys getenv = .error err ↔
        lengthsRefused (entryLengths raw) = some err ∨
          (∀ length ∈ entryLengths raw, length = 0) ∧
            .new s!"{envAPIKeys} contains only empty values" = err := by
      simp only [getAPIKeys, hraw, bind_eq_error, ensure_eq_error,
        ensure_eq_ok, readAPIKeys_eq_error_iff, entryLengths,
        ← readAPIKeys_eq_nil_iff]
      simp [hempty]
    rw [hsteps]
    cases hrefused : lengthsRefused (entryLengths raw) with
    | some cause =>
        have hnot : ¬ ∀ length ∈ entryLengths raw, length = 0 := by
          intro hzero
          rw [lengthsRefused_of_forall_zero hzero] at hrefused
          cases hrefused
        simp [hnot]
    | none => simp

/-- A refusal shows of the keys no more than how long the entries are. -/
theorem getAPIKeys_error_of_lengths {getenv getenv' : Getenv}
    (h : entryLengths (getenv envAPIKeys) =
      entryLengths (getenv' envAPIKeys)) (err : GoError) :
    getAPIKeys getenv = .error err ↔ getAPIKeys getenv' = .error err := by
  rw [getAPIKeys_eq_error_iff, getAPIKeys_eq_error_iff, h]

/-- The second of two keys is cut short in two ways. -/
theorem getAPIKeys_error_of_lengths_shortKeys :
    (∀ err, getAPIKeys (fun _ => " 0123456789abcdef,secret") = .error err ↔
      getAPIKeys (fun _ => "fedcba9876543210 , hidden") = .error err) ∧
    getAPIKeys (fun _ => "0123456789abcdef,secret") = .error (.new
      "API_KEYS entries must be at least 16 characters; got one of length 6") :=
  ⟨getAPIKeys_error_of_lengths (by decide), by decide⟩

/-! ## The whole environment -/

theorem loadEnvConfig_eq_ok_iff {getenv : Getenv} {env : EnvConfig} :
    loadEnvConfig getenv = .ok env ↔
      trimSpace (getenv envPort) ≠ "" ∧
      env.sourceID.text = trimSpace (getenv envSourceID) ∧
      getAPIKeys getenv = .ok env.apiKeys ∧
      env = {
        relayCutoverContractAddress := getenv envRelayCutoverContractAddress
        relayCutoverStartingRewardEpoch :=
          getenv envRelayCutoverStartingRewardEpoch
        sourceRPCURL := getenv envSourceRPCURL
        flareRPCURL := getenv envFlareRPCURL
        relayContractAddress := getenv envRelayContractAddress
        flareTeeManagerContractAddress :=
          getenv envFlareTeeManagerContractAddress
        teePaymentsContractAddress := getenv envTeePaymentsContractAddress
        sourceDatabaseURL := getenv envSourceDatabaseURL
        cChainDatabaseURL := getenv envCChainDatabaseURL
        allowTeeDebug := getenv envAllowTeeDebug
        disableAttestationCheckE2E := getenv envDisableAttestationCheckE2E
        allowPrivateNetworks := getenv envAllowPrivateNetworks
        teeAudience := getenv envTeeAudience
        chainID := getenv envChainID
        destinationChainURLSlug := getenv envDestinationChainURLSlug
        sourceURLSlug := getenv envSourceURLSlug
        port := trimSpace (getenv envPort)
        apiKeys := env.apiKeys
        attestationType := none
        attestationTypes := sourceAttestationTypes env.sourceID
        sourceID := env.sourceID } := by
  simp only [loadEnvConfig, bind_eq_ok, getEnvOrError_eq_ok_iff,
    parseSourceID_eq_ok_iff, Except.ok.injEq, resolveAttestationTypes]
  constructor
  · rintro ⟨_, ⟨rfl, hport⟩, _, ⟨rfl, -⟩, source, hsource, keys, hkeys, rfl⟩
    exact ⟨hport, hsource, hkeys, rfl⟩
  · rintro ⟨hport, hsource, hkeys, henv⟩
    refine ⟨_, ⟨rfl, hport⟩, _, ⟨rfl, ?_⟩, _, hsource, _, hkeys, henv.symm⟩
    rw [← hsource]
    cases env.sourceID <;> decide

end Environment

end VerifierApi
