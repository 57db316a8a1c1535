import VerifierApi.HexText
import VerifierApi.InstructionEvent
import VerifierApi.TextCuts

/-!
# Data source names

The grammars by which the database drivers read a data source name: the one of
MySQL, and the two of Postgres.  A driver finds each separator by its position;
what comes after the last cut never changes what stands before it.
-/

namespace VerifierApi

abbrev Bytes := List UInt8

def ascii (c : Char) : UInt8 := c.toUInt8

/-- What a driver reads: where to connect, and a table of parameters. -/
structure Settings (β : Type) where
  base : β
  params : Bytes → Option Bytes

namespace Settings

variable {β : Type}

/-- The settings with a parameter set where it was not given. -/
def withDefault (m : Settings β) (key value : Bytes) : Settings β :=
  { m with params := fun other =>
      if other = key ∧ m.params key = none then some value
      else m.params other }

theorem withDefault_of_given {m : Settings β} {key value : Bytes}
    (h : m.params key ≠ none) : m.withDefault key value = m := by
  unfold withDefault
  simp [h]

theorem withDefault_params_self (m : Settings β) (key value : Bytes) :
    (m.withDefault key value).params key ≠ none := by
  by_cases hgiven : m.params key = none
  · simp [withDefault, hgiven]
  · simpa [withDefault_of_given hgiven] using hgiven

theorem withDefault_eq_self_iff {m : Settings β} {key value : Bytes} :
    m.withDefault key value = m ↔ m.params key ≠ none := by
  constructor
  · intro h
    rw [← h]
    exact withDefault_params_self m key value
  · exact withDefault_of_given

theorem withDefault_params_ne {m : Settings β} {key value other : Bytes}
    (h : other ≠ key) :
    (m.withDefault key value).params other = m.params other := by
  simp [withDefault, h]

end Settings

/-- The value of the first entry of a key. -/
def firstValue (pairs : List (Bytes × Bytes)) (key : Bytes) : Option Bytes :=
  pairs.lookup key

/-- The value of the last entry of a key. -/
def lastValue (pairs : List (Bytes × Bytes)) (key : Bytes) : Option Bytes :=
  pairs.reverse.lookup key

theorem lastValue_concat (pairs : List (Bytes × Bytes))
    (key value other : Bytes) :
    lastValue (pairs ++ [(key, value)]) other =
      if other = key then some value else lastValue pairs other := by
  rw [lastValue, List.reverse_append, List.reverse_singleton,
    List.singleton_append, List.lookup_cons]
  by_cases hother : other = key
  · simp [hother]
  · have hbeq : (other == key) = false := beq_false_of_ne hother
    rw [hbeq, if_neg hother]
    rfl

theorem firstValue_concat (pairs : List (Bytes × Bytes))
    (key value other : Bytes) :
    firstValue (pairs ++ [(key, value)]) other =
      if other = key ∧ firstValue pairs key = none then some value
      else firstValue pairs other := by
  unfold firstValue
  rw [List.lookup_append, List.lookup_cons, List.lookup_nil]
  by_cases hother : other = key
  · subst hother
    cases pairs.lookup other with
    | none => simp
    | some found => simp
  · have hbeq : (other == key) = false := beq_false_of_ne hother
    simp [hbeq, hother]

theorem mem_of_lastValue {pairs : List (Bytes × Bytes)} {key : Bytes}
    (h : lastValue pairs key ≠ none) : ∃ value, (key, value) ∈ pairs := by
  obtain ⟨value, hvalue⟩ := Option.ne_none_iff_exists'.mp h
  obtain ⟨front, back, hsplit, -⟩ := List.lookup_eq_some_iff.mp hvalue
  refine ⟨value, List.mem_reverse.mp ?_⟩
  rw [hsplit]
  simp

/-! ## MySQL -/

structure MySQLAddress where
  user : Bytes
  passwd : Bytes
  net : Bytes
  addr : Bytes
deriving DecidableEq

structure MySQLBase where
  address : MySQLAddress
  dbName : Bytes
deriving DecidableEq

/-- `[user[:password]@][net[(addr)]]`: the last `@` ends the password, which
is not escaped, and the address ends in a bracket. -/
def parseMySQLAddress (left : Bytes) : Option MySQLAddress :=
  let (login, host) := (cutLast (ascii '@') left).getD ([], left)
  let (user, passwd) := (cutFirst (ascii ':') login).getD (login, [])
  match cutFirst (ascii '(') host with
  | none => some ⟨user, passwd, host, []⟩
  | some (net, addr) =>
      if addr.getLast? = some (ascii ')') then
        some ⟨user, passwd, net, addr.dropLast⟩
      else none

/-- `param1=value1&...&paramN=valueN`: a segment without a value is
skipped. -/
def parseDSNParams (params : Bytes) : List (Bytes × Bytes) :=
  (segments (ascii '&') params).filterMap (cutFirst (ascii '='))

/-- `dbname[?params]` behind the last slash: the last value of a parameter
counts. -/
def parseSchema (right : Bytes) : Bytes × (Bytes → Option Bytes) :=
  let (dbName, params) := (cutFirst (ascii '?') right).getD (right, [])
  (dbName, lastValue (parseDSNParams params))

/-- The empty name stands for the defaults. -/
def parseMySQLDSN (dsn : Bytes) : Option (Settings MySQLBase) :=
  if dsn = [] then some ⟨⟨⟨[], [], [], []⟩, []⟩, fun _ => none⟩
  else
    match cutLast (ascii '/') dsn with
    | none => none
    | some (left, right) =>
        let (dbName, params) := parseSchema right
        (parseMySQLAddress left).map fun address => ⟨⟨address, dbName⟩, params⟩

/-! ## Postgres URLs -/

def queryUnescape : Bytes → Option Bytes
  | [] => some []
  | b :: rest =>
      if b = ascii '%' then
        match rest with
        | high :: low :: tail =>
            match hexValue (Char.ofNat high.toNat),
                hexValue (Char.ofNat low.toNat), queryUnescape tail with
            | some h, some l, some text => some (UInt8.ofNat (h * 16 + l) :: text)
            | _, _, _ => none
        | _ => none
      else
        (queryUnescape rest).map fun text =>
          (if b = ascii '+' then ascii ' ' else b) :: text

/-- A segment of a query which is empty, holds a semicolon or is not properly
escaped is skipped. -/
def queryPair (seg : Bytes) : Option (Bytes × Bytes) :=
  if seg = [] ∨ ascii ';' ∈ seg then none
  else
    let (key, value) := (cutFirst (ascii '=') seg).getD (seg, [])
    match queryUnescape key, queryUnescape value with
    | some key, some value => some (key, value)
    | _, _ => none

def parseQuery (query : Bytes) : List (Bytes × Bytes) :=
  (segments (ascii '&') query).filterMap queryPair

/-- The first `#` starts a fragment, and the first `?` before it the query, in
which the first value of a parameter counts.  Login, hosts and database are
read from what stands before the query. -/
def parseURLSettings (dsn : Bytes) : Settings Bytes :=
  let url := ((cutFirst (ascii '#') dsn).getD (dsn, [])).1
  let (base, query) := (cutFirst (ascii '?') url).getD (url, [])
  ⟨base, firstValue (parseQuery query)⟩

/-! ## Postgres keywords and values -/

def asciiSpace : List UInt8 :=
  [ascii ' ', ascii '\t', ascii '\n', ascii '\r', 0x0b, 0x0c]

def trimSpace (text : Bytes) : Bytes :=
  ((text.dropWhile (· ∈ asciiSpace)).reverse.dropWhile
    (· ∈ asciiSpace)).reverse

/-- Where a reader of `key=value key='value' ...` stands.  A value is kept with
its backslashes until it ends. -/
inductive KeywordState where
  | key (text : Bytes)
  | start (key : Bytes)
  | plain (key value : Bytes)
  | plainEscape (key value : Bytes)
  | quoted (key value : Bytes)
  | quotedEscape (key value : Bytes)
deriving DecidableEq

/-- The settings read so far, and the state. -/
abbrev KeywordReader := List (Bytes × Bytes) × KeywordState

/-- The escaped backslashes are replaced before the escaped quotes are: behind
an escaped backslash a quote loses that backslash too. -/
def unescapeValue (value : Bytes) : Bytes :=
  replaceAll [ascii '\\', ascii '\''] [ascii '\'']
    (replaceAll [ascii '\\', ascii '\\'] [ascii '\\'] value)

def readByte : KeywordReader → UInt8 → Option KeywordReader
  | (done, .key text), b =>
      if b = ascii '=' then
        if trimSpace text = [] then none
        else some (done, .start (trimSpace text))
      else some (done, .key (text ++ [b]))
  | (done, .start key), b =>
      if b ∈ asciiSpace then some (done, .start key)
      else if b = ascii '\'' then some (done, .quoted key [])
      else if b = ascii '\\' then some (done, .plainEscape key [])
      else some (done, .plain key [b])
  | (done, .plain key value), b =>
      if b ∈ asciiSpace then
        some (done ++ [(key, unescapeValue value)], .key [])
      else if b = ascii '\\' then some (done, .plainEscape key value)
      else some (done, .plain key (value ++ [b]))
  | (done, .plainEscape key value), b =>
      some (done, .plain key (value ++ [ascii '\\', b]))
  | (done, .quoted key value), b =>
      if b = ascii '\'' then
        some (done ++ [(key, unescapeValue value)], .key [])
      else if b = ascii '\\' then some (done, .quotedEscape key value)
      else some (done, .quoted key (value ++ [b]))
  | (done, .quotedEscape key value), b =>
      some (done, .quoted key (value ++ [ascii '\\', b]))

/-- A value may be missing at the end, a closing quote may not. -/
def finishReading : KeywordReader → Option (List (Bytes × Bytes))
  | (done, .key []) => some done
  | (done, .start key) => some (done ++ [(key, [])])
  | (done, .plain key value) => some (done ++ [(key, unescapeValue value)])
  | _ => none

def readKeywords (reader : KeywordReader) (text : Bytes) :
    Option KeywordReader :=
  text.foldlM readByte reader

def parseKeywordValueSettings (dsn : Bytes) : Option (List (Bytes × Bytes)) :=
  (readKeywords ([], .key []) dsn).bind finishReading

/-! ## Postgres -/

def isURL (dsn : Bytes) : Prop :=
  textBytes "postgres://" <+: dsn ∨ textBytes "postgresql://" <+: dsn

instance (dsn : Bytes) : Decidable (isURL dsn) :=
  inferInstanceAs (Decidable (_ ∨ _))

/-- In the keyword form everything is a parameter. -/
def parsePostgresDSN (dsn : Bytes) : Option (Settings Bytes) :=
  if isURL dsn then some (parseURLSettings dsn)
  else (parseKeywordValueSettings dsn).map fun pairs => ⟨[], lastValue pairs⟩

/-! ## What is appended to a name -/

def special : List UInt8 :=
  asciiSpace ++ [ascii '/', ascii '?', ascii '&', ascii '#', ascii '%',
    ascii '+', ascii ';', ascii '\'', ascii '\\']

def paramText (key value : Bytes) : Bytes := key ++ ascii '=' :: value

/-- A parameter that needs no escaping in any of the grammars. -/
structure PlainParam (key value : Bytes) : Prop where
  key_ne : key ≠ []
  value_ne : value ≠ []
  noEquals : ascii '=' ∉ key
  plain : ∀ b ∈ paramText key value, b ∉ special

namespace PlainParam

variable {key value : Bytes}

theorem notMem (h : PlainParam key value) {b : UInt8} (hb : b ∈ special) :
    b ∉ paramText key value := fun hmem => h.plain b hmem hb

theorem cutFirst_eq (h : PlainParam key value) :
    cutFirst (ascii '=') (paramText key value) = some (key, value) :=
  cutFirst_append_sep h.noEquals value

theorem paramText_ne_nil : paramText key value ≠ [] := by
  simp [paramText]

theorem of_all (hkey : key ≠ []) (hvalue : value ≠ [])
    (hequals : ascii '=' ∉ key)
    (hplain : ((paramText key value).all fun b => decide (b ∉ special)) =
      true) : PlainParam key value :=
  ⟨hkey, hvalue, hequals, fun b hb =>
    of_decide_eq_true (List.all_eq_true.mp hplain b hb)⟩

end PlainParam

/-! ### MySQL -/

theorem parseDSNParams_append {key value : Bytes} (h : PlainParam key value)
    (params : Bytes) :
    parseDSNParams (params ++ ascii '&' :: paramText key value) =
      parseDSNParams params ++ [(key, value)] := by
  rw [parseDSNParams, segments_append_sep,
    segments_of_notMem (h.notMem (by decide)), List.filterMap_append,
    List.filterMap_cons, h.cutFirst_eq, List.filterMap_nil]
  rfl

theorem parseDSNParams_single {key value : Bytes} (h : PlainParam key value) :
    parseDSNParams (paramText key value) = [(key, value)] := by
  rw [parseDSNParams, segments_of_notMem (h.notMem (by decide)),
    List.filterMap_cons, h.cutFirst_eq, List.filterMap_nil]

theorem parseSchema_of_notMem {right : Bytes} (h : ascii '?' ∉ right) :
    parseSchema right = (right, fun _ => none) := by
  rw [parseSchema, cutFirst_eq_none_iff.mpr h]
  rfl

/-- A further parameter. -/
theorem parseSchema_append {key value right : Bytes}
    (h : PlainParam key value) (hmem : ascii '?' ∈ right) :
    parseSchema (right ++ ascii '&' :: paramText key value) =
      ((parseSchema right).1, fun other =>
        if other = key then some value else (parseSchema right).2 other) := by
  obtain ⟨dbName, params, hcut⟩ := exists_cutFirst hmem
  have hcut' := cutFirst_append_of_some hcut
    (ascii '&' :: paramText key value)
  rw [parseSchema, parseSchema, hcut, hcut']
  simp only [Option.getD_some, parseDSNParams_append h, Prod.mk.injEq,
    true_and]
  funext other
  exact lastValue_concat _ key value other

/-- The first parameter. -/
theorem parseSchema_append_first {key value right : Bytes}
    (h : PlainParam key value) (hmem : ascii '?' ∉ right) :
    parseSchema (right ++ ascii '?' :: paramText key value) =
      (right, fun other => if other = key then some value else none) := by
  rw [parseSchema, cutFirst_append_sep hmem, Option.getD_some]
  simp only [parseDSNParams_single h, Prod.mk.injEq, true_and]
  funext other
  exact lastValue_concat [] key value other

theorem parseMySQLDSN_of_cutLast {dsn left right : Bytes}
    (h : cutLast (ascii '/') dsn = some (left, right)) :
    parseMySQLDSN dsn = (parseMySQLAddress left).map fun address =>
      ⟨⟨address, (parseSchema right).1⟩, (parseSchema right).2⟩ := by
  have hne : dsn ≠ [] := by
    rintro rfl
    simp [cutLast] at h
  rw [parseMySQLDSN, if_neg hne, h]

/-! ### Postgres URLs -/

theorem queryUnescape_of_plain {text : Bytes} (hpercent : ascii '%' ∉ text)
    (hplus : ascii '+' ∉ text) : queryUnescape text = some text := by
  induction text with
  | nil => rfl
  | cons b rest ih =>
    rw [List.mem_cons, not_or] at hpercent hplus
    unfold queryUnescape
    rw [if_neg (Ne.symm hpercent.1), ih hpercent.2 hplus.2, Option.map_some,
      if_neg (Ne.symm hplus.1)]

theorem queryPair_of_plain {key value : Bytes} (h : PlainParam key value) :
    queryPair (paramText key value) = some (key, value) := by
  have hpercent := h.notMem (b := ascii '%') (by decide)
  have hplus := h.notMem (b := ascii '+') (by decide)
  simp only [paramText, List.mem_append, List.mem_cons, not_or] at hpercent hplus
  unfold queryPair
  rw [if_neg (not_or.mpr ⟨PlainParam.paramText_ne_nil,
    h.notMem (by decide)⟩), h.cutFirst_eq]
  simp only [Option.getD_some,
    queryUnescape_of_plain hpercent.1 hplus.1,
    queryUnescape_of_plain hpercent.2.2 hplus.2.2]

theorem parseQuery_append {key value : Bytes} (h : PlainParam key value)
    (query : Bytes) :
    parseQuery (query ++ ascii '&' :: paramText key value) =
      parseQuery query ++ [(key, value)] := by
  rw [parseQuery, segments_append_sep,
    segments_of_notMem (h.notMem (by decide)), List.filterMap_append,
    List.filterMap_cons, queryPair_of_plain h, List.filterMap_nil]
  rfl

theorem parseQuery_single {key value : Bytes} (h : PlainParam key value) :
    parseQuery (paramText key value) = [(key, value)] := by
  rw [parseQuery, segments_of_notMem (h.notMem (by decide)),
    List.filterMap_cons, queryPair_of_plain h, List.filterMap_nil]

/-- Behind a fragment nothing is read. -/
theorem parseURLSettings_append_fragment {dsn : Bytes}
    (h : ascii '#' ∈ dsn) (t : Bytes) :
    parseURLSettings (dsn ++ t) = parseURLSettings dsn := by
  obtain ⟨url, fragment, hcut⟩ := exists_cutFirst h
  rw [parseURLSettings, parseURLSettings, hcut,
    cutFirst_append_of_some hcut t]
  rfl

theorem parseURLSettings_of_notMem {dsn : Bytes} (h : ascii '#' ∉ dsn) :
    parseURLSettings dsn =
      let (base, query) := (cutFirst (ascii '?') dsn).getD (dsn, [])
      ⟨base, firstValue (parseQuery query)⟩ := by
  rw [parseURLSettings, cutFirst_eq_none_iff.mpr h]
  rfl

/-- A parameter that the query already gives keeps its value. -/
theorem parseURLSettings_append {key value dsn : Bytes}
    (h : PlainParam key value) (hfragment : ascii '#' ∉ dsn) {sep : UInt8}
    (hsep : sep = if ascii '?' ∈ dsn then ascii '&' else ascii '?') :
    parseURLSettings (dsn ++ sep :: paramText key value) =
      (parseURLSettings dsn).withDefault key value := by
  have hfragment' : ascii '#' ∉ dsn ++ sep :: paramText key value := by
    have hnot : ascii '#' ≠ sep := by
      rw [hsep]
      split
      · decide
      · decide
    simp [hfragment, hnot, h.notMem (b := ascii '#') (by decide)]
  rw [parseURLSettings_of_notMem hfragment,
    parseURLSettings_of_notMem hfragment']
  by_cases hmem : ascii '?' ∈ dsn
  · rw [if_pos hmem] at hsep
    obtain ⟨base, query, hcut⟩ := exists_cutFirst hmem
    rw [hcut, cutFirst_append_of_some hcut, hsep]
    simp only [Option.getD_some, parseQuery_append h, Settings.withDefault,
      Settings.mk.injEq, true_and]
    funext other
    exact firstValue_concat _ key value other
  · rw [if_neg hmem] at hsep
    rw [hsep, cutFirst_append_sep hmem, cutFirst_eq_none_iff.mpr hmem]
    simp only [Option.getD_some, Option.getD_none, parseQuery_single h,
      Settings.withDefault, Settings.mk.injEq, true_and]
    funext other
    exact firstValue_concat [] key value other

/-! ### Postgres keywords and values -/

theorem trimSpace_of_notMem {text : Bytes} (h : ∀ b ∈ text, b ∉ asciiSpace) :
    trimSpace text = text := by
  have hdrop : ∀ t : Bytes, (∀ b ∈ t, b ∉ asciiSpace) →
      t.dropWhile (· ∈ asciiSpace) = t := by
    intro t ht
    cases t with
    | nil => rfl
    | cons b rest =>
      rw [List.dropWhile_cons_of_neg]
      simpa using ht b List.mem_cons_self
  rw [trimSpace, hdrop text h, hdrop text.reverse, List.reverse_reverse]
  intro b hb
  exact h b (List.mem_reverse.mp hb)

theorem trimSpace_cons_space {b : UInt8} (hb : b ∈ asciiSpace)
    (text : Bytes) : trimSpace (b :: text) = trimSpace text := by
  rw [trimSpace, List.dropWhile_cons_of_pos (by simpa using hb), trimSpace]

theorem unescapeValue_append {text : Bytes}
    (h : ∀ b ∈ text, b ≠ ascii '\'' ∧ b ≠ ascii '\\') (value : Bytes) :
    unescapeValue (value ++ text) = unescapeValue value ++ text := by
  unfold unescapeValue
  rw [replaceAll_append (List.cons_ne_nil _ _) _ _ value,
    replaceAll_append (List.cons_ne_nil _ _)]
  · intro b hb
    simp [h b hb]
  · intro b hb
    simp [h b hb]

theorem plain_of_notMem_special {text : Bytes}
    (h : ∀ b ∈ text, b ∉ special) :
    ∀ b ∈ text, b ≠ ascii '\'' ∧ b ≠ ascii '\\' := by
  intro b hb
  constructor
  · rintro rfl
    exact h _ hb (by decide)
  · rintro rfl
    exact h _ hb (by decide)

theorem unescapeValue_of_notMem {text : Bytes}
    (h : ∀ b ∈ text, b ∉ special) : unescapeValue text = text :=
  unescapeValue_append (plain_of_notMem_special h) []

theorem readKeywords_append (reader : KeywordReader) (s t : Bytes) :
    readKeywords reader (s ++ t) =
      (readKeywords reader s).bind fun mid => readKeywords mid t := by
  unfold readKeywords
  rw [List.foldlM_append]
  rfl

theorem readKeywords_cons (reader : KeywordReader) (b : UInt8) (t : Bytes) :
    readKeywords reader (b :: t) =
      (readByte reader b).bind fun mid => readKeywords mid t := by
  unfold readKeywords
  rw [List.foldlM_cons]
  rfl

theorem readKeywords_key {text : Bytes} (h : ascii '=' ∉ text)
    (done : List (Bytes × Bytes)) (before : Bytes) :
    readKeywords (done, .key before) text =
      some (done, .key (before ++ text)) := by
  induction text generalizing before with
  | nil => rw [List.append_nil]; rfl
  | cons b rest ih =>
    rw [List.mem_cons, not_or] at h
    rw [readKeywords_cons, readByte, if_neg (Ne.symm h.1), Option.bind_some,
      ih h.2, List.append_assoc, List.singleton_append]

theorem readKeywords_plain {text : Bytes} (h : ∀ b ∈ text, b ∉ special)
    (done : List (Bytes × Bytes)) (key value : Bytes) :
    readKeywords (done, .plain key value) text =
      some (done, .plain key (value ++ text)) := by
  induction text generalizing value with
  | nil => rw [List.append_nil]; rfl
  | cons b rest ih =>
    obtain ⟨hb, hrest⟩ := List.forall_mem_cons.mp h
    have hspace : b ∉ asciiSpace := fun hmem =>
      hb (List.mem_append_left _ hmem)
    have hescape : b ≠ ascii '\\' := by
      rintro rfl
      exact hb (by decide)
    rw [readKeywords_cons, readByte, if_neg hspace, if_neg hescape,
      Option.bind_some, ih hrest, List.append_assoc, List.singleton_append]

theorem readKeywords_start {text : Bytes} (hne : text ≠ [])
    (h : ∀ b ∈ text, b ∉ special) (done : List (Bytes × Bytes))
    (key : Bytes) :
    readKeywords (done, .start key) text = some (done, .plain key text) := by
  cases text with
  | nil => exact absurd rfl hne
  | cons b rest =>
    obtain ⟨hb, hrest⟩ := List.forall_mem_cons.mp h
    have hspace : b ∉ asciiSpace := fun hmem =>
      hb (List.mem_append_left _ hmem)
    have hquote : b ≠ ascii '\'' := by
      rintro rfl
      exact hb (by decide)
    have hescape : b ≠ ascii '\\' := by
      rintro rfl
      exact hb (by decide)
    rw [readKeywords_cons, readByte, if_neg hspace, if_neg hquote,
      if_neg hescape, Option.bind_some, readKeywords_plain hrest]
    rfl

namespace PlainParam

variable {key value : Bytes}

theorem value_notMem (h : PlainParam key value) :
    ∀ b ∈ value, b ∉ special := fun b hb =>
  h.plain b (List.mem_append_right _ (List.mem_cons_of_mem _ hb))

theorem notSpace (h : PlainParam key value) : ∀ b ∈ key, b ∉ asciiSpace := by
  intro b hb hspace
  exact h.plain b (List.mem_append_left _ hb) (List.mem_append_left _ hspace)

/-- A parameter behind the start of a key. -/
theorem readKeywords_eq (h : PlainParam key value) {before : Bytes}
    (hne : trimSpace (before ++ key) ≠ []) (done : List (Bytes × Bytes)) :
    readKeywords (done, .key before) (paramText key value) =
      some (done, .plain (trimSpace (before ++ key)) value) := by
  rw [paramText, readKeywords_append, readKeywords_key h.noEquals,
    Option.bind_some, readKeywords_cons, readByte, if_pos rfl, if_neg hne,
    Option.bind_some, readKeywords_start h.value_ne h.value_notMem]

theorem trimSpace_key (h : PlainParam key value) : trimSpace key = key :=
  trimSpace_of_notMem h.notSpace

end PlainParam

/-- The states at which a text may end. -/
theorem finishReading_eq_some_iff {reader : KeywordReader}
    {pairs : List (Bytes × Bytes)} :
    finishReading reader = some pairs ↔
      reader = (pairs, .key []) ∨
      (∃ done key, reader = (done, .start key) ∧
        pairs = done ++ [(key, [])]) ∨
      ∃ done key value, reader = (done, .plain key value) ∧
        pairs = done ++ [(key, unescapeValue value)] := by
  obtain ⟨done, state⟩ := reader
  cases state with
  | key text =>
    cases text with
    | nil => simp [finishReading]
    | cons b rest => simp [finishReading]
  | start key => simp [finishReading, eq_comm]
  | plain key value => simp [finishReading, eq_comm]
  | plainEscape key value => simp [finishReading]
  | quoted key value => simp [finishReading]
  | quotedEscape key value => simp [finishReading]

/-- The text ends in a keyword whose value is missing. -/
def EndsOpen (dsn : Bytes) : Prop :=
  ∃ done key, readKeywords ([], .key []) dsn = some (done, .start key)

/-- The text ends behind a value that is complete. -/
def EndsClosed (dsn : Bytes) : Prop :=
  ∃ done, readKeywords ([], .key []) dsn = some (done, .key [])

/-- The last value goes on with what was appended. -/
def ExtendsLast (pairs pairs' : List (Bytes × Bytes)) : Prop :=
  ∃ done key value, ∃ more : Bytes, more ≠ [] ∧
    pairs = done ++ [(key, value)] ∧ pairs' = done ++ [(key, value ++ more)]

theorem ExtendsLast.lastValue_ne {pairs pairs' : List (Bytes × Bytes)}
    (h : ExtendsLast pairs pairs') (key value : Bytes) :
    (⟨[], lastValue pairs'⟩ : Settings Bytes) ≠
      Settings.withDefault ⟨[], lastValue pairs⟩ key value := by
  obtain ⟨done, last, old, more, hne, rfl, rfl⟩ := h
  intro heq
  have hparams := congrFun (congrArg Settings.params heq) last
  have hgiven : lastValue (done ++ [(last, old)]) last = some old := by
    rw [lastValue_concat, if_pos rfl]
  have hnew : lastValue (done ++ [(last, old ++ more)]) last =
      some (old ++ more) := by
    rw [lastValue_concat, if_pos rfl]
  have hkept : (Settings.withDefault
      (⟨[], lastValue (done ++ [(last, old)])⟩ : Settings Bytes) key
        value).params last = some old := by
    by_cases hlast : last = key
    · subst hlast
      rw [Settings.withDefault_of_given (by simp [hgiven])]
      exact hgiven
    · rw [Settings.withDefault_params_ne hlast]
      exact hgiven
  rw [hkept] at hparams
  have hsame : old ++ more = old := Option.some.inj (hnew.symm.trans hparams)
  exact hne (List.append_cancel_left (hsame.trans (List.append_nil old).symm))

section

variable {key value dsn : Bytes} {pairs : List (Bytes × Bytes)}

theorem parseKeywordValueSettings_append {reader : KeywordReader}
    (hread : readKeywords ([], .key []) dsn = some reader) (b : UInt8)
    (text : Bytes) :
    parseKeywordValueSettings (dsn ++ b :: text) =
      ((readByte reader b).bind fun mid => readKeywords mid text).bind
        finishReading := by
  rw [parseKeywordValueSettings, readKeywords_append, hread,
    Option.bind_some, readKeywords_cons]

/-- Behind a space comes a further parameter. -/
theorem parseKeywordValueSettings_append_space (h : PlainParam key value)
    (hparse : parseKeywordValueSettings dsn = some pairs)
    (hclosed : ¬ EndsOpen dsn) :
    parseKeywordValueSettings (dsn ++ ascii ' ' :: paramText key value) =
      some (pairs ++ [(key, value)]) := by
  obtain ⟨reader, hread, hfinish⟩ := Option.bind_eq_some_iff.mp hparse
  have hspace : ascii ' ' ∈ asciiSpace := by decide
  rw [parseKeywordValueSettings_append hread]
  rcases finishReading_eq_some_iff.mp hfinish with
    rfl | ⟨done, last, rfl, -⟩ | ⟨done, last, old, rfl, rfl⟩
  · have htrim : trimSpace ([] ++ [ascii ' '] ++ key) = key :=
      (trimSpace_cons_space hspace key).trans h.trimSpace_key
    rw [readByte, if_neg (by decide), Option.bind_some,
      h.readKeywords_eq (by rw [htrim]; exact h.key_ne), htrim,
      Option.bind_some, finishReading, unescapeValue_of_notMem h.value_notMem]
  · exact absurd ⟨done, last, hread⟩ hclosed
  · have htrim : trimSpace ([] ++ key) = key := h.trimSpace_key
    rw [readByte, if_pos hspace, Option.bind_some,
      h.readKeywords_eq (by rw [htrim]; exact h.key_ne), htrim,
      Option.bind_some, finishReading, unescapeValue_of_notMem h.value_notMem]

/-- Where a value is missing, the appended text becomes the value. -/
theorem parseKeywordValueSettings_append_open (h : PlainParam key value)
    (hparse : parseKeywordValueSettings dsn = some pairs)
    (hopen : EndsOpen dsn) :
    ∃ pairs', parseKeywordValueSettings
      (dsn ++ ascii ' ' :: paramText key value) = some pairs' ∧
        ExtendsLast pairs pairs' := by
  obtain ⟨done, last, hread⟩ := hopen
  have hpairs : pairs = done ++ [(last, [])] := by
    rw [parseKeywordValueSettings, hread] at hparse
    exact (Option.some.inj hparse).symm
  refine ⟨done ++ [(last, paramText key value)], ?_, done, last, [],
    paramText key value, PlainParam.paramText_ne_nil, hpairs, rfl⟩
  rw [parseKeywordValueSettings_append hread, readByte, if_pos (by decide),
    Option.bind_some, readKeywords_start PlainParam.paramText_ne_nil h.plain,
    Option.bind_some, finishReading, unescapeValue_of_notMem h.plain]

/-- To a reader of keywords the separators of a query are letters. -/
theorem querySep_letter {sep : UInt8}
    (hsep : sep = ascii '?' ∨ sep = ascii '&') :
    sep ∉ asciiSpace ∧ sep ≠ ascii '=' ∧ sep ≠ ascii '\'' ∧
      sep ≠ ascii '\\' := by
  rcases hsep with rfl | rfl
  · decide
  · decide

/-- Behind another separator it becomes a parameter of another name. -/
theorem parseKeywordValueSettings_append_closed (h : PlainParam key value)
    {sep : UInt8} (hsep : sep = ascii '?' ∨ sep = ascii '&')
    (hparse : parseKeywordValueSettings dsn = some pairs)
    (hclosed : EndsClosed dsn) :
    parseKeywordValueSettings (dsn ++ sep :: paramText key value) =
      some (pairs ++ [(sep :: key, value)]) := by
  obtain ⟨done, hread⟩ := hclosed
  have hpairs : pairs = done := by
    rw [parseKeywordValueSettings, hread] at hparse
    exact (Option.some.inj hparse).symm
  obtain ⟨hspace, hequals, -⟩ := querySep_letter hsep
  have htrim : trimSpace ([] ++ [sep] ++ key) = sep :: key :=
    trimSpace_of_notMem (List.forall_mem_cons.mpr ⟨hspace, h.notSpace⟩)
  rw [parseKeywordValueSettings_append hread, readByte, if_neg hequals,
    Option.bind_some, h.readKeywords_eq (by rw [htrim]; simp), htrim, hpairs,
    Option.bind_some, finishReading, unescapeValue_of_notMem h.value_notMem]

/-- Or it goes on with the last value. -/
theorem parseKeywordValueSettings_append_value (h : PlainParam key value)
    {sep : UInt8} (hsep : sep = ascii '?' ∨ sep = ascii '&')
    (hparse : parseKeywordValueSettings dsn = some pairs)
    (hclosed : ¬ EndsClosed dsn) :
    ∃ pairs', parseKeywordValueSettings (dsn ++ sep :: paramText key value) =
      some pairs' ∧ ExtendsLast pairs pairs' := by
  obtain ⟨reader, hread, hfinish⟩ := Option.bind_eq_some_iff.mp hparse
  obtain ⟨hspace, -, hquote, hescape⟩ := querySep_letter hsep
  have hplain : ∀ b ∈ sep :: paramText key value,
      b ≠ ascii '\'' ∧ b ≠ ascii '\\' :=
    List.forall_mem_cons.mpr
      ⟨⟨hquote, hescape⟩, plain_of_notMem_special h.plain⟩
  rw [parseKeywordValueSettings_append hread]
  rcases finishReading_eq_some_iff.mp hfinish with
    rfl | ⟨done, last, rfl, rfl⟩ | ⟨done, last, old, rfl, rfl⟩
  · exact absurd ⟨pairs, hread⟩ hclosed
  · refine ⟨_, ?_, done, last, [], sep :: paramText key value,
      List.cons_ne_nil _ _, rfl, rfl⟩
    rw [readByte, if_neg hspace, if_neg hquote, if_neg hescape,
      Option.bind_some, readKeywords_plain h.plain, Option.bind_some,
      finishReading]
    exact congrArg (fun text => some (done ++ [(last, text)]))
      (unescapeValue_append hplain [])
  · refine ⟨_, ?_, done, last, unescapeValue old,
      sep :: paramText key value, List.cons_ne_nil _ _, rfl, rfl⟩
    rw [readByte, if_neg hspace, if_neg hescape, Option.bind_some,
      readKeywords_plain h.plain, List.append_assoc, List.singleton_append,
      Option.bind_some, finishReading, unescapeValue_append hplain]

end

end VerifierApi
