import VerifierApi.DsnGrammar

/-!
# Timeouts in data source names

The statement timeout of a connection is added to its data source name unless
the operator gave one.  Whether there is one, and how to add it, is decided by a
search over the whole name, in which a password or a quoted value can stand in
for a parameter.
-/

namespace VerifierApi

/-! ## The code -/

/-- In seconds. -/
def dbStatementTimeout : ℕ := 28

def statementTimeout : Bytes := textBytes "statement_timeout"

def readTimeout : Bytes := textBytes "readTimeout"

def writeTimeout : Bytes := textBytes "writeTimeout"

/-- `strconv.FormatInt` of the milliseconds. -/
def timeoutMilliseconds : Bytes :=
  textBytes (toString (dbStatementTimeout * 1000))

/-- `Duration.String`, of less than a minute. -/
def timeoutString : Bytes := textBytes (toString dbStatementTimeout ++ "s")

/-- Where a parameter can begin. -/
def boundaries : List UInt8 := [ascii '?', ascii '&', ascii ' ']

def dsnHasParam (dsn key : Bytes) : Bool :=
  decide (key ++ [ascii '='] <+: dsn) ||
    boundaries.any fun sep => decide (sep :: (key ++ [ascii '=']) <:+: dsn)

/-- The separator by which a parameter is appended to a URL. -/
def paramSep (dsn : Bytes) : UInt8 :=
  if ascii '?' ∈ dsn then ascii '&' else ascii '?'

def appendDSNParam (dsn key value : Bytes) : Bytes :=
  if dsnHasParam dsn key then dsn
  else dsn ++ paramSep dsn :: paramText key value

def withPostgresStatementTimeout (dsn : Bytes) : Bytes :=
  if dsnHasParam dsn statementTimeout then dsn
  else if textBytes "://" <:+: dsn then
    appendDSNParam dsn statementTimeout timeoutMilliseconds
  else dsn ++ ascii ' ' :: paramText statementTimeout timeoutMilliseconds

def withMySQLIOTimeouts (dsn : Bytes) : Bytes :=
  appendDSNParam (appendDSNParam dsn readTimeout timeoutString) writeTimeout
    timeoutString

theorem plain_statementTimeout :
    PlainParam statementTimeout timeoutMilliseconds :=
  .of_all (by decide) (by decide) (by decide) (by decide)

theorem plain_readTimeout : PlainParam readTimeout timeoutString :=
  .of_all (by decide) (by decide) (by decide) (by decide)

theorem plain_writeTimeout : PlainParam writeTimeout timeoutString :=
  .of_all (by decide) (by decide) (by decide) (by decide)

/-! ## The search -/

theorem forall_boundaries {P : UInt8 → Prop} (hquestion : P (ascii '?'))
    (hamp : P (ascii '&')) (hspace : P (ascii ' ')) :
    ∀ sep ∈ boundaries, P sep := by
  intro sep hsep
  simp only [boundaries, List.mem_cons, List.not_mem_nil, or_false] at hsep
  rcases hsep with rfl | rfl | rfl
  · exact hquestion
  · exact hamp
  · exact hspace

theorem dsnHasParam_iff {dsn key : Bytes} :
    dsnHasParam dsn key = true ↔ key ++ [ascii '='] <+: dsn ∨
      ∃ sep ∈ boundaries, sep :: (key ++ [ascii '=']) <:+: dsn := by
  simp only [dsnHasParam, Bool.or_eq_true, decide_eq_true_eq, List.any_eq_true]

theorem dsnHasParam_append {dsn key : Bytes} (h : dsnHasParam dsn key = true)
    (t : Bytes) : dsnHasParam (dsn ++ t) key = true := by
  rw [dsnHasParam_iff] at h ⊢
  rcases h with hstart | ⟨sep, hsep, hinfix⟩
  · exact .inl (hstart.trans (List.prefix_append _ _))
  · exact .inr ⟨sep, hsep, hinfix.trans (List.prefix_append _ _).isInfix⟩

theorem dsnHasParam_appended (dsn key value : Bytes) {sep : UInt8}
    (hsep : sep ∈ boundaries) :
    dsnHasParam (dsn ++ sep :: paramText key value) key = true :=
  dsnHasParam_iff.mpr (.inr ⟨sep, hsep, dsn, value, by simp [paramText]⟩)

theorem paramSep_mem (dsn : Bytes) : paramSep dsn = ascii '?' ∨
    paramSep dsn = ascii '&' := by
  unfold paramSep
  split
  · exact .inr rfl
  · exact .inl rfl

theorem paramSep_mem_boundaries (dsn : Bytes) : paramSep dsn ∈ boundaries := by
  rcases paramSep_mem dsn with hsep | hsep
  · rw [hsep]; decide
  · rw [hsep]; decide

theorem appendDSNParam_of_has {dsn key : Bytes}
    (h : dsnHasParam dsn key = true) (value : Bytes) :
    appendDSNParam dsn key value = dsn := if_pos h

theorem appendDSNParam_of_not_has {dsn key : Bytes}
    (h : ¬ dsnHasParam dsn key = true) (value : Bytes) :
    appendDSNParam dsn key value =
      dsn ++ paramSep dsn :: paramText key value := if_neg h

theorem dsnHasParam_appendDSNParam_self (dsn key value : Bytes) :
    dsnHasParam (appendDSNParam dsn key value) key = true := by
  by_cases h : dsnHasParam dsn key = true
  · rwa [appendDSNParam_of_has h]
  · rw [appendDSNParam_of_not_has h]
    exact dsnHasParam_appended _ _ _ (paramSep_mem_boundaries dsn)

theorem dsnHasParam_appendDSNParam {dsn other : Bytes}
    (h : dsnHasParam dsn other = true) (key value : Bytes) :
    dsnHasParam (appendDSNParam dsn key value) other = true := by
  by_cases hkey : dsnHasParam dsn key = true
  · rwa [appendDSNParam_of_has hkey]
  · rw [appendDSNParam_of_not_has hkey]
    exact dsnHasParam_append h _

/-- The read timeout that was appended is not found to be a write timeout. -/
theorem dsnHasParam_writeTimeout_iff (dsn : Bytes) :
    dsnHasParam (appendDSNParam dsn readTimeout timeoutString) writeTimeout =
        true ↔ dsnHasParam dsn writeTimeout = true := by
  constructor
  · intro h
    by_cases hread : dsnHasParam dsn readTimeout = true
    · rwa [appendDSNParam_of_has hread] at h
    · rw [appendDSNParam_of_not_has hread, dsnHasParam_iff] at h
      have hnot : paramSep dsn ∉ writeTimeout ++ [ascii '='] := by
        rcases paramSep_mem dsn with hsep | hsep
        · rw [hsep]; decide
        · rw [hsep]; decide
      have happended : ∀ sep ∈ boundaries,
          ¬ sep :: (writeTimeout ++ [ascii '=']) <:+:
            paramSep dsn :: paramText readTimeout timeoutString := by
        rcases paramSep_mem dsn with hsep | hsep
        · rw [hsep]
          exact forall_boundaries (by decide) (by decide) (by decide)
        · rw [hsep]
          exact forall_boundaries (by decide) (by decide) (by decide)
      rw [dsnHasParam_iff]
      rcases h with hstart | ⟨sep, hsep, hinfix⟩
      · exact .inl (prefix_of_prefix_append hnot hstart)
      · rcases (infix_append_iff hnot).mp hinfix with hold | hnew
        · exact .inr ⟨sep, hsep, hold⟩
        · exact absurd hnew (happended sep hsep)
  · intro h
    exact dsnHasParam_appendDSNParam h _ _

theorem withMySQLIOTimeouts_idempotent (dsn : Bytes) :
    withMySQLIOTimeouts (withMySQLIOTimeouts dsn) =
      withMySQLIOTimeouts dsn := by
  have hread : dsnHasParam (withMySQLIOTimeouts dsn) readTimeout = true :=
    dsnHasParam_appendDSNParam
      (dsnHasParam_appendDSNParam_self dsn readTimeout timeoutString) _ _
  have hwrite : dsnHasParam (withMySQLIOTimeouts dsn) writeTimeout = true :=
    dsnHasParam_appendDSNParam_self _ _ _
  have hfirst := appendDSNParam_of_has hread timeoutString
  rw [withMySQLIOTimeouts, hfirst, appendDSNParam_of_has hwrite]

theorem dsnHasParam_withPostgresStatementTimeout (dsn : Bytes) :
    dsnHasParam (withPostgresStatementTimeout dsn) statementTimeout =
      true := by
  unfold withPostgresStatementTimeout
  split
  next h => exact h
  next =>
    split
    · exact dsnHasParam_appendDSNParam_self _ _ _
    · exact dsnHasParam_appended _ _ _ (by decide)

theorem withPostgresStatementTimeout_idempotent (dsn : Bytes) :
    withPostgresStatementTimeout (withPostgresStatementTimeout dsn) =
      withPostgresStatementTimeout dsn := by
  have h := dsnHasParam_withPostgresStatementTimeout dsn
  generalize withPostgresStatementTimeout dsn = augmented at h ⊢
  exact if_pos h

/-! ## MySQL names -/

/-- A parameter that the driver reads is found. -/
theorem dsnHasParam_of_parseSchema {dsn left right key : Bytes}
    (hcut : cutLast (ascii '/') dsn = some (left, right))
    (hgiven : (parseSchema right).2 key ≠ none) :
    ascii '?' ∈ right ∧ dsnHasParam dsn key = true := by
  have hmem : ascii '?' ∈ right := by
    by_contra hnot
    rw [parseSchema_of_notMem hnot] at hgiven
    exact hgiven rfl
  refine ⟨hmem, ?_⟩
  obtain ⟨dbName, params, hparams⟩ := exists_cutFirst hmem
  rw [parseSchema, hparams] at hgiven
  obtain ⟨value, hpair⟩ := mem_of_lastValue hgiven
  obtain ⟨seg, hseg, hcutSeg⟩ := List.mem_filterMap.mp hpair
  obtain ⟨rfl, -⟩ := cutFirst_eq_some_iff.mp hcutSeg
  obtain ⟨rfl, -⟩ := cutFirst_eq_some_iff.mp hparams
  obtain ⟨rfl, -⟩ := cutLast_eq_some_iff.mp hcut
  have hkey : key ++ [ascii '='] <+: key ++ ascii '=' :: value :=
    ⟨value, by simp⟩
  rw [dsnHasParam_iff]
  right
  rcases prefix_or_infix_of_mem_segments hseg with hfirst | hlater
  · refine ⟨ascii '?', by decide, ?_⟩
    have hquery := (List.prefix_cons_inj (ascii '?')).mpr (hkey.trans hfirst)
    refine hquery.isInfix.trans ⟨left ++ ascii '/' :: dbName, [], ?_⟩
    simp
  · refine ⟨ascii '&', by decide, ?_⟩
    have hquery := (List.prefix_cons_inj (ascii '&')).mpr hkey
    refine (hquery.isInfix.trans hlater).trans
      ⟨left ++ ascii '/' :: (dbName ++ [ascii '?']), [], ?_⟩
    simp

theorem parseMySQLDSN_eq_some_iff {dsn left right : Bytes}
    (hcut : cutLast (ascii '/') dsn = some (left, right))
    {m : Settings MySQLBase} :
    parseMySQLDSN dsn = some m ↔ parseMySQLAddress left = some m.base.address ∧
      m.base.dbName = (parseSchema right).1 ∧
        m.params = (parseSchema right).2 := by
  rw [parseMySQLDSN_of_cutLast hcut, Option.map_eq_some_iff]
  obtain ⟨⟨address, dbName⟩, params⟩ := m
  constructor
  · rintro ⟨address', haddress, heq⟩
    cases heq
    exact ⟨haddress, rfl, rfl⟩
  · rintro ⟨haddress, rfl, rfl⟩
    exact ⟨address, haddress, rfl⟩

/-- A query which an appended parameter does not miss: a question mark before
the last slash comes with one behind it. -/
def Placed (dsn : Bytes) : Prop :=
  ∃ left right, cutLast (ascii '/') dsn = some (left, right) ∧
    (ascii '?' ∈ left → ascii '?' ∈ right)

section

variable {dsn key value : Bytes} {m : Settings MySQLBase}

theorem cutLast_append_param (h : PlainParam key value)
    {left right : Bytes} (hcut : cutLast (ascii '/') dsn = some (left, right))
    {sep : UInt8} (hsep : sep = ascii '?' ∨ sep = ascii '&') :
    cutLast (ascii '/') (dsn ++ sep :: paramText key value) =
      some (left, right ++ sep :: paramText key value) := by
  apply cutLast_append hcut
  rw [List.mem_cons, not_or]
  refine ⟨?_, h.notMem (by decide)⟩
  rcases hsep with rfl | rfl
  · decide
  · decide

/-- What a new parameter of a placed query adds. -/
theorem parseMySQLDSN_append (h : PlainParam key value) (hplaced : Placed dsn)
    (hparse : parseMySQLDSN dsn = some m)
    (hnew : ¬ dsnHasParam dsn key = true) :
    Placed (dsn ++ paramSep dsn :: paramText key value) ∧
      parseMySQLDSN (dsn ++ paramSep dsn :: paramText key value) =
        some (m.withDefault key value) := by
  obtain ⟨left, right, hcut, hquery⟩ := hplaced
  have hcut' := cutLast_append_param h hcut (paramSep_mem dsn)
  obtain ⟨haddress, hdbName, hparams⟩ :=
    (parseMySQLDSN_eq_some_iff hcut).mp hparse
  have hmem : ascii '?' ∈ dsn ↔ ascii '?' ∈ right := by
    obtain ⟨rfl, -⟩ := cutLast_eq_some_iff.mp hcut
    have hslash : ascii '?' ≠ ascii '/' := by decide
    simp only [List.mem_append, List.mem_cons, hslash, false_or]
    exact ⟨fun hor => hor.elim hquery id, .inr⟩
  have hnone : m.params key = none := by
    by_contra hgiven
    rw [hparams] at hgiven
    exact hnew (dsnHasParam_of_parseSchema hcut hgiven).2
  have hschema : parseSchema (right ++ paramSep dsn :: paramText key value) =
      ((parseSchema right).1, fun other =>
        if other = key then some value else (parseSchema right).2 other) := by
    by_cases hright : ascii '?' ∈ right
    · rw [paramSep, if_pos (hmem.mpr hright), parseSchema_append h hright]
    · rw [paramSep, if_neg (hmem.not.mpr hright),
        parseSchema_append_first h hright, parseSchema_of_notMem hright]
  have hplaced' : ascii '?' ∈ right ++ paramSep dsn :: paramText key value := by
    by_cases hright : ascii '?' ∈ right
    · exact List.mem_append_left _ hright
    · rw [paramSep, if_neg (hmem.not.mpr hright)]
      simp
  refine ⟨⟨left, _, hcut', fun _ => hplaced'⟩, ?_⟩
  rw [parseMySQLDSN_eq_some_iff hcut', hschema]
  refine ⟨haddress, hdbName, ?_⟩
  funext other
  simp [Settings.withDefault, hnone, hparams]

theorem parseMySQLDSN_appendDSNParam (h : PlainParam key value)
    (hplaced : Placed dsn) (hparse : parseMySQLDSN dsn = some m)
    (hgiven : dsnHasParam dsn key = true → m.params key ≠ none) :
    Placed (appendDSNParam dsn key value) ∧
      parseMySQLDSN (appendDSNParam dsn key value) =
        some (m.withDefault key value) := by
  by_cases hhas : dsnHasParam dsn key = true
  · rw [appendDSNParam_of_has hhas,
      Settings.withDefault_of_given (hgiven hhas)]
    exact ⟨hplaced, hparse⟩
  · rw [appendDSNParam_of_not_has hhas]
    exact parseMySQLDSN_append h hplaced hparse hhas

/-- Wherever a parameter goes, the other ones stay. -/
theorem params_of_appendDSNParam (h : PlainParam key value)
    (hslash : ascii '/' ∈ dsn) (hparse : parseMySQLDSN dsn = some m)
    {m' : Settings MySQLBase}
    (happended : parseMySQLDSN (appendDSNParam dsn key value) = some m')
    {other : Bytes} (hother : other ≠ key) :
    m'.params other = m.params other := by
  by_cases hhas : dsnHasParam dsn key = true
  · rw [appendDSNParam_of_has hhas, hparse] at happended
    cases happended
    rfl
  · rw [appendDSNParam_of_not_has hhas] at happended
    cases hcut : cutLast (ascii '/') dsn with
    | none => exact absurd hslash (cutLast_eq_none_iff.mp hcut)
    | some cut =>
      obtain ⟨left, right⟩ := cut
      have hcut' := cutLast_append_param h hcut (paramSep_mem dsn)
      rw [((parseMySQLDSN_eq_some_iff hcut').mp happended).2.2,
        ((parseMySQLDSN_eq_some_iff hcut).mp hparse).2.2]
      by_cases hright : ascii '?' ∈ right
      · have hdsn : ascii '?' ∈ dsn := by
          obtain ⟨rfl, -⟩ := cutLast_eq_some_iff.mp hcut
          simp [hright]
        rw [paramSep, if_pos hdsn, parseSchema_append h hright]
        simp [hother]
      · rcases paramSep_mem dsn with hsep | hsep
        · rw [hsep, parseSchema_append_first h hright,
            parseSchema_of_notMem hright]
          simp [hother]
        · have hnot : ascii '?' ∉
              right ++ ascii '&' :: paramText key value := by
            have hamp : ascii '?' ≠ ascii '&' := by decide
            simp [hright, hamp, h.notMem (b := ascii '?') (by decide)]
          rw [hsep, parseSchema_of_notMem hright, parseSchema_of_notMem hnot]

end

/-- The names whose timeouts are set without another change: the search finds
no timeout which the driver does not read, and a question mark before the
last slash comes with one behind it. -/
structure MySQLAugments (dsn : Bytes) (m : Settings MySQLBase) : Prop where
  slash : ascii '/' ∈ dsn
  query : ∀ left right, cutLast (ascii '/') dsn = some (left, right) →
    ascii '?' ∈ left → ascii '?' ∈ right
  given : ∀ key ∈ [readTimeout, writeTimeout],
    dsnHasParam dsn key = true → m.params key ≠ none

/-- The settings that the operator gave, and both timeouts. -/
def withTimeouts (m : Settings MySQLBase) : Settings MySQLBase :=
  (m.withDefault readTimeout timeoutString).withDefault writeTimeout
    timeoutString

theorem withMySQLIOTimeouts_of_augments {dsn : Bytes}
    {m : Settings MySQLBase} (hparse : parseMySQLDSN dsn = some m)
    (h : MySQLAugments dsn m) :
    parseMySQLDSN (withMySQLIOTimeouts dsn) = some (withTimeouts m) := by
  have hplaced : Placed dsn := by
    cases hcut : cutLast (ascii '/') dsn with
    | none => exact absurd h.slash (cutLast_eq_none_iff.mp hcut)
    | some cut => exact ⟨cut.1, cut.2, hcut, h.query cut.1 cut.2 hcut⟩
  obtain ⟨hplaced', hread⟩ := parseMySQLDSN_appendDSNParam plain_readTimeout
    hplaced hparse (h.given readTimeout (by simp))
  refine (parseMySQLDSN_appendDSNParam plain_writeTimeout hplaced' hread ?_).2
  intro hhas
  rw [Settings.withDefault_params_ne (by decide)]
  exact h.given writeTimeout (by simp)
    ((dsnHasParam_writeTimeout_iff dsn).mp hhas)

theorem slash_mem_of_withMySQLIOTimeouts {dsn : Bytes}
    {m m' : Settings MySQLBase} (hparse : parseMySQLDSN dsn = some m)
    (h : parseMySQLDSN (withMySQLIOTimeouts dsn) = some m') :
    ascii '/' ∈ dsn := by
  by_contra hnot
  have hempty : dsn = [] := by
    by_contra hne
    rw [parseMySQLDSN, if_neg hne, cutLast_eq_none_iff.mpr hnot] at hparse
    cases hparse
  have hcut : cutLast (ascii '/') (withMySQLIOTimeouts []) = none := by decide
  rw [hempty, parseMySQLDSN, if_neg (by decide), hcut] at h
  cases h

theorem withTimeouts_given (m : Settings MySQLBase) {key : Bytes}
    (hkey : key ∈ [readTimeout, writeTimeout]) :
    (withTimeouts m).params key ≠ none := by
  rcases List.mem_pair.mp hkey with rfl | rfl
  · rw [withTimeouts, Settings.withDefault_params_ne (by decide)]
    exact Settings.withDefault_params_self _ _ _
  · exact Settings.withDefault_params_self _ _ _

/-- A timeout which is found is not appended, so the driver has to read it in
the name itself. -/
theorem given_of_withMySQLIOTimeouts {dsn : Bytes}
    {m : Settings MySQLBase} (hparse : parseMySQLDSN dsn = some m)
    (h : parseMySQLDSN (withMySQLIOTimeouts dsn) = some (withTimeouts m))
    {key : Bytes} (hkey : key ∈ [readTimeout, writeTimeout])
    (hhas : dsnHasParam dsn key = true) : m.params key ≠ none := by
  have hslash := slash_mem_of_withMySQLIOTimeouts hparse h
  have hgiven := withTimeouts_given m hkey
  rcases List.mem_pair.mp hkey with rfl | rfl
  · rw [withMySQLIOTimeouts, appendDSNParam_of_has hhas] at h
    rwa [params_of_appendDSNParam plain_writeTimeout hslash hparse h
      (by decide)] at hgiven
  · rw [withMySQLIOTimeouts, appendDSNParam_of_has
      (dsnHasParam_appendDSNParam hhas _ _)] at h
    rwa [params_of_appendDSNParam plain_readTimeout hslash hparse h
      (by decide)] at hgiven

/-- With a question mark before the last slash only, both timeouts go into the
database name. -/
theorem schema_of_unplaced {dsn left right : Bytes}
    (hcut : cutLast (ascii '/') dsn = some (left, right))
    (hleft : ascii '?' ∈ left) (hright : ascii '?' ∉ right)
    (hread : ¬ dsnHasParam dsn readTimeout = true)
    (hwrite : ¬ dsnHasParam dsn writeTimeout = true)
    {m : Settings MySQLBase}
    (h : parseMySQLDSN (withMySQLIOTimeouts dsn) = some m) :
    m.base.dbName = right ++ ascii '&' ::
      paramText readTimeout timeoutString ++ ascii '&' ::
        paramText writeTimeout timeoutString := by
  have hwrite' : ¬ dsnHasParam (appendDSNParam dsn readTimeout
      timeoutString) writeTimeout = true :=
    mt (dsnHasParam_writeTimeout_iff dsn).mp hwrite
  have hmem : ascii '?' ∈ dsn := by
    obtain ⟨rfl, -⟩ := cutLast_eq_some_iff.mp hcut
    simp [hleft]
  have hsep : paramSep dsn = ascii '&' := if_pos hmem
  have hsep' : paramSep (dsn ++ ascii '&' ::
      paramText readTimeout timeoutString) = ascii '&' :=
    if_pos (List.mem_append_left _ hmem)
  have hcut' := cutLast_append_param plain_writeTimeout
    (cutLast_append_param plain_readTimeout hcut (.inr rfl)) (.inr rfl)
  have hamp : ascii '?' ≠ ascii '&' := by decide
  have hnot : ascii '?' ∉ right ++ ascii '&' ::
      paramText readTimeout timeoutString ++ ascii '&' ::
        paramText writeTimeout timeoutString := by
    simp [hright, hamp, plain_readTimeout.notMem (b := ascii '?')
      (by decide), plain_writeTimeout.notMem (b := ascii '?') (by decide)]
  rw [withMySQLIOTimeouts, appendDSNParam_of_not_has hwrite',
    appendDSNParam_of_not_has hread, hsep, hsep',
    parseMySQLDSN_eq_some_iff hcut', parseSchema_of_notMem hnot] at h
  exact h.2.1

theorem augments_of_withMySQLIOTimeouts {dsn : Bytes}
    {m : Settings MySQLBase} (hparse : parseMySQLDSN dsn = some m)
    (h : parseMySQLDSN (withMySQLIOTimeouts dsn) = some (withTimeouts m)) :
    MySQLAugments dsn m where
  slash := slash_mem_of_withMySQLIOTimeouts hparse h
  query left right hcut hleft := by
    by_contra hright
    obtain ⟨-, hdbName, hparams⟩ :=
      (parseMySQLDSN_eq_some_iff hcut).mp hparse
    rw [parseSchema_of_notMem hright] at hdbName hparams
    have hmissed : ∀ key ∈ [readTimeout, writeTimeout],
        ¬ dsnHasParam dsn key = true := by
      intro key hkey hhas
      exact given_of_withMySQLIOTimeouts hparse h hkey hhas (by rw [hparams])
    have hlonger := schema_of_unplaced hcut hleft hright
      (hmissed readTimeout (by simp)) (hmissed writeTimeout (by simp)) h
    have hsame := hlonger.symm.trans hdbName
    simp at hsame
  given _ hkey hhas := given_of_withMySQLIOTimeouts hparse h hkey hhas

/-! ## Postgres names -/

/-- A URL keeps its form, and so does a list of keywords. -/
theorem isURL_append_iff {dsn t : Bytes} {sep : UInt8}
    (hsep : sep ∈ boundaries) :
    isURL (dsn ++ sep :: t) ↔ isURL dsn := by
  have hpostgres : sep ∉ textBytes "postgres://" :=
    forall_boundaries (P := fun sep => sep ∉ textBytes "postgres://")
      (by decide) (by decide) (by decide) sep hsep
  have hpostgresql : sep ∉ textBytes "postgresql://" :=
    forall_boundaries (P := fun sep => sep ∉ textBytes "postgresql://")
      (by decide) (by decide) (by decide) sep hsep
  constructor
  · rintro (h | h)
    · exact .inl (prefix_of_prefix_append hpostgres h)
    · exact .inr (prefix_of_prefix_append hpostgresql h)
  · rintro (h | h)
    · exact .inl (h.trans (List.prefix_append _ _))
    · exact .inr (h.trans (List.prefix_append _ _))

theorem infix_of_isURL {dsn : Bytes} (h : isURL dsn) :
    textBytes "://" <:+: dsn := by
  rcases h with h | h
  · exact List.IsInfix.trans (by decide) h.isInfix
  · exact List.IsInfix.trans (by decide) h.isInfix

/-- The URLs whose timeout is set without another change: either the operator
gave one, or the search finds none and there is no fragment. -/
def URLAugments (dsn : Bytes) (m : Settings Bytes) : Prop :=
  m.params statementTimeout ≠ none ∨
    ¬ dsnHasParam dsn statementTimeout = true ∧ ascii '#' ∉ dsn

/-- The keyword lists whose timeout is set without another change.  Where the
search finds a timeout, the driver must read one.  Where it finds none, the
list must not end in a keyword without a value, and a timeout that was missed
must have the default value.  A list that holds `://` is not left alone,
unless what is added to it was there already. -/
def KeywordAugments (dsn : Bytes) (m : Settings Bytes) : Prop :=
  if dsnHasParam dsn statementTimeout = true then
    m.params statementTimeout ≠ none
  else if textBytes "://" <:+: dsn then
    EndsClosed dsn ∧ m.params statementTimeout ≠ none ∧
      m.params (paramSep dsn :: statementTimeout) = some timeoutMilliseconds
  else
    ¬ EndsOpen dsn ∧ ∀ value, m.params statementTimeout = some value →
      value = timeoutMilliseconds

def PostgresAugments (dsn : Bytes) (m : Settings Bytes) : Prop :=
  if isURL dsn then URLAugments dsn m else KeywordAugments dsn m

theorem parseURLSettings_withPostgresStatementTimeout {dsn : Bytes}
    (hurl : isURL dsn) :
    parseURLSettings (withPostgresStatementTimeout dsn) =
        (parseURLSettings dsn).withDefault statementTimeout
          timeoutMilliseconds ↔
      URLAugments dsn (parseURLSettings dsn) := by
  unfold withPostgresStatementTimeout URLAugments
  by_cases hhas : dsnHasParam dsn statementTimeout = true
  · rw [if_pos hhas, eq_comm, Settings.withDefault_eq_self_iff]
    simp [hhas]
  · rw [if_neg hhas, if_pos (infix_of_isURL hurl),
      appendDSNParam_of_not_has hhas]
    by_cases hfragment : ascii '#' ∈ dsn
    · rw [parseURLSettings_append_fragment hfragment, eq_comm,
        Settings.withDefault_eq_self_iff]
      simp [hfragment]
    · have happended : parseURLSettings (dsn ++ paramSep dsn ::
          paramText statementTimeout timeoutMilliseconds) =
            (parseURLSettings dsn).withDefault statementTimeout
              timeoutMilliseconds :=
        parseURLSettings_append plain_statementTimeout hfragment rfl
      rw [happended]
      simp [hhas, hfragment]

section

variable {dsn : Bytes} {pairs : List (Bytes × Bytes)}

/-- A further timeout counts, being the last one. -/
theorem lastValue_concat_eq_withDefault_iff {key value : Bytes} :
    (⟨[], lastValue (pairs ++ [(key, value)])⟩ : Settings Bytes) =
        Settings.withDefault ⟨[], lastValue pairs⟩ key value ↔
      ∀ old, lastValue pairs key = some old → old = value := by
  have hnew : ∀ other, lastValue (pairs ++ [(key, value)]) other =
      if other = key then some value else lastValue pairs other :=
    lastValue_concat pairs key value
  rw [Settings.withDefault, Settings.mk.injEq]
  constructor
  · rintro ⟨-, heq⟩ old hold
    have hkey := congrFun heq key
    rw [hnew] at hkey
    simpa [hold, eq_comm] using hkey
  · intro hsame
    refine ⟨rfl, funext fun other => ?_⟩
    rw [hnew]
    by_cases hother : other = key
    · subst hother
      cases hold : lastValue pairs other with
      | none => simp [hold]
      | some old => simp [hold, hsame old hold]
    · simp [hother]

/-- Under another name it does not. -/
theorem lastValue_concat_ne_iff {key other value : Bytes}
    (hne : other ≠ key) :
    (⟨[], lastValue (pairs ++ [(other, value)])⟩ : Settings Bytes) =
        Settings.withDefault ⟨[], lastValue pairs⟩ key value ↔
      lastValue pairs key ≠ none ∧ lastValue pairs other = some value := by
  have hnew : ∀ name, lastValue (pairs ++ [(other, value)]) name =
      if name = other then some value else lastValue pairs name :=
    lastValue_concat pairs other value
  rw [Settings.withDefault, Settings.mk.injEq]
  constructor
  · rintro ⟨-, heq⟩
    have hkey := congrFun heq key
    have hother := congrFun heq other
    rw [hnew] at hkey hother
    rw [if_neg (Ne.symm hne)] at hkey
    refine ⟨?_, ?_⟩
    · intro hnone
      simp [hnone] at hkey
    · simpa [hne, eq_comm] using hother
  · rintro ⟨hgiven, hsame⟩
    refine ⟨rfl, funext fun name => ?_⟩
    rw [hnew]
    by_cases hname : name = other
    · subst hname
      simp [hne, hsame]
    · simp [hname, hgiven]

theorem parseKeywords_withPostgresStatementTimeout
    (hparse : parseKeywordValueSettings dsn = some pairs) :
    (parseKeywordValueSettings (withPostgresStatementTimeout dsn)).map
        (fun pairs => (⟨[], lastValue pairs⟩ : Settings Bytes)) =
      some (Settings.withDefault ⟨[], lastValue pairs⟩ statementTimeout
        timeoutMilliseconds) ↔ KeywordAugments dsn ⟨[], lastValue pairs⟩ := by
  unfold withPostgresStatementTimeout KeywordAugments
  by_cases hhas : dsnHasParam dsn statementTimeout = true
  · rw [if_pos hhas, if_pos hhas, hparse, Option.map_some,
      Option.some.injEq, eq_comm, Settings.withDefault_eq_self_iff]
  · rw [if_neg hhas, if_neg hhas]
    by_cases hscheme : textBytes "://" <:+: dsn
    · rw [if_pos hscheme, if_pos hscheme, appendDSNParam_of_not_has hhas]
      by_cases hclosed : EndsClosed dsn
      · rw [parseKeywordValueSettings_append_closed plain_statementTimeout
          (paramSep_mem dsn) hparse hclosed, Option.map_some,
          Option.some.injEq, lastValue_concat_ne_iff (by simp)]
        simp [hclosed]
      · obtain ⟨pairs', hpairs', hextends⟩ :=
          parseKeywordValueSettings_append_value plain_statementTimeout
            (paramSep_mem dsn) hparse hclosed
        rw [hpairs', Option.map_some, Option.some.injEq]
        simp [hclosed, hextends.lastValue_ne]
    · rw [if_neg hscheme, if_neg hscheme]
      by_cases hopen : EndsOpen dsn
      · obtain ⟨pairs', hpairs', hextends⟩ :=
          parseKeywordValueSettings_append_open plain_statementTimeout hparse
            hopen
        rw [hpairs', Option.map_some, Option.some.injEq]
        simp [hopen, hextends.lastValue_ne]
      · rw [parseKeywordValueSettings_append_space plain_statementTimeout
          hparse hopen, Option.map_some, Option.some.injEq,
          lastValue_concat_eq_withDefault_iff]
        simp [hopen]

end

theorem isURL_withPostgresStatementTimeout (dsn : Bytes) :
    isURL (withPostgresStatementTimeout dsn) ↔ isURL dsn := by
  unfold withPostgresStatementTimeout
  by_cases hhas : dsnHasParam dsn statementTimeout = true
  · rw [if_pos hhas]
  · rw [if_neg hhas]
    by_cases hscheme : textBytes "://" <:+: dsn
    · rw [if_pos hscheme, appendDSNParam_of_not_has hhas,
        isURL_append_iff (paramSep_mem_boundaries dsn)]
    · rw [if_neg hscheme, isURL_append_iff (by decide)]

theorem withPostgresStatementTimeout_iff {dsn : Bytes} {m : Settings Bytes}
    (hparse : parsePostgresDSN dsn = some m) :
    parsePostgresDSN (withPostgresStatementTimeout dsn) =
        some (m.withDefault statementTimeout timeoutMilliseconds) ↔
      PostgresAugments dsn m := by
  unfold parsePostgresDSN at hparse ⊢
  unfold PostgresAugments
  by_cases hurl : isURL dsn
  · rw [if_pos hurl, Option.some.injEq] at hparse
    subst hparse
    rw [if_pos ((isURL_withPostgresStatementTimeout dsn).mpr hurl),
      if_pos hurl, Option.some.injEq,
      parseURLSettings_withPostgresStatementTimeout hurl]
  · rw [if_neg hurl] at hparse
    obtain ⟨pairs, hpairs, rfl⟩ := Option.map_eq_some_iff.mp hparse
    rw [if_neg (mt (isURL_withPostgresStatementTimeout dsn).mp hurl),
      if_neg hurl, parseKeywords_withPostgresStatementTimeout hpairs]

/-! ## The exact condition -/

theorem dsn_augmentation_iff (dsn : Bytes) :
    (∀ m, parseMySQLDSN dsn = some m →
      (parseMySQLDSN (withMySQLIOTimeouts dsn) = some (withTimeouts m) ↔
        MySQLAugments dsn m)) ∧
    (∀ m, parsePostgresDSN dsn = some m →
      (parsePostgresDSN (withPostgresStatementTimeout dsn) =
          some (m.withDefault statementTimeout timeoutMilliseconds) ↔
        PostgresAugments dsn m)) ∧
    withMySQLIOTimeouts (withMySQLIOTimeouts dsn) = withMySQLIOTimeouts dsn ∧
    withPostgresStatementTimeout (withPostgresStatementTimeout dsn) =
      withPostgresStatementTimeout dsn := by
  refine ⟨?_, ?_, withMySQLIOTimeouts_idempotent dsn,
    withPostgresStatementTimeout_idempotent dsn⟩
  · intro m hparse
    exact ⟨augments_of_withMySQLIOTimeouts hparse,
      withMySQLIOTimeouts_of_augments hparse⟩
  · intro m hparse
    exact withPostgresStatementTimeout_iff hparse

/-- The names of the tests, with a query and with none. -/
theorem dsn_augmentation_iff_tests :
    (∃ m, parseMySQLDSN (textBytes "u:p@tcp(h:3306)/db?parseTime=true") =
        some m ∧
      parseMySQLDSN (withMySQLIOTimeouts
        (textBytes "u:p@tcp(h:3306)/db?parseTime=true")) =
          some (withTimeouts m)) ∧
    ∃ m, parsePostgresDSN (textBytes "postgres://u:p@h:5432/db") = some m ∧
      parsePostgresDSN (withPostgresStatementTimeout
        (textBytes "postgres://u:p@h:5432/db")) =
          some (m.withDefault statementTimeout timeoutMilliseconds) := by
  obtain ⟨hmysql, -⟩ :=
    dsn_augmentation_iff (textBytes "u:p@tcp(h:3306)/db?parseTime=true")
  obtain ⟨-, hpostgres, -⟩ :=
    dsn_augmentation_iff (textBytes "postgres://u:p@h:5432/db")
  refine ⟨⟨_, rfl, (hmysql _ rfl).mpr ⟨by decide, ?_, ?_⟩⟩,
    ⟨_, rfl, (hpostgres _ rfl).mpr ?_⟩⟩
  · intro left right hcut hleft
    have hsplit : cutLast (ascii '/')
        (textBytes "u:p@tcp(h:3306)/db?parseTime=true") =
          some (textBytes "u:p@tcp(h:3306)",
            textBytes "db?parseTime=true") := by decide
    obtain ⟨rfl, rfl⟩ := Prod.mk.inj (Option.some.inj (hcut.symm.trans hsplit))
    decide
  · have hsearch : ∀ key ∈ [readTimeout, writeTimeout], dsnHasParam
        (textBytes "u:p@tcp(h:3306)/db?parseTime=true") key = false := by
      decide
    intro key hkey hhas
    rw [hsearch key hkey] at hhas
    cases hhas
  · rw [PostgresAugments, if_pos (by decide)]
    exact .inr ⟨by decide, by decide⟩

/-- A MySQL password with a question mark, and a quoted Postgres password in
which the parameter seems to stand. -/
theorem password_read_as_parameter :
    (∃ m m', parseMySQLDSN (textBytes "u:p?w@tcp(h:3306)/db") = some m ∧
      parseMySQLDSN (withMySQLIOTimeouts
        (textBytes "u:p?w@tcp(h:3306)/db")) = some m' ∧
      m.base.dbName = textBytes "db" ∧
      m'.base.dbName = textBytes "db&readTimeout=28s&writeTimeout=28s" ∧
      m' ≠ withTimeouts m) ∧
    ∃ m m', parsePostgresDSN
        (textBytes "host=h password='a statement_timeout=b'") = some m ∧
      parsePostgresDSN (withPostgresStatementTimeout
        (textBytes "host=h password='a statement_timeout=b'")) = some m' ∧
      m'.params statementTimeout = none ∧
      m' ≠ m.withDefault statementTimeout timeoutMilliseconds := by
  refine ⟨⟨_, _, rfl, rfl, by decide, by decide, ?_⟩,
    ⟨_, _, rfl, rfl, by decide, ?_⟩⟩
  · intro heq
    have hdbName := congrArg (fun m => m.base.dbName) heq
    revert hdbName
    decide
  · intro heq
    have hparams := congrArg (fun m => m.params statementTimeout) heq
    revert hparams
    decide

end VerifierApi
