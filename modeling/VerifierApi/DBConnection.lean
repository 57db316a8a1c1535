import VerifierApi.AsciiBytes
import VerifierApi.DsnAugmentation
import VerifierApi.Sentinels
import Mathlib.Algebra.Order.BigOperators.Group.List
import Mathlib.Algebra.Group.Action.Defs
import Mathlib.Data.List.Iterate

/-!
# Connecting to a database

A connection is attempted a bounded number of times, with a delay after each
failure but the last that doubles up to a bound.  What the driver reports is
logged and returned with the data source name cut out of it.
-/

namespace VerifierApi

/-! ## The attempts -/

/-- In nanoseconds.  Durations are exact: the delays stay below twice the
larger bound, far from the largest `int64`. -/
def second : ℕ := 1000000000

/-- `DBOptions`, of one attempt at least. -/
structure DBOptions where
  maxAttempts : ℕ
  retryDelay : ℕ
  maxDelay : ℕ
  one_le : 1 ≤ maxAttempts

def mainDBOptions : DBOptions where
  maxAttempts := 5
  retryDelay := 1 * second
  maxDelay := 5 * second
  one_le := by decide

def cChainDBOptions : DBOptions where
  maxAttempts := 10
  retryDelay := 2 * second
  maxDelay := 10 * second
  one_le := by decide

/-- What the attempts came to: the errors of the failed ones, the delays
slept after them, and whether the last one connected. -/
structure DBAttempts where
  failures : List ExternalError
  slept : List ℕ
  connected : Bool
deriving DecidableEq, Repr

def nextDelay (maxDelay currentDelay : ℕ) : ℕ :=
  if maxDelay < currentDelay * 2 then maxDelay else currentDelay * 2

/-- The iterations that remain, on what the driver answers to an attempt. -/
def attemptsFrom (answers : ℕ → Except ExternalError Unit)
    (maxAttempts maxDelay : ℕ) : ℕ → ℕ → ℕ → DBAttempts
  | 0, _, _ => ⟨[], [], false⟩
  | remaining + 1, attempt, currentDelay =>
      match answers attempt with
      | .ok () => ⟨[], [], true⟩
      | .error err =>
          if attempt < maxAttempts then
            let later := attemptsFrom answers maxAttempts maxDelay remaining
              (attempt + 1) (nextDelay maxDelay currentDelay)
            ⟨err :: later.failures, currentDelay :: later.slept,
              later.connected⟩
          else
            let later := attemptsFrom answers maxAttempts maxDelay remaining
              (attempt + 1) currentDelay
            ⟨err :: later.failures, later.slept, later.connected⟩

def DBOptions.attempts (opts : DBOptions)
    (answers : ℕ → Except ExternalError Unit) : DBAttempts :=
  attemptsFrom answers opts.maxAttempts opts.maxDelay opts.maxAttempts 1
    opts.retryDelay

/-- What a run of attempts from `attempt` to `maxAttempts` comes to. -/
structure AttemptsRun (answers : ℕ → Except ExternalError Unit)
    (maxAttempts maxDelay attempt currentDelay : ℕ) (run : DBAttempts) :
    Prop where
  failed : ∀ i (h : i < run.failures.length),
    answers (attempt + i) = .error run.failures[i]
  connected_iff : run.connected = true ↔
    attempt + run.failures.length ≤ maxAttempts ∧
      answers (attempt + run.failures.length) = .ok ()
  exhausted : run.connected = false →
    attempt + run.failures.length = maxAttempts + 1
  slept : run.slept = List.iterate (nextDelay maxDelay) currentDelay
    (if run.connected then run.failures.length else run.failures.length - 1)

theorem attemptsFrom_run (answers : ℕ → Except ExternalError Unit)
    (maxDelay : ℕ) {remaining attempt maxAttempts : ℕ}
    (hremaining : attempt + remaining = maxAttempts) (currentDelay : ℕ) :
    AttemptsRun answers maxAttempts maxDelay attempt currentDelay
      (attemptsFrom answers maxAttempts maxDelay (remaining + 1) attempt
        currentDelay) := by
  induction remaining generalizing attempt currentDelay with
  | zero =>
      obtain rfl : attempt = maxAttempts := hremaining
      cases hanswer : answers attempt with
      | ok u =>
          simp only [attemptsFrom, hanswer]
          exact ⟨by simp, by simp [hanswer], by simp, by simp⟩
      | error err =>
          simp only [attemptsFrom, hanswer, lt_irrefl, if_false]
          exact ⟨by simp [hanswer], by simp, by simp, by simp⟩
  | succ remaining ih =>
      have hlt : attempt < maxAttempts := by omega
      have hnext : attempt + 1 + remaining = maxAttempts := by omega
      cases hanswer : answers attempt with
      | ok u =>
          rw [attemptsFrom]
          simp only [hanswer]
          exact ⟨by simp, by simp [hanswer, hlt.le], by simp, by simp⟩
      | error err =>
          rw [attemptsFrom]
          simp only [hanswer, hlt, if_true]
          have hlater := ih hnext (nextDelay maxDelay currentDelay)
          revert hlater
          generalize attemptsFrom answers maxAttempts maxDelay
            (remaining + 1) (attempt + 1)
            (nextDelay maxDelay currentDelay) = later
          intro hlater
          have hshift : ∀ i, attempt + (i + 1) = attempt + 1 + i := by omega
          constructor
          · intro i hi
            cases i with
            | zero => exact hanswer
            | succ i =>
                rw [hshift]
                exact hlater.failed i (Nat.lt_of_succ_lt_succ hi)
          · rw [List.length_cons, hshift]
            exact hlater.connected_iff
          · intro hfailed
            have hlast := hlater.exhausted hfailed
            simp only [List.length_cons]
            omega
          · simp only [List.length_cons]
            have hslept := hlater.slept
            cases hconnected : later.connected with
            | true =>
                rw [hconnected, if_pos rfl] at hslept
                rw [if_pos rfl, List.iterate, hslept]
            | false =>
                have hlast := hlater.exhausted hconnected
                obtain ⟨count, hcount⟩ :
                    ∃ count, later.failures.length = count + 1 :=
                  ⟨later.failures.length - 1, by omega⟩
                rw [hconnected, if_neg (by simp), hcount,
                  Nat.add_sub_cancel] at hslept
                rw [if_neg (by simp), hcount, Nat.add_sub_cancel,
                  List.iterate, hslept]

theorem DBOptions.attempts_run (opts : DBOptions)
    (answers : ℕ → Except ExternalError Unit) :
    AttemptsRun answers opts.maxAttempts opts.maxDelay 1 opts.retryDelay
      (opts.attempts answers) := by
  obtain ⟨remaining, hremaining⟩ := Nat.exists_eq_add_of_le opts.one_le
  have hrun := attemptsFrom_run answers opts.maxDelay hremaining.symm
    opts.retryDelay
  have hfuel : remaining + 1 = opts.maxAttempts := by omega
  rwa [hfuel] at hrun

/-! ## The delays -/

theorem nextDelay_eq (maxDelay currentDelay : ℕ) :
    nextDelay maxDelay currentDelay = min maxDelay (currentDelay * 2) := by
  unfold nextDelay
  split_ifs with hlt
  · exact (Nat.min_eq_left hlt.le).symm
  · exact (Nat.min_eq_right (Nat.le_of_not_lt hlt)).symm

theorem nextDelay_iterate {delay maxDelay : ℕ} (h : delay ≤ maxDelay)
    (k : ℕ) : (nextDelay maxDelay)^[k] delay = min maxDelay (delay * 2 ^ k) := by
  induction k with
  | zero => simp [h]
  | succ k ih =>
      rw [Function.iterate_succ_apply', ih, nextDelay_eq, pow_succ,
        ← Nat.mul_assoc]
      omega

theorem slept_eq {delay maxDelay : ℕ} (h : delay ≤ maxDelay) (n : ℕ) :
    List.iterate (nextDelay maxDelay) delay n =
      (List.range n).map fun k => min maxDelay (delay * 2 ^ k) := by
  rw [← List.range_map_iterate]
  exact List.map_congr_left fun k _ => nextDelay_iterate h k

/-- The attempts are those up to the first which connects, or all of them.
The delays between them double up to the bound. -/
theorem DBOptions.attempts_schedule (opts : DBOptions)
    (h : opts.retryDelay ≤ opts.maxDelay)
    (answers : ℕ → Except ExternalError Unit) :
    let run := opts.attempts answers
    let tried := run.failures.length + if run.connected then 1 else 0
    tried ≤ opts.maxAttempts ∧
      (∀ i (h : i < run.failures.length),
        answers (i + 1) = .error run.failures[i]) ∧
      (run.connected = true → answers tried = .ok ()) ∧
      (run.connected = false → tried = opts.maxAttempts) ∧
      run.slept = (List.range (tried - 1)).map
        (fun k => min opts.maxDelay (opts.retryDelay * 2 ^ k)) ∧
      run.slept.sum ≤ (opts.maxAttempts - 1) * opts.maxDelay := by
  have hrun := opts.attempts_run answers
  generalize opts.attempts answers = run at hrun
  intro run' tried
  have htried : tried ≤ opts.maxAttempts := by
    cases hconnected : run.connected with
    | true =>
        have hlast := (hrun.connected_iff.mp hconnected).1
        simp only [tried, run', hconnected, if_true]
        omega
    | false =>
        have hlast := hrun.exhausted hconnected
        simp only [tried, run', hconnected, Bool.false_eq_true, if_false]
        omega
  have hslept : run.slept = (List.range (tried - 1)).map
      fun k => min opts.maxDelay (opts.retryDelay * 2 ^ k) := by
    have hcount : (if run.connected then run.failures.length
        else run.failures.length - 1) = tried - 1 := by
      simp only [tried, run']
      split_ifs <;> rfl
    rw [hrun.slept, hcount, slept_eq h]
  refine ⟨htried, ?_, ?_, ?_, hslept, ?_⟩
  · intro i hi
    rw [Nat.add_comm]
    exact hrun.failed i hi
  · intro hconnected
    have hlast := (hrun.connected_iff.mp hconnected).2
    simp only [tried, hconnected, if_true]
    rwa [Nat.add_comm]
  · intro hconnected
    have hlast := hrun.exhausted hconnected
    simp only [tried, hconnected, Bool.false_eq_true, if_false]
    exact (by omega : run.failures.length = opts.maxAttempts)
  · have hbound : ∀ delay ∈ run.slept, delay ≤ opts.maxDelay := by
      rw [hslept]
      simp
    have hsum := List.sum_le_card_nsmul run.slept opts.maxDelay hbound
    have hlength : run.slept.length = tried - 1 := by simp [hslept]
    rw [hlength, smul_eq_mul] at hsum
    exact hsum.trans (Nat.mul_le_mul_right _ (Nat.sub_le_sub_right htried 1))

/-- A server which takes connections from the fourth attempt on. -/
def lateServer (attempt : ℕ) : Except ExternalError Unit :=
  if attempt < 4 then .error ⟨"connection refused", []⟩ else .ok ()

theorem mainDBOptions_attempts :
    (mainDBOptions.attempts lateServer).slept =
      [1 * second, 2 * second, 4 * second] :=
  have h := DBOptions.attempts_schedule mainDBOptions (by decide) lateServer
  h.2.2.2.2.1.trans (by decide)

/-! ## What is printed -/

/-- The databases of a service. -/
inductive ServiceDB where
  | source
  | cChain
deriving DecidableEq, Repr

namespace ServiceDB

def name : ServiceDB → String
  | .source => "Source DB"
  | .cChain => "CChain DB"

/-- `Dialector.Name`. -/
def dialect : ServiceDB → String
  | .source => "postgres"
  | .cChain => "mysql"

/-- The name that is passed to the driver. -/
def withTimeouts : ServiceDB → Bytes → Bytes
  | .source => withPostgresStatementTimeout
  | .cChain => withMySQLIOTimeouts

def options : ServiceDB → DBOptions
  | .source => mainDBOptions
  | .cChain => cChainDBOptions

end ServiceDB

/-- The text of valid bytes. -/
def bytesText (text : Bytes) : String :=
  (String.fromUTF8? ⟨text.toArray⟩).getD ""

def redacted : Bytes := textBytes "[redacted]"

def redactDSN (err : ExternalError) (dsn : Bytes) : Bytes :=
  replaceAll dsn redacted (textBytes err.text)

def attemptWarning (db : ServiceDB) (dsn : Bytes) (attempt : ℕ)
    (err : ExternalError) : Bytes :=
  textBytes "Attempt " ++ textBytes (toString attempt) ++
    textBytes s!": failed to connect to {db.name} ({db.dialect}): " ++
    redactDSN err dsn

def openFailure (db : ServiceDB) (dsn : Bytes) (maxAttempts : ℕ)
    (err : ExternalError) : Bytes :=
  textBytes s!"failed to open {db.name} after " ++
    textBytes (toString maxAttempts) ++ textBytes " attempts: " ++
    redactDSN err dsn

/-- The texts with errors of the driver in them: a warning for each failed
attempt, and the error of the last one when none connected. -/
def DBAttempts.printed (run : DBAttempts) (db : ServiceDB) (dsn : Bytes)
    (maxAttempts : ℕ) : List Bytes :=
  run.failures.mapIdx (fun i err => attemptWarning db dsn (i + 1) err) ++
    if run.connected then []
    else (run.failures.getLast?.map (openFailure db dsn maxAttempts)).toList

theorem equals_notMem_toString (n : ℕ) :
    ascii '=' ∉ textBytes (toString n) := by
  intro hmem
  have hchar := mem_toList_of_ascii_mem (by decide) hmem
  rw [Nat.toString_eq_ofList_toDigits, String.toList_ofList] at hchar
  exact absurd (Nat.isDigit_of_mem_toDigits (by decide) (by decide) hchar)
    (by decide)

/-- A data source name which is cut out of every text: its ends are not those
of the replacement, and it does not begin like the end of a heading. -/
structure Redactable (dsn : Bytes) : Prop where
  unentangled : Unentangled dsn redacted
  not_space : ¬ [ascii ' '] <+: dsn
  not_colon : ¬ [ascii ':', ascii ' '] <:+: dsn

instance (dsn : Bytes) : Decidable (Redactable dsn) :=
  decidable_of_iff
    (Unentangled dsn redacted ∧ ¬ [ascii ' '] <+: dsn ∧
      ¬ [ascii ':', ascii ' '] <:+: dsn)
    ⟨fun h => ⟨h.1, h.2.1, h.2.2⟩,
      fun h => ⟨h.unentangled, h.not_space, h.not_colon⟩⟩

theorem not_infix_heading {dsn : Bytes} (h : Redactable dsn)
    (hequals : ascii '=' ∈ dsn) {heading : Bytes}
    (hheading : ascii '=' ∉ heading)
    (hend : [ascii ':', ascii ' '] <:+ heading) {text : Bytes}
    (htext : ¬ dsn <:+: text) : ¬ dsn <:+: heading ++ text := by
  apply not_infix_append _ htext
  · intro part hne hsuffix hstart
    rcases List.suffix_or_suffix_of_suffix hsuffix hend with hshort | hlong
    · rcases List.suffix_cons_iff.mp hshort with rfl | hshort
      · exact h.not_colon hstart.isInfix
      · rcases List.suffix_cons_iff.mp hshort with rfl | hnil
        · exact h.not_space hstart
        · exact hne (List.suffix_nil.mp hnil)
    · exact h.not_colon (hlong.isInfix.trans hstart.isInfix)
  · intro hwithin
    exact hheading (hwithin.subset hequals)

theorem equals_mem_of_dsnHasParam {dsn key : Bytes}
    (h : dsnHasParam dsn key = true) : ascii '=' ∈ dsn := by
  rcases dsnHasParam_iff.mp h with hstart | ⟨sep, -, hwithin⟩
  · exact hstart.subset (by simp)
  · exact hwithin.subset (by simp)

theorem ServiceDB.equals_mem (db : ServiceDB) (dsn : Bytes) :
    ascii '=' ∈ db.withTimeouts dsn := by
  cases db with
  | source =>
      exact equals_mem_of_dsnHasParam
        (dsnHasParam_withPostgresStatementTimeout dsn)
  | cChain =>
      exact equals_mem_of_dsnHasParam
        (dsnHasParam_appendDSNParam_self _ writeTimeout _)

theorem not_infix_attemptWarning {db : ServiceDB} {dsn : Bytes}
    (h : Redactable dsn) (hequals : ascii '=' ∈ dsn) (attempt : ℕ)
    (err : ExternalError) : ¬ dsn <:+: attemptWarning db dsn attempt err := by
  have htext : ¬ dsn <:+: redactDSN err dsn :=
    h.unentangled.not_infix_replaceAll _
  apply not_infix_heading h hequals _ _ htext
  · simp only [List.mem_append, not_or]
    refine ⟨⟨by decide, equals_notMem_toString attempt⟩, ?_⟩
    cases db <;> decide
  · apply List.IsSuffix.trans _ (List.suffix_append _ _)
    cases db <;> decide

theorem not_infix_openFailure {db : ServiceDB} {dsn : Bytes}
    (h : Redactable dsn) (hequals : ascii '=' ∈ dsn) (maxAttempts : ℕ)
    (err : ExternalError) :
    ¬ dsn <:+: openFailure db dsn maxAttempts err := by
  have htext : ¬ dsn <:+: redactDSN err dsn :=
    h.unentangled.not_infix_replaceAll _
  apply not_infix_heading h hequals _ _ htext
  · simp only [List.mem_append, not_or]
    refine ⟨⟨?_, equals_notMem_toString maxAttempts⟩, by decide⟩
    cases db <;> decide
  · exact List.IsSuffix.trans (by decide) (List.suffix_append _ _)

/-- Nothing that is printed of failed connections has the data source name in
it, and a driver's text without the name is printed as it is. -/
theorem printed_redacted (db : ServiceDB) (dsn : Bytes)
    (h : Redactable (db.withTimeouts dsn)) (opts : DBOptions)
    (answers : ℕ → Except ExternalError Unit) :
    let run := opts.attempts answers
    (∀ text ∈ run.printed db (db.withTimeouts dsn) opts.maxAttempts,
      ¬ db.withTimeouts dsn <:+: text) ∧
    ∀ err ∈ run.failures, ¬ db.withTimeouts dsn <:+: textBytes err.text →
      redactDSN err (db.withTimeouts dsn) = textBytes err.text := by
  have hequals := db.equals_mem dsn
  intro run
  constructor
  · intro text htext
    rw [DBAttempts.printed, List.mem_append] at htext
    rcases htext with hwarning | hfailure
    · rw [List.mem_mapIdx] at hwarning
      obtain ⟨i, hi, rfl⟩ := hwarning
      exact not_infix_attemptWarning h hequals _ _
    · split_ifs at hfailure
      · exact absurd hfailure List.not_mem_nil
      · rw [Option.mem_toList, Option.map_eq_some_iff] at hfailure
        obtain ⟨err, -, rfl⟩ := hfailure
        exact not_infix_openFailure h hequals _ err
  · intro err _ hnot
    exact replaceAll_of_not_infix redacted hnot

def localDSN : Bytes := textBytes "postgres://u:pw@[::1]:5432/x"

/-- A driver which repeats the name it was given. -/
def unparsed (_ : ℕ) : Except ExternalError Unit :=
  .error ⟨"cannot parse postgres://u:pw@[::1]:5432/x?statement_timeout=28000",
    []⟩

set_option maxRecDepth 4000 in
theorem localDSN_redacted :
    let run := mainDBOptions.attempts unparsed
    let dsn := ServiceDB.source.withTimeouts localDSN
    ∃ text ∈ run.printed .source dsn 5, redacted <:+: text ∧
      ¬ dsn <:+: text :=
  have hmem : attemptWarning .source (ServiceDB.source.withTimeouts localDSN)
      1 ⟨"cannot parse postgres://u:pw@[::1]:5432/x?statement_timeout=28000",
        []⟩ ∈ (mainDBOptions.attempts unparsed).printed .source
          (ServiceDB.source.withTimeouts localDSN) 5 :=
    List.mem_append_left _ List.mem_cons_self
  ⟨_, hmem, by decide,
    (printed_redacted .source localDSN (by decide) mainDBOptions unparsed).1
      _ hmem⟩

end VerifierApi
