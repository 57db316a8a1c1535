import Mathlib.Data.List.Basic

/-!
# Error values and their unwrap chains

An error value carries a text and the identities met when its unwrap tree
is walked in preorder.  Both questions a caller may ask of an error, whether
some identity occurs in the tree and which identity of a given kind occurs
first, depend on that preorder list alone.  The module is generic in the
type of identities.
-/

namespace VerifierApi

/-- An error: the text it prints and the preorder of its unwrap tree. -/
structure ErrorValue (μ : Type) where
  text : String
  chain : List μ
deriving DecidableEq, Repr

/-- The code points from 0x80 on which `%q` does not print, as first and last
ones: controls, separators, and format, private-use and noncharacter code
points.  Which others are not assigned depends on the version of the Unicode
tables; they are printed here. -/
def unprintedRanges : List (ℕ × ℕ) :=
  [(0x80, 0xa0), (0xad, 0xad), (0x600, 0x605), (0x61c, 0x61c),
    (0x6dd, 0x6dd), (0x70f, 0x70f), (0x890, 0x891), (0x8e2, 0x8e2),
    (0x1680, 0x1680), (0x180e, 0x180e), (0x2000, 0x200f), (0x2028, 0x202f),
    (0x205f, 0x2064), (0x2066, 0x206f), (0x3000, 0x3000), (0xe000, 0xf8ff),
    (0xfdd0, 0xfdef), (0xfeff, 0xfeff), (0xfff9, 0xfffb), (0xfffe, 0xffff),
    (0x110bd, 0x110bd), (0x110cd, 0x110cd), (0x13430, 0x1343f),
    (0x1bca0, 0x1bca3), (0x1d173, 0x1d17a), (0xe0001, 0xe0001),
    (0xe0020, 0xe007f), (0xf0000, 0x10ffff)]

def isPrint (c : Char) : Bool :=
  if c.toNat < 0x80 then 0x20 ≤ c.toNat ∧ c.toNat ≠ 0x7f
  else unprintedRanges.all fun range =>
    c.toNat < range.1 ∨ range.2 < c.toNat

/-- The escapes which have a name. -/
def namedEscape : ℕ → Option String
  | 7 => some "\\a"
  | 8 => some "\\b"
  | 9 => some "\\t"
  | 10 => some "\\n"
  | 11 => some "\\v"
  | 12 => some "\\f"
  | 13 => some "\\r"
  | _ => none

def lowerHex (width n : ℕ) : String :=
  String.ofList ((Nat.toDigits 16 n).leftpad width '0')

/-- One character under the verb `%q`. -/
def quoteChar (c : Char) : String :=
  if c = '"' ∨ c = '\\' then "\\" ++ c.toString
  else if isPrint c then c.toString
  else
    match namedEscape c.toNat with
    | some escape => escape
    | none =>
        if c.toNat < 0x80 then "\\x" ++ lowerHex 2 c.toNat
        else if c.toNat < 0x10000 then "\\u" ++ lowerHex 4 c.toNat
        else "\\U" ++ lowerHex 8 c.toNat

def quote (text : String) : String :=
  "\"" ++ String.join (text.toList.map quoteChar) ++ "\""

namespace ErrorValue

variable {μ : Type}

/-- An error with a text and no identity of its own. -/
def new (text : String) : ErrorValue μ :=
  ⟨text, []⟩

/-- A package-level error value: it is only equal to itself. -/
def sentinel (identity : μ) (text : String) : ErrorValue μ :=
  ⟨text, [identity]⟩

/-- A formatted error which wraps its operands in the given order. -/
def errorf (text : String) (wrapped : List (ErrorValue μ)) : ErrorValue μ :=
  ⟨text, wrapped.flatMap chain⟩

/-- An error with an identity of its own in front of what it wraps. -/
def node (identity : μ) (text : String)
    (wrapped : List (ErrorValue μ)) : ErrorValue μ :=
  ⟨text, identity :: wrapped.flatMap chain⟩

/-- The join of a list of errors: one line of text for each of them. -/
def join (errs : List (ErrorValue μ)) : ErrorValue μ :=
  ⟨"\n".intercalate (errs.map text), errs.flatMap chain⟩

/-- The format `prefix: %w`. -/
def wrapf (before : String) (err : ErrorValue μ) : ErrorValue μ :=
  errorf (before ++ ": " ++ err.text) [err]

/-- The format `prefix: %w: %w`. -/
def wrapf2 (before : String) (err cause : ErrorValue μ) : ErrorValue μ :=
  errorf (before ++ ": " ++ err.text ++ ": " ++ cause.text) [err, cause]

/-- The format `prefix: %w (%w)`. -/
def wrapfCause (before : String) (err cause : ErrorValue μ) : ErrorValue μ :=
  errorf (before ++ ": " ++ err.text ++ " (" ++ cause.text ++ ")")
    [err, cause]

/-- The format `%w: %w`. -/
def chained (err cause : ErrorValue μ) : ErrorValue μ :=
  errorf (err.text ++ ": " ++ cause.text) [err, cause]

/-- Whether the unwrap tree holds the given identity. -/
def is [DecidableEq μ] (err : ErrorValue μ) (identity : μ) : Bool :=
  decide (identity ∈ err.chain)

/-- The first value that the query reads off the unwrap tree. -/
def as? {α : Type} (err : ErrorValue μ) (query : μ → Option α) : Option α :=
  err.chain.findSome? query

@[simp] theorem as?_wrapf {α : Type} (before : String)
    (err : ErrorValue μ) (query : μ → Option α) :
    (wrapf before err).as? query = err.as? query := by
  simp [as?, wrapf, errorf]

@[simp] theorem as?_wrapf2 {α : Type} (before : String)
    (err cause : ErrorValue μ) (query : μ → Option α) :
    (wrapf2 before err cause).as? query =
      (err.as? query).or (cause.as? query) := by
  simp [as?, wrapf2, errorf, List.findSome?_append]

variable [DecidableEq μ]

@[simp] theorem is_new (text : String) (identity : μ) :
    (new text).is identity = false := by
  simp [is, new]

@[simp] theorem is_sentinel (text : String) (own identity : μ) :
    (sentinel own text).is identity = decide (identity = own) := by
  simp [is, sentinel]

@[simp] theorem is_errorf
    (text : String) (wrapped : List (ErrorValue μ)) (identity : μ) :
    (errorf text wrapped).is identity =
      wrapped.any (fun err => err.is identity) := by
  rw [Bool.eq_iff_iff]
  simp [is, errorf]

@[simp] theorem is_node
    (own : μ) (text : String)
    (wrapped : List (ErrorValue μ)) (identity : μ) :
    (node own text wrapped).is identity =
      (decide (identity = own) ||
        wrapped.any (fun err => err.is identity)) := by
  rw [Bool.eq_iff_iff]
  simp [is, node]

@[simp] theorem is_join
    (errs : List (ErrorValue μ)) (identity : μ) :
    (join errs).is identity =
      errs.any (fun err => err.is identity) := by
  rw [Bool.eq_iff_iff]
  simp [is, join]

@[simp] theorem is_wrapf
    (before : String) (err : ErrorValue μ) (identity : μ) :
    (wrapf before err).is identity = err.is identity := by
  simp [wrapf]

@[simp] theorem is_wrapf2
    (before : String) (err cause : ErrorValue μ) (identity : μ) :
    (wrapf2 before err cause).is identity =
      (err.is identity || cause.is identity) := by
  simp [wrapf2]

@[simp] theorem is_wrapfCause
    (before : String) (err cause : ErrorValue μ) (identity : μ) :
    (wrapfCause before err cause).is identity =
      (err.is identity || cause.is identity) := by
  simp [wrapfCause]

@[simp] theorem is_chained
    (err cause : ErrorValue μ) (identity : μ) :
    (chained err cause).is identity =
      (err.is identity || cause.is identity) := by
  simp [chained]

end ErrorValue

/-! ## Switches -/

section Switch

variable {α β : Type}

/-- The value of the first case whose condition holds. -/
def switch (default : α) : List (Bool × α) → α
  | [] => default
  | (condition, value) :: rest =>
      if condition then value else switch default rest

@[simp] theorem switch_nil (default : α) : switch default [] = default := rfl

theorem switch_cons (default : α) (c : Bool × α) (rest : List (Bool × α)) :
    switch default (c :: rest) =
      if c.1 then c.2 else switch default rest := rfl

theorem switch_forall {P : α → Prop} {default : α}
    {cases : List (Bool × α)}
    (hdefault : P default) (hcases : ∀ c ∈ cases, P c.2) :
    P (switch default cases) := by
  induction cases with
  | nil => exact hdefault
  | cons c rest ih =>
      rw [switch_cons]
      split
      · exact hcases c (List.mem_cons_self ..)
      · exact ih fun d hd => hcases d (List.mem_cons_of_mem _ hd)

/-- Leading cases which agree under a map act as one case. -/
theorem switch_append {f : α → β} {b : β} {default : α}
    {first rest : List (Bool × α)} (hfirst : ∀ c ∈ first, f c.2 = b) :
    f (switch default (first ++ rest)) =
      if first.any Prod.fst then b else f (switch default rest) := by
  induction first with
  | nil => simp
  | cons c first ih =>
      have hvalue : f c.2 = b := hfirst _ (List.mem_cons_self ..)
      have hrest := ih fun d hd => hfirst d (List.mem_cons_of_mem _ hd)
      rw [List.cons_append, switch_cons, List.any_cons]
      cases c.1 with
      | true => simp [hvalue]
      | false =>
          rw [Bool.false_or, if_neg Bool.false_ne_true]
          exact hrest

end Switch

end VerifierApi
