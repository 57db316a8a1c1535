import Mathlib.Data.List.Basic
import Mathlib.Data.List.Infix

/-!
# Cutting texts at separators

A text over any alphabet, cut at the first or the last occurrence of a
separator, or at all of them, and searched for a word.  What is appended
leaves the cuts of a text where they are, unless it brings the first separator
or a later one.  The last section replaces the occurrences of a word.
-/

namespace VerifierApi

variable {α : Type} [DecidableEq α] {sep : α} {s t x y : List α}

/-! ## The first separator -/

def cutFirst (sep : α) : List α → Option (List α × List α)
  | [] => none
  | b :: rest =>
      if b = sep then some ([], rest)
      else (cutFirst sep rest).map fun cut => (b :: cut.1, cut.2)

theorem cutFirst_eq_none_iff : cutFirst sep s = none ↔ sep ∉ s := by
  induction s with
  | nil => simp [cutFirst]
  | cons b rest ih =>
    unfold cutFirst
    by_cases hb : b = sep
    · simp [hb]
    · simp [hb, ih, Ne.symm hb]

theorem cutFirst_append_sep (h : sep ∉ s) (t : List α) :
    cutFirst sep (s ++ sep :: t) = some (s, t) := by
  induction s with
  | nil => exact if_pos rfl
  | cons b rest ih =>
    rw [List.mem_cons, not_or] at h
    rw [List.cons_append, cutFirst, if_neg (Ne.symm h.1), ih h.2,
      Option.map_some]

theorem split_of_cutFirst (h : cutFirst sep s = some (x, y)) :
    s = x ++ sep :: y ∧ sep ∉ x := by
  induction s generalizing x with
  | nil => cases h
  | cons b rest ih =>
    unfold cutFirst at h
    by_cases hb : b = sep
    · rw [if_pos hb] at h
      obtain ⟨rfl, rfl⟩ := Prod.mk.inj (Option.some.inj h)
      exact ⟨by rw [hb]; rfl, List.not_mem_nil⟩
    · rw [if_neg hb, Option.map_eq_some_iff] at h
      obtain ⟨⟨front, back⟩, hcut, hpair⟩ := h
      obtain ⟨rfl, rfl⟩ := Prod.mk.inj hpair
      obtain ⟨rfl, hnot⟩ := ih hcut
      exact ⟨rfl, by simp [hnot, Ne.symm hb]⟩

theorem cutFirst_eq_some_iff :
    cutFirst sep s = some (x, y) ↔ s = x ++ sep :: y ∧ sep ∉ x := by
  constructor
  · exact split_of_cutFirst
  · rintro ⟨rfl, hnot⟩
    exact cutFirst_append_sep hnot y

/-- What stands around the first separator is determined by the text. -/
theorem append_sep_inj_of_notMem_left {s' t t' : List α} (h : sep ∉ s)
    (h' : sep ∉ s') (heq : s ++ sep :: t = s' ++ sep :: t') :
    s = s' ∧ t = t' := by
  have hcut := congrArg (cutFirst sep) heq
  rw [cutFirst_append_sep h, cutFirst_append_sep h'] at hcut
  exact Prod.mk.inj (Option.some.inj hcut)

theorem exists_cutFirst (h : sep ∈ s) : ∃ x y, cutFirst sep s = some (x, y) := by
  cases hcut : cutFirst sep s with
  | none => exact absurd h (cutFirst_eq_none_iff.mp hcut)
  | some cut => exact ⟨cut.1, cut.2, rfl⟩

theorem cutFirst_append_of_some (h : cutFirst sep s = some (x, y))
    (t : List α) : cutFirst sep (s ++ t) = some (x, y ++ t) := by
  obtain ⟨rfl, hnot⟩ := cutFirst_eq_some_iff.mp h
  exact cutFirst_eq_some_iff.mpr ⟨by simp, hnot⟩

/-! ## The last separator -/

def cutLast (sep : α) : List α → Option (List α × List α)
  | [] => none
  | b :: rest =>
      match cutLast sep rest with
      | some cut => some (b :: cut.1, cut.2)
      | none => if b = sep then some ([], rest) else none

theorem cutLast_eq_none_iff : cutLast sep s = none ↔ sep ∉ s := by
  induction s with
  | nil => simp [cutLast]
  | cons b rest ih =>
    unfold cutLast
    cases hrest : cutLast sep rest with
    | none =>
      have hnot := ih.mp hrest
      by_cases hb : b = sep
      · simp [hb]
      · simp [hb, hnot, Ne.symm hb]
    | some cut =>
      have hmem : sep ∈ rest := by
        by_contra hnot
        rw [ih.mpr hnot] at hrest
        cases hrest
      simp [hmem]

theorem cutLast_append_sep (s : List α) (h : sep ∉ t) :
    cutLast sep (s ++ sep :: t) = some (s, t) := by
  induction s with
  | nil =>
    rw [List.nil_append, cutLast, cutLast_eq_none_iff.mpr h]
    exact if_pos rfl
  | cons b rest ih => rw [List.cons_append, cutLast, ih]

theorem split_of_cutLast (h : cutLast sep s = some (x, y)) :
    s = x ++ sep :: y ∧ sep ∉ y := by
  induction s generalizing x with
  | nil => cases h
  | cons b rest ih =>
    unfold cutLast at h
    cases hrest : cutLast sep rest with
    | none =>
      simp only [hrest, Option.ite_none_right_eq_some, Option.some.injEq,
        Prod.mk.injEq] at h
      obtain ⟨rfl, rfl, rfl⟩ := h
      exact ⟨rfl, cutLast_eq_none_iff.mp hrest⟩
    | some cut =>
      obtain ⟨front, back⟩ := cut
      simp only [hrest, Option.some.injEq, Prod.mk.injEq] at h
      obtain ⟨rfl, rfl⟩ := h
      obtain ⟨rfl, hnot⟩ := ih hrest
      exact ⟨rfl, hnot⟩

theorem cutLast_eq_some_iff :
    cutLast sep s = some (x, y) ↔ s = x ++ sep :: y ∧ sep ∉ y := by
  constructor
  · exact split_of_cutLast
  · rintro ⟨rfl, hnot⟩
    exact cutLast_append_sep x hnot

/-- What stands around the last separator is determined by the text. -/
theorem append_sep_inj_of_notMem_right {s s' t' : List α} (h : sep ∉ t)
    (h' : sep ∉ t') (heq : s ++ sep :: t = s' ++ sep :: t') :
    s = s' ∧ t = t' := by
  have hcut := congrArg (cutLast sep) heq
  rw [cutLast_append_sep s h, cutLast_append_sep s' h'] at hcut
  exact Prod.mk.inj (Option.some.inj hcut)

theorem cutLast_append (h : cutLast sep s = some (x, y)) (ht : sep ∉ t) :
    cutLast sep (s ++ t) = some (x, y ++ t) := by
  obtain ⟨rfl, hnot⟩ := cutLast_eq_some_iff.mp h
  exact cutLast_eq_some_iff.mpr ⟨by simp, by simp [hnot, ht]⟩

/-! ## All separators -/

/-- The parts of a text between separators: one more than there are
separators. -/
def segments (sep : α) : List α → List (List α)
  | [] => [[]]
  | b :: rest =>
      if b = sep then [] :: segments sep rest
      else
        match segments sep rest with
        | [] => [[b]]
        | first :: more => (b :: first) :: more

theorem segments_ne_nil (s : List α) : segments sep s ≠ [] := by
  cases s with
  | nil => simp [segments]
  | cons b rest =>
    unfold segments
    split
    · simp
    · split
      · simp
      · simp

theorem exists_segments_cons {b : α} (hb : b ≠ sep) (rest : List α) :
    ∃ first more, segments sep (b :: rest) = (b :: first) :: more := by
  cases hsegments : segments sep rest with
  | nil => exact absurd hsegments (segments_ne_nil rest)
  | cons first more => exact ⟨first, more, by simp [segments, hb, hsegments]⟩

theorem segments_append_sep (s t : List α) :
    segments sep (s ++ sep :: t) = segments sep s ++ segments sep t := by
  induction s with
  | nil => simp [segments]
  | cons b rest ih =>
    rw [List.cons_append, segments, segments]
    by_cases hb : b = sep
    · rw [if_pos hb, if_pos hb, ih]
      rfl
    · rw [if_neg hb, if_neg hb, ih]
      cases hrest : segments sep rest with
      | nil => exact absurd hrest (segments_ne_nil rest)
      | cons first more => rfl

theorem segments_of_notMem (h : sep ∉ s) : segments sep s = [s] := by
  induction s with
  | nil => rfl
  | cons b rest ih =>
    rw [List.mem_cons, not_or] at h
    rw [segments, if_neg (Ne.symm h.1), ih h.2]

theorem exists_segments (s : List α) :
    ∃ first more, segments sep s = first :: more ∧
      first <+: s ∧ ∀ seg ∈ more, sep :: seg <:+: s := by
  induction s with
  | nil => exact ⟨[], [], rfl, List.prefix_rfl, by simp⟩
  | cons b rest ih =>
    obtain ⟨first, more, hrest, hfirst, hmore⟩ := ih
    have hlater : ∀ seg ∈ more, sep :: seg <:+: b :: rest :=
      fun seg hseg => (hmore seg hseg).trans (List.suffix_cons b rest).isInfix
    rw [segments, hrest]
    by_cases hb : b = sep
    · subst hb
      rw [if_pos rfl]
      refine ⟨[], first :: more, rfl, List.nil_prefix, ?_⟩
      rw [List.forall_mem_cons]
      exact ⟨((List.prefix_cons_inj b).mpr hfirst).isInfix, hlater⟩
    · rw [if_neg hb]
      exact ⟨b :: first, more, rfl, (List.prefix_cons_inj b).mpr hfirst,
        hlater⟩

/-- A segment starts the text or follows a separator. -/
theorem prefix_or_infix_of_mem_segments {seg : List α}
    (h : seg ∈ segments sep s) : seg <+: s ∨ sep :: seg <:+: s := by
  obtain ⟨first, more, hsegments, hfirst, hmore⟩ := exists_segments s
  rw [hsegments, List.mem_cons] at h
  rcases h with rfl | hlater
  · exact .inl hfirst
  · exact .inr (hmore seg hlater)

/-! ## Words -/

omit [DecidableEq α] in
/-- A word does not begin in a text and end in what is appended, if it does
not contain the first letter of that. -/
theorem prefix_of_prefix_append {word : List α} {b : α} (hb : b ∉ word)
    (h : word <+: s ++ b :: t) : word <+: s := by
  obtain ⟨rest, hrest⟩ := h
  rcases List.append_eq_append_iff.mp hrest with ⟨x, hx, -⟩ | ⟨x, hx, hxrest⟩
  · exact ⟨x, hx.symm⟩
  · cases x with
    | nil => exact ⟨[], by simp [hx]⟩
    | cons first more =>
      obtain ⟨rfl, -⟩ := List.cons.inj hxrest
      exact absurd (by simp [hx]) hb

omit [DecidableEq α] in
theorem infix_append_iff {word : List α} {a b : α} (hb : b ∉ word) :
    a :: word <:+: s ++ b :: t ↔
      a :: word <:+: s ∨ a :: word <:+: b :: t := by
  constructor
  · rintro ⟨before, after, h⟩
    rw [List.append_assoc] at h
    rcases List.append_eq_append_iff.mp h with
      ⟨x, hx, hxrest⟩ | ⟨x, hx, hxrest⟩
    · cases x with
      | nil =>
        have hstart : a :: word <+: b :: t := ⟨after, hxrest⟩
        exact .inr hstart.isInfix
      | cons first more =>
        obtain ⟨rfl, htail⟩ := List.cons.inj hxrest
        have hword : word <+: more :=
          prefix_of_prefix_append hb ⟨after, htail⟩
        rw [hx]
        exact .inl (((List.prefix_cons_inj a).mpr hword).isInfix.trans
          (List.suffix_append _ _).isInfix)
    · refine .inr ⟨x, after, ?_⟩
      rw [List.append_assoc]
      exact hxrest.symm
  · rintro (h | h)
    · exact h.trans (List.prefix_append _ _).isInfix
    · exact h.trans (List.suffix_append _ _).isInfix

omit [DecidableEq α] in
/-- A word which is in neither of two texts is in both together only if it
begins in the first one. -/
theorem not_infix_append {word : List α} (hs : ¬ word <:+: s)
    (ht : ¬ word <:+: t)
    (hpart : ∀ part, part ≠ [] → part <:+ s → ¬ part <+: word) :
    ¬ word <:+: s ++ t := by
  rw [List.infix_append_iff_ne_nil]
  rintro (hinside | hlater | ⟨before, after, hbefore, -, rfl, hsuffix, -⟩)
  · exact hs hinside
  · exact ht hlater
  · exact hpart before hbefore hsuffix (List.prefix_append before after)

/-! ## Replacing a word -/

/-- The scan behind `strings.ReplaceAll`, for a nonempty word: an occurrence
is replaced where it is met, and what is left of it is skipped. -/
def replaceAllFrom (word new : List α) : ℕ → List α → List α
  | _, [] => []
  | skip + 1, _ :: rest => replaceAllFrom word new skip rest
  | 0, b :: rest =>
      if word <+: b :: rest then
        new ++ replaceAllFrom word new (word.length - 1) rest
      else b :: replaceAllFrom word new 0 rest

def replaceAll (word new s : List α) : List α :=
  replaceAllFrom word new 0 s

theorem replaceAll_of_not_infix {word : List α} (new : List α)
    (h : ¬ word <:+: s) : replaceAll word new s = s := by
  unfold replaceAll
  induction s with
  | nil => rfl
  | cons b rest ih =>
      have hstart : ¬ word <+: b :: rest := fun hword => h hword.isInfix
      have hrest : ¬ word <:+: rest :=
        fun hword => h (hword.trans (List.suffix_cons b rest).isInfix)
      rw [replaceAllFrom, if_neg hstart, ih hrest]

/-- What brings no letter of the word is not touched behind another text, and
completes no occurrence in it. -/
theorem replaceAll_append {word : List α} (hne : word ≠ [])
    (ht : ∀ b ∈ t, b ∉ word) (new s : List α) :
    replaceAll word new (s ++ t) = replaceAll word new s ++ t := by
  have hscan : ∀ skip ≤ s.length, replaceAllFrom word new skip (s ++ t) =
      replaceAllFrom word new skip s ++ t := by
    induction s with
    | nil =>
        intro skip hskip
        obtain rfl : skip = 0 := by simpa using hskip
        apply replaceAll_of_not_infix
        obtain ⟨c, more, rfl⟩ := List.exists_cons_of_ne_nil hne
        exact fun hword => ht c (hword.subset List.mem_cons_self)
          List.mem_cons_self
    | cons b rest ih =>
        intro skip hskip
        cases skip with
        | succ skip => exact ih skip (by simpa using hskip)
        | zero =>
            have hstart : word <+: b :: (rest ++ t) ↔ word <+: b :: rest := by
              cases t with
              | nil => rw [List.append_nil]
              | cons c more =>
                  have hc : c ∉ word := ht c List.mem_cons_self
                  exact ⟨fun h => prefix_of_prefix_append hc h,
                    fun h => h.trans (List.prefix_append (b :: rest) _)⟩
            rw [List.cons_append, replaceAllFrom, replaceAllFrom]
            by_cases hword : word <+: b :: rest
            · have hlength := hword.length_le
              rw [List.length_cons] at hlength
              rw [if_pos (hstart.mpr hword), if_pos hword, ih _ (by omega),
                List.append_assoc]
            · rw [if_neg (mt hstart.mp hword), if_neg hword,
                ih 0 (Nat.zero_le _), List.cons_append]
  exact hscan 0 (Nat.zero_le _)

/-- No occurrence of the word can reach into a replacement. -/
structure Unentangled (word new : List α) : Prop where
  not_infix : ¬ word <:+: new
  not_start : ∀ part, part ≠ [] → part <:+ new → ¬ part <+: word
  not_end : ∀ part, part ≠ [] → part <:+ word →
    ¬ part <+: new ∧ ¬ new <+: part

instance (word new : List α) : Decidable (Unentangled word new) :=
  decidable_of_iff
    (¬ word <:+: new ∧
      (∀ part ∈ new.tails, part ≠ [] → ¬ part <+: word) ∧
      ∀ part ∈ word.tails, part ≠ [] → ¬ part <+: new ∧ ¬ new <+: part)
    ⟨fun h => ⟨h.1, fun part hne hpart => h.2.1 part
        ((List.mem_tails part new).mpr hpart) hne,
      fun part hne hpart => h.2.2 part
        ((List.mem_tails part word).mpr hpart) hne⟩,
    fun h => ⟨h.not_infix, fun part hpart hne => h.not_start part hne
        ((List.mem_tails part new).mp hpart),
      fun part hpart hne => h.not_end part hne
        ((List.mem_tails part word).mp hpart)⟩⟩

omit [DecidableEq α] in
theorem Unentangled.not_prefix_append {word new part : List α}
    (h : Unentangled word new) (hne : part ≠ []) (hpart : part <:+ word)
    (rest : List α) : ¬ part <+: new ++ rest := by
  intro hstart
  obtain ⟨hshort, hlong⟩ := h.not_end part hne hpart
  rcases List.prefix_or_prefix_of_prefix hstart
    (List.prefix_append new rest) with hprefix | hprefix
  · exact hshort hprefix
  · exact hlong hprefix

/-- An end of the word that starts a text after the replacements started it
before. -/
theorem Unentangled.prefix_of_replaceAllFrom {word new part : List α}
    (h : Unentangled word new) (hpart : part <:+ word)
    (hstart : part <+: replaceAllFrom word new 0 s) : part <+: s := by
  induction s generalizing part with
  | nil => exact hstart
  | cons b rest ih =>
      cases part with
      | nil => exact List.nil_prefix
      | cons c more =>
          rw [replaceAllFrom] at hstart
          split_ifs at hstart with hword
          · exact absurd hstart
              (h.not_prefix_append (List.cons_ne_nil c more) hpart _)
          · rw [List.cons_prefix_cons] at hstart ⊢
            have hmore : more <:+ word :=
              (List.suffix_cons c more).trans hpart
            exact ⟨hstart.1, ih hmore hstart.2⟩

/-- A word which is not entangled with its replacement is gone after it. -/
theorem Unentangled.not_infix_replaceAll {word new : List α}
    (h : Unentangled word new) (s : List α) :
    ¬ word <:+: replaceAll word new s := by
  have hword : word ≠ [] := by
    rintro rfl
    exact h.not_infix (List.nil_infix)
  have hscan : ∀ skip, ¬ word <:+: replaceAllFrom word new skip s := by
    induction s with
    | nil =>
        intro skip
        cases skip <;> simpa [replaceAllFrom] using hword
    | cons b rest ih =>
        intro skip
        cases skip with
        | succ skip => exact ih skip
        | zero =>
            rw [replaceAllFrom]
            split_ifs with hstart
            · exact not_infix_append h.not_infix (ih _) h.not_start
            · rw [List.infix_cons_iff]
              rintro (hhead | hlater)
              · obtain ⟨c, more, rfl⟩ := List.exists_cons_of_ne_nil hword
                rw [List.cons_prefix_cons] at hhead
                have hmore : more <+: rest :=
                  h.prefix_of_replaceAllFrom (List.suffix_cons c more) hhead.2
                exact hstart (List.cons_prefix_cons.mpr ⟨hhead.1, hmore⟩)
              · exact ih 0 hlater
  exact hscan 0

end VerifierApi
