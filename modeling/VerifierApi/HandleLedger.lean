import VerifierApi.TracedRun
import Mathlib.Algebra.Order.Group.Multiset

/-!
# Ownership of handles

A run reports the handles that it opens and closes.  Replaying the reports
keeps account of what is held, and fails when a handle is closed that is not
held.  A triple states what a run consumes of the handles it is given, what
it leaves behind when it succeeds and when it fails, and which handles it may
lose track of when it fails.  Triples compose along the sequencing of runs,
and other handles are untouched.
-/

namespace VerifierApi

inductive HandleEvent (ρ : Type) where
  | opened (handle : ρ)
  | closed (handle : ρ)
deriving DecidableEq, Repr

section Replay

variable {ρ : Type} [DecidableEq ρ]

/-- What is held after some events; `none` once a handle is closed that is
not held. -/
def heldAfter : Multiset ρ → List (HandleEvent ρ) → Option (Multiset ρ)
  | held, [] => some held
  | held, .opened handle :: rest => heldAfter (handle ::ₘ held) rest
  | held, .closed handle :: rest =>
      if handle ∈ held then heldAfter (held.erase handle) rest else none

variable {held held' : Multiset ρ} {events : List (HandleEvent ρ)}

theorem heldAfter_append (h : heldAfter held events = some held')
    (more : List (HandleEvent ρ)) :
    heldAfter held (events ++ more) = heldAfter held' more := by
  induction events generalizing held with
  | nil =>
      obtain rfl := Option.some.inj h
      rfl
  | cons event rest ih =>
      cases event with
      | opened handle => exact ih h
      | closed handle =>
          simp only [heldAfter] at h
          split_ifs at h with hmem
          rw [List.cons_append, heldAfter, if_pos hmem]
          exact ih h

/-- Other handles than the ones in the account stay where they are. -/
theorem heldAfter_frame (h : heldAfter held events = some held')
    (frame : Multiset ρ) :
    heldAfter (frame + held) events = some (frame + held') := by
  induction events generalizing held with
  | nil =>
      obtain rfl := Option.some.inj h
      rfl
  | cons event rest ih =>
      cases event with
      | opened handle =>
          rw [heldAfter, ← Multiset.add_cons]
          exact ih h
      | closed handle =>
          simp only [heldAfter] at h
          split_ifs at h with hmem
          rw [heldAfter, if_pos (Multiset.mem_add.mpr (.inr hmem)),
            Multiset.erase_add_right_pos frame hmem]
          exact ih h

theorem heldAfter_closed_cons (handle : ρ) (held : Multiset ρ) :
    heldAfter (handle ::ₘ held) [.closed handle] = some held := by
  simp [heldAfter]

/-- An account is balanced for every handle: what is held at the end was
there before or opened, and not closed. -/
theorem count_of_heldAfter (h : heldAfter held events = some held')
    (handle : ρ) :
    held'.count handle + events.count (.closed handle) =
      held.count handle + events.count (.opened handle) := by
  induction events generalizing held with
  | nil =>
      obtain rfl := Option.some.inj h
      rfl
  | cons event rest ih =>
      cases event with
      | opened other =>
          have hrest := ih h
          by_cases hsame : other = handle
          · subst hsame
            simp only [Multiset.count_cons_self, List.count_cons_self] at hrest ⊢
            rw [List.count_cons_of_ne (by simp)]
            omega
          · rw [Multiset.count_cons_of_ne (Ne.symm hsame)] at hrest
            rw [List.count_cons_of_ne (by simp),
              List.count_cons_of_ne (by simpa using hsame)]
            exact hrest
      | closed other =>
          simp only [heldAfter] at h
          split_ifs at h with hmem
          have hrest := ih h
          by_cases hsame : other = handle
          · subst hsame
            have hpos := Multiset.count_pos.mpr hmem
            rw [Multiset.count_erase_self] at hrest
            rw [List.count_cons_self, List.count_cons_of_ne (by simp)]
            omega
          · rw [Multiset.count_erase_of_ne (Ne.symm hsame)] at hrest
            rw [List.count_cons_of_ne (by simpa using hsame),
              List.count_cons_of_ne (by simp)]
            exact hrest

end Replay

/-- What a run makes of the handles `pre` that it is given: it leaves `post`
behind when it succeeds, and `onError` when it fails, apart from handles that
it may lose. -/
structure Owns {ρ ε α : Type} [DecidableEq ρ] (mayLose : ρ → Prop)
    (pre : Multiset ρ) (run : Traced ε (HandleEvent ρ) α)
    (post : α → Multiset ρ) (onError : Multiset ρ) : Prop where
  ok : ∀ a, run.result = .ok a → heldAfter pre run.events = some (post a)
  error : ∀ err, run.result = .error err → ∃ lost,
    (∀ handle ∈ lost, mayLose handle) ∧
      heldAfter pre run.events = some (onError + lost)

/-- Further events after a failure: what a caller does about it. -/
def Traced.onError {ε φ α : Type} (run : Traced ε φ α) (cleanup : List φ) :
    Traced ε φ α :=
  ⟨run.result, match run.result with
    | .ok _ => run.events
    | .error _ => run.events ++ cleanup⟩

@[simp] theorem Traced.result_onError {ε φ α : Type} (run : Traced ε φ α)
    (cleanup : List φ) : (run.onError cleanup).result = run.result := rfl

namespace Owns

variable {ρ ε α β : Type} [DecidableEq ρ] {mayLose : ρ → Prop}
  {pre onError : Multiset ρ} {run : Traced ε (HandleEvent ρ) α}
  {post : α → Multiset ρ}

/-- A run which reports nothing. -/
theorem of_events_nil (hevents : run.events = [])
    (hok : ∀ a, run.result = .ok a → post a = pre)
    (herror : ∀ err, run.result = .error err → onError = pre) :
    Owns mayLose pre run post onError where
  ok a ha := by rw [hevents, hok a ha, heldAfter]
  error err herr := ⟨0, by simp, by
    rw [hevents, herror err herr, heldAfter, add_zero]⟩

theorem pure (a : α) (h : post a = pre) :
    Owns mayLose pre (Pure.pure a : Traced ε (HandleEvent ρ) α) post
      onError :=
  of_events_nil rfl (fun b hb => by
    obtain rfl := Except.ok.inj hb
    exact h) (fun err herr => by simp at herr)

theorem ofExcept (x : Except ε α) (post : α → Multiset ρ)
    (hok : ∀ a, x = .ok a → post a = pre) :
    Owns mayLose pre (Traced.ofExcept x) post pre :=
  of_events_nil rfl hok fun _ _ => rfl

theorem mapError {g : ε → ε} (h : Owns mayLose pre run post onError) :
    Owns mayLose pre (run.mapError g) post onError where
  ok a ha := by
    rw [Traced.result_mapError, mapError_eq_ok] at ha
    exact h.ok a ha
  error err herr := by
    cases hresult : run.result with
    | ok a =>
        rw [Traced.result_mapError, hresult] at herr
        cases herr
    | error cause => exact h.error cause hresult

theorem frame (h : Owns mayLose pre run post onError) (other : Multiset ρ) :
    Owns mayLose (other + pre) run (fun a => other + post a)
      (other + onError) where
  ok a ha := heldAfter_frame (h.ok a ha) other
  error err herr := by
    obtain ⟨lost, hlost, hheld⟩ := h.error err herr
    exact ⟨lost, hlost, by rw [heldAfter_frame hheld other, add_assoc]⟩

theorem bind {mid : α → Multiset ρ} {f : α → Traced ε (HandleEvent ρ) β}
    {post : β → Multiset ρ} (hx : Owns mayLose pre run mid onError)
    (hf : ∀ a, run.result = .ok a →
      Owns mayLose (mid a) (f a) post onError) :
    Owns mayLose pre (run >>= f) post onError := by
  cases hresult : run.result with
  | error err =>
      constructor
      · intro b hb
        rw [Traced.result_bind, hresult] at hb
        cases hb
      · intro _ _
        rw [Traced.events_bind_error hresult]
        exact hx.error err hresult
  | ok a =>
      have hnext := hf a hresult
      have hheld := hx.ok a hresult
      constructor
      · intro b hb
        rw [Traced.result_bind, hresult] at hb
        rw [Traced.events_bind_ok hresult, heldAfter_append hheld]
        exact hnext.ok b hb
      · intro err herr
        rw [Traced.result_bind, hresult] at herr
        rw [Traced.events_bind_ok hresult, heldAfter_append hheld]
        exact hnext.error err herr

theorem cleanup {before after : Multiset ρ}
    {events : List (HandleEvent ρ)} (h : Owns mayLose pre run post before)
    (hevents : heldAfter before events = some after) :
    Owns mayLose pre (run.onError events) post after where
  ok a ha := by
    have hresult : run.result = .ok a := ha
    simp only [Traced.onError, hresult]
    exact h.ok a hresult
  error err herr := by
    have hresult : run.result = .error err := herr
    obtain ⟨lost, hlost, hheld⟩ := h.error err hresult
    refine ⟨lost, hlost, ?_⟩
    have hlast := heldAfter_frame hevents lost
    simp only [Traced.onError, hresult]
    rw [heldAfter_append hheld, add_comm before, hlast, add_comm lost]

end Owns

end VerifierApi
