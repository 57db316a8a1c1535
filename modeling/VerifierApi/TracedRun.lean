import VerifierApi.Fallible
import Mathlib.Data.List.Perm.Basic

/-!
# Fallible runs with a trace, and the join of two of them

`Traced` is a computation which may fail and which reports events on the
way, whether or not it fails.  The second half models the fork of two such
computations into concurrent tasks which each send their outcome on a
buffered channel, joined by a receiver which waits for both.  The outcome of
the join does not depend on the schedule; its trace is an interleaving of
the two traces.
-/

namespace VerifierApi

/-- A result or an error, with the events reported before it was reached. -/
structure Traced (ε φ α : Type) where
  result : Except ε α
  events : List φ

namespace Traced

variable {ε φ α β : Type}

/-- Sequencing stops at the first error and keeps every event. -/
def bind (x : Traced ε φ α) (f : α → Traced ε φ β) : Traced ε φ β :=
  match x.result with
  | .error e => ⟨.error e, x.events⟩
  | .ok a => ⟨(f a).result, x.events ++ (f a).events⟩

instance : Monad (Traced ε φ) where
  pure a := ⟨.ok a, []⟩
  bind := bind

/-- A failure which reports one event. -/
def fail (event : φ) (e : ε) : Traced ε φ α :=
  ⟨.error e, [event]⟩

/-- Report events and continue. -/
def report (events : List φ) : Traced ε φ Unit :=
  ⟨.ok (), events⟩

/-- A fallible value whose failure has been reported before. -/
def ofExcept (x : Except ε α) : Traced ε φ α :=
  ⟨x, []⟩

/-- The same run with its error mapped. -/
def mapError (g : ε → ε) (x : Traced ε φ α) : Traced ε φ α :=
  ⟨x.result.mapError g, x.events⟩

/-- A fallible value which reports the given event when it fails. -/
def lift (event : φ) : Except ε α → Traced ε φ α
  | .error e => ⟨.error e, [event]⟩
  | .ok a => ⟨.ok a, []⟩

@[simp] theorem result_pure (a : α) :
    (pure a : Traced ε φ α).result = .ok a := rfl

@[simp] theorem events_pure (a : α) :
    (pure a : Traced ε φ α).events = [] := rfl

@[simp] theorem result_fail (event : φ) (e : ε) :
    (fail event e : Traced ε φ α).result = .error e := rfl

@[simp] theorem events_fail (event : φ) (e : ε) :
    (fail event e : Traced ε φ α).events = [event] := rfl

@[simp] theorem result_report (events : List φ) :
    (report events : Traced ε φ Unit).result = .ok () := rfl

@[simp] theorem events_report (events : List φ) :
    (report events : Traced ε φ Unit).events = events := rfl

@[simp] theorem result_ofExcept (x : Except ε α) :
    (ofExcept x : Traced ε φ α).result = x := rfl

@[simp] theorem events_ofExcept (x : Except ε α) :
    (ofExcept x : Traced ε φ α).events = [] := rfl

@[simp] theorem result_mapError (g : ε → ε) (x : Traced ε φ α) :
    (x.mapError g).result = x.result.mapError g := rfl

@[simp] theorem events_mapError (g : ε → ε) (x : Traced ε φ α) :
    (x.mapError g).events = x.events := rfl

@[simp] theorem result_lift (event : φ) (x : Except ε α) :
    (lift event x).result = x := by
  cases x <;> rfl

@[simp] theorem lift_ok (event : φ) (a : α) :
    (lift event (.ok a : Except ε α)) = pure a := rfl

@[simp] theorem lift_error (event : φ) (e : ε) :
    (lift event (.error e : Except ε α)) = fail event e := rfl

theorem mem_lift_events {event event' : φ} {x : Except ε α}
    (h : event' ∈ (lift event x).events) : event' = event := by
  cases x with
  | error e => simpa using h
  | ok a => simp at h

/-- Forgetting the trace is a map of monads. -/
@[simp] theorem result_bind
    (x : Traced ε φ α) (f : α → Traced ε φ β) :
    (x >>= f).result = x.result.bind (fun a => (f a).result) := by
  change (bind x f).result = _
  unfold bind
  cases x.result <;> rfl

theorem events_bind_ok
    {x : Traced ε φ α} {f : α → Traced ε φ β} {a : α}
    (hx : x.result = .ok a) :
    (x >>= f).events = x.events ++ (f a).events := by
  change (bind x f).events = _
  unfold bind
  rw [hx]

theorem events_bind_error
    {x : Traced ε φ α} {f : α → Traced ε φ β} {e : ε}
    (hx : x.result = .error e) :
    (x >>= f).events = x.events := by
  change (bind x f).events = _
  unfold bind
  rw [hx]

theorem mem_events_bind_left
    {x : Traced ε φ α} {f : α → Traced ε φ β} {event : φ}
    (hevent : event ∈ x.events) :
    event ∈ (x >>= f).events := by
  cases hx : x.result with
  | error e => rwa [events_bind_error hx]
  | ok a =>
      rw [events_bind_ok hx]
      exact List.mem_append_left _ hevent

theorem mem_events_bind_right
    {x : Traced ε φ α} {f : α → Traced ε φ β} {a : α} {event : φ}
    (hx : x.result = .ok a) (hevent : event ∈ (f a).events) :
    event ∈ (x >>= f).events := by
  rw [events_bind_ok hx]
  exact List.mem_append_right _ hevent

theorem mem_events_bind
    {x : Traced ε φ α} {f : α → Traced ε φ β} {event : φ}
    (hevent : event ∈ (x >>= f).events) :
    event ∈ x.events ∨
      ∃ a, x.result = .ok a ∧ event ∈ (f a).events := by
  cases hx : x.result with
  | error e =>
      rw [events_bind_error hx] at hevent
      exact .inl hevent
  | ok a =>
      rw [events_bind_ok hx] at hevent
      rcases List.mem_append.mp hevent with hleft | hright
      · exact .inl hleft
      · exact .inr ⟨a, rfl, hright⟩

theorem result_bind_eq_error
    {x : Traced ε φ α} {f : α → Traced ε φ β} {e : ε}
    (h : (x >>= f).result = .error e) :
    x.result = .error e ∨
      ∃ a, x.result = .ok a ∧ (f a).result = .error e := by
  rw [result_bind] at h
  cases hx : x.result with
  | error e' =>
      rw [hx] at h
      exact .inl (by simpa [Except.bind] using h)
  | ok a =>
      rw [hx] at h
      exact .inr ⟨a, rfl, h⟩

theorem result_bind_eq_ok
    {x : Traced ε φ α} {f : α → Traced ε φ β} {b : β} :
    (x >>= f).result = .ok b ↔
      ∃ a, x.result = .ok a ∧ (f a).result = .ok b := by
  rw [result_bind]
  cases hx : x.result with
  | error e => simp [Except.bind]
  | ok a => simp [Except.bind]

theorem failsWith_bind {P : ε → Prop}
    {x : Traced ε φ α} {f : α → Traced ε φ β}
    (hx : FailsWith P x.result)
    (hf : ∀ a, x.result = .ok a → FailsWith P (f a).result) :
    FailsWith P (x >>= f).result := by
  intro e he
  rcases result_bind_eq_error he with hleft | ⟨a, ha, hright⟩
  · exact hx e hleft
  · exact hf a ha e hright

/-- Every error of the run has the second property, provided every event of
the run has the first. -/
def FailsUnder (P : φ → Prop) (Q : ε → Prop) (x : Traced ε φ α) : Prop :=
  ∀ e, x.result = .error e → (∀ event ∈ x.events, P event) → Q e

namespace FailsUnder

variable {P : φ → Prop} {Q R : ε → Prop} {x : Traced ε φ α}

theorem pure (a : α) : FailsUnder P Q (Pure.pure a : Traced ε φ α) := by
  intro e he
  simp at he

theorem lift {event : φ} {y : Except ε α}
    (h : P event → FailsWith Q y) : FailsUnder P Q (lift event y) := by
  intro e he hevents
  rw [result_lift] at he
  subst he
  exact h (hevents event (by simp)) e rfl

theorem bind {f : α → Traced ε φ β} (hx : FailsUnder P Q x)
    (hf : ∀ a, x.result = .ok a → FailsUnder P Q (f a)) :
    FailsUnder P Q (x >>= f) := by
  intro e he hevents
  rcases result_bind_eq_error he with hleft | ⟨a, ha, hright⟩
  · exact hx e hleft fun event h => hevents event (mem_events_bind_left h)
  · exact hf a ha e hright
      fun event h => hevents event (mem_events_bind_right ha h)

theorem mapError {g : ε → ε} (hx : FailsUnder P Q x)
    (h : ∀ e, Q e → R (g e)) : FailsUnder P R (x.mapError g) := by
  intro e he hevents
  obtain ⟨cause, hcause, rfl⟩ := mapError_eq_error.mp he
  exact h cause (hx cause hcause hevents)

theorem ofExcept (hx : FailsUnder P Q x)
    (hevents : ∀ event ∈ x.events, P event) :
    FailsUnder P Q (ofExcept x.result : Traced ε φ α) :=
  fun e he _ => hx e he hevents

end FailsUnder

end Traced

/-! ## Two tasks and their channels -/

/-- Which of the two tasks the scheduler runs next. -/
inductive Side where
  | left
  | right
deriving DecidableEq, Repr

/-- The state of a fork: what each task has still to report, the two
one-place channels, and the common trace. -/
structure Fork (φ α β : Type) where
  leftTodo : List φ
  leftCh : Option α
  rightTodo : List φ
  rightCh : Option β
  trace : List φ

namespace Fork

variable {φ α β : Type}

def initial (leftEvents rightEvents : List φ) : Fork φ α β where
  leftTodo := leftEvents
  leftCh := none
  rightTodo := rightEvents
  rightCh := none
  trace := []

/-- A scheduled task reports its next event or, when it has none left,
sends its outcome.  The channels are buffered, so sending never blocks. -/
def step (leftValue : α) (rightValue : β)
    (fork : Fork φ α β) : Side → Fork φ α β
  | .left =>
      match fork.leftTodo with
      | event :: rest =>
          { fork with leftTodo := rest, trace := fork.trace ++ [event] }
      | [] => { fork with leftCh := some leftValue }
  | .right =>
      match fork.rightTodo with
      | event :: rest =>
          { fork with rightTodo := rest, trace := fork.trace ++ [event] }
      | [] => { fork with rightCh := some rightValue }

/-- The receiver takes the left channel first and then the right one; it is
blocked until both hold a value. -/
def receive (fork : Fork φ α β) : Option (α × β) :=
  match fork.leftCh, fork.rightCh with
  | some a, some b => some (a, b)
  | _, _ => none

def run (leftValue : α) (rightValue : β)
    (schedule : List Side) (fork : Fork φ α β) : Fork φ α β :=
  schedule.foldl (step leftValue rightValue) fork

/-- A filled channel holds the outcome of its task, and its task has
nothing left to report. -/
structure Settled (leftValue : α) (rightValue : β)
    (fork : Fork φ α β) : Prop where
  left : ∀ a, fork.leftCh = some a → a = leftValue ∧ fork.leftTodo = []
  right : ∀ b, fork.rightCh = some b → b = rightValue ∧ fork.rightTodo = []

theorem initial_settled
    (leftValue : α) (rightValue : β) (leftEvents rightEvents : List φ) :
    (initial leftEvents rightEvents).Settled leftValue rightValue := by
  constructor <;> simp [initial]

theorem Settled.step
    {leftValue : α} {rightValue : β} {fork : Fork φ α β}
    (hsettled : fork.Settled leftValue rightValue) (side : Side) :
    (fork.step leftValue rightValue side).Settled leftValue rightValue := by
  cases side with
  | left =>
      cases htodo : fork.leftTodo with
      | nil =>
          simp only [Fork.step, htodo]
          refine ⟨?_, hsettled.right⟩
          intro a ha
          simp only [Option.some.injEq] at ha
          exact ⟨ha.symm, rfl⟩
      | cons event rest =>
          simp only [Fork.step, htodo]
          refine ⟨?_, hsettled.right⟩
          intro a ha
          have hempty := (hsettled.left a ha).2
          rw [htodo] at hempty
          contradiction
  | right =>
      cases htodo : fork.rightTodo with
      | nil =>
          simp only [Fork.step, htodo]
          refine ⟨hsettled.left, ?_⟩
          intro b hb
          simp only [Option.some.injEq] at hb
          exact ⟨hb.symm, rfl⟩
      | cons event rest =>
          simp only [Fork.step, htodo]
          refine ⟨hsettled.left, ?_⟩
          intro b hb
          have hempty := (hsettled.right b hb).2
          rw [htodo] at hempty
          contradiction

theorem Settled.run
    {leftValue : α} {rightValue : β} {fork : Fork φ α β}
    (hsettled : fork.Settled leftValue rightValue) (schedule : List Side) :
    (fork.run leftValue rightValue schedule).Settled
      leftValue rightValue := by
  induction schedule generalizing fork with
  | nil => exact hsettled
  | cons side rest ih => exact ih (hsettled.step side)

end Fork

/-- The interleaving of two traces under a schedule.  A side which is
scheduled after its last event has no effect, and whatever the schedule
leaves over follows at the end. -/
def interleave {φ : Type} : List Side → List φ → List φ → List φ
  | [], lefts, rights => lefts ++ rights
  | .left :: schedule, event :: lefts, rights =>
      event :: interleave schedule lefts rights
  | .left :: schedule, [], rights => interleave schedule [] rights
  | .right :: schedule, lefts, event :: rights =>
      event :: interleave schedule lefts rights
  | .right :: schedule, lefts, [] => interleave schedule lefts []

theorem interleave_perm {φ : Type}
    (schedule : List Side) (lefts rights : List φ) :
    (interleave schedule lefts rights).Perm (lefts ++ rights) := by
  fun_induction interleave schedule lefts rights with
  | case1 lefts rights => exact List.Perm.refl _
  | case2 schedule event lefts rights ih => exact ih.cons event
  | case3 schedule rights ih => exact ih
  | case4 schedule lefts event rights ih =>
      exact (ih.cons event).trans List.perm_middle.symm
  | case5 schedule lefts ih => exact ih

@[simp] theorem mem_interleave {φ : Type}
    {schedule : List Side} {lefts rights : List φ} {event : φ} :
    event ∈ interleave schedule lefts rights ↔
      event ∈ lefts ∨ event ∈ rights := by
  rw [(interleave_perm schedule lefts rights).mem_iff, List.mem_append]

namespace Fork

variable {φ α β : Type}

/-- The trace of any prefix of a run, completed by what is left over, is the
interleaving under that prefix. -/
theorem run_trace
    (leftValue : α) (rightValue : β)
    (schedule : List Side) (fork : Fork φ α β) :
    (fork.run leftValue rightValue schedule).trace ++
        ((fork.run leftValue rightValue schedule).leftTodo ++
          (fork.run leftValue rightValue schedule).rightTodo) =
      fork.trace ++ interleave schedule fork.leftTodo fork.rightTodo := by
  induction schedule generalizing fork with
  | nil => simp [run, interleave]
  | cons side rest ih =>
      rw [show fork.run leftValue rightValue (side :: rest) =
        (fork.step leftValue rightValue side).run
          leftValue rightValue rest from rfl, ih]
      cases side with
      | left =>
          cases htodo : fork.leftTodo with
          | nil => simp [step, htodo, interleave]
          | cons event todo => simp [step, htodo, interleave]
      | right =>
          cases htodo : fork.rightTodo with
          | nil => simp [step, htodo, interleave]
          | cons event todo => simp [step, htodo, interleave]

end Fork

/-- Whatever the schedule, a receiver which got past both channels holds the
two values, and the common trace is the interleaving under the schedule. -/
theorem Fork.run_receive {φ α β : Type} {leftValue : α} {rightValue : β}
    {leftEvents rightEvents : List φ} {schedule : List Side}
    {outcome : α × β}
    (hreceive : ((Fork.initial leftEvents rightEvents).run leftValue
      rightValue schedule).receive = some outcome) :
    outcome = (leftValue, rightValue) ∧
      ((Fork.initial leftEvents rightEvents : Fork φ α β).run leftValue
        rightValue schedule).trace =
        interleave schedule leftEvents rightEvents := by
  have hsettled :=
    (Fork.initial_settled leftValue rightValue leftEvents
      rightEvents).run schedule
  have htrace := Fork.run_trace leftValue rightValue schedule
    (Fork.initial leftEvents rightEvents)
  unfold Fork.receive at hreceive
  split at hreceive
  next x y hleft hright =>
    obtain ⟨hx, hleftTodo⟩ := hsettled.left x hleft
    obtain ⟨hy, hrightTodo⟩ := hsettled.right y hright
    simp only [Option.some.injEq] at hreceive
    subst outcome
    refine ⟨by rw [hx, hy], ?_⟩
    rw [hleftTodo, hrightTodo] at htrace
    simpa [Fork.initial] using htrace
  next => simp at hreceive

/-- A task which gets a turn for each of its events, and one more, has sent
its outcome. -/
theorem Fork.run_channels {φ α β : Type} (leftValue : α) (rightValue : β)
    (schedule : List Side) (fork : Fork φ α β) :
    (fork.leftCh ≠ none ∨ fork.leftTodo.length < schedule.count .left →
      (fork.run leftValue rightValue schedule).leftCh ≠ none) ∧
    (fork.rightCh ≠ none ∨ fork.rightTodo.length < schedule.count .right →
      (fork.run leftValue rightValue schedule).rightCh ≠ none) := by
  induction schedule generalizing fork with
  | nil => simp [Fork.run]
  | cons side rest ih =>
      obtain ⟨hleft, hright⟩ := ih (fork.step leftValue rightValue side)
      rw [show fork.run leftValue rightValue (side :: rest) =
        (fork.step leftValue rightValue side).run
          leftValue rightValue rest from rfl]
      cases side with
      | left =>
          refine ⟨fun h => hleft ?_, fun h => hright ?_⟩
          · cases htodo : fork.leftTodo with
            | nil => simp [Fork.step, htodo]
            | cons event todo => simpa [Fork.step, htodo] using h
          · cases htodo : fork.leftTodo with
            | nil => simpa [Fork.step, htodo] using h
            | cons event todo => simpa [Fork.step, htodo] using h
      | right =>
          refine ⟨fun h => hleft ?_, fun h => hright ?_⟩
          · cases htodo : fork.rightTodo with
            | nil => simpa [Fork.step, htodo] using h
            | cons event todo => simpa [Fork.step, htodo] using h
          · cases htodo : fork.rightTodo with
            | nil => simp [Fork.step, htodo]
            | cons event todo => simpa [Fork.step, htodo] using h

theorem Fork.run_finishes {φ α β : Type} (leftValue : α) (rightValue : β)
    {leftEvents rightEvents : List φ} {schedule : List Side}
    (hleft : leftEvents.length < schedule.count .left)
    (hright : rightEvents.length < schedule.count .right) :
    ∃ outcome, ((Fork.initial leftEvents rightEvents).run leftValue
      rightValue schedule).receive = some outcome := by
  obtain ⟨hleftCh, hrightCh⟩ := Fork.run_channels leftValue rightValue
    schedule (Fork.initial leftEvents rightEvents)
  obtain ⟨a, ha⟩ := Option.ne_none_iff_exists'.mp (hleftCh (.inr hleft))
  obtain ⟨b, hb⟩ := Option.ne_none_iff_exists'.mp (hrightCh (.inr hright))
  exact ⟨(a, b), by simp only [Fork.receive, ha, hb]⟩

/-- Fork two runs, wait for both outcomes, and keep both traces. -/
def forkJoin {ε φ α β : Type} (schedule : List Side)
    (a : Traced ε φ α) (b : Traced ε φ β) :
    Traced ε φ (Except ε α × Except ε β) :=
  ⟨.ok (a.result, b.result), interleave schedule a.events b.events⟩

/-- Whatever the schedule, a receiver which got past both channels holds the
two outcomes, and the trace of the run is the interleaving that `forkJoin`
reports. -/
theorem forkJoin_of_receive {ε φ α β : Type}
    (a : Traced ε φ α) (b : Traced ε φ β) (schedule : List Side)
    {outcome : Except ε α × Except ε β}
    (hreceive :
      (((Fork.initial a.events b.events).run
        a.result b.result schedule).receive = some outcome)) :
    (forkJoin schedule a b).result = .ok outcome ∧
      (forkJoin schedule a b).events =
        ((Fork.initial a.events b.events).run
          a.result b.result schedule :
            Fork φ (Except ε α) (Except ε β)).trace := by
  obtain ⟨rfl, htrace⟩ := Fork.run_receive hreceive
  exact ⟨rfl, htrace.symm⟩

@[simp] theorem forkJoin_result {ε φ α β : Type} (schedule : List Side)
    (a : Traced ε φ α) (b : Traced ε φ β) :
    (forkJoin schedule a b).result = .ok (a.result, b.result) := rfl

@[simp] theorem mem_forkJoin_events {ε φ α β : Type}
    {schedule : List Side} {a : Traced ε φ α} {b : Traced ε φ β}
    {event : φ} :
    event ∈ (forkJoin schedule a b).events ↔
      event ∈ a.events ∨ event ∈ b.events := by
  simp [forkJoin]

/-- After a join the events of both runs are known to have the property. -/
theorem Traced.FailsUnder.forkJoin_bind {ε φ α β γ : Type} {P : φ → Prop}
    {Q : ε → Prop} {schedule : List Side} {a : Traced ε φ α}
    {b : Traced ε φ β} {f : Except ε α × Except ε β → Traced ε φ γ}
    (h : (∀ event ∈ a.events, P event) → (∀ event ∈ b.events, P event) →
      FailsUnder P Q (f (a.result, b.result))) :
    FailsUnder P Q (forkJoin schedule a b >>= f) := by
  intro e he hevents
  have hresult : (f (a.result, b.result)).result = .error e := by
    simpa [Except.bind] using he
  have hjoin := fun event hevent => hevents event
    (mem_events_bind_left hevent)
  refine h (fun event hevent => hjoin event (mem_forkJoin_events.mpr
    (.inl hevent))) (fun event hevent => hjoin event
      (mem_forkJoin_events.mpr (.inr hevent))) e hresult ?_
  intro event hevent
  exact hevents event (mem_events_bind_right rfl hevent)

end VerifierApi
