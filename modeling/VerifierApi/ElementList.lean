import Mathlib.Data.List.Nodup
import Mathlib.Logic.Function.Basic

/-!
# Lists of elements

A linked list of elements which are referred to from outside.  An element
keeps its identity when it moves, and its value when it is removed.
-/

namespace VerifierApi

/-- The elements of a list, the front first, and the values of all elements
that were ever pushed. -/
structure ElementList (α : Type) where
  order : List ℕ
  value : ℕ → Option α
  next : ℕ
  nodup : order.Nodup
  allocated : ∀ el ∈ order, el < next

namespace ElementList

variable {α : Type}

def empty : ElementList α where
  order := []
  value := fun _ => none
  next := 0
  nodup := List.nodup_nil
  allocated := by simp

def len (ll : ElementList α) : ℕ := ll.order.length

def back (ll : ElementList α) : Option ℕ := ll.order.getLast?

theorem next_notMem (ll : ElementList α) : ll.next ∉ ll.order :=
  fun hmem => Nat.lt_irrefl _ (ll.allocated _ hmem)

/-- The list with a new element at the front, and that element. -/
def pushFront (ll : ElementList α) (v : α) : ElementList α × ℕ :=
  ({ order := ll.next :: ll.order
     value := Function.update ll.value ll.next (some v)
     next := ll.next + 1
     nodup := List.nodup_cons.mpr ⟨ll.next_notMem, ll.nodup⟩
     allocated := List.forall_mem_cons.mpr ⟨Nat.lt_succ_self _,
       fun el hel => Nat.lt_succ_of_lt (ll.allocated el hel)⟩ },
    ll.next)

/-- An element which is not in the list stays where it is. -/
def moveToFront (ll : ElementList α) (el : ℕ) : ElementList α :=
  if hel : el ∈ ll.order then
    { ll with
      order := el :: ll.order.erase el
      nodup := List.nodup_cons.mpr
        ⟨ll.nodup.not_mem_erase, ll.nodup.erase el⟩
      allocated := List.forall_mem_cons.mpr ⟨ll.allocated el hel,
        fun other hother => ll.allocated other (List.mem_of_mem_erase hother)⟩ }
  else ll

def remove (ll : ElementList α) (el : ℕ) : ElementList α :=
  { ll with
    order := ll.order.erase el
    nodup := ll.nodup.erase el
    allocated := fun other hother =>
      ll.allocated other (List.mem_of_mem_erase hother) }

def setValue (ll : ElementList α) (el : ℕ) (v : α) : ElementList α :=
  { ll with value := Function.update ll.value el (some v) }

theorem moveToFront_order {ll : ElementList α} {el : ℕ}
    (hel : el ∈ ll.order) :
    (ll.moveToFront el).order = el :: ll.order.erase el := by
  rw [moveToFront, dif_pos hel]

@[simp] theorem moveToFront_value (ll : ElementList α) (el : ℕ) :
    (ll.moveToFront el).value = ll.value := by
  unfold moveToFront
  split
  next => rfl
  next => rfl

@[simp] theorem remove_value (ll : ElementList α) (el : ℕ) :
    (ll.remove el).value = ll.value := rfl

@[simp] theorem remove_order (ll : ElementList α) (el : ℕ) :
    (ll.remove el).order = ll.order.erase el := rfl

@[simp] theorem setValue_order (ll : ElementList α) (el : ℕ) (v : α) :
    (ll.setValue el v).order = ll.order := rfl

theorem setValue_of_value {ll : ElementList α} {el : ℕ} {v : α}
    (h : ll.value el = some v) : ll.setValue el v = ll := by
  rw [setValue, ← h, Function.update_eq_self]

theorem mem_moveToFront {ll : ElementList α} {el other : ℕ}
    (hel : el ∈ ll.order) :
    other ∈ (ll.moveToFront el).order ↔ other ∈ ll.order := by
  rw [moveToFront_order hel, List.mem_cons, ll.nodup.mem_erase_iff]
  by_cases hother : other = el
  · simp [hother, hel]
  · simp [hother]

/-- The list without its last element. -/
theorem remove_back {ll : ElementList α} {el : ℕ} (h : ll.back = some el) :
    (ll.remove el).order = ll.order.dropLast := by
  obtain ⟨front, hfront⟩ := List.getLast?_eq_some_iff.mp h
  have hnodup := ll.nodup
  rw [hfront, List.nodup_append] at hnodup
  have hnot : el ∉ front := fun hmem =>
    hnodup.2.2 el hmem el (List.mem_singleton_self el) rfl
  rw [remove_order, hfront, List.erase_append_right _ hnot,
    List.erase_cons_head, List.append_nil, List.dropLast_concat]

end ElementList

end VerifierApi
