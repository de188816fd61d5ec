/-
A first-in, first-out queue of bounded length, by what is offered to it and taken off it.

A push that finds the queue full is refused, and the items that wait stay.  `Step` is everything such
a queue may do; an implementation is one if each of its own steps is a step here.
-/
import Mathlib.Data.List.Infix

/-- What waits, what was offered so far and what was popped so far, each oldest first. -/
structure BoundedQueue (α : Type) where
  items : List α := []
  offered : List α := []
  popped : List α := []

namespace BoundedQueue

variable {α : Type} {capacity : Nat} {q q' : BoundedQueue α}

inductive Step (capacity : Nat) (q : BoundedQueue α) : BoundedQueue α → Prop
  | stay : Step capacity q q
  | take (x : α) (room : q.items.length < capacity) :
    Step capacity q { q with items := q.items ++ [x], offered := q.offered ++ [x] }
  | refuse (x : α) (full : capacity ≤ q.items.length) :
    Step capacity q { q with offered := q.offered ++ [x] }
  | pop (x : α) (rest : List α) (first : q.items = x :: rest) :
    Step capacity q { q with items := rest, popped := q.popped ++ [x] }

/-- What waits is what was offered last. -/
def Newest (q : BoundedQueue α) : Prop := q.items <:+ q.offered

/-- A step that refuses nothing keeps the newest waiting. -/
theorem Newest.step (newest : q.Newest) (step : Step capacity q q')
    (taken : capacity ≤ q.items.length → q'.offered = q.offered) : q'.Newest := by
  cases step with
  | stay => exact newest
  | take x room =>
    obtain ⟨older, all⟩ := newest
    exact ⟨older, by rw [← List.append_assoc, all]⟩
  | refuse x full => exact absurd (taken full) (by simp)
  | pop x rest first =>
    have tail : rest <:+ q.items := first ▸ List.suffix_cons x rest
    exact tail.trans newest

end BoundedQueue
