import Mathlib.Data.List.Infix
import SplunkLogs.Foundation.TransitionSystem

/-!
# A bounded queue between two parties

One party puts items in at the back while there is room, the other takes them out at the
front, several at a time. Nothing else happens to an item.
-/
namespace Foundation

/-- The items taken so far and those still waiting, never more than `capacity`. -/
structure BoundedQueue (α : Type*) (capacity : Nat) where
  taken : List α
  waiting : List α
  bounded : waiting.length ≤ capacity

namespace BoundedQueue

variable {α : Type*} {capacity : Nat}

def empty : BoundedQueue α capacity := ⟨[], [], Nat.zero_le _⟩

/-- All items put in, in order. -/
def history (q : BoundedQueue α capacity) : List α := q.taken ++ q.waiting

def put (q : BoundedQueue α capacity) (x : α) (room : q.waiting.length < capacity) :
    BoundedQueue α capacity :=
  ⟨q.taken, q.waiting ++ [x], by simpa [Nat.succ_le_iff] using room⟩

def take (q : BoundedQueue α capacity) (n : Nat) : BoundedQueue α capacity :=
  ⟨q.taken ++ q.waiting.take n, q.waiting.drop n, by
    have := q.bounded
    simp only [List.length_drop]
    omega⟩

@[simp] theorem history_put (q : BoundedQueue α capacity) (x : α)
    (room : q.waiting.length < capacity) : (q.put x room).history = q.history ++ [x] := by
  simp [history, put]

/-- Taking loses nothing and keeps the order. -/
@[simp] theorem history_take (q : BoundedQueue α capacity) (n : Nat) :
    (q.take n).history = q.history := by
  simp [history, take]

inductive Step (q : BoundedQueue α capacity) : BoundedQueue α capacity → Prop
  | put (x : α) (room : q.waiting.length < capacity) : Step q (q.put x room)
  | take (n : Nat) : Step q (q.take n)

/-- The queue as a system: it starts empty. -/
def system (α : Type*) (capacity : Nat) : TransitionSystem (BoundedQueue α capacity) :=
  ⟨fun q => q = empty, Step⟩

end BoundedQueue

end Foundation
