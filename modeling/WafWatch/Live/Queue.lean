/-!
This module holds bounded queues. Whoever offers an item to a queue never waits: a queue that is full, or
that nobody takes from any more, refuses it.
-/

namespace WafWatch

/--
Why a queue refuses an item.
-/
inductive Refusal where
  | full
  /-- Nobody takes from the queue any more. -/
  | closed
  deriving DecidableEq, Repr, Inhabited

/--
A queue. Items are put at the end and taken from the front.
-/
structure BoundedQueue (α : Type) where
  capacity : Nat
  items : List α := []
  /-- Nobody takes from the queue any more. -/
  abandoned : Bool := false
  deriving DecidableEq, Repr, Inhabited

namespace BoundedQueue

variable {α : Type}

def offer (queue : BoundedQueue α) (item : α) : Except Refusal (BoundedQueue α) :=
  if queue.abandoned then .error .closed
  else if queue.capacity ≤ queue.items.length then .error .full
  else .ok { queue with items := queue.items ++ [item] }

def take? (queue : BoundedQueue α) : Option (α × BoundedQueue α) :=
  match queue.items with
  | [] => none
  | item :: rest => some (item, { queue with items := rest })

def drain (queue : BoundedQueue α) : List α × BoundedQueue α :=
  (queue.items, { queue with items := [] })

def abandon (queue : BoundedQueue α) : BoundedQueue α :=
  { queue with abandoned := true }

end BoundedQueue

end WafWatch
