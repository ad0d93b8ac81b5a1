import TrucoPaulista.Event

namespace TrucoPaulista

/-- The events that wait for a player, the first one first, and how many may wait. A player that has
hung up takes no more. -/
structure EventQueue where
  capacity : Nat
  waiting : List Event
  isOpen : Bool
  deriving DecidableEq

/-- What became of an event that was put into a queue. -/
inductive Delivery where
  | accepted
  | full
  | hungUp
  deriving DecidableEq

namespace EventQueue

def empty (capacity : Nat) : EventQueue := ⟨capacity, [], true⟩

/-- The number of events for which there is room. -/
def room (queue : EventQueue) : Nat := queue.capacity - queue.waiting.length

/-- Puts an event into a queue. -/
def offer (queue : EventQueue) (event : Event) : Delivery × EventQueue :=
  if !queue.isOpen then (.hungUp, queue)
  else if queue.room = 0 then (.full, queue)
  else (.accepted, { queue with waiting := queue.waiting ++ [event] })

/-- Puts an event into a queue, waiting until there is room for it. -/
def push (queue : EventQueue) (event : Event) : EventQueue :=
  if queue.isOpen then { queue with waiting := queue.waiting ++ [event] } else queue

/-- Takes all events out of a queue. -/
def drain (queue : EventQueue) : List Event × EventQueue :=
  (queue.waiting, { queue with waiting := [] })

end EventQueue

end TrucoPaulista
