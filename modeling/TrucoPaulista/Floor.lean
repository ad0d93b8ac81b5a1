import TrucoPaulista.Lobby
import TrucoPaulista.Queue
import TrucoPaulista.Service

namespace TrucoPaulista

/-- The number of a queue. -/
abbrev QueueId := Nat

/-- Draws a vira where none is asked for: the ranks that come one after the other, and how many have
been drawn. -/
structure Dealer where
  rankAt : Nat → Rank
  drawn : Nat

/-- The next rank. -/
def Dealer.draw (dealer : Dealer) : Rank × Dealer :=
  (dealer.rankAt dealer.drawn, { dealer with drawn := dealer.drawn + 1 })

/-- Calls those at a table one after the other when they are told something: the order of each call,
which may be any, and how many calls there have been. -/
structure RollCall where
  orderAt : Nat → List (ConnectionId × QueueId) → List (ConnectionId × QueueId)
  perm : ∀ number entries, (orderAt number entries).Perm entries
  called : Nat

namespace RollCall

/-- Those at a table in the order of their names. -/
def byName : RollCall := ⟨fun _ entries => entries, fun _ entries => .refl entries, 0⟩

/-- The next order. -/
def call (roll : RollCall) (entries : List (ConnectionId × QueueId)) :
    List (ConnectionId × QueueId) × RollCall :=
  (roll.orderAt roll.called entries, { roll with called := roll.called + 1 })

theorem perm_call (roll : RollCall) (entries : List (ConnectionId × QueueId)) :
    (roll.call entries).1.Perm entries :=
  roll.perm _ entries

end RollCall

/-- What the tables of all matches share. -/
structure Floor (ρ : Type := Archive) where
  archive : ρ
  lobby : Lobby
  queues : Dict QueueId EventQueue
  opened : Nat
  dealer : Dealer
  rollCall : RollCall

namespace Floor

variable {ρ : Type}

def empty (archive : ρ) (dealer : Dealer) (rollCall : RollCall := .byName) : Floor ρ :=
  ⟨archive, .empty, .empty, 0, dealer, rollCall⟩

/-- Opens a queue. -/
def openQueue (floor : Floor ρ) (capacity : Nat) : QueueId × Floor ρ :=
  let queues := floor.queues.insert floor.opened (.empty capacity)
  (floor.opened, { floor with queues, opened := floor.opened + 1 })

/-- Puts an event into a queue. A queue that there is no longer is one that was hung up. -/
def send (floor : Floor ρ) (queue : QueueId) (event : Event) : Delivery × Floor ρ :=
  match floor.queues.get? queue with
  | none => (.hungUp, floor)
  | some waiting =>
    let (delivery, waiting) := waiting.offer event
    (delivery, { floor with queues := floor.queues.insert queue waiting })

/-- Takes all events out of a queue. -/
def drain (floor : Floor ρ) (queue : QueueId) : List Event × Floor ρ :=
  match floor.queues.get? queue with
  | none => ([], floor)
  | some waiting =>
    let (events, waiting) := waiting.drain
    (events, { floor with queues := floor.queues.insert queue waiting })

/-- The player of a queue hangs up. -/
def hangUp (floor : Floor ρ) (queue : QueueId) : Floor ρ :=
  { floor with
    queues := floor.queues.modify queue (fun waiting => { waiting with isOpen := false }) }

/-- Puts an event into several queues, one after the other. -/
def sendEach (floor : Floor ρ) (event : Event) :
    List (ConnectionId × QueueId) → List (ConnectionId × Delivery) × Floor ρ
  | [] => ([], floor)
  | (connection, queue) :: rest =>
    let (delivery, floor) := floor.send queue event
    let (deliveries, floor) := floor.sendEach event rest
    ((connection, delivery) :: deliveries, floor)

/-- Puts an event into several queues, in the order in which they are called. -/
def sendAll (floor : Floor ρ) (event : Event) (entries : List (ConnectionId × QueueId)) :
    List (ConnectionId × Delivery) × Floor ρ :=
  let (called, rollCall) := floor.rollCall.call entries
  { floor with rollCall }.sendEach event called

theorem sendAll_eq (floor : Floor ρ) (event : Event) (entries : List (ConnectionId × QueueId)) :
    floor.sendAll event entries = { floor with rollCall := (floor.rollCall.call entries).2 }.sendEach
      event (floor.rollCall.call entries).1 := rfl

/-- Connections lose their seats. -/
def unseat (floor : Floor ρ) (connections : List ConnectionId) : Floor ρ :=
  { floor with
    lobby := connections.foldl (fun lobby connection => (lobby.leave connection).2) floor.lobby }

end Floor

/-- A step on the floor. -/
abbrev FloorStep (α : Type) := Action Floor Refusal α

namespace FloorStep

variable {ρ α : Type}

/-- A step of a service. -/
def ofService (step : Action ρ Refusal α) : Action (Floor ρ) Refusal α :=
  step.on Floor.archive (fun floor archive => { floor with archive })

/-- A step of the lobby. -/
def ofLobby (step : Lobby → Except RoomError α × Lobby) : Action (Floor ρ) Refusal α :=
  ((Action.ofStep step).mapRefusal Refusal.room).on Floor.lobby
    (fun floor lobby => { floor with lobby })

end FloorStep

end TrucoPaulista
