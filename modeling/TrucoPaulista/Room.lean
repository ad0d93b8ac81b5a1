import TrucoPaulista.RoomError
import TrucoPaulista.Seat

namespace TrucoPaulista

/-- A seat that is taken: by whose token, over which connection while there is one, and whether the
player is ready. -/
structure Chair where
  token : String
  connection : Option ConnectionId
  ready : Bool
  deriving DecidableEq

/-- What stands at the four seats. -/
structure Chairs where
  t1a : Option Chair
  t1b : Option Chair
  t2a : Option Chair
  t2b : Option Chair
  deriving DecidableEq

namespace Chairs

def empty : Chairs := ⟨none, none, none, none⟩

/-- The chair at a seat. -/
def get (chairs : Chairs) : Seat → Option Chair
  | .t1a => chairs.t1a
  | .t1b => chairs.t1b
  | .t2a => chairs.t2a
  | .t2b => chairs.t2b

/-- The chairs with one put at a seat. -/
def set (chairs : Chairs) (seat : Seat) (chair : Chair) : Chairs :=
  match seat with
  | .t1a => { chairs with t1a := some chair }
  | .t1b => { chairs with t1b := some chair }
  | .t2a => { chairs with t2a := some chair }
  | .t2b => { chairs with t2b := some chair }

@[simp] theorem get_empty (seat : Seat) : empty.get seat = none := by
  cases seat <;> rfl

@[simp] theorem get_set (chairs : Chairs) (seat query : Seat) (chair : Chair) :
    (chairs.set seat chair).get query = if query = seat then some chair else chairs.get query := by
  cases seat <;> cases query <;> rfl

end Chairs

/-- A room: its chairs, the seat that has the turn, and the side whose card is awaited in the round
being played. -/
structure Room where
  chairs : Chairs
  turn : Option Seat
  awaiting : Option Side
  deriving DecidableEq

/-- A seat as others see it. -/
structure SeatView where
  seat : Seat
  ready : Bool
  connected : Bool
  deriving DecidableEq

/-- A room as others see it. -/
structure RoomView where
  matchId : MatchId
  players : List SeatView
  canStart : Bool
  currentTurn : Option Seat
  deriving DecidableEq

namespace Room

def empty : Room := ⟨.empty, none, none⟩

def chair? (room : Room) (seat : Seat) : Option Chair := room.chairs.get seat

def isTaken (room : Room) (seat : Seat) : Bool := (room.chair? seat).isSome

def isConnected (room : Room) (seat : Seat) : Bool :=
  ((room.chair? seat).bind Chair.connection).isSome

/-- The seat of a token. -/
def seatOfToken? (room : Room) (token : String) : Option Seat :=
  Seat.all.find? (fun seat => (room.chair? seat).any (fun chair => chair.token = token))

/-- The next seat to give away. -/
def freeSeat? (room : Room) : Option Seat := Seat.all.find? (fun seat => !room.isTaken seat)

/-- Whether the side of a seat may play now. -/
def mayPlay (room : Room) (seat : Seat) : Bool :=
  room.awaiting.all (fun side => seat.side = side)

/-- The taken seats after a seat that may play now, in the order of play. -/
def candidates (room : Room) (seat : Seat) : List Seat :=
  seat.successors.filter (fun next => room.isTaken next && room.mayPlay next)

/-- The seat that has the turn after a seat. -/
def nextTurn (room : Room) (seat : Seat) : Option Seat := (room.candidates seat).head?

/-- The seat that has the turn after a seat, one with a connection if there is any. -/
def nextLiveTurn (room : Room) (seat : Seat) : Option Seat :=
  ((room.candidates seat).find? room.isConnected).or (room.nextTurn seat)

/-- Whether anybody is connected. -/
def isLive (room : Room) : Bool := Seat.all.any room.isConnected

/-- Whether every seat is taken and every player ready. -/
def canStart (room : Room) : Bool :=
  Seat.all.all (fun seat => (room.chair? seat).any Chair.ready)

/-- A connection takes a seat for a token. -/
def sit (room : Room) (seat : Seat) (chair : Chair) : Room :=
  { room with chairs := room.chairs.set seat chair }

/-- The room without a connection at a seat. Its token keeps the seat. -/
def disconnect (room : Room) (seat : Seat) (connection : ConnectionId) : Room :=
  match room.chair? seat with
  | some chair =>
    if chair.connection = some connection then room.sit seat { chair with connection := none }
    else room
  | none => room

/-- The turn of a seat that was left passes on. -/
def passTurn (room : Room) (seat : Seat) : Room :=
  if room.turn = some seat then { room with turn := room.nextLiveTurn seat } else room

/-- A hand begins: the first seat has the turn. -/
def beginHand (room : Room) : Room := { room with turn := some .t1a, awaiting := none }

/-- A hand goes on that the room has lost sight of. A turn that is known stays. -/
def resumeHand (room : Room) (awaiting : Option Side) : Room :=
  match room.turn with
  | some _ => room
  | none =>
    let room := { room with awaiting }
    { room with turn := room.nextLiveTurn .t2b }

/-- A card was played: the turn passes to the next seat that may play. -/
def advanceTurn (room : Room) (awaiting : Option Side) : Room :=
  let room := { room with awaiting }
  match room.turn with
  | some seat => { room with turn := room.nextTurn seat }
  | none => { room with turn := some .t1a }

/-- A hand is over: nobody has the turn. -/
def endHand (room : Room) : Room := { room with turn := none, awaiting := none }

/-- The taken seats as others see them. -/
def players (room : Room) : List SeatView :=
  Seat.all.filterMap (fun seat =>
    (room.chair? seat).map (fun chair => ⟨seat, chair.ready, chair.connection.isSome⟩))

/-- The room as others see it. -/
def view (room : Room) (matchId : MatchId) : RoomView :=
  ⟨matchId, room.players, room.canStart, room.turn⟩

end Room

end TrucoPaulista
