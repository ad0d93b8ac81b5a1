import TrucoPaulista.Dict
import TrucoPaulista.Room
import TrucoPaulista.Text.Blank

namespace TrucoPaulista

/-- The seat of a connection in a match. -/
structure Session where
  matchId : MatchId
  seat : Seat
  token : String
  connection : ConnectionId
  deriving DecidableEq

/-- The rooms of all matches, and the seat that each connection has. -/
structure Lobby where
  rooms : Dict MatchId Room
  bindings : Dict ConnectionId (MatchId × Seat)

namespace Lobby

def empty : Lobby := ⟨.empty, .empty⟩

/-- The session of a connection at a seat. -/
def sessionAt (lobby : Lobby) (connection : ConnectionId) (matchId : MatchId) (seat : Seat) :
    Option Session := do
  let room ← lobby.rooms.get? matchId
  let chair ← room.chair? seat
  return ⟨matchId, seat, chair.token, connection⟩

/-- The session of a connection. -/
def session (lobby : Lobby) (connection : ConnectionId) : Option Session := do
  let (matchId, seat) ← lobby.bindings.get? connection
  lobby.sessionAt connection matchId seat

/-- Whether anybody holds a seat in a match. -/
def hasRoom (lobby : Lobby) (matchId : MatchId) : Bool := lobby.rooms.contains matchId

/-- The seat that has the turn in a match. -/
def currentTurn (lobby : Lobby) (matchId : MatchId) : Option Seat :=
  (lobby.rooms.get? matchId).bind Room.turn

/-- Whether a hand may begin in a match. -/
def canStart (lobby : Lobby) (matchId : MatchId) : Bool :=
  (lobby.rooms.get? matchId).any Room.canStart

/-- Whether a connection has the turn in a match. -/
def isPlayersTurn (lobby : Lobby) (connection : ConnectionId) (matchId : MatchId) : Bool :=
  match lobby.bindings.get? connection with
  | some (bound, seat) => bound = matchId && lobby.currentTurn matchId = some seat
  | none => false

/-- The room of a match as others see it. A match without a room has one that is empty. -/
def roomView (lobby : Lobby) (matchId : MatchId) : RoomView :=
  match lobby.rooms.get? matchId with
  | some room => room.view matchId
  | none => ⟨matchId, [], false, none⟩

/-- The lobby with a connection bound to a seat, and the session that results. -/
def bind (lobby : Lobby) (matchId : MatchId) (connection : ConnectionId) (seat : Seat) :
    Except RoomError Session × Lobby :=
  let lobby := { lobby with bindings := lobby.bindings.insert connection (matchId, seat) }
  match lobby.sessionAt connection matchId seat with
  | some session => (.ok session, lobby)
  | none => (.error .notJoined, lobby)

/-- A connection that has no seat yet comes to a room with a token. The token gets its seat back, as
ready as it was, and the connection that was there loses it; a new token gets the next free seat. -/
def seatToken (lobby : Lobby) (matchId : MatchId) (connection : ConnectionId) (token : String) :
    Except RoomError Session × Lobby :=
  let room := (lobby.rooms.get? matchId).getD .empty
  let lobby := { lobby with rooms := lobby.rooms.insert matchId room }
  match room.seatOfToken? token with
  | some seat =>
    match room.chair? seat with
    | some chair =>
      let chair' := { chair with connection := some connection }
      let rooms := lobby.rooms.insert matchId (room.sit seat chair')
      let bindings := chair.connection.elim lobby.bindings lobby.bindings.erase
      Lobby.bind ⟨rooms, bindings⟩ matchId connection seat
    | none => lobby.bind matchId connection seat
  | none =>
    match room.freeSeat? with
    | none => (.error .matchFull, lobby)
    | some seat =>
      let rooms := lobby.rooms.insert matchId (room.sit seat ⟨token, some connection, false⟩)
      { lobby with rooms }.bind matchId connection seat

/-- A connection asks for a seat in a match on behalf of a token. A connection that has its seat
there already keeps it. -/
def join (lobby : Lobby) (matchId : MatchId) (connection : ConnectionId) (token : String) :
    Except RoomError Session × Lobby :=
  let token := Text.trim token
  if token.isEmpty then (.error .missingToken, lobby)
  else
    match lobby.bindings.get? connection with
    | some (bound, seat) =>
      if bound ≠ matchId then (.error (.alreadyInAnotherMatch bound), lobby)
      else
        match lobby.sessionAt connection matchId seat with
        | some session => (.ok session, lobby)
        | none => (.error .notJoined, lobby)
    | none => lobby.seatToken matchId connection token

/-- A connection goes. Its token keeps the seat, a turn that it had passes on, and a room in which
nobody is left is closed. The answer is the match in which the connection was. -/
def leave (lobby : Lobby) (connection : ConnectionId) : Option MatchId × Lobby :=
  match lobby.bindings.get? connection with
  | none => (none, lobby)
  | some (matchId, seat) =>
    let lobby := { lobby with bindings := lobby.bindings.erase connection }
    match lobby.rooms.get? matchId with
    | none => (some matchId, lobby)
    | some room =>
      let room := (room.disconnect seat connection).passTurn seat
      let rooms :=
        if room.isLive then lobby.rooms.insert matchId room else lobby.rooms.erase matchId
      (some matchId, { lobby with rooms })

/-- A player becomes ready, or is no longer so. -/
def setReady (lobby : Lobby) (connection : ConnectionId) (ready : Bool) :
    Except RoomError RoomView × Lobby :=
  match lobby.bindings.get? connection with
  | none => (.error .notJoined, lobby)
  | some (matchId, seat) =>
    match lobby.rooms.get? matchId with
    | none => (.error .notJoined, lobby)
    | some room =>
      match room.chair? seat with
      | none => (.error .notJoined, lobby)
      | some chair =>
        let room := room.sit seat { chair with ready }
        let lobby := { lobby with rooms := lobby.rooms.insert matchId room }
        (.ok (lobby.roomView matchId), lobby)

/-- Changes the room of a match. -/
def change (lobby : Lobby) (matchId : MatchId) (step : Room → Room) :
    Except RoomError RoomView × Lobby :=
  match lobby.rooms.get? matchId with
  | none => (.error (.roomNotFound matchId), lobby)
  | some room =>
    let lobby := { lobby with rooms := lobby.rooms.insert matchId (step room) }
    (.ok (lobby.roomView matchId), lobby)

/-- A hand begins in a match. -/
def beginHand (lobby : Lobby) (matchId : MatchId) : Except RoomError RoomView × Lobby :=
  lobby.change matchId Room.beginHand

/-- A hand goes on in a match. -/
def resumeHand (lobby : Lobby) (matchId : MatchId) (awaiting : Option Side) :
    Except RoomError RoomView × Lobby :=
  lobby.change matchId (fun room => room.resumeHand awaiting)

/-- The turn passes on in a match. -/
def advanceTurn (lobby : Lobby) (matchId : MatchId) (awaiting : Option Side) :
    Except RoomError RoomView × Lobby :=
  lobby.change matchId (fun room => room.advanceTurn awaiting)

/-- A hand is over in a match. -/
def endHand (lobby : Lobby) (matchId : MatchId) : Except RoomError RoomView × Lobby :=
  lobby.change matchId Room.endHand

end Lobby

end TrucoPaulista
