import TrucoPaulista.Match
import TrucoPaulista.Room

namespace TrucoPaulista

/-- A player as the others at the table are told. -/
structure RoomPlayer where
  seat : Seat
  team : Team
  ready : Bool
  connected : Bool
  deriving DecidableEq

/-- What players are told. -/
inductive Event where
  | created (matchId : MatchId)
  | playerAssigned (matchId : MatchId) (seat : Seat) (team : Team) (side : Side)
  | roomState (matchId : MatchId) (players : List RoomPlayer) (canStart : Bool)
      (currentTurn : Option Seat)
  | matchState (matchId : MatchId) (state : MatchState) (score : Score) (pointsToWin : UInt32)
      (vira : Option Rank) (roundsPlayed : UInt64)
  | handStarted (matchId : MatchId) (vira : Rank)
  | cardPlayed (matchId : MatchId) (seat : Seat) (team : Team) (card : Card)
  | error (message : String)
  deriving DecidableEq

/-- A player as seen in a room. -/
def RoomPlayer.ofView (view : SeatView) : RoomPlayer :=
  ⟨view.seat, view.seat.team, view.ready, view.connected⟩

/-- The state of a room as it is told. -/
def Event.ofRoom (view : RoomView) : Event :=
  .roomState view.matchId (view.players.map RoomPlayer.ofView) view.canStart view.currentTurn

end TrucoPaulista
