import TrucoPaulista.Lobby
import TrucoPaulista.Service
import TrucoPaulista.Wire.Room

namespace TrucoPaulista

def MatchView.toJson (view : MatchView) : Json :=
  .obj [("matchId", .str view.matchId), ("state", view.state.toJson),
    ("score", view.score.toWire), ("pointsToWin", .ofUInt32 view.pointsToWin),
    ("vira", .ofOption Rank.toJson view.vira), ("roundsPlayed", .ofUInt64 view.roundsPlayed)]

def HandStart.toJson (start : HandStart) : Json :=
  .obj [("matchId", .str start.matchId), ("vira", start.vira.toJson),
    ("started", .bool start.started)]

def Session.toJson (session : Session) : Json :=
  .obj [("matchId", .str session.matchId), ("seat", session.seat.toJson),
    ("team", session.seat.team.toJson), ("side", session.seat.side.toJson),
    ("connectionId", .str session.connection)]

def SeatView.toJson (view : SeatView) : Json :=
  .obj [("seat", view.seat.toJson), ("team", view.seat.team.toJson),
    ("side", view.seat.side.toJson), ("ready", .bool view.ready),
    ("connected", .bool view.connected)]

def RoomView.toJson (view : RoomView) : Json :=
  .obj [("matchId", .str view.matchId), ("players", .ofList SeatView.toJson view.players),
    ("canStart", .bool view.canStart), ("currentTurn", .ofOption Seat.toJson view.currentTurn)]

end TrucoPaulista
