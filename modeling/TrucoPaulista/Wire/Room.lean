import TrucoPaulista.Event
import TrucoPaulista.Json.Reader
import TrucoPaulista.Wire.Game

namespace TrucoPaulista

open Json (Shape)

def Team.toJson (team : Team) : Json := .str team.code

def Team.ofJson? (tagged : Bool) (json : Json) : Option Team :=
  (json.unitVariant? tagged).bind (named? all code)

def Seat.toJson (seat : Seat) : Json := .str seat.code

def Seat.ofJson? (tagged : Bool) (json : Json) : Option Seat :=
  (json.unitVariant? tagged).bind (named? all code)

namespace RoomError

def name : RoomError → String
  | missingToken => "MissingToken"
  | alreadyInAnotherMatch _ => "AlreadyInAnotherMatch"
  | matchFull => "MatchFull"
  | notJoined => "NotJoined"
  | notAllReady => "NotAllReady"
  | notYourTurn => "NotYourTurn"
  | roomNotFound _ => "RoomNotFound"

def toJson (refusal : RoomError) : Json :=
  match refusal with
  | alreadyInAnotherMatch matchId | roomNotFound matchId => .obj [(refusal.name, .str matchId)]
  | _ => .str refusal.name

def plain : List RoomError := [
  .missingToken, .matchFull, .notJoined, .notAllReady, .notYourTurn]

def ofContent? (name : String) (content : Json) : Option RoomError :=
  match name with
  | "AlreadyInAnotherMatch" => content.text?.map alreadyInAnotherMatch
  | "RoomNotFound" => content.text?.map roomNotFound
  | _ => none

def ofJson? (json : Json) : Option RoomError := do
  let (text, content) ← json.variant?
  match named? plain name text with
  | some refusal =>
    guard (content.all (Json.isVoid false))
    return refusal
  | none => ofContent? text (← content)

end RoomError

namespace RoomPlayer

def toJson (player : RoomPlayer) : Json :=
  .obj [("seatId", player.seat.toJson), ("teamId", player.team.toJson),
    ("ready", .bool player.ready), ("connected", .bool player.connected)]

def ofJson? (tagged : Bool) (json : Json) : Option RoomPlayer :=
  match json.slots? ["seatId", "teamId", "ready", "connected"] with
  | some [seat, team, ready, connected] => do
    return {
      seat := ← seat.required (Seat.ofJson? tagged)
      team := ← team.required (Team.ofJson? tagged)
      ready := ← ready.required Json.bool?
      connected := ← connected.required Json.bool? }
  | _ => none

def shape : Shape :=
  .record [("seatId", .any), ("teamId", .any), ("ready", .any), ("connected", .any)]

end RoomPlayer

end TrucoPaulista
