import TrucoPaulista.Command
import TrucoPaulista.Json.Field
import TrucoPaulista.Json.Reader

namespace TrucoPaulista

open Json (Shape)

namespace CardWords

def toJson (card : CardWords) : Json := .obj [("rank", .str card.rank), ("suit", .str card.suit)]

def ofJson? (json : Json) : Option CardWords :=
  match json.slots? ["rank", "suit"] with
  | some [rank, suit] => do return ⟨← rank.required Json.text?, ← suit.required Json.text?⟩
  | _ => none

def shape : Shape := .record [("rank", .any), ("suit", .any)]

end CardWords

namespace Command

def toJson : Command → Json
  | createMatch points =>
    .obj [("type", .str "create-match"), ("pointsToWin", .ofOption Json.ofInt64 points)]
  | joinMatch matchId => .obj [("type", .str "join-match"), ("matchId", .str matchId)]
  | setReady ready => .obj [("type", .str "set-ready"), ("ready", .bool ready)]
  | startHand matchId vira =>
    .obj [("type", .str "start-hand"), ("matchId", .str matchId),
      ("viraRank", .ofOption Json.str vira)]
  | playCard matchId card =>
    .obj [("type", .str "play-card"), ("matchId", .str matchId), ("card", card.toJson)]
  | getState matchId => .obj [("type", .str "get-state"), ("matchId", .str matchId)]

def ofFields? (tag : String) (fields : Json) : Option Command :=
  match tag with
  | "create-match" =>
    match fields.slots? ["pointsToWin"] with
    | some [points] => (points.defaulted Json.int64?).map createMatch
    | _ => none
  | "join-match" =>
    match fields.slots? ["matchId"] with
    | some [matchId] => (matchId.required Json.text?).map joinMatch
    | _ => none
  | "set-ready" =>
    match fields.slots? ["ready"] with
    | some [ready] => (ready.required Json.bool?).map setReady
    | _ => none
  | "start-hand" =>
    match fields.slots? ["matchId", "viraRank"] with
    | some [matchId, vira] => do
      return startHand (← matchId.required Json.text?) (← vira.defaulted Json.text?)
    | _ => none
  | "play-card" =>
    match fields.slots? ["matchId", "card"] with
    | some [matchId, card] => do
      return playCard (← matchId.required Json.text?) (← card.required CardWords.ofJson?)
    | _ => none
  | "get-state" =>
    match fields.slots? ["matchId"] with
    | some [matchId] => (matchId.required Json.text?).map getState
    | _ => none
  | _ => none

def ofJson? (json : Json) : Option Command := do
  let (tag, fields) ← json.tagged?
  ofFields? tag fields

/-- Reads a command. -/
def parse? (text : String) : Option Command := (Json.read .any text).toOption.bind ofJson?

end Command

end TrucoPaulista
