import TrucoPaulista.Wire.Room

namespace TrucoPaulista

namespace Event

def toJson : Event → Json
  | created matchId => .obj [("type", .str "created"), ("matchId", .str matchId)]
  | playerAssigned matchId seat team side =>
    .obj [("type", .str "player-assigned"), ("matchId", .str matchId), ("seatId", seat.toJson),
      ("teamId", team.toJson), ("domainSide", side.toJson)]
  | roomState matchId players canStart currentTurn =>
    .obj [("type", .str "room-state"), ("matchId", .str matchId),
      ("players", .ofList RoomPlayer.toJson players), ("canStart", .bool canStart),
      ("currentTurnSeat", .ofOption Seat.toJson currentTurn)]
  | matchState matchId state score pointsToWin vira roundsPlayed =>
    .obj [("type", .str "match-state"), ("matchId", .str matchId), ("state", state.toJson),
      ("score", score.toWire), ("pointsToWin", .ofUInt32 pointsToWin),
      ("viraRank", .ofOption Rank.toJson vira), ("roundsPlayed", .ofUInt64 roundsPlayed)]
  | handStarted matchId vira =>
    .obj [("type", .str "hand-started"), ("matchId", .str matchId), ("viraRank", vira.toJson)]
  | cardPlayed matchId seat team card =>
    .obj [("type", .str "card-played"), ("matchId", .str matchId), ("seatId", seat.toJson),
      ("teamId", team.toJson), ("card", card.toJson)]
  | error message => .obj [("type", .str "error"), ("message", .str message)]

def ofFields? (tag : String) (fields : Json) : Option Event :=
  match tag with
  | "created" =>
    match fields.slots? ["matchId"] with
    | some [matchId] => (matchId.required Json.text?).map created
    | _ => none
  | "player-assigned" =>
    match fields.slots? ["matchId", "seatId", "teamId", "domainSide"] with
    | some [matchId, seat, team, side] => do
      return playerAssigned (← matchId.required Json.text?) (← seat.required (Seat.ofJson? true))
        (← team.required (Team.ofJson? true)) (← side.required (Side.ofJson? true))
    | _ => none
  | "room-state" =>
    match fields.slots? ["matchId", "players", "canStart", "currentTurnSeat"] with
    | some [matchId, players, canStart, currentTurn] => do
      return roomState (← matchId.required Json.text?)
        (← players.required (Json.list? (RoomPlayer.ofJson? true)))
        (← canStart.required Json.bool?) (← currentTurn.optional (Seat.ofJson? true))
    | _ => none
  | "match-state" =>
    match fields.slots?
      ["matchId", "state", "score", "pointsToWin", "viraRank", "roundsPlayed"] with
    | some [matchId, state, score, pointsToWin, vira, roundsPlayed] => do
      return matchState (← matchId.required Json.text?) (← state.required (MatchState.ofJson? true))
        (← score.required Score.ofWire?) (← pointsToWin.required Json.uint32?)
        (← vira.optional Rank.ofJson?) (← roundsPlayed.required Json.uint64?)
    | _ => none
  | "hand-started" =>
    match fields.slots? ["matchId", "viraRank"] with
    | some [matchId, vira] => do
      return handStarted (← matchId.required Json.text?) (← vira.required Rank.ofJson?)
    | _ => none
  | "card-played" =>
    match fields.slots? ["matchId", "seatId", "teamId", "card"] with
    | some [matchId, seat, team, card] => do
      return cardPlayed (← matchId.required Json.text?) (← seat.required (Seat.ofJson? true))
        (← team.required (Team.ofJson? true)) (← card.required Card.ofJson?)
    | _ => none
  | "error" =>
    match fields.slots? ["message"] with
    | some [message] => (message.required Json.text?).map error
    | _ => none
  | _ => none

def ofJson? (json : Json) : Option Event := do
  let (tag, fields) ← json.tagged?
  ofFields? tag fields

end Event

end TrucoPaulista
