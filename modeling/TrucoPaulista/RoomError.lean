namespace TrucoPaulista

/-- The name of a match. -/
abbrev MatchId := String

/-- The name of a connection. -/
abbrev ConnectionId := String

/-- Why a room refuses something. -/
inductive RoomError where
  | missingToken
  | alreadyInAnotherMatch (matchId : MatchId)
  | matchFull
  | notJoined
  | notAllReady
  | notYourTurn
  | roomNotFound (matchId : MatchId)
  deriving DecidableEq

def RoomError.message : RoomError → String
  | missingToken => "player token is required"
  | alreadyInAnotherMatch matchId => "connection already joined match " ++ matchId
  | matchFull => "match is full"
  | notJoined => "you must join a match first"
  | notAllReady => "not all players are ready"
  | notYourTurn => "not your turn"
  | roomNotFound matchId => "room not found: " ++ matchId

end TrucoPaulista
