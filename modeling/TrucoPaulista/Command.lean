import TrucoPaulista.RoomError

namespace TrucoPaulista

/-- A card in a player's words: rank and suit apart. -/
structure CardWords where
  rank : String
  suit : String
  deriving DecidableEq

/-- What a player asks for. -/
inductive Command where
  | createMatch (pointsToWin : Option Int64)
  | joinMatch (matchId : MatchId)
  | setReady (ready : Bool)
  | startHand (matchId : MatchId) (vira : Option String)
  | playCard (matchId : MatchId) (card : CardWords)
  | getState (matchId : MatchId)
  deriving DecidableEq

end TrucoPaulista
