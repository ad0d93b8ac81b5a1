import TrucoPaulista.Archive
import TrucoPaulista.RoomError

namespace TrucoPaulista

/-- Why a player's wish is refused. -/
inductive Refusal where
  | invalid (reason : String)
  | game (refusal : GameError)
  | matchNotFound (matchId : MatchId)
  | archive (failure : ArchiveError)
  | room (refusal : RoomError)
  | unavailable (matchId : MatchId)
  deriving DecidableEq

namespace Refusal

def message : Refusal → String
  | invalid reason => reason
  | game refusal => refusal.message
  | matchNotFound _ => "match not found"
  | archive failure => failure.message
  | room refusal => refusal.message
  | unavailable matchId => "match " ++ matchId ++ " is unavailable"

/-- A refusal in the words that a player is told. What goes wrong in the archive is not told. -/
def clientMessage : Refusal → String
  | archive (.notFound _) => "match not found"
  | archive _ => "Internal server error"
  | unavailable _ => "match is unavailable"
  | refusal => refusal.message

end Refusal

end TrucoPaulista
