import TrucoPaulista.Side

namespace TrucoPaulista

/-- Why the rules refuse something. -/
inductive GameError where
  | invalidCard (text : String)
  | invalidRank (text : String)
  | invalidSuit (text : String)
  | invalidPointsToWin
  | roundFinished
  | sideAlreadyPlayed (side : Side)
  | roundNotFinished
  | handFinished
  | matchFinished
  | matchNotInProgress
  | unsupportedSnapshot (version : UInt32)
  | corruptSnapshot (reason : String)
  deriving DecidableEq

def GameError.message : GameError → String
  | invalidCard text => "invalid card: " ++ text
  | invalidRank text => "invalid rank: " ++ text
  | invalidSuit text => "invalid suit: " ++ text
  | invalidPointsToWin => "pointsToWin must be greater than 0"
  | roundFinished => "round already finished"
  | sideAlreadyPlayed side => "side " ++ side.code ++ " already played this round"
  | roundNotFinished => "round not finished yet"
  | handFinished => "hand already finished"
  | matchFinished => "match already finished"
  | matchNotInProgress => "match not in progress"
  | unsupportedSnapshot version => "unsupported snapshot version " ++ toString version.toNat
  | corruptSnapshot reason => "corrupt snapshot: " ++ reason

end TrucoPaulista
