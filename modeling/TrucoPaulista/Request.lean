import TrucoPaulista.Card.Code
import TrucoPaulista.Command
import TrucoPaulista.Match
import TrucoPaulista.Refusal

namespace TrucoPaulista

namespace Request

/-- The name of a match as it is given by a player. -/
def matchId (text : String) : Except Refusal MatchId :=
  let text := Text.trim text
  if text.isEmpty then .error (.invalid "matchId is required") else .ok text

/-- The points to win as they are given by a player. -/
def pointsToWin : Option Int64 → Except Refusal UInt32
  | none => .ok defaultPointsToWin
  | some points =>
    if points ≤ 0 then .error (.invalid "pointsToWin must be greater than 0")
    else if points.toInt < UInt32.size then .ok (UInt32.ofNat points.toInt.toNat)
    else .error (.invalid "pointsToWin is too large")

/-- A rank as it is given by a player. -/
def rank (text : String) : Except Refusal Rank :=
  match Rank.parse text with
  | .ok rank => .ok rank
  | .error _ => .error (.invalid ("invalid rank: " ++ text))

/-- The vira as it is given by a player. -/
def vira (text : String) : Except Refusal Rank :=
  let text := Text.trim text
  if text.isEmpty then .error (.invalid "viraRank is required") else rank text

/-- The words for a suit, in English and in Portuguese, its letter and its sign. -/
def suitWords : Suit → List String
  | .clubs => ["C", "CLUBS", "PAUS", "♣"]
  | .hearts => ["H", "HEARTS", "COPAS", "♥"]
  | .spades => ["S", "SPADES", "ESPADAS", "♠"]
  | .diamonds => ["D", "DIAMONDS", "OUROS", "♦"]

/-- A suit as it is given by a player. -/
def suit (text : String) : Except Refusal Suit :=
  let word := String.ofList (codeChars text)
  match Suit.all.find? (fun suit => (suitWords suit).contains word) with
  | some suit => .ok suit
  | none => .error (.invalid ("invalid suit: " ++ Text.trim text))

/-- A card as it is given by a player. -/
def card (words : CardWords) : Except Refusal Card := do
  let rankText := Text.trim words.rank
  if rankText.isEmpty then throw (.invalid "card.rank is required")
  if (Text.trim words.suit).isEmpty then throw (.invalid "card.suit is required")
  let rank ← rank rankText
  let suit ← suit words.suit
  return ⟨rank, suit⟩

end Request

end TrucoPaulista
