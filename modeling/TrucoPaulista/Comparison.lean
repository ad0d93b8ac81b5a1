import TrucoPaulista.Card
import TrucoPaulista.Side

namespace TrucoPaulista

/-- Which of two cards is the better one. -/
inductive Outcome where
  | a
  | b
  | tie
  deriving DecidableEq

namespace Outcome

/-- The outcome with the two cards exchanged. -/
def flip : Outcome → Outcome
  | a => b
  | b => a
  | tie => tie

/-- The outcome of a comparison of strengths. -/
def ofOrdering : Ordering → Outcome
  | .gt => a
  | .lt => b
  | .eq => tie

def winner : Outcome → Option Side
  | a => some .a
  | b => some .b
  | tie => none

end Outcome

/-- The rank of the manilhas under a vira. -/
def manilha (vira : Rank) : Rank := vira.next

/-- The better one of two cards. A manilha beats every other card, of two manilhas the stronger suit
wins, and among the others the rank decides alone. -/
def Card.compare (cardA cardB : Card) (vira : Rank) : Outcome :=
  match decide (cardA.rank = manilha vira), decide (cardB.rank = manilha vira) with
  | true, false => .a
  | false, true => .b
  | true, true => .ofOrdering (Ord.compare cardA.suit.strength cardB.suit.strength)
  | false, false => .ofOrdering (Ord.compare cardA.rank.strength cardB.rank.strength)

end TrucoPaulista
