import TrucoPaulista.Comparison
import TrucoPaulista.GameError

namespace TrucoPaulista

/-- How a round ended. -/
inductive RoundResult where
  | won (side : Side)
  | tie
  deriving DecidableEq

namespace RoundResult

def winner : RoundResult → Option Side
  | won side => some side
  | tie => none

/-- The result that belongs to an outcome of the cards. -/
def ofOutcome (outcome : Outcome) : RoundResult :=
  match outcome.winner with
  | some side => won side
  | none => tie

end RoundResult

/-- A round: one card of each side, compared under the vira of the hand. -/
structure Round where
  vira : Rank
  a : Option Card
  b : Option Card
  deriving DecidableEq

namespace Round

/-- The round before its first card. -/
def start (vira : Rank) : Round := ⟨vira, none, none⟩

def isFinished (r : Round) : Bool := r.a.isSome && r.b.isSome

def cardOf (r : Round) : Side → Option Card
  | .a => r.a
  | .b => r.b

/-- The round with the card of a side laid down. -/
def lay (r : Round) (side : Side) (card : Card) : Round :=
  match side with
  | .a => { r with a := some card }
  | .b => { r with b := some card }

/-- A side plays a card. -/
def play (r : Round) (side : Side) (card : Card) : Except GameError Unit × Round :=
  if r.isFinished then (.error .roundFinished, r)
  else if (r.cardOf side).isSome then (.error (.sideAlreadyPlayed side), r)
  else (.ok (), r.lay side card)

/-- How the round ended. -/
def result (r : Round) : Except GameError RoundResult :=
  match r.a, r.b with
  | some cardA, some cardB => .ok (.ofOutcome (cardA.compare cardB r.vira))
  | _, _ => .error .roundNotFinished

end Round

end TrucoPaulista
