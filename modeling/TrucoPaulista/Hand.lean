import TrucoPaulista.Round

namespace TrucoPaulista

/-- How a hand ended. A drawn hand is worth nothing to anyone. -/
inductive HandResult where
  | won (side : Side)
  | drawn
  deriving DecidableEq

namespace HandResult

def winner : HandResult → Option Side
  | won side => some side
  | drawn => none

/-- The result of a hand that hangs on one round. -/
def ofRound : RoundResult → HandResult
  | .won side => won side
  | .tie => drawn

end HandResult

/-- The most rounds a hand can have. -/
def maxRounds : Nat := 3

/-- The round wins that settle a hand at once. -/
def winsForHand : Nat := 2

/-- The number of rounds that a side won. -/
def winsOf (side : Side) (results : List RoundResult) : Nat :=
  results.countP (fun result => result.winner = some side)

/-- The result of a hand, from the results of its rounds, if they settle it: two wins of a side;
after two rounds a win beside a tie; after three rounds the last one. -/
def resolve (results : List RoundResult) : Option HandResult :=
  match Side.all.find? (fun side => winsForHand ≤ winsOf side results) with
  | some side => some (.won side)
  | none =>
    match results with
    | .won side :: .tie :: _ => some (.won side)
    | .tie :: .won side :: _ => some (.won side)
    | [.tie, .tie, third] => some (.ofRound third)
    | [.won _, .won _, third] => some (.ofRound third)
    | _ => none

/-- A hand: the rounds before the current one, in order, and the current one. -/
structure Hand where
  vira : Rank
  earlier : List Round
  current : Round
  finished : Bool
  deriving DecidableEq

namespace Hand

/-- The hand before its first card. -/
def start (vira : Rank) : Hand := ⟨vira, [], .start vira, false⟩

def rounds (h : Hand) : List Round := h.earlier ++ [h.current]

/-- The results of the finished rounds, in order. -/
def results (h : Hand) : List RoundResult := h.rounds.filterMap (fun r => r.result.toOption)

/-- How the hand ended. -/
def result (h : Hand) : Option HandResult := if h.finished then resolve h.results else none

def winner (h : Hand) : Option Side := h.result.bind HandResult.winner

/-- The side whose card is missing beside the other one in the current round. -/
def awaiting (h : Hand) : Option Side :=
  if h.finished then none
  else
    match h.current.a, h.current.b with
    | some _, none => some .b
    | none, some _ => some .a
    | _, _ => none

/-- The hand after its current round was finished: settled, or with one more round. -/
def advance (h : Hand) : Hand :=
  if (resolve h.results).isSome then { h with finished := true }
  else if h.rounds.length < maxRounds then
    { h with earlier := h.rounds, current := .start h.vira }
  else { h with finished := true }

/-- A side plays a card. The answer is the result of the round that the card finished. -/
def play (h : Hand) (side : Side) (card : Card) : Except GameError (Option RoundResult) × Hand :=
  if h.finished then (.error .handFinished, h)
  else
    match h.current.play side card with
    | (.error refusal, r) => (.error refusal, { h with current := r })
    | (.ok (), r) =>
      let h := { h with current := r }
      if r.isFinished then
        match r.result with
        | .error refusal => (.error refusal, h)
        | .ok result => (.ok (some result), h.advance)
      else (.ok none, h)

end Hand

end TrucoPaulista
