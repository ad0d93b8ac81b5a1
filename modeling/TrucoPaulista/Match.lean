import TrucoPaulista.Hand
import TrucoPaulista.Score

namespace TrucoPaulista

/-- Where a match stands: between two hands, within a hand, or at its end. -/
inductive MatchState where
  | waiting
  | inProgress
  | finished
  deriving DecidableEq

namespace MatchState

def name : MatchState → String
  | waiting => "waiting"
  | inProgress => "in_progress"
  | finished => "finished"

def all : List MatchState := [.waiting, .inProgress, .finished]

/-- The state of a word. -/
def ofName? (text : String) : Option MatchState := all.find? (fun state => state.name = text)

/-- Reads the word for a state. -/
def parse (text : String) : Except GameError MatchState :=
  match ofName? text with
  | some state => .ok state
  | none => .error (.corruptSnapshot ("unknown state " ++ text))

end MatchState

/-- What the call for a new hand did. -/
inductive StartOutcome where
  | started
  | alreadyInProgress
  deriving DecidableEq

/-- What a card brought to an end. -/
structure PlayOutcome where
  round : Option RoundResult
  hand : Option HandResult
  matchWinner : Option Side
  deriving DecidableEq

/-- Whether the card finished the hand. -/
def PlayOutcome.handCompleted (outcome : PlayOutcome) : Bool := outcome.hand.isSome

/-- A match: hands are played until a side has the points to win. -/
structure Match where
  pointsToWin : UInt32
  state : MatchState
  score : Score
  hand : Option Hand
  deriving DecidableEq

/-- The points to win when nothing else is asked for. -/
def defaultPointsToWin : UInt32 := 12

namespace Match

def standard : Match := ⟨defaultPointsToWin, .waiting, .zero, none⟩

/-- A match before its first hand. -/
def create (pointsToWin : UInt32) : Except GameError Match :=
  if pointsToWin = 0 then .error .invalidPointsToWin else .ok { standard with pointsToWin }

def isFinished (m : Match) : Bool := m.state = .finished

def winner (m : Match) : Option Side :=
  if m.isFinished then m.score.leaderAt m.pointsToWin else none

/-- Begins a hand, unless one is being played. -/
def start (m : Match) (vira : Rank) : Except GameError StartOutcome × Match :=
  match m.state with
  | .finished => (.error .matchFinished, m)
  | .inProgress => (.ok .alreadyInProgress, m)
  | .waiting => (.ok .started, { m with hand := some (.start vira), state := .inProgress })

/-- The match after a hand that ended this way. -/
def closeHand (m : Match) (result : HandResult) : Match :=
  let score :=
    match result with
    | .won side => m.score.addPoint side
    | .drawn => m.score
  let state := if (score.leaderAt m.pointsToWin).isSome then .finished else .waiting
  { m with score, state, hand := none }

/-- A side plays a card in the hand. -/
def play (m : Match) (side : Side) (card : Card) : Except GameError PlayOutcome × Match :=
  match m.state, m.hand with
  | .inProgress, some h =>
    match h.play side card with
    | (.error refusal, h) => (.error refusal, { m with hand := some h })
    | (.ok round, h) =>
      if h.finished then
        let result := h.result.getD .drawn
        let m := m.closeHand result
        (.ok ⟨round, some result, m.score.leaderAt m.pointsToWin⟩, m)
      else (.ok ⟨round, none, none⟩, { m with hand := some h })
  | _, _ => (.error .matchNotInProgress, m)

end Match

end TrucoPaulista
