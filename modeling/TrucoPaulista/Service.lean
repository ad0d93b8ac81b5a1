import TrucoPaulista.Action
import TrucoPaulista.Request

namespace TrucoPaulista

/-- A match as players see it. -/
structure MatchView where
  matchId : MatchId
  state : MatchState
  score : Score
  pointsToWin : UInt32
  vira : Option Rank
  roundsPlayed : UInt64
  deriving DecidableEq

/-- The hand that is being played after it was called for. -/
structure HandStart where
  matchId : MatchId
  vira : Rank
  started : Bool
  awaiting : Option Side
  deriving DecidableEq

/-- What a card did, and the match after it. -/
structure CardResult where
  state : MatchView
  outcome : PlayOutcome
  deriving DecidableEq

/-- A match as players see it. -/
def Match.view (m : Match) (matchId : MatchId) : MatchView where
  matchId := matchId
  state := m.state
  score := m.score
  pointsToWin := m.pointsToWin
  vira := m.hand.map Hand.vira
  roundsPlayed := UInt64.ofNat ((m.hand.map (fun h => h.rounds.countP Round.isFinished)).getD 0)

namespace Service

/-- A step on the archive. -/
abbrev Step (α : Type) := Action Archive Refusal α

section Calls

variable {ρ α : Type}

/-- A call of the archive. -/
def onArchive (call : ρ → Except ArchiveError α × ρ) : Action ρ Refusal α :=
  (Action.ofStep call).mapRefusal Refusal.archive

/-- An answer of the rules. -/
def ofRules (answer : Except GameError α) : Action ρ Refusal α :=
  Action.ofExcept (answer.mapError Refusal.game)

end Calls

variable {ρ : Type} [Repository ρ]

/-- The match that is stored under a name. -/
def load (matchId : MatchId) : Action ρ Refusal Match := do
  match ← onArchive (fun archive => Repository.find archive matchId) with
  | some m => return m
  | none => throw (.matchNotFound matchId)

/-- Whether there is a match. -/
def doesExist (text : String) : Action ρ Refusal Bool := do
  let matchId ← Action.ofExcept (Request.matchId text)
  return (← onArchive (fun archive => Repository.find archive matchId)).isSome

/-- Creates a match. -/
def createMatch (points : Option Int64) : Action ρ Refusal MatchId := do
  let points ← Action.ofExcept (Request.pointsToWin points)
  let m ← ofRules (Match.create points)
  onArchive (fun archive => Repository.create archive m)

/-- Begins a hand in a match, unless one is being played. -/
def startHand (text : String) (vira : Rank) : Action ρ Refusal HandStart := do
  let matchId ← Action.ofExcept (Request.matchId text)
  let m ← load matchId
  let (answer, m) := m.start vira
  let outcome ← ofRules answer
  if outcome = .started then onArchive (fun archive => Repository.save archive matchId m)
  return {
    matchId := matchId
    vira := (m.hand.map Hand.vira).getD vira
    started := outcome = .started
    awaiting := m.hand.bind Hand.awaiting }

/-- Plays a card for a side in a match. -/
def playCard (text : String) (side : Side) (card : Card) : Action ρ Refusal CardResult := do
  let matchId ← Action.ofExcept (Request.matchId text)
  let m ← load matchId
  let (answer, m) := m.play side card
  let outcome ← ofRules answer
  onArchive (fun archive => Repository.save archive matchId m)
  return ⟨m.view matchId, outcome⟩

/-- A match as players see it. -/
def viewState (text : String) : Action ρ Refusal MatchView := do
  let matchId ← Action.ofExcept (Request.matchId text)
  let m ← load matchId
  return m.view matchId

end Service

end TrucoPaulista
