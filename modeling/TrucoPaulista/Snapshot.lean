import TrucoPaulista.Match

namespace TrucoPaulista

/-- The cards of a round as they are stored. -/
structure RoundSnapshot where
  a : Option Card
  b : Option Card
  deriving DecidableEq

/-- A hand as it is stored. -/
structure HandSnapshot where
  vira : Rank
  finished : Bool
  rounds : List RoundSnapshot
  deriving DecidableEq

/-- A match as it is stored. -/
structure MatchSnapshot where
  version : UInt32
  state : MatchState
  pointsToWin : UInt32
  score : Score
  currentHand : Option HandSnapshot
  deriving DecidableEq

/-- The version of the stored form. -/
def snapshotVersion : UInt32 := 1

/-- The stored form of a round. -/
def Round.snapshot (r : Round) : RoundSnapshot := ⟨r.a, r.b⟩

/-- The stored form of a hand. -/
def Hand.snapshot (h : Hand) : HandSnapshot := ⟨h.vira, h.finished, h.rounds.map Round.snapshot⟩

/-- The stored form of a match. -/
def Match.snapshot (m : Match) : MatchSnapshot :=
  ⟨snapshotVersion, m.state, m.pointsToWin, m.score, m.hand.map Hand.snapshot⟩

/-- The cards of a round, side A's first. -/
def RoundSnapshot.plays (r : RoundSnapshot) : List (Side × Card) :=
  (r.a.map (fun card => (Side.a, card))).toList ++ (r.b.map (fun card => (Side.b, card))).toList

/-- Plays cards one after the other. -/
def Hand.replay (h : Hand) : List (Side × Card) → Except GameError Hand
  | [] => .ok h
  | (side, card) :: rest =>
    match h.play side card with
    | (.ok _, h) => h.replay rest
    | (.error refusal, _) =>
      .error (.corruptSnapshot
        ("replaying " ++ card.code ++ " for side " ++ side.code ++ ": " ++ refusal.message))

/-- The hand that a stored hand stands for: its cards are played again, and must make as many rounds
as are stored. -/
def HandSnapshot.restore (s : HandSnapshot) : Except GameError Hand := do
  if s.rounds.isEmpty || maxRounds < s.rounds.length then
    throw (.corruptSnapshot ("hand has " ++ toString s.rounds.length ++ " rounds"))
  let h ← (Hand.start s.vira).replay (s.rounds.flatMap RoundSnapshot.plays)
  if h.rounds.length ≠ s.rounds.length then
    throw (.corruptSnapshot
      ("hand replays into " ++ toString h.rounds.length ++ " rounds, snapshot lists "
        ++ toString s.rounds.length))
  return h

namespace MatchSnapshot

/-- Refuses a stored match whose state does not agree with its score. -/
def checkScore (s : MatchSnapshot) : Except GameError Unit :=
  match s.state, s.score.leaderAt s.pointsToWin with
  | .finished, none => .error (.corruptSnapshot "finished match without a winner")
  | .finished, some _ => .ok ()
  | _, none => .ok ()
  | state, some side =>
    .error (.corruptSnapshot
      ("side " ++ side.code ++ " reached the threshold but the match is " ++ state.name))

/-- The hand of a stored match, which must be there exactly in a match that is in progress. -/
def restoreHand (s : MatchSnapshot) : Except GameError (Option Hand) :=
  match s.state, s.currentHand with
  | .inProgress, some stored => do
    let h ← stored.restore
    if h.finished then throw (.corruptSnapshot "running hand is already finished")
    return some h
  | .inProgress, none => .error (.corruptSnapshot "match in progress without a hand")
  | state, some _ => .error (.corruptSnapshot (state.name ++ " match carries a hand"))
  | _, none => .ok none

/-- The match that a stored match stands for. -/
def restore (s : MatchSnapshot) : Except GameError Match := do
  if s.version ≠ snapshotVersion then throw (.unsupportedSnapshot s.version)
  if s.pointsToWin = 0 then throw .invalidPointsToWin
  s.checkScore
  let hand ← s.restoreHand
  return ⟨s.pointsToWin, s.state, s.score, hand⟩

end MatchSnapshot

end TrucoPaulista
