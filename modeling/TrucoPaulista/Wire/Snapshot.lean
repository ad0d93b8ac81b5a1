import TrucoPaulista.Json.Reader
import TrucoPaulista.Wire.Game

namespace TrucoPaulista

open Json (Shape)

namespace RoundSnapshot

/-- The cards of a round as JSON. A card that is not there is left out. -/
def playsToJson (r : RoundSnapshot) : Json :=
  .obj ((r.a.map (fun card => ("a", card.toJson))).toList
    ++ (r.b.map (fun card => ("b", card.toJson))).toList)

def toJson (r : RoundSnapshot) : Json := .obj [("plays", r.playsToJson)]

/-- The cards of a round from JSON. -/
def ofPlays? (json : Json) : Option RoundSnapshot :=
  match json.slots? ["a", "b"] with
  | some [a, b] => do return ⟨← a.defaulted Card.ofJson?, ← b.defaulted Card.ofJson?⟩
  | _ => none

def ofJson? (json : Json) : Option RoundSnapshot :=
  match json.slots? ["plays"] with
  | some [plays] => plays.required ofPlays?
  | _ => none

def shape : Shape := .record [("plays", .record [("a", .any), ("b", .any)])]

end RoundSnapshot

namespace HandSnapshot

def toJson (h : HandSnapshot) : Json :=
  .obj [("vira", h.vira.toJson), ("finished", .bool h.finished),
    ("rounds", .ofList RoundSnapshot.toJson h.rounds)]

def ofJson? (json : Json) : Option HandSnapshot :=
  match json.slots? ["vira", "finished", "rounds"] with
  | some [vira, finished, rounds] => do
    return {
      vira := ← vira.required Rank.ofJson?
      finished := ← finished.required Json.bool?
      rounds := ← rounds.required (Json.list? RoundSnapshot.ofJson?) }
  | _ => none

def shape : Shape :=
  .record [("vira", .any), ("finished", .any), ("rounds", .list RoundSnapshot.shape)]

end HandSnapshot

def Score.shapeAs (nameA nameB : String) : Shape := .record [(nameA, .any), (nameB, .any)]

namespace MatchSnapshot

def toJson (m : MatchSnapshot) : Json :=
  .obj [("version", .ofUInt32 m.version), ("state", m.state.toJson),
    ("points_to_win", .ofUInt32 m.pointsToWin), ("score", m.score.toJson),
    ("current_hand", .ofOption HandSnapshot.toJson m.currentHand)]

def ofJson? (json : Json) : Option MatchSnapshot :=
  match json.slots? ["version", "state", "points_to_win", "score", "current_hand"] with
  | some [version, state, points, score, hand] => do
    return {
      version := ← version.required Json.uint32?
      state := ← state.required (MatchState.ofJson? false)
      pointsToWin := ← points.required Json.uint32?
      score := ← score.required Score.ofJson?
      currentHand := ← hand.optional HandSnapshot.ofJson? }
  | _ => none

def shape : Shape :=
  .record [("version", .any), ("state", .any), ("points_to_win", .any),
    ("score", Score.shapeAs "side_a" "side_b"), ("current_hand", .optional HandSnapshot.shape)]

end MatchSnapshot

namespace Match

def toJson (m : Match) : Json := m.snapshot.toJson

def ofJson (json : Json) : Except GameError Match :=
  match MatchSnapshot.ofJson? json with
  | some snapshot => snapshot.restore
  | none => .error (.corruptSnapshot "(shape)")

end Match

end TrucoPaulista
