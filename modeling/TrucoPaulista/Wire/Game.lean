import TrucoPaulista.Card.Code
import TrucoPaulista.Json.Field
import TrucoPaulista.Snapshot

namespace TrucoPaulista

open Json (Slot)

/-- The value of an enumeration that has a name. -/
def named? {α : Type} (all : List α) (name : α → String) (text : String) : Option α :=
  all.find? (fun value => name value = text)

def Rank.toJson (rank : Rank) : Json := .str rank.code

def Rank.ofJson? (json : Json) : Option Rank := json.text?.bind (fun text => (parse text).toOption)

def Suit.toJson (suit : Suit) : Json := .str suit.code

def Suit.ofJson? (json : Json) : Option Suit := json.text?.bind (fun text => (parse text).toOption)

def Card.toJson (card : Card) : Json := .str card.code

def Card.ofJson? (json : Json) : Option Card := json.text?.bind (fun text => (parse text).toOption)

def Side.toJson (side : Side) : Json := .str side.code

def Side.ofJson? (tagged : Bool) (json : Json) : Option Side :=
  (json.unitVariant? tagged).bind (named? all code)

def Outcome.name : Outcome → String
  | a => "A"
  | b => "B"
  | tie => "Tie"

def Outcome.toJson (outcome : Outcome) : Json := .str outcome.name

def Outcome.ofJson? (json : Json) : Option Outcome :=
  (json.unitVariant? false).bind (named? [.a, .b, .tie] name)

def RoundResult.toJson : RoundResult → Json
  | won side => .obj [("Won", side.toJson)]
  | tie => .str "Tie"

def RoundResult.ofJson? (json : Json) : Option RoundResult :=
  match json.variant? with
  | some ("Won", some content) => (Side.ofJson? false content).map won
  | some ("Tie", content) => if content.all (Json.isVoid false) then some tie else none
  | _ => none

def HandResult.toJson : HandResult → Json
  | won side => .obj [("Won", side.toJson)]
  | drawn => .str "Drawn"

def HandResult.ofJson? (json : Json) : Option HandResult :=
  match json.variant? with
  | some ("Won", some content) => (Side.ofJson? false content).map won
  | some ("Drawn", content) => if content.all (Json.isVoid false) then some drawn else none
  | _ => none

def MatchState.toJson (state : MatchState) : Json := .str state.name

def MatchState.ofJson? (tagged : Bool) (json : Json) : Option MatchState :=
  (json.unitVariant? tagged).bind ofName?

def Score.toJsonAs (nameA nameB : String) (score : Score) : Json :=
  .obj [(nameA, .ofUInt32 score.a), (nameB, .ofUInt32 score.b)]

def Score.ofJsonAs? (nameA nameB : String) (json : Json) : Option Score :=
  match json.slots? [nameA, nameB] with
  | some [a, b] => do return ⟨← a.required Json.uint32?, ← b.required Json.uint32?⟩
  | _ => none

def Score.toJson : Score → Json := toJsonAs "side_a" "side_b"

def Score.ofJson? : Json → Option Score := ofJsonAs? "side_a" "side_b"

def Score.toWire : Score → Json := toJsonAs "sideA" "sideB"

def Score.ofWire? : Json → Option Score := ofJsonAs? "sideA" "sideB"

namespace GameError

def name : GameError → String
  | invalidCard _ => "InvalidCard"
  | invalidRank _ => "InvalidRank"
  | invalidSuit _ => "InvalidSuit"
  | invalidPointsToWin => "InvalidPointsToWin"
  | roundFinished => "RoundFinished"
  | sideAlreadyPlayed _ => "SideAlreadyPlayed"
  | roundNotFinished => "RoundNotFinished"
  | handFinished => "HandFinished"
  | matchFinished => "MatchFinished"
  | matchNotInProgress => "MatchNotInProgress"
  | unsupportedSnapshot _ => "UnsupportedSnapshot"
  | corruptSnapshot _ => "CorruptSnapshot"

def content? : GameError → Option Json
  | invalidCard text | invalidRank text | invalidSuit text | corruptSnapshot text =>
    some (.str text)
  | sideAlreadyPlayed side => some side.toJson
  | unsupportedSnapshot version => some (.ofUInt32 version)
  | _ => none

def toJson (refusal : GameError) : Json :=
  match refusal.content? with
  | some content => .obj [(refusal.name, content)]
  | none => .str refusal.name

def plain : List GameError := [
  .invalidPointsToWin, .roundFinished, .roundNotFinished, .handFinished, .matchFinished,
  .matchNotInProgress]

def ofContent? (name : String) (content : Json) : Option GameError :=
  match name with
  | "InvalidCard" => content.text?.map invalidCard
  | "InvalidRank" => content.text?.map invalidRank
  | "InvalidSuit" => content.text?.map invalidSuit
  | "SideAlreadyPlayed" => (Side.ofJson? false content).map sideAlreadyPlayed
  | "UnsupportedSnapshot" => content.uint32?.map unsupportedSnapshot
  | "CorruptSnapshot" => content.text?.map corruptSnapshot
  | _ => none

def ofJson? (json : Json) : Option GameError := do
  let (text, content) ← json.variant?
  match named? plain name text with
  | some refusal =>
    guard (content.all (Json.isVoid false))
    return refusal
  | none => ofContent? text (← content)

end GameError

end TrucoPaulista
