import TrucoPaulista.Card
import TrucoPaulista.GameError
import TrucoPaulista.Text.Blank
import TrucoPaulista.Text.Upper

namespace TrucoPaulista

/-- What is read of a code: no white space at the ends, and letters in upper case. -/
def codeChars (text : String) : List Char := Text.upper (Text.trimChars text.toList)

/-- The rank that characters stand for. -/
def Rank.ofChars? : List Char → Option Rank
  | [symbol] => Rank.ofSymbol? symbol
  | _ => none

/-- The suit that characters stand for. -/
def Suit.ofChars? : List Char → Option Suit
  | [symbol] => Suit.ofSymbol? symbol
  | _ => none

/-- The card that characters stand for. -/
def Card.ofChars? : List Char → Option Card
  | [rankSymbol, suitSymbol] => do
    let rank ← Rank.ofSymbol? rankSymbol
    let suit ← Suit.ofSymbol? suitSymbol
    return ⟨rank, suit⟩
  | _ => none

/-- Reads a rank. -/
def Rank.parse (text : String) : Except GameError Rank :=
  match Rank.ofChars? (codeChars text) with
  | some rank => .ok rank
  | none => .error (.invalidRank text)

/-- Reads a suit. -/
def Suit.parse (text : String) : Except GameError Suit :=
  match Suit.ofChars? (codeChars text) with
  | some suit => .ok suit
  | none => .error (.invalidSuit text)

/-- Reads a card: a rank and then a suit. -/
def Card.parse (text : String) : Except GameError Card :=
  match Card.ofChars? (codeChars text) with
  | some card => .ok card
  | none => .error (.invalidCard text)

end TrucoPaulista
