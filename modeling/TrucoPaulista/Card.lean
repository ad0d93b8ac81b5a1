namespace TrucoPaulista

/-- The ten ranks of the deck, from the weakest to the strongest. There is no eight, nine or ten. -/
inductive Rank where
  | four
  | five
  | six
  | seven
  | queen
  | jack
  | king
  | ace
  | two
  | three
  deriving DecidableEq

namespace Rank

def all : List Rank := [.four, .five, .six, .seven, .queen, .jack, .king, .ace, .two, .three]

/-- The place of a rank in the base order. -/
def strength : Rank → Nat
  | four => 0
  | five => 1
  | six => 2
  | seven => 3
  | queen => 4
  | jack => 5
  | king => 6
  | ace => 7
  | two => 8
  | three => 9

/-- The rank after this one; the strongest is followed by the weakest. -/
def next : Rank → Rank
  | four => five
  | five => six
  | six => seven
  | seven => queen
  | queen => jack
  | jack => king
  | king => ace
  | ace => two
  | two => three
  | three => four

/-- The character that stands for a rank. -/
def symbol : Rank → Char
  | four => '4'
  | five => '5'
  | six => '6'
  | seven => '7'
  | queen => 'Q'
  | jack => 'J'
  | king => 'K'
  | ace => 'A'
  | two => '2'
  | three => '3'

/-- The rank of a character; a letter may be small. -/
def ofSymbol? (c : Char) : Option Rank := all.find? (fun rank => rank.symbol = c.toUpper)

def code (rank : Rank) : String := String.singleton rank.symbol

end Rank

/-- The four suits. -/
inductive Suit where
  | clubs
  | hearts
  | spades
  | diamonds
  deriving DecidableEq

namespace Suit

def all : List Suit := [.clubs, .hearts, .spades, .diamonds]

/-- The strength of a suit between two manilhas: clubs, hearts, spades, diamonds. -/
def strength : Suit → Nat
  | clubs => 3
  | hearts => 2
  | spades => 1
  | diamonds => 0

/-- The letter that stands for a suit. -/
def symbol : Suit → Char
  | clubs => 'C'
  | hearts => 'H'
  | spades => 'S'
  | diamonds => 'D'

/-- The sign printed on the cards of a suit. -/
def glyph : Suit → Char
  | clubs => '♣'
  | hearts => '♥'
  | spades => '♠'
  | diamonds => '♦'

/-- The suit of a letter, which may be small. -/
def ofSymbol? (c : Char) : Option Suit := all.find? (fun suit => suit.symbol = c.toUpper)

def code (suit : Suit) : String := String.singleton suit.symbol

end Suit

/-- A card of the deck. -/
structure Card where
  rank : Rank
  suit : Suit
  deriving DecidableEq

namespace Card

/-- The forty cards, by rank and then by suit. -/
def deck : List Card := Rank.all.flatMap (fun rank => Suit.all.map (fun suit => ⟨rank, suit⟩))

def code (card : Card) : String := String.ofList [card.rank.symbol, card.suit.symbol]

end Card

end TrucoPaulista
