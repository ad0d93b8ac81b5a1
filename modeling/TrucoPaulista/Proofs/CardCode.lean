import TrucoPaulista.Proofs.Seating
import TrucoPaulista.Proofs.StoredJson
import TrucoPaulista.Proofs.UpperCase

namespace TrucoPaulista

section Symbols

variable {α : Type} {all : List α} {symbol : α → Char} {c : Char}

theorem find?_symbol_of_beyond (ascii : ∀ a, (symbol a).toNat < 128) (beyond : 128 ≤ c.toNat) :
    all.find? (fun a => symbol a = c.toUpper) = none := by
  rw [List.find?_eq_none]
  intro a _ same
  have low := ascii a
  rw [of_decide_eq_true same, Text.toUpper_of_beyond beyond] at low
  omega

theorem find?_symbol_eq_some {a : α} (found : all.find? (fun b => symbol b = symbol a) = some a) :
    all.find? (fun b => symbol b = c.toUpper) = some a ↔ c.toUpper = symbol a := by
  constructor
  · intro found'
    have same := List.find?_some (p := fun b => decide (symbol b = c.toUpper)) found'
    exact (of_decide_eq_true same).symm
  · intro same
    rw [same, found]

end Symbols

namespace Rank

variable {c : Char}

theorem ofSymbol?_eq_some {rank : Rank} : ofSymbol? c = some rank ↔ c.toUpper = rank.symbol :=
  find?_symbol_eq_some (by cases rank <;> rfl)

theorem ofSymbol?_of_beyond (beyond : 128 ≤ c.toNat) : ofSymbol? c = none :=
  find?_symbol_of_beyond (fun rank => by cases rank <;> decide) beyond

theorem ofSymbol?_toUpper (c : Char) : ofSymbol? c.toUpper = ofSymbol? c := by
  simp only [ofSymbol?, Text.toUpper_toUpper]

theorem ofChars?_of_two_le {cs : List Char} (long : 2 ≤ cs.length) : ofChars? cs = none := by
  match cs, long with
  | _ :: _ :: _, _ => rfl

/-- The upper case of a character stands for the rank for which the character stands. -/
theorem ofChars?_upperChar (c : Char) : ofChars? (Text.upperChar c) = ofSymbol? c := by
  have image := Text.isUpperCase_upperChar c
  generalize Text.upperChar c = upper at image
  cases image with
  | ascii => exact ofSymbol?_toUpper c
  | longS | dotlessI => rfl
  | foreign _ beyond beyond' =>
    rw [ofSymbol?_of_beyond beyond]
    exact ofSymbol?_of_beyond beyond'
  | several _ beyond listed =>
    rw [ofSymbol?_of_beyond beyond]
    exact ofChars?_of_two_le (Text.two_le_of_listed listed)

end Rank

namespace Suit

variable {c : Char}

theorem ofSymbol?_eq_some {suit : Suit} : ofSymbol? c = some suit ↔ c.toUpper = suit.symbol :=
  find?_symbol_eq_some (by cases suit <;> rfl)

theorem ofSymbol?_of_beyond (beyond : 128 ≤ c.toNat) : ofSymbol? c = none :=
  find?_symbol_of_beyond (fun suit => by cases suit <;> decide) beyond

theorem ofSymbol?_toUpper (c : Char) : ofSymbol? c.toUpper = ofSymbol? c := by
  simp only [ofSymbol?, Text.toUpper_toUpper]

theorem ofChars?_of_two_le {cs : List Char} (long : 2 ≤ cs.length) : ofChars? cs = none := by
  match cs, long with
  | _ :: _ :: _, _ => rfl

/-- The upper case of a character stands for the suit for which the character stands, but the long s,
which stands for none, has the letter of spades for its upper case. -/
theorem ofChars?_upperChar (c : Char) :
    ofChars? (Text.upperChar c) = if c = 'ſ' then some .spades else ofSymbol? c := by
  have image := Text.isUpperCase_upperChar c
  generalize Text.upperChar c = upper at image
  cases image with
  | ascii low =>
    have other : c ≠ 'ſ' := by
      rintro rfl
      exact absurd low (by decide)
    rw [if_neg other]
    exact ofSymbol?_toUpper c
  | longS | dotlessI => rfl
  | foreign other beyond beyond' =>
    rw [if_neg other, ofSymbol?_of_beyond beyond]
    exact ofSymbol?_of_beyond beyond'
  | several other beyond listed =>
    rw [if_neg other, ofSymbol?_of_beyond beyond]
    exact ofChars?_of_two_le (Text.two_le_of_listed listed)

end Suit

namespace Card

/-- Whether a text is the code of a card, where white space at its ends and the case of ASCII letters
do not count. -/
def IsWrittenIn (card : Card) (text : String) : Prop :=
  String.ofList ((Text.trimChars text.toList).map Char.toUpper) = card.code

/-- Whether a text has a rank and the long s in the place of a code. -/
def HasLongS (text : String) (rank : Rank) : Prop :=
  ∃ symbol, Rank.ofSymbol? symbol = some rank ∧ Text.trimChars text.toList = [symbol, 'ſ']

section Codes

variable {card : Card} {text : String}

/-- A card is read from the two parts of its code. -/
theorem ofChars?_append {front back : List Char} (some' : front ≠ []) (some'' : back ≠ []) :
    ofChars? (front ++ back) =
      (Rank.ofChars? front).bind fun rank => (Suit.ofChars? back).map fun suit => ⟨rank, suit⟩ := by
  match front, back, some', some'' with
  | [r], [s], _, _ =>
    simp only [List.singleton_append, ofChars?, Rank.ofChars?, Suit.ofChars?]
    cases Rank.ofSymbol? r <;> cases Suit.ofSymbol? s <;> rfl
  | [r], s :: t :: rest, _, _ =>
    simp only [List.singleton_append, ofChars?, Rank.ofChars?, Suit.ofChars?]
    cases Rank.ofSymbol? r <;> rfl
  | r :: q :: rest, s :: rest', _, _ =>
    cases rest <;> rfl

theorem ofChars?_upperChar (c : Char) : ofChars? (Text.upperChar c) = none := by
  have image := Text.isUpperCase_upperChar c
  generalize Text.upperChar c = upper at image
  cases image with
  | several _ _ listed =>
    have unknown : ∀ entry ∈ Text.upperExceptions, ofChars? (entry.2.map Char.ofNat) = none := by
      decide +kernel
    exact unknown _ listed
  | ascii | longS | dotlessI | foreign => rfl

theorem ofChars?_upper_eq_some {cs : List Char} : ofChars? (Text.upper cs) = some card ↔
    ∃ r s, cs = [r, s] ∧ Rank.ofSymbol? r = some card.rank ∧
      Suit.ofChars? (Text.upperChar s) = some card.suit := by
  match cs with
  | [] => simp [Text.upper, ofChars?]
  | [c] => simp [ofChars?_upperChar]
  | r :: s :: rest =>
    have long := Text.length_le_upper (s :: rest)
    have some' : Text.upper (s :: rest) ≠ [] := List.length_pos_iff.mp (by simp at long; omega)
    rw [Text.upper_cons, ofChars?_append (Text.isUpperCase_upperChar r).ne_nil some',
      Rank.ofChars?_upperChar]
    simp only [Option.bind_eq_some_iff, Option.map_eq_some_iff]
    constructor
    · rintro ⟨rank, readRank, suit, readSuit, rfl⟩
      cases rest with
      | nil =>
        rw [Text.upper_singleton] at readSuit
        exact ⟨r, s, rfl, readRank, readSuit⟩
      | cons t rest =>
        rw [Suit.ofChars?_of_two_le (by simp at long; omega)] at readSuit
        contradiction
    · rintro ⟨_, _, same, readRank, readSuit⟩
      cases same
      rw [Text.upper_singleton]
      exact ⟨card.rank, readRank, card.suit, readSuit, rfl⟩

theorem isWrittenIn_iff : card.IsWrittenIn text ↔ ∃ r s, Text.trimChars text.toList = [r, s] ∧
    Rank.ofSymbol? r = some card.rank ∧ Suit.ofSymbol? s = some card.suit := by
  rw [IsWrittenIn, code, String.ofList_inj, List.map_eq_cons_iff]
  simp only [Rank.ofSymbol?_eq_some, Suit.ofSymbol?_eq_some, List.map_eq_singleton_iff]
  constructor
  · rintro ⟨r, _, same, rank, s, rfl, suit⟩
    exact ⟨r, s, same, rank, suit⟩
  · rintro ⟨r, s, same, rank, suit⟩
    exact ⟨r, [s], same, rank, s, rfl, suit⟩

theorem parse_eq_ok : parse text = .ok card ↔ ofChars? (codeChars text) = some card := by
  unfold parse
  cases ofChars? (codeChars text) <;> simp

theorem parse_eq_error {refusal : GameError} (refused : parse text = .error refusal) :
    refusal = .invalidCard text := by
  unfold parse at refused
  split at refused
  next => contradiction
  next => exact (Except.error.inj refused).symm

theorem parse_eq_ok_iff : parse text = .ok card ↔
    card.IsWrittenIn text ∨ card.suit = .spades ∧ HasLongS text card.rank := by
  rw [parse_eq_ok, codeChars, ofChars?_upper_eq_some, isWrittenIn_iff]
  constructor
  · rintro ⟨r, s, same, rank, suit⟩
    rw [Suit.ofChars?_upperChar] at suit
    split at suit
    next longS =>
      rw [longS] at same
      exact Or.inr ⟨(Option.some.inj suit).symm, r, rank, same⟩
    next => exact Or.inl ⟨r, s, same, rank, suit⟩
  · rintro (⟨r, s, same, rank, suit⟩ | ⟨spades, r, rank, same⟩)
    · refine ⟨r, s, same, rank, ?_⟩
      have other : s ≠ 'ſ' := by
        rintro rfl
        cases suit
      rw [Suit.ofChars?_upperChar, if_neg other, suit]
    · exact ⟨r, 'ſ', same, rank, spades ▸ rfl⟩

theorem not_isWrittenIn_of_longS {rank : Rank} (longS : HasLongS text rank) :
    ¬ card.IsWrittenIn text := by
  rw [isWrittenIn_iff]
  rintro ⟨r, s, same, _, suit⟩
  obtain ⟨_, _, same'⟩ := longS
  cases same.symm.trans same'
  cases suit

end Codes

end Card

theorem codeChars_singleton {c : Char} (solid : Text.isBlank c = false) :
    codeChars (String.singleton c) = Text.upperChar c := by
  have trimmed : Text.trimChars [c] = [c] := Text.trimChars_of_not_blank (by simpa using solid)
  rw [codeChars, String.toList_singleton, trimmed, Text.upper_singleton]

namespace Card

/-- What is read as a card are the codes of cards, up to white space around them and the case of ASCII
letters, but for one slip: the long s, which is the letter of no suit, is read as the letter of spades.
Every other text is refused in its own words. A rank or a suit is likewise read from a single character
that is not blank exactly if the character stands for it, but for a suit from the long s. -/
theorem parse_reads_codes_iff (text : String) :
    ((∀ card, parse text = .ok card ↔ card.IsWrittenIn text) ↔ ∀ rank, ¬ HasLongS text rank) ∧
    (∀ rank, HasLongS text rank → parse text = .ok ⟨rank, .spades⟩) ∧
    (∀ refusal, parse text = .error refusal → refusal = .invalidCard text) ∧
    ∀ c, Text.isBlank c = false →
      Rank.parse (String.singleton c) =
        (Rank.ofSymbol? c).elim (.error (.invalidRank (String.singleton c))) .ok ∧
      (Suit.parse (String.singleton c) =
        (Suit.ofSymbol? c).elim (.error (.invalidSuit (String.singleton c))) .ok ↔ c ≠ 'ſ') := by
  have longS : ∀ rank, HasLongS text rank → parse text = .ok ⟨rank, .spades⟩ :=
    fun rank longS => parse_eq_ok_iff.mpr (Or.inr ⟨rfl, longS⟩)
  refine ⟨⟨?_, ?_⟩, longS, fun _ => parse_eq_error, ?_⟩
  · intro reads rank slip
    exact not_isWrittenIn_of_longS slip ((reads _).mp (longS rank slip))
  · intro clean card
    rw [parse_eq_ok_iff]
    exact or_iff_left fun slip => clean card.rank slip.2
  · intro c solid
    constructor
    · rw [Rank.parse, codeChars_singleton solid, Rank.ofChars?_upperChar]
      cases Rank.ofSymbol? c <;> rfl
    · rw [Suit.parse, codeChars_singleton solid, Suit.ofChars?_upperChar]
      by_cases slip : c = 'ſ'
      · have unknown : Suit.ofSymbol? c = none := by rw [slip]; rfl
        rw [if_pos slip, unknown]
        refine iff_of_false ?_ (not_not.mpr slip)
        intro same
        cases same
      · rw [if_neg slip]
        refine iff_of_true ?_ slip
        cases Suit.ofSymbol? c <;> rfl

/-- The five of spades is read from a text with the long s, from which no suit is read. -/
theorem parse_longS : parse "5ſ" = .ok ⟨.five, .spades⟩ ∧
    (∀ card : Card, ¬ card.IsWrittenIn "5ſ") ∧
    Suit.parse "ſ" = .ok .spades ∧ Suit.ofSymbol? 'ſ' = none := by
  have slip : HasLongS "5ſ" .five := ⟨'5', rfl, by decide +kernel⟩
  refine ⟨parse_eq_ok_iff.mpr (Or.inr ⟨rfl, slip⟩), fun card => not_isWrittenIn_of_longS slip, ?_, rfl⟩
  decide +kernel

end Card

end TrucoPaulista
