import TrucoPaulista.Proofs.CardCode
import TrucoPaulista.Proofs.Restore
import TrucoPaulista.Request

namespace TrucoPaulista

namespace Text

variable {cs front back : List Char}

theorem trimChars_eq_self_iff : trimChars cs = cs ↔
    ∀ some' : cs ≠ [], isBlank (cs.head some') = false ∧ isBlank (cs.getLast some') = false := by
  have parts : trimChars cs = cs ↔ cs.dropWhile isBlank = cs ∧ cs.rdropWhile isBlank = cs := by
    constructor
    · intro trimmed
      have start : trimChars cs <+: cs.dropWhile isBlank := List.rdropWhile_prefix isBlank _
      rw [trimmed] at start
      have front : cs.dropWhile isBlank = cs :=
        (List.dropWhile_suffix isBlank).eq_of_length_le start.length_le
      refine ⟨front, ?_⟩
      calc cs.rdropWhile isBlank = (cs.dropWhile isBlank).rdropWhile isBlank := by rw [front]
        _ = cs := trimmed
    · rintro ⟨front, back⟩
      calc trimChars cs = (cs.dropWhile isBlank).rdropWhile isBlank := rfl
        _ = cs := by rw [front, back]
  rw [parts, List.dropWhile_eq_self_iff, List.rdropWhile_eq_self_iff]
  cases cs <;> simp

theorem trimChars_append (trimmed : trimChars front = front) (trimmed' : trimChars back = back)
    (some' : front ≠ []) (some'' : back ≠ []) : trimChars (front ++ back) = front ++ back := by
  rw [trimChars_eq_self_iff] at trimmed trimmed' ⊢
  intro whole
  rw [List.head_append_of_ne_nil some', List.getLast_append_of_ne_nil whole some'']
  exact ⟨(trimmed some').1, (trimmed' some'').2⟩

@[simp] theorem toList_trim (text : String) : (trim text).toList = trimChars text.toList :=
  String.toList_ofList

theorem trimChars_trimChars (text : String) :
    trimChars (trimChars text.toList) = trimChars text.toList := by
  have twice := congrArg String.toList (trim_trim text)
  simpa only [toList_trim] using twice

theorem isEmpty_trim_eq_false {text : String} :
    (trim text).isEmpty = false ↔ trimChars text.toList ≠ [] := by
  rw [← toList_trim, ne_eq, String.toList_eq_nil_iff, ← Bool.not_eq_true, String.isEmpty_iff]

end Text

section Codes

variable {text : String}

@[simp] theorem codeChars_trim (text : String) : codeChars (Text.trim text) = codeChars text := by
  rw [codeChars, codeChars, Text.toList_trim, Text.trimChars_trimChars]

theorem codeChars_ne_nil (solid : (Text.trim text).isEmpty = false) : codeChars text ≠ [] := by
  have some' := List.length_pos_iff.mpr (Text.isEmpty_trim_eq_false.mp solid)
  exact List.length_pos_iff.mp (some'.trans_le (Text.length_le_upper _))

/-- Two texts without their white space are put together to one that has none to lose. -/
theorem codeChars_append {text' : String} (solid : (Text.trim text).isEmpty = false)
    (solid' : (Text.trim text').isEmpty = false) :
    codeChars (Text.trim text ++ Text.trim text') = codeChars text ++ codeChars text' := by
  have trimmed := Text.trimChars_append (Text.trimChars_trimChars text) (Text.trimChars_trimChars text')
    (Text.isEmpty_trim_eq_false.mp solid) (Text.isEmpty_trim_eq_false.mp solid')
  rw [codeChars, String.toList_append, Text.toList_trim, Text.toList_trim, trimmed, Text.upper_append,
    codeChars, codeChars]

end Codes

namespace Suit

/-- The words for a suit other than its letter: its name in English, its name in Portuguese, its sign. -/
def names : Suit → List String
  | clubs => ["CLUBS", "PAUS", "♣"]
  | hearts => ["HEARTS", "COPAS", "♥"]
  | spades => ["SPADES", "ESPADAS", "♠"]
  | diamonds => ["DIAMONDS", "OUROS", "♦"]

theorem code_notMem_names (suit other : Suit) : suit.code ∉ other.names := by
  cases suit <;> cases other <;> decide

/-- A suit is read from its letter only, once the text is in upper case. -/
theorem ofChars?_codeChars {suit : Suit} {text : String} :
    ofChars? (codeChars text) = some suit ↔ String.ofList (codeChars text) = suit.code := by
  constructor
  · intro read
    match found : codeChars text, read with
    | [c], read =>
      have upper : c ∈ Text.upper (Text.trimChars text.toList) := by
        rw [show Text.upper _ = [c] from found]
        exact List.mem_singleton_self c
      obtain ⟨d, _, image⟩ := List.mem_flatMap.mp upper
      have large := (Text.isUpperCase_upperChar d).toUpper_of_mem image
      rw [← large, ofSymbol?_eq_some.mp read]
      rfl
  · intro word
    rw [code, ← String.toList_inj, String.toList_ofList, String.toList_singleton] at word
    rw [word]
    exact ofSymbol?_symbol suit

end Suit

namespace Request

variable {text : String} {words : CardWords}

theorem suitWords_eq (suit : Suit) : suitWords suit = suit.code :: suit.names := by
  cases suit <;> rfl

theorem rank_eq_ok {r : Rank} :
    rank text = .ok r ↔ Rank.ofChars? (codeChars text) = some r := by
  unfold rank Rank.parse
  cases Rank.ofChars? (codeChars text) <;> simp

theorem suit_eq_ok {s : Suit} :
    suit text = .ok s ↔ String.ofList (codeChars text) ∈ suitWords s := by
  generalize same : String.ofList (codeChars text) = word
  have found : Suit.all.find? (fun suit => (suitWords suit).contains word) = some s ↔
      word ∈ suitWords s := by
    constructor
    · intro found
      simpa using List.find?_some found
    · have only : ∀ word ∈ suitWords s,
          Suit.all.find? (fun suit => (suitWords suit).contains word) = some s := by
        cases s <;> decide
      exact only word
  rw [← found, suit, same]
  cases Suit.all.find? (fun suit => (suitWords suit).contains word) <;> simp

/-- Words name a card exactly if neither is blank, the first is the symbol of its rank and the second a
word of its suit. -/
theorem card_eq_ok {c : Card} : card words = .ok c ↔
    (Text.trim words.rank).isEmpty = false ∧ (Text.trim words.suit).isEmpty = false ∧
      Rank.ofChars? (codeChars words.rank) = some c.rank ∧
      String.ofList (codeChars words.suit) ∈ suitWords c.suit := by
  unfold card
  simp only [unless_eq_ok, bind_eq_ok, pure_eq_ok, rank_eq_ok, suit_eq_ok, codeChars_trim,
    Bool.not_eq_true]
  constructor
  · rintro ⟨solid, solid', r, readRank, s, readSuit, rfl⟩
    exact ⟨solid, solid', readRank, readSuit⟩
  · rintro ⟨solid, solid', readRank, readSuit⟩
    exact ⟨solid, solid', c.rank, readRank, c.suit, readSuit, rfl⟩

theorem rank_eq_error {refusal : Refusal} (refused : rank text = .error refusal) :
    ∃ reason, refusal = .invalid reason := by
  unfold rank at refused
  split at refused
  next => contradiction
  next => exact ⟨_, (Except.error.inj refused).symm⟩

theorem suit_eq_error {refusal : Refusal} (refused : suit text = .error refusal) :
    ∃ reason, refusal = .invalid reason := by
  unfold suit at refused
  simp only at refused
  split at refused
  next => contradiction
  next => exact ⟨_, (Except.error.inj refused).symm⟩

theorem card_eq_error {refusal : Refusal} (refused : card words = .error refusal) :
    ∃ reason, refusal = .invalid reason := by
  unfold card at refused
  simp only [unless_eq_error, bind_eq_error] at refused
  rcases refused with ⟨_, rfl⟩ | ⟨_, ⟨_, rfl⟩ | ⟨_, refused | ⟨_, _, refused | ⟨_, _, refused⟩⟩⟩⟩
  · exact ⟨_, rfl⟩
  · exact ⟨_, rfl⟩
  · exact rank_eq_error refused
  · exact suit_eq_error refused
  · exact nomatch refused

end Request

namespace CardWords

variable {words : CardWords}

/-- The text that is made of a rank and a suit without the white space around them. -/
def joined (words : CardWords) : String := Text.trim words.rank ++ Text.trim words.suit

/-- The suit as it is compared with the words for a suit. -/
def suitWord (words : CardWords) : String := String.ofList (codeChars words.suit)

theorem parse_joined_eq_ok {card : Card} (solid : (Text.trim words.rank).isEmpty = false)
    (solid' : (Text.trim words.suit).isEmpty = false) : Card.parse words.joined = .ok card ↔
      Rank.ofChars? (codeChars words.rank) = some card.rank ∧ words.suitWord = card.suit.code := by
  rw [Card.parse_eq_ok, joined, codeChars_append solid solid',
    Card.ofChars?_append (codeChars_ne_nil solid) (codeChars_ne_nil solid'), suitWord,
    ← Suit.ofChars?_codeChars]
  simp only [Option.bind_eq_some_iff, Option.map_eq_some_iff]
  constructor
  · rintro ⟨rank, readRank, suit, readSuit, rfl⟩
    exact ⟨readRank, readSuit⟩
  · rintro ⟨readRank, readSuit⟩
    exact ⟨card.rank, readRank, card.suit, readSuit, rfl⟩

/-- A card that is read from its code is read from the rank and the suit apart. A card that is read from
the rank and the suit apart is read from its code exactly if its suit is given by the letter; given by a
name or by the sign it has no code. What is refused is refused as not valid. -/
theorem card_iff_parse (words : CardWords) :
    ((Text.trim words.rank).isEmpty = false → (Text.trim words.suit).isEmpty = false →
      ∀ card, Card.parse words.joined = .ok card → Request.card words = .ok card) ∧
    (∀ card, Request.card words = .ok card →
      words.suitWord = card.suit.code ∧ Card.parse words.joined = .ok card ∨
      words.suitWord ∈ card.suit.names ∧ ∃ refusal, Card.parse words.joined = .error refusal) ∧
    ∀ refusal, Request.card words = .error refusal → ∃ reason, refusal = .invalid reason := by
  refine ⟨fun solid solid' card read => ?_, fun card read => ?_, fun _ => Request.card_eq_error⟩
  · obtain ⟨readRank, word⟩ := (parse_joined_eq_ok solid solid').mp read
    have listed : words.suitWord ∈ Request.suitWords card.suit := by
      rw [word, Request.suitWords_eq]
      exact List.mem_cons_self
    exact Request.card_eq_ok.mpr ⟨solid, solid', readRank, listed⟩
  · obtain ⟨solid, solid', readRank, listed⟩ := Request.card_eq_ok.mp read
    rw [Request.suitWords_eq] at listed
    rcases List.mem_cons.mp listed with letter | name
    · exact Or.inl ⟨letter, (parse_joined_eq_ok solid solid').mpr ⟨readRank, letter⟩⟩
    · refine Or.inr ⟨name, ?_⟩
      cases parsed : Card.parse words.joined with
      | error refusal => exact ⟨refusal, rfl⟩
      | ok other =>
        have word := ((parse_joined_eq_ok solid solid').mp parsed).2
        have named : other.suit.code ∈ card.suit.names := word ▸ name
        exact absurd named (Suit.code_notMem_names _ _)

end CardWords

end TrucoPaulista
