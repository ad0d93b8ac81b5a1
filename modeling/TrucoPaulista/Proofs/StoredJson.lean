import TrucoPaulista.Proofs.Restore
import TrucoPaulista.Wire.Snapshot

namespace TrucoPaulista

namespace Json

@[simp] theorem uint32?_ofUInt32 (value : UInt32) : (ofUInt32 value).uint32? = some value := by
  have bound : value.toNat < 4294967296 := value.toNat_lt
  have within : (value.toNat : Int) ≤ 4294967295 := by omega
  simp [uint32?, ofUInt32, within?, within]

theorem list?_ofList {α : Type} {encode : α → Json} {decode : Json → Option α}
    (inverse : ∀ value, decode (encode value) = some value) (values : List α) :
    (ofList encode values).list? decode = some values := by
  simp only [ofList, list?]
  induction values with
  | nil => rfl
  | cons value rest ih => simp [inverse, ih]

namespace Slot

variable {α : Type} {encode : α → Json} {decode : Json → Option α}

/-- A value that is there, where also null may stand. -/
theorem nullable_of_ne_null {json : Json} (present : json ≠ .null) :
    nullable decode json = (decode json).map some := by
  cases json <;> first | rfl | contradiction

/-- A value or null, where one of the two always stands. -/
theorem optional_ofOption (inverse : ∀ value, decode (encode value) = some value)
    (solid : ∀ value, encode value ≠ .null) (value : Option α) :
    (given (ofOption encode value)).optional decode = some value := by
  cases value with
  | none => rfl
  | some value => simp [optional, ofOption, nullable_of_ne_null (solid value), inverse]

theorem defaulted_ofOption (inverse : ∀ value, decode (encode value) = some value)
    (solid : ∀ value, encode value ≠ .null) (value : Option α) :
    (given (ofOption encode value)).defaulted decode = some value :=
  optional_ofOption inverse solid value

end Slot

section Records

variable {fields : List (String × Json)}

/-- Under a name that is given once stands one value. -/
theorem valuesOf_of_mem {name : String} {value : Json} (distinct : (fields.map Prod.fst).Nodup)
    (there : (name, value) ∈ fields) : valuesOf name fields = [value] := by
  induction fields with
  | nil => simp at there
  | cons field rest ih =>
    rw [List.map_cons, List.nodup_cons] at distinct
    rcases List.mem_cons.mp there with rfl | later
    · have nowhere : ∀ field ∈ rest, field.1 ≠ name := by
        intro field member same
        exact distinct.1 (List.mem_map.mpr ⟨field, member, same⟩)
      have none' : rest.filter (fun field => field.1 = name) = [] := by
        simpa [List.filter_eq_nil_iff] using nowhere
      simp [valuesOf, none']
    · have other : field.1 ≠ name := by
        rintro rfl
        exact distinct.1 (List.mem_map.mpr ⟨_, later, rfl⟩)
      have found := ih distinct.2 later
      simpa [valuesOf, other] using found

/-- The slots of a record whose fields are all there, each once and in order. -/
theorem slots?_obj {names : List String} (named : fields.map Prod.fst = names)
    (distinct : names.Nodup) :
    (obj fields).slots? names = some (fields.map (fun field => .given field.2)) := by
  subst named
  have each : ∀ part : List (String × Json), part ⊆ fields →
      (part.map Prod.fst).mapM (entrySlot? fields) =
        some (part.map (fun field => .given field.2)) := by
    intro part within
    induction part with
    | nil => rfl
    | cons field rest ih =>
      have here := valuesOf_of_mem distinct (within List.mem_cons_self)
      have others := ih (fun other member => within (List.mem_cons_of_mem _ member))
      simp [entrySlot?, here, others]
  exact each fields (List.Subset.refl _)

end Records

end Json

theorem Text.trimChars_of_not_blank {cs : List Char} (solid : ∀ c ∈ cs, isBlank c = false) :
    trimChars cs = cs := by
  have front : cs.dropWhile isBlank = cs := by
    cases cs with
    | nil => rfl
    | cons c rest => simp [solid c (by simp)]
  have back : cs.reverse.dropWhile isBlank = cs.reverse := by
    cases found : cs.reverse with
    | nil => rfl
    | cons c rest =>
      have inside : c ∈ cs := List.mem_reverse.mp (by simp [found])
      simp [solid c inside]
  simp [trimChars, front, back]

/-- Characters of a code in their written form: they are no white space and in upper case. -/
theorem codeChars_ofList {cs : List Char}
    (plain : ∀ c ∈ cs, Text.isBlank c = false ∧ Text.upperChar c = [c]) :
    codeChars (String.ofList cs) = cs := by
  have upper : Text.upper cs = cs := by
    induction cs with
    | nil => rfl
    | cons c rest ih =>
      have others := ih (fun d member => plain d (List.mem_cons_of_mem _ member))
      simp only [Text.upper] at others
      simp [Text.upper, (plain c (by simp)).2, others]
  have trimmed := Text.trimChars_of_not_blank (fun c member => (plain c member).1)
  simp [codeChars, trimmed, upper]

namespace Rank

theorem plain_symbol (rank : Rank) :
    Text.isBlank rank.symbol = false ∧ Text.upperChar rank.symbol = [rank.symbol] := by
  cases rank <;> decide

@[simp] theorem ofSymbol?_symbol (rank : Rank) : ofSymbol? rank.symbol = some rank := by
  cases rank <;> decide

theorem parse_code (rank : Rank) : parse rank.code = .ok rank := by
  have chars : codeChars rank.code = [rank.symbol] :=
    codeChars_ofList (by simpa using rank.plain_symbol)
  simp [parse, chars, ofChars?]

@[simp] theorem ofJson?_toJson (rank : Rank) : ofJson? rank.toJson = some rank := by
  simp [ofJson?, toJson, Json.text?, parse_code, Except.toOption]

end Rank

namespace Suit

theorem plain_symbol (suit : Suit) :
    Text.isBlank suit.symbol = false ∧ Text.upperChar suit.symbol = [suit.symbol] := by
  cases suit <;> decide

@[simp] theorem ofSymbol?_symbol (suit : Suit) : ofSymbol? suit.symbol = some suit := by
  cases suit <;> decide

end Suit

namespace Card

theorem parse_code (card : Card) : parse card.code = .ok card := by
  have chars : codeChars card.code = [card.rank.symbol, card.suit.symbol] :=
    codeChars_ofList (by simpa using ⟨card.rank.plain_symbol, card.suit.plain_symbol⟩)
  simp [parse, chars, ofChars?]

@[simp] theorem toJson_ne_null (card : Card) : card.toJson ≠ .null := Json.noConfusion

@[simp] theorem ofJson?_toJson (card : Card) : ofJson? card.toJson = some card := by
  simp [ofJson?, toJson, Json.text?, parse_code, Except.toOption]

end Card

@[simp] theorem MatchState.ofJson?_toJson (tagged : Bool) (state : MatchState) :
    ofJson? tagged state.toJson = some state := by
  cases state <;> rfl

/-- A score is read back whatever two names its parts have. -/
theorem Score.ofJsonAs?_toJsonAs {nameA nameB : String} (distinct : nameA ≠ nameB)
    (score : Score) : ofJsonAs? nameA nameB (score.toJsonAs nameA nameB) = some score := by
  simp [ofJsonAs?, toJsonAs, Json.slots?_obj, distinct, Json.Slot.required]

@[simp] theorem Score.ofJson?_toJson (score : Score) : ofJson? score.toJson = some score :=
  ofJsonAs?_toJsonAs (by decide) score

namespace RoundSnapshot

theorem ofPlays?_playsToJson (r : RoundSnapshot) : ofPlays? r.playsToJson = some r := by
  obtain ⟨a, b⟩ := r
  cases a <;> cases b <;>
    simp [ofPlays?, playsToJson, Json.slots?, Json.entrySlot?, Json.valuesOf,
      Json.Slot.defaulted, Json.Slot.nullable_of_ne_null]

@[simp] theorem ofJson?_toJson (r : RoundSnapshot) : ofJson? r.toJson = some r := by
  simp [ofJson?, toJson, Json.slots?_obj, Json.Slot.required, ofPlays?_playsToJson]

end RoundSnapshot

namespace HandSnapshot

@[simp] theorem toJson_ne_null (h : HandSnapshot) : h.toJson ≠ .null := Json.noConfusion

@[simp] theorem ofJson?_toJson (h : HandSnapshot) : ofJson? h.toJson = some h := by
  have rounds := Json.list?_ofList RoundSnapshot.ofJson?_toJson h.rounds
  simp [ofJson?, toJson, Json.slots?_obj, Json.Slot.required, Json.bool?, rounds]

end HandSnapshot

/-- A stored match is read back from its JSON. -/
theorem MatchSnapshot.ofJson?_toJson (m : MatchSnapshot) : ofJson? m.toJson = some m := by
  have hand := Json.Slot.optional_ofOption HandSnapshot.ofJson?_toJson
    HandSnapshot.toJson_ne_null m.currentHand
  simp [ofJson?, toJson, Json.slots?_obj, Json.Slot.required, hand]

end TrucoPaulista
