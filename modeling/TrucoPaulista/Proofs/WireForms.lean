import TrucoPaulista.Proofs.StoredJson
import TrucoPaulista.Wire.Command
import TrucoPaulista.Wire.Event

namespace TrucoPaulista

namespace Json

@[simp] theorem uint64?_ofUInt64 (value : UInt64) : (ofUInt64 value).uint64? = some value := by
  have bound : value.toNat < 18446744073709551616 := value.toNat_lt
  have within : (value.toNat : Int) ≤ 18446744073709551615 := by omega
  simp [uint64?, ofUInt64, within?, within]

@[simp] theorem int64?_ofInt64 (value : Int64) : (ofInt64 value).int64? = some value := by
  have least := value.minValue_le_toInt
  have most := value.toInt_le
  have within : (ofInt64 value).within? Int64.minValue.toInt Int64.maxValue.toInt =
      some value.toInt :=
    if_pos (Bool.and_eq_true_iff.mpr ⟨decide_eq_true least, decide_eq_true most⟩)
  rw [int64?, within, Option.map_some, Int64.ofInt_toInt]

theorem ofInt64_ne_null (value : Int64) : ofInt64 value ≠ .null := Json.noConfusion

theorem text?_str (text : String) : (str text).text? = some text := rfl

theorem str_ne_null (text : String) : str text ≠ .null := Json.noConfusion

/-- A tag that comes before the fields, none of which has its name. -/
theorem tagged?_obj {tag : String} {fields : List (String × Json)}
    (untagged : ∀ field ∈ fields, field.1 ≠ "type") :
    (obj (("type", str tag) :: fields)).tagged? = some (tag, obj fields) := by
  have alone : fields.filter (fun field => field.1 = "type") = [] := by
    simpa [List.filter_eq_nil_iff] using untagged
  have rest : fields.filter (fun field => field.1 ≠ "type") = fields := by
    simpa [List.filter_eq_self] using untagged
  simpa [tagged?, valuesOf, alone] using rest

end Json

@[simp] theorem Side.ofJson?_toJson (tagged : Bool) (side : Side) :
    ofJson? tagged side.toJson = some side := by
  cases side <;> rfl

@[simp] theorem Team.ofJson?_toJson (tagged : Bool) (team : Team) :
    ofJson? tagged team.toJson = some team := by
  cases team <;> rfl

@[simp] theorem Seat.ofJson?_toJson (tagged : Bool) (seat : Seat) :
    ofJson? tagged seat.toJson = some seat := by
  cases seat <;> rfl

theorem Seat.toJson_ne_null (seat : Seat) : seat.toJson ≠ .null := Json.noConfusion

theorem Rank.toJson_ne_null (rank : Rank) : rank.toJson ≠ .null := Json.noConfusion

@[simp] theorem Score.ofWire?_toWire (score : Score) : ofWire? score.toWire = some score :=
  ofJsonAs?_toJsonAs (by decide) score

@[simp] theorem RoomPlayer.ofJson?_toJson (tagged : Bool) (player : RoomPlayer) :
    ofJson? tagged player.toJson = some player := by
  simp [ofJson?, toJson, Json.slots?_obj, Json.Slot.required, Json.bool?]

@[simp] theorem CardWords.ofJson?_toJson (card : CardWords) : ofJson? card.toJson = some card := by
  simp [ofJson?, toJson, Json.slots?_obj, Json.Slot.required, Json.text?_str]

theorem Command.ofJson?_toJson (command : Command) : ofJson? command.toJson = some command := by
  cases command with
  | createMatch points =>
    have given := Json.Slot.defaulted_ofOption Json.int64?_ofInt64 Json.ofInt64_ne_null points
    simp [ofJson?, toJson, Json.tagged?_obj, ofFields?, Json.slots?_obj, given]
  | startHand matchId vira =>
    have given := Json.Slot.defaulted_ofOption Json.text?_str Json.str_ne_null vira
    simp [ofJson?, toJson, Json.tagged?_obj, ofFields?, Json.slots?_obj, Json.Slot.required,
      Json.text?_str, given]
  | joinMatch | setReady | playCard | getState =>
    simp [ofJson?, toJson, Json.tagged?_obj, ofFields?, Json.slots?_obj, Json.Slot.required,
      Json.text?_str, Json.bool?]

theorem Event.ofJson?_toJson (event : Event) : ofJson? event.toJson = some event := by
  cases event with
  | roomState matchId players canStart currentTurn =>
    have all := Json.list?_ofList (RoomPlayer.ofJson?_toJson true) players
    have turn := Json.Slot.optional_ofOption (Seat.ofJson?_toJson true) Seat.toJson_ne_null
      currentTurn
    simp [ofJson?, toJson, Json.tagged?_obj, ofFields?, Json.slots?_obj, Json.Slot.required,
      Json.text?_str, Json.bool?, all, turn]
  | matchState matchId state score points vira rounds =>
    have given := Json.Slot.optional_ofOption Rank.ofJson?_toJson Rank.toJson_ne_null vira
    simp [ofJson?, toJson, Json.tagged?_obj, ofFields?, Json.slots?_obj, Json.Slot.required,
      Json.text?_str, given]
  | created | playerAssigned | handStarted | cardPlayed | error =>
    simp [ofJson?, toJson, Json.tagged?_obj, ofFields?, Json.slots?_obj, Json.Slot.required,
      Json.text?_str]

theorem GameError.ofJson?_toJson (refusal : GameError) : ofJson? refusal.toJson = some refusal := by
  cases refusal with
  | sideAlreadyPlayed side => cases side <;> rfl
  | unsupportedSnapshot version =>
    have content : ofJson? (toJson (unsupportedSnapshot version)) =
        (Json.ofUInt32 version).uint32?.map unsupportedSnapshot := rfl
    rw [content, Json.uint32?_ofUInt32, Option.map_some]
  | _ => rfl

theorem RoomError.ofJson?_toJson (refusal : RoomError) : ofJson? refusal.toJson = some refusal := by
  cases refusal <;> rfl

/-- What players ask for and are told, matches and hands as they are stored, and the refusals of the
rules and of the rooms are all read back from the JSON that they are written as. -/
theorem read_back_from_json :
    (∀ command : Command, Command.ofJson? command.toJson = some command) ∧
    (∀ event : Event, Event.ofJson? event.toJson = some event) ∧
    (∀ m : MatchSnapshot, MatchSnapshot.ofJson? m.toJson = some m) ∧
    (∀ h : HandSnapshot, HandSnapshot.ofJson? h.toJson = some h) ∧
    (∀ refusal : GameError, GameError.ofJson? refusal.toJson = some refusal) ∧
    (∀ refusal : RoomError, RoomError.ofJson? refusal.toJson = some refusal) :=
  ⟨Command.ofJson?_toJson, Event.ofJson?_toJson, MatchSnapshot.ofJson?_toJson,
    HandSnapshot.ofJson?_toJson, GameError.ofJson?_toJson, RoomError.ofJson?_toJson⟩

end TrucoPaulista
