import TrucoPaulista.Json

namespace TrucoPaulista.Json

/-- What a record has in the place of a field: nothing in an object, nothing in an array that is too
short, or a value. -/
inductive Slot where
  | missing
  | cut
  | given (value : Json)

namespace Slot

def required {α : Type} (decode : Json → Option α) : Slot → Option α
  | given value => decode value
  | missing | cut => none

def nullable {α : Type} (decode : Json → Option α) : Json → Option (Option α)
  | .null => some none
  | value => (decode value).map some

def optional {α : Type} (decode : Json → Option α) : Slot → Option (Option α)
  | given value => nullable decode value
  | missing => some none
  | cut => none

/-- A field that may always be missing. -/
def defaulted {α : Type} (decode : Json → Option α) : Slot → Option (Option α)
  | given value => nullable decode value
  | missing | cut => some none

end Slot

/-- The slot of a field in the entries of an object. A field must not come twice. -/
def entrySlot? (entries : List (String × Json)) (name : String) : Option Slot :=
  match valuesOf name entries with
  | [] => some .missing
  | [value] => some (.given value)
  | _ => none

/-- The slots of as many fields in the items of an array, which must not be more. -/
def itemSlots? : Nat → List Json → Option (List Slot)
  | 0, [] => some []
  | 0, _ :: _ => none
  | count + 1, [] => (itemSlots? count []).map (Slot.cut :: ·)
  | count + 1, item :: rest => (itemSlots? count rest).map (Slot.given item :: ·)

/-- The slots of a record with these fields, which is an object or an array. -/
def slots? (names : List String) : Json → Option (List Slot)
  | obj entries => names.mapM (entrySlot? entries)
  | arr items => itemSlots? names.length items
  | _ => none

/-- The variant of an enumeration, and what it carries. -/
def variant? : Json → Option (String × Option Json)
  | str name => some (name, none)
  | obj [(name, value)] => some (name, some value)
  | _ => none

/-- Whether a variant that carries nothing may be given with this value: null, and within a value
that has a tag also an empty object. -/
def isVoid (tagged : Bool) : Json → Bool
  | null => true
  | obj [] => tagged
  | _ => false

/-- The variant of an enumeration whose variants carry nothing. -/
def unitVariant? (tagged : Bool) (json : Json) : Option String := do
  let (name, content) ← json.variant?
  guard (content.all (isVoid tagged))
  return name

/-- The tag of a value and its fields. The tag is an entry of the object, or the first item of the
array. -/
def tagged? : Json → Option (String × Json)
  | obj entries =>
    match valuesOf "type" entries with
    | [str tag] => some (tag, obj (entries.filter (fun entry => entry.1 ≠ "type")))
    | _ => none
  | arr (str tag :: items) => some (tag, arr items)
  | _ => none

def text? : Json → Option String
  | str value => some value
  | _ => none

def bool? : Json → Option Bool
  | bool value => some value
  | _ => none

/-- An integer within bounds. -/
def within? (least most : Int) : Json → Option Int
  | int value => if least ≤ value && value ≤ most then some value else none
  | _ => none

def uint32? (json : Json) : Option UInt32 :=
  (json.within? 0 (UInt32.size - 1)).map (fun value => UInt32.ofNat value.toNat)

def uint64? (json : Json) : Option UInt64 :=
  (json.within? 0 (UInt64.size - 1)).map (fun value => UInt64.ofNat value.toNat)

def int64? (json : Json) : Option Int64 :=
  (json.within? Int64.minValue.toInt Int64.maxValue.toInt).map Int64.ofInt

def list? {α : Type} (decode : Json → Option α) : Json → Option (List α)
  | arr items => items.mapM decode
  | _ => none

def ofUInt32 (value : UInt32) : Json := int value.toNat

def ofUInt64 (value : UInt64) : Json := int value.toNat

def ofInt64 (value : Int64) : Json := int value.toInt

def ofList {α : Type} (encode : α → Json) (items : List α) : Json := arr (items.map encode)

end TrucoPaulista.Json
