import TrucoPaulista.Json.Lexeme
import TrucoPaulista.Json.Number

namespace TrucoPaulista.Json

/-- Why a text is refused: it is no JSON text, or its value is not of the shape asked for. -/
inductive ReadError where
  | malformed
  | mismatch
  deriving DecidableEq

/-- What kind of value is asked for. A value that is skipped is only looked at for its outline. A
record may be given as an object, in which fields that are not asked for are skipped, or as an array
of the fields in order. -/
inductive Shape where
  | any
  | skipped
  | integer (least most : Int)
  | optional (shape : Shape)
  | list (item : Shape)
  | record (fields : List (String × Shape))

namespace Shape

/-- Refuses a number that was not asked for. -/
def admitsInt : Shape → Int → Bool
  | any, _ | skipped, _ => true
  | integer least most, value => least ≤ value && value ≤ most
  | optional shape, value => shape.admitsInt value
  | list _, _ | record _, _ => false

/-- Whether null is a value of the shape. -/
def admitsNull : Shape → Bool
  | any | skipped | optional _ => true
  | integer _ _ | list _ | record _ => false

/-- Whether every value that is neither a number nor a container is a value of the shape, except
null. -/
def admitsScalar : Shape → Bool
  | any | skipped => true
  | optional shape => shape.admitsScalar
  | integer _ _ | list _ | record _ => false

end Shape

/-- The shapes of the items of an array: all alike, or one after the other. -/
inductive Items where
  | alike (shape : Shape)
  | inOrder (shapes : List Shape)

/-- The shape of the next item, and the shapes of those after it. -/
def Items.next? : Items → Option (Shape × Items)
  | alike shape => some (shape, alike shape)
  | inOrder [] => none
  | inOrder (shape :: rest) => some (shape, inOrder rest)

/-- The shapes of the entries of an object: all alike, or those of known fields. -/
inductive Entries where
  | alike (shape : Shape)
  | known (fields : List (String × Shape))

/-- The shape of the value under a key. -/
def Entries.shapeOf : Entries → String → Shape
  | alike shape, _ => shape
  | known fields, key => ((fields.find? (fun field => field.1 = key)).map Prod.snd).getD .skipped

/-- Whether a key must not come twice. -/
def Entries.isKnown : Entries → String → Bool
  | alike _, _ => false
  | known fields, key => fields.any (fun field => field.1 = key)

/-- The items that an array of a shape has. -/
def Shape.items? : Shape → Option Items
  | any => some (.alike .any)
  | skipped => some (.alike .skipped)
  | optional shape => shape.items?
  | list item => some (.alike item)
  | record fields => some (.inOrder (fields.map Prod.snd))
  | integer _ _ => none

/-- The entries that an object of a shape has. -/
def Shape.entries? : Shape → Option Entries
  | any => some (.alike .any)
  | skipped => some (.alike .skipped)
  | optional shape => shape.entries?
  | record fields => some (.known fields)
  | list _ | integer _ _ => none

/-- Whether a shape is that of skipped values. -/
def Shape.isSkipped : Shape → Bool
  | skipped => true
  | _ => false

/-- A container that is being read: what comes next in it, and what was read, the last first. -/
inductive Frame where
  | array (items : Items) (read : List Json)
  | object (entries : Entries) (key : String) (read : List (String × Json))

/-- What may come next: a value, or the end of the array just begun; a key, or the end of the object
just begun; a colon before a value; what follows a value. -/
inductive Expected where
  | value (shape : Shape)
  | firstItem
  | key
  | firstKey
  | colon (shape : Shape)
  | afterValue

/-- A reader of values: what may come next, the containers around it, the innermost first, and the
value read last. -/
structure Reader where
  expected : Expected
  frames : List Frame
  value : Json

/-- The most containers that may stand around each other, plus one. -/
def depthLimit : Nat := 128

namespace Reader

/-- The reader before the first lexeme. -/
def initial (shape : Shape) : Reader := ⟨.value shape, [], .null⟩

/-- A value is complete. -/
def complete (r : Reader) (value : Json) : Reader :=
  match r.frames with
  | [] => ⟨.afterValue, [], value⟩
  | .array items read :: outer => ⟨.afterValue, .array items (value :: read) :: outer, value⟩
  | .object entries key read :: outer =>
    ⟨.afterValue, .object entries key ((key, value) :: read) :: outer, value⟩

/-- The innermost container is complete. -/
def close (r : Reader) (value : Json) : Reader := { r with frames := r.frames.tail }.complete value

/-- A container begins. -/
def enter (r : Reader) (shape : Shape) (expected : Expected) (frame : Frame) :
    Except ReadError Reader :=
  if shape.isSkipped || r.frames.length + 1 < depthLimit then
    .ok { r with expected, frames := frame :: r.frames }
  else .error .malformed

/-- A number. -/
def number (r : Reader) (shape : Shape) (text : List Char) : Except ReadError Reader :=
  if shape.isSkipped then .ok (r.complete .null)
  else
    match ofNumber? text with
    | none => .error .malformed
    | some (.int value) =>
      if shape.admitsInt value then .ok (r.complete (.int value)) else .error .mismatch
    | some value => if shape.admitsScalar then .ok (r.complete value) else .error .mismatch

/-- A string. -/
def text (r : Reader) (shape : Shape) (value : Option String) : Except ReadError Reader :=
  match value with
  | some value => if shape.admitsScalar then .ok (r.complete (.str value)) else .error .mismatch
  | none => if shape.isSkipped then .ok (r.complete .null) else .error .malformed

/-- The first lexeme of a value. -/
def beginValue (r : Reader) (shape : Shape) (lexeme : Lexeme) : Except ReadError Reader :=
  match lexeme with
  | .null => if shape.admitsNull then .ok (r.complete .null) else .error .mismatch
  | .bool value =>
    if shape.admitsScalar then .ok (r.complete (.bool value)) else .error .mismatch
  | .number read => r.number shape read
  | .text value => r.text shape value
  | .openArray =>
    match shape.items? with
    | some items => r.enter shape .firstItem (.array items [])
    | none => .error .mismatch
  | .openObject =>
    match shape.entries? with
    | some entries => r.enter shape .firstKey (.object entries "" [])
    | none => .error .mismatch
  | _ => .error .malformed

/-- The next item of the innermost array, of which this is the first lexeme. -/
def beginItem (r : Reader) (lexeme : Lexeme) : Except ReadError Reader :=
  match r.frames with
  | .array items read :: outer =>
    match items.next? with
    | some (shape, items) => { r with frames := .array items read :: outer }.beginValue shape lexeme
    | none => .error .malformed
  | _ => .error .malformed

/-- A key of the innermost object. -/
def beginEntry (r : Reader) (lexeme : Lexeme) : Except ReadError Reader :=
  match r.frames, lexeme with
  | .object entries _ read :: outer, .text (some key) =>
    if entries.isKnown key && read.any (fun entry => entry.1 = key) then .error .mismatch
    else
      .ok { r with
        expected := .colon (entries.shapeOf key), frames := .object entries key read :: outer }
  | .object (.alike .skipped) _ _ :: _, .text none => .ok { r with expected := .colon .skipped }
  | _, _ => .error .malformed

/-- What follows a value. -/
def afterValue (r : Reader) (lexeme : Lexeme) : Except ReadError Reader :=
  match r.frames, lexeme with
  | .array items read :: outer, .comma =>
    match items.next? with
    | some (shape, items) =>
      .ok { r with expected := .value shape, frames := .array items read :: outer }
    | none => .error .malformed
  | .array _ read :: _, .closeArray => .ok (r.close (.arr read.reverse))
  | .object _ _ _ :: _, .comma => .ok { r with expected := .key }
  | .object _ _ read :: _, .closeObject => .ok (r.close (.obj read.reverse))
  | _, _ => .error .malformed

/-- The next lexeme. -/
def step (r : Reader) (lexeme : Lexeme) : Except ReadError Reader :=
  match r.expected, lexeme with
  | .value shape, _ => r.beginValue shape lexeme
  | .firstItem, .closeArray => .ok (r.close (.arr []))
  | .firstItem, _ => r.beginItem lexeme
  | .firstKey, .closeObject => .ok (r.close (.obj []))
  | .firstKey, _ | .key, _ => r.beginEntry lexeme
  | .colon shape, .colon => .ok { r with expected := .value shape }
  | .colon _, _ => .error .malformed
  | .afterValue, _ => r.afterValue lexeme

end Reader

/-- Reads a value of a shape from a text. -/
def read (shape : Shape) (text : String) : Except ReadError Json := do
  let r ← (lexemes text).foldlM Reader.step (.initial shape)
  match r.expected, r.frames with
  | .afterValue, [] => return r.value
  | _, _ => throw .malformed

end TrucoPaulista.Json
