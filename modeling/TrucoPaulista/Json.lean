namespace TrucoPaulista

/-- A JSON value. A number that is no integer of 64 bits is kept as it was written, and an object
keeps its entries in the order in which they were written, repeated keys too. -/
inductive Json where
  | null
  | bool (value : Bool)
  | int (value : Int)
  | real (text : String)
  | str (value : String)
  | arr (items : List Json)
  | obj (entries : List (String × Json))
  deriving Inhabited

namespace Json

/-- The character of a hexadecimal digit. -/
def hexDigit (n : Nat) : Char := Nat.digitChar (n % 16)

/-- A character as it stands within a text. -/
def escapedChar (c : Char) : List Char :=
  if c = '"' then ['\\', '"']
  else if c = '\\' then ['\\', '\\']
  else if c.toNat < 0x20 then
    ['\\', 'u', '0', '0', hexDigit (c.toNat / 16), hexDigit c.toNat]
  else [c]

/-- A text as it is written. -/
def renderText (text : String) : String :=
  String.ofList ('"' :: text.toList.flatMap escapedChar ++ ['"'])

mutual

/-- A value as it is written, without white space. -/
def render : Json → String
  | null => "null"
  | bool value => if value then "true" else "false"
  | int value => toString value
  | real text => text
  | str value => renderText value
  | arr items => "[" ++ String.intercalate "," (renderItems items) ++ "]"
  | obj entries => "\x7b" ++ String.intercalate "," (renderEntries entries) ++ "\x7d"

/-- The items of an array as they are written. -/
def renderItems : List Json → List String
  | [] => []
  | item :: rest => item.render :: renderItems rest

/-- The entries of an object as they are written. -/
def renderEntries : List (String × Json) → List String
  | [] => []
  | (key, value) :: rest => (renderText key ++ ":" ++ value.render) :: renderEntries rest

end

/-- The values under a key. -/
def valuesOf (key : String) (entries : List (String × Json)) : List Json :=
  (entries.filter (fun entry => entry.1 = key)).map Prod.snd

/-- A value, or null where there is none. -/
def ofOption {α : Type} (encode : α → Json) : Option α → Json
  | some value => encode value
  | none => null

end Json

end TrucoPaulista
