namespace TrucoPaulista

/-- A media type: its two parts, in small letters. Parameters are only looked over. -/
structure MediaType where
  kind : List Char
  subtype : List Char
  deriving DecidableEq

namespace MediaType

/-- Whether a character may stand in a name. -/
def isNameChar (c : Char) : Bool :=
  ('a' ≤ c && c ≤ 'z') || ('A' ≤ c && c ≤ 'Z') || c.isDigit ||
    "!#$%&'*+-.^_`|~".toList.contains c

/-- Whether a character may stand between quotation marks. A backslash is a character like any
other. -/
def isQuotable (c : Char) : Bool := 0x1f < c.toNat && c.toNat ≠ 0x7f

/-- How far the parameters have been read: before a name, within it, before a value, within it,
after the opening quotation mark, further on between the marks, after the closing one. -/
inductive Place where
  | beforeName
  | name
  | beforeValue
  | value
  | openQuote
  | quote
  | afterQuote
  deriving DecidableEq

/-- Whether the parameters may end here. -/
def Place.complete : Place → Bool
  | beforeName | beforeValue | value | afterQuote => true
  | name | openQuote | quote => false

/-- How the parameters go on with a character. What is quoted is not empty: a mark directly after
the opening one does not close it. -/
def Place.next? (place : Place) (c : Char) : Option Place :=
  match place with
  | beforeName => if c = ' ' then some beforeName else if isNameChar c then some name else none
  | name => if c = '=' then some beforeValue else if isNameChar c then some name else none
  | beforeValue => if c = '"' then some openQuote else if isNameChar c then some value else none
  | value => if c = ';' then some beforeName else if isNameChar c then some value else none
  | openQuote => if isQuotable c then some quote else none
  | quote => if c = '"' then some afterQuote else if isQuotable c then some quote else none
  | afterQuote => if c = ';' then some beforeName else if c = ' ' then some afterQuote else none

/-- Whether characters are parameters. -/
def areParameters (cs : List Char) : Bool :=
  match cs.foldlM Place.next? .beforeName with
  | some place => place.complete
  | none => false

/-- Reads a media type. -/
def parse? (text : String) : Option MediaType := do
  let cs := text.toList
  let kind := cs.takeWhile isNameChar
  guard (!kind.isEmpty)
  match cs.dropWhile isNameChar with
  | '/' :: rest =>
    let subtype := rest.takeWhile isNameChar
    match rest.dropWhile isNameChar with
    | [] => return ⟨kind.map Char.toLower, subtype.map Char.toLower⟩
    | ';' :: parameters =>
      guard (!subtype.isEmpty && areParameters parameters)
      return ⟨kind.map Char.toLower, subtype.map Char.toLower⟩
    | _ => none
  | _ => none

/-- What stands after the last plus sign that is not the first character. -/
def suffix? (subtype : List Char) : Option (List Char) :=
  match subtype with
  | [] => none
  | _ :: rest =>
    if rest.contains '+' then some (rest.reverse.takeWhile (· ≠ '+')).reverse else none

/-- What stands before that plus sign. -/
def stem (subtype : List Char) : List Char :=
  match suffix? subtype with
  | some suffix => subtype.take (subtype.length - suffix.length - 1)
  | none => subtype

/-- Whether a media type is that of JSON, or of a format written in JSON. -/
def isJson (media : MediaType) : Bool :=
  let json := "json".toList
  media.kind = "application".toList &&
    (stem media.subtype = json || suffix? media.subtype = some json)

end MediaType

end TrucoPaulista
