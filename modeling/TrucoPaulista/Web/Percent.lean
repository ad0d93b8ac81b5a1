import TrucoPaulista.Json.Lexeme
import TrucoPaulista.Text.Utf8

namespace TrucoPaulista

namespace Percent

/-- Where the reading of percent signs stands: outside, after a sign, or after a sign and the first
digit. -/
inductive State where
  | plain
  | sign
  | digit (first : UInt8)

/-- The value of a byte that is a hexadecimal digit. -/
def digit? (byte : UInt8) : Option Nat := Json.hexValue? (Char.ofNat byte.toNat)

/-- The percent sign. -/
def signByte : UInt8 := 0x25

/-- The bytes for which bytes stand: two hexadecimal digits after a percent sign are one byte. A
sign without its digits stands for itself. -/
def decodeFrom : State → List UInt8 → List UInt8
  | .plain, [] => []
  | .sign, [] => [signByte]
  | .digit first, [] => [signByte, first]
  | .plain, byte :: rest =>
    if byte = signByte then decodeFrom .sign rest else byte :: decodeFrom .plain rest
  | .sign, byte :: rest =>
    if byte = signByte then signByte :: decodeFrom .sign rest
    else if (digit? byte).isSome then decodeFrom (.digit byte) rest
    else signByte :: byte :: decodeFrom .plain rest
  | .digit first, byte :: rest =>
    match digit? first, digit? byte with
    | some high, some low => UInt8.ofNat (16 * high + low) :: decodeFrom .plain rest
    | _, _ =>
      if byte = signByte then signByte :: first :: decodeFrom .sign rest
      else signByte :: first :: byte :: decodeFrom .plain rest

/-- The bytes for which a text stands. -/
def decode (text : String) : List UInt8 := decodeFrom .plain text.toUTF8.toList

/-- The text for which a text stands, if its bytes are well formed. -/
def decodeText? (text : String) : Option String := Text.ofUtf8? (decode text)

/-- The text for which a part of a form stands: a plus sign is a space, and what is not well formed
is replaced. -/
def decodeForm (cs : List Char) : String :=
  Text.ofUtf8Lossy (decode (String.ofList (cs.map (fun c => if c = '+' then ' ' else c))))

end Percent

/-- The parts of characters between the separators. -/
def splitChars (separator : Char) : List Char → List (List Char)
  | [] => [[]]
  | c :: rest =>
    if c = separator then [] :: splitChars separator rest
    else
      match splitChars separator rest with
      | part :: others => (c :: part) :: others
      | [] => [[c]]

/-- The names and values of a form. -/
def formEntries (query : String) : List (String × String) :=
  ((splitChars '&' query.toList).filter (fun part => !part.isEmpty)).map (fun part =>
    (Percent.decodeForm (part.takeWhile (· ≠ '=')),
      Percent.decodeForm ((part.dropWhile (· ≠ '=')).drop 1)))

/-- The value of a name in a form, where it must not come twice. -/
def formValue? (name : String) (query : String) : Except Unit (Option String) :=
  match (formEntries query).filter (fun entry => entry.1 = name) with
  | [] => .ok none
  | [entry] => .ok (some entry.2)
  | _ => .error ()

end TrucoPaulista
