namespace TrucoPaulista.Json

/-- A piece of a JSON text. A string that is no sequence of characters has no value. What cannot be
read is `bad`. -/
inductive Lexeme where
  | openArray
  | closeArray
  | openObject
  | closeObject
  | colon
  | comma
  | null
  | bool (value : Bool)
  | number (text : List Char)
  | text (value : Option String)
  | bad
  deriving DecidableEq

/-- Whether a code unit is the first or the second one of a pair. -/
def isSurrogate (unit : Nat) : Bool := 0xD800 ≤ unit && unit ≤ 0xDFFF

/-- The code point of a pair of code units. -/
def pairPoint (high low : Nat) : Nat := 0x10000 + (high - 0xD800) * 0x400 + (low - 0xDC00)

/-- The characters of code points and of pairs of code units, the last one first, put before those
already read. A unit outside a pair is refused. -/
def charsOfUnits? (read : List Char) : List Nat → Option (List Char)
  | [] => some read
  | [unit] => if isSurrogate unit then none else some (Char.ofNat unit :: read)
  | unit :: previous :: rest =>
    if !isSurrogate unit then charsOfUnits? (Char.ofNat unit :: read) (previous :: rest)
    else if 0xDC00 ≤ unit && 0xD800 ≤ previous && previous < 0xDC00 then
      charsOfUnits? (Char.ofNat (pairPoint previous unit) :: read) rest
    else none

/-- The value of a hexadecimal digit. -/
def hexValue? (c : Char) : Option Nat :=
  if '0' ≤ c && c ≤ '9' then some (c.toNat - '0'.toNat)
  else if 'a' ≤ c && c ≤ 'f' then some (c.toNat - 'a'.toNat + 10)
  else if 'A' ≤ c && c ≤ 'F' then some (c.toNat - 'A'.toNat + 10)
  else none

/-- What a character stands for after a backslash. -/
def escapeTarget? (c : Char) : Option Nat :=
  match c with
  | '"' => some 0x22
  | '\\' => some 0x5c
  | '/' => some 0x2f
  | 'b' => some 0x08
  | 'f' => some 0x0c
  | 'n' => some 0x0a
  | 'r' => some 0x0d
  | 't' => some 0x09
  | _ => none

/-- How far a number has been read: its sign, a leading zero, other digits, its point, digits after
the point, the mark of the exponent, the sign of the exponent, digits of the exponent. -/
inductive NumberPart where
  | sign
  | zero
  | digits
  | point
  | fraction
  | mark
  | markSign
  | exponent
  deriving DecidableEq

namespace NumberPart

/-- Whether a number may end here. -/
def complete : NumberPart → Bool
  | zero | digits | fraction | exponent => true
  | _ => false

/-- How a number goes on with a character, if it does. -/
def next? (part : NumberPart) (c : Char) : Option NumberPart :=
  match part with
  | sign => if c = '0' then some zero else if c.isDigit then some digits else none
  | zero => if c = '.' then some point else if c = 'e' || c = 'E' then some mark else none
  | digits =>
    if c.isDigit then some digits
    else if c = '.' then some point
    else if c = 'e' || c = 'E' then some mark
    else none
  | point => if c.isDigit then some fraction else none
  | fraction =>
    if c.isDigit then some fraction else if c = 'e' || c = 'E' then some mark else none
  | mark =>
    if c.isDigit then some exponent else if c = '+' || c = '-' then some markSign else none
  | markSign => if c.isDigit then some exponent else none
  | exponent => if c.isDigit then some exponent else none

end NumberPart

/-- What is being read: nothing yet, the rest of a word, a number, a string, a string after a
backslash, or a string within the digits of an escaped code unit. What has been read is kept with
the last part first. -/
inductive Pending where
  | nothing
  | word (rest : List Char) (lexeme : Lexeme)
  | number (part : NumberPart) (read : List Char)
  | string (units : List Nat)
  | escape (units : List Nat)
  | unit (units : List Nat) (missing : Nat) (value : Nat)
  | failed

/-- A reader of lexemes: what is being read, and the lexemes read, the last one first. -/
structure Lexer where
  pending : Pending
  lexemes : List Lexeme

namespace Lexer

/-- The reader before the first character. -/
def initial : Lexer := ⟨.nothing, []⟩

/-- A lexeme is complete. -/
def emit (l : Lexer) (lexeme : Lexeme) : Lexer := ⟨.nothing, lexeme :: l.lexemes⟩

/-- The text cannot be read on. -/
def fail (l : Lexer) : Lexer := ⟨.failed, .bad :: l.lexemes⟩

/-- The first character of a lexeme, or white space before it. -/
def begin (l : Lexer) (c : Char) : Lexer :=
  match c with
  | ' ' | '\n' | '\t' | '\r' => l
  | '[' => l.emit .openArray
  | ']' => l.emit .closeArray
  | '\x7b' => l.emit .openObject
  | '\x7d' => l.emit .closeObject
  | ':' => l.emit .colon
  | ',' => l.emit .comma
  | '"' => { l with pending := .string [] }
  | 't' => { l with pending := .word ['r', 'u', 'e'] (.bool true) }
  | 'f' => { l with pending := .word ['a', 'l', 's', 'e'] (.bool false) }
  | 'n' => { l with pending := .word ['u', 'l', 'l'] .null }
  | '-' => { l with pending := .number .sign ['-'] }
  | '0' => { l with pending := .number .zero ['0'] }
  | c => if c.isDigit then { l with pending := .number .digits [c] } else l.fail

/-- The next character. -/
def step (l : Lexer) (c : Char) : Lexer :=
  match l.pending with
  | .nothing => l.begin c
  | .word [] lexeme => (l.emit lexeme).begin c
  | .word (expected :: rest) lexeme =>
    if c ≠ expected then l.fail
    else if rest.isEmpty then l.emit lexeme
    else { l with pending := .word rest lexeme }
  | .number part read =>
    match part.next? c with
    | some part => { l with pending := .number part (c :: read) }
    | none =>
      if part.complete && !(part = .zero && c.isDigit) then
        (l.emit (.number read.reverse)).begin c
      else l.fail
  | .string units =>
    if c = '"' then l.emit (.text ((charsOfUnits? [] units).map String.ofList))
    else if c = '\\' then { l with pending := .escape units }
    else if c.toNat < 0x20 then l.fail
    else { l with pending := .string (c.toNat :: units) }
  | .escape units =>
    if c = 'u' then { l with pending := .unit units 4 0 }
    else
      match escapeTarget? c with
      | some point => { l with pending := .string (point :: units) }
      | none => l.fail
  | .unit units missing value =>
    match hexValue? c with
    | none => l.fail
    | some digit =>
      let value := 16 * value + digit
      if missing ≤ 1 then { l with pending := .string (value :: units) }
      else { l with pending := .unit units (missing - 1) value }
  | .failed => l

/-- The lexemes at the end of the text. -/
def finish (l : Lexer) : List Lexeme :=
  match l.pending with
  | .nothing | .failed => l.lexemes.reverse
  | .number part read =>
    if part.complete then (l.emit (.number read.reverse)).lexemes.reverse
    else l.fail.lexemes.reverse
  | _ => l.fail.lexemes.reverse

end Lexer

/-- The lexemes of a text, up to the first that cannot be read. -/
def lexemes (text : String) : List Lexeme := (text.toList.foldl Lexer.step .initial).finish

end TrucoPaulista.Json
