namespace TrucoPaulista

/-- An internet address with a port: four bytes, or eight words and the number of an interface. -/
inductive Address where
  | v4 (bytes : List Nat) (port : Nat)
  | v6 (words : List Nat) (scope : Nat) (port : Nat)
  deriving DecidableEq

namespace Address

/-- Reads something from the beginning of characters, and gives the rest. -/
abbrev Reader (α : Type) := List Char → Option (α × List Char)

/-- Reads a given character. -/
def readChar (expected : Char) : Reader Unit
  | [] => none
  | c :: rest => if c = expected then some ((), rest) else none

def digitValue (c : Char) : Nat :=
  if c.isDigit then c.toNat - '0'.toNat
  else if c.toNat < 'a'.toNat then c.toNat - 'A'.toNat + 10
  else c.toNat - 'a'.toNat + 10

/-- Whether a character is a hexadecimal digit. -/
def isHexDigit (c : Char) : Bool :=
  c.isDigit || ('a' ≤ c && c ≤ 'f') || ('A' ≤ c && c ≤ 'F')

/-- The value of digits. -/
def digitsValue (base : Nat) (digits : List Char) : Nat :=
  digits.foldl (fun value c => base * value + digitValue c) 0

/-- Reads a decimal number that is not larger than the largest one. -/
def readDecimal (most : Nat) : Reader Nat := fun cs =>
  let digits := cs.takeWhile Char.isDigit
  let value := digitsValue 10 digits
  if digits.isEmpty || most < value then none else some (value, cs.dropWhile Char.isDigit)

/-- Reads a byte: up to three digits, and no zero before others. -/
def readByte : Reader Nat := fun cs => do
  let digits := cs.takeWhile Char.isDigit
  guard (digits.length ≤ 3)
  guard (!(digits.head? = some '0' && 1 < digits.length))
  readDecimal 255 cs

/-- Reads a word: up to four hexadecimal digits. -/
def readWord : Reader Nat := fun cs =>
  let digits := cs.takeWhile isHexDigit
  if digits.isEmpty || 4 < digits.length then none
  else some (digitsValue 16 digits, cs.dropWhile isHexDigit)

/-- Reads four bytes with points between them. -/
def readBytes : Reader (List Nat) := fun cs => do
  let (a, cs) ← readByte cs
  let (_, cs) ← readChar '.' cs
  let (b, cs) ← readByte cs
  let (_, cs) ← readChar '.' cs
  let (c, cs) ← readByte cs
  let (_, cs) ← readChar '.' cs
  let (d, cs) ← readByte cs
  return ([a, b, c, d], cs)

/-- Two words from four bytes. -/
def wordsOfBytes : List Nat → List Nat
  | a :: b :: rest => (256 * a + b) :: wordsOfBytes rest
  | _ => []

/-- Reads the colon before a word that is not the first one. -/
def readColon (isFirst : Bool) : Reader Unit := fun cs =>
  if isFirst then some ((), cs) else readChar ':' cs

/-- Reads words with colons between them, at most so many. The last two may be written as four
bytes; the answer tells whether they are. -/
def readWords (isFirst : Bool) : Nat → List Char → (List Nat × Bool) × List Char
  | 0, cs => (([], false), cs)
  | room + 1, cs =>
    let bytes : Option (List Nat × List Char) := do
      guard (0 < room)
      let (_, cs) ← readColon isFirst cs
      readBytes cs
    match bytes with
    | some (bytes, cs) => ((wordsOfBytes bytes, true), cs)
    | none =>
      match (readColon isFirst cs).bind (fun (_, cs) => readWord cs) with
      | none => (([], false), cs)
      | some (word, cs) =>
        let ((words, inBytes), cs) := readWords false room cs
        ((word :: words, inBytes), cs)

/-- Reads eight words. Two colons stand for as many zeros as are missing. -/
def readEightWords : Reader (List Nat) := fun cs => do
  let ((front, inBytes), cs) := readWords true 8 cs
  if front.length = 8 then return (front, cs)
  guard (!inBytes)
  let (_, cs) ← readChar ':' cs
  let (_, cs) ← readChar ':' cs
  let ((back, _), cs) := readWords true (7 - front.length) cs
  return (front ++ List.replicate (8 - front.length - back.length) 0 ++ back, cs)

/-- Reads a port after its colon. -/
def readPort : Reader Nat := fun cs => do
  let (_, cs) ← readChar ':' cs
  readDecimal 65535 cs

/-- Reads an address of four bytes. -/
def readV4 : Reader Address := fun cs => do
  let (bytes, cs) ← readBytes cs
  let (port, cs) ← readPort cs
  return (v4 bytes port, cs)

/-- Reads the number of an interface after its percent sign, or nothing. -/
def readScope (cs : List Char) : Nat × List Char :=
  ((readChar '%' cs).bind (fun (_, cs) => readDecimal (UInt32.size - 1) cs)).getD (0, cs)

/-- Reads an address of eight words. -/
def readV6 : Reader Address := fun cs => do
  let (_, cs) ← readChar '[' cs
  let (words, cs) ← readEightWords cs
  let (scope, cs) := readScope cs
  let (_, cs) ← readChar ']' cs
  let (port, cs) ← readPort cs
  return (v6 words scope port, cs)

/-- Reads an address. -/
def parse? (text : String) : Option Address :=
  match (readV4 text.toList).or (readV6 text.toList) with
  | some (address, []) => some address
  | _ => none

/-- The number of zeros at the beginning of words. -/
def leadingZeros (words : List Nat) : Nat := (words.takeWhile (· = 0)).length

/-- Where the longest run of zeros begins, and how long it is; of equal ones the first counts. -/
def longestZeros : Nat → List Nat → Nat × Nat
  | place, [] => (place, 0)
  | place, word :: rest =>
    let here := leadingZeros (word :: rest)
    let later := longestZeros (place + 1) rest
    if later.2 ≤ here then (place, here) else later

/-- A word in hexadecimal digits. -/
def wordText (word : Nat) : String := String.ofList (Nat.toDigits 16 word)

/-- Words with colons between them. -/
def wordsText (words : List Nat) : String := String.intercalate ":" (words.map wordText)

/-- Four bytes with points between them. -/
def bytesText (bytes : List Nat) : String :=
  String.intercalate "." (bytes.map (fun byte => toString byte))

/-- Eight words as a text. The longest run of zeros is left out if it has more than one; an address
that stands for one of four bytes ends with these. -/
def eightWordsText (words : List Nat) : String :=
  match words with
  | [0, 0, 0, 0, 0, 0xffff, high, low] =>
    "::ffff:" ++ bytesText [high / 256, high % 256, low / 256, low % 256]
  | _ =>
    let (place, count) := longestZeros 0 words
    if 1 < count then wordsText (words.take place) ++ "::" ++ wordsText (words.drop (place + count))
    else wordsText words

/-- An address as a text. -/
def text : Address → String
  | v4 bytes port => bytesText bytes ++ ":" ++ toString port
  | v6 words scope port =>
    let interface := if scope = 0 then "" else "%" ++ toString scope
    "[" ++ eightWordsText words ++ interface ++ "]:" ++ toString port

end Address

end TrucoPaulista
