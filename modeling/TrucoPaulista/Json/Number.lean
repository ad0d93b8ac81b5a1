import TrucoPaulista.Json

namespace TrucoPaulista.Json

def digitValue (c : Char) : Nat := c.toNat - '0'.toNat

/-- The value of decimal digits. -/
def digitsValue (digits : List Char) : Nat :=
  digits.foldl (fun value c => 10 * value + digitValue c) 0

/-- The value of digits with a sign before them. -/
def signedValue : List Char → Int
  | '-' :: digits => -(digitsValue digits : Int)
  | '+' :: digits => digitsValue digits
  | digits => digitsValue digits

/-- The magnitude of a number: its leading digits as a word of 64 bits, and the power of ten they
are taken times. -/
structure Magnitude where
  significand : Nat
  exponent : Int
  deriving DecidableEq

namespace Magnitude

/-- Takes the digits before the point. From the first on that does not fit they only count. -/
def takeWhole (m : Magnitude) : List Char → Magnitude
  | [] => m
  | c :: rest =>
    let next := 10 * m.significand + digitValue c
    if next < UInt64.size then takeWhole { m with significand := next } rest
    else { m with exponent := m.exponent + (rest.length + 1) }

/-- Takes the digits after the point, up to the first that does not fit. -/
def takeFraction (m : Magnitude) : List Char → Magnitude
  | [] => m
  | c :: rest =>
    let next := 10 * m.significand + digitValue c
    if next < UInt64.size then takeFraction ⟨next, m.exponent - 1⟩ rest else m

/-- The magnitude of a number as it is written. -/
def ofChars (text : List Char) : Magnitude :=
  let isMark (c : Char) := c = 'e' || c = 'E'
  let mantissa := (text.dropWhile (· = '-')).takeWhile (fun c => !isMark c)
  let power := signedValue ((text.dropWhile (fun c => !isMark c)).drop 1)
  let whole := takeWhole ⟨0, 0⟩ (mantissa.takeWhile (· ≠ '.'))
  let m := whole.takeFraction ((mantissa.dropWhile (· ≠ '.')).drop 1)
  { m with exponent := m.exponent + power }

/-- The number of double precision that is nearest to a natural number, of two the even one. -/
def nearestDouble (n : Nat) : Nat :=
  let unit := Nat.pow 2 (n.log2 - 52)
  let quotient := n / unit
  let twice := 2 * (n % unit)
  if twice < unit then quotient * unit
  else if unit < twice then (quotient + 1) * unit
  else (quotient + quotient % 2) * unit

/-- The least magnitude that is rounded to infinity: half a unit of the last place above the
largest number of double precision. -/
def doubleBound : Nat := Nat.pow 2 1024 - Nat.pow 2 970

/-- Whether a magnitude is within the range of double precision, where its two parts are rounded
before they are multiplied. -/
def isFinite (m : Magnitude) : Bool :=
  m.significand = 0 || m.exponent ≤ 0 ||
    (m.exponent ≤ 308 &&
      nearestDouble m.significand * nearestDouble (Nat.pow 10 m.exponent.toNat) < doubleBound)

end Magnitude

/-- The integers of 64 bits, with or without a sign. -/
def isInteger64 (value : Int) : Bool := Int64.minValue.toInt ≤ value && value < UInt64.size

/-- The value of a number as it is written. A number that is beyond double precision has none. -/
def ofNumber? (text : List Char) : Option Json :=
  let value := signedValue text
  let whole := text.all (fun c => c.isDigit || c = '-')
  if whole && isInteger64 value && text ≠ ['-', '0'] then some (.int value)
  else if (Magnitude.ofChars text).isFinite then some (.real (String.ofList text))
  else none

end TrucoPaulista.Json
