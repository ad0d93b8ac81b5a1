namespace TrucoPaulista

/-- Why a text is no number. -/
inductive NumberError where
  | empty
  | invalidDigit
  | tooLarge
  deriving DecidableEq

def NumberError.message : NumberError → String
  | empty => "cannot parse integer from empty string"
  | invalidDigit => "invalid digit found in string"
  | tooLarge => "number too large to fit in target type"

namespace Number

/-- Reads on after some digits. The first fault counts. -/
def readDigits (most value : Nat) : List Char → Except NumberError Nat
  | [] => .ok value
  | c :: rest =>
    if !c.isDigit then .error .invalidDigit
    else
      let value := 10 * value + (c.toNat - '0'.toNat)
      if most < value then .error .tooLarge else readDigits most value rest

/-- Reads a natural number that is not larger than the largest one. A plus sign may precede it. -/
def parse (most : Nat) (text : String) : Except NumberError Nat :=
  match text.toList with
  | [] => .error .empty
  | ['+'] => .error .invalidDigit
  | '+' :: digits => readDigits most 0 digits
  | digits => readDigits most 0 digits

/-- Reads a word of 32 bits. -/
def parseUInt32 (text : String) : Except NumberError UInt32 :=
  (parse (UInt32.size - 1) text).map UInt32.ofNat

/-- Reads a word of 64 bits. -/
def parseUInt64 (text : String) : Except NumberError UInt64 :=
  (parse (UInt64.size - 1) text).map UInt64.ofNat

end Number

end TrucoPaulista
