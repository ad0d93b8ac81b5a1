import TrucoPaulista.Token.Sha256

namespace TrucoPaulista

/-- The two hexadecimal digits of a byte. -/
def hexByte (byte : UInt8) : List Char :=
  [Nat.digitChar (byte.toNat / 16), Nat.digitChar (byte.toNat % 16)]

/-- A short digest of a player's token that does not give the token away: the first six bytes of the
SHA-256 digest of its UTF-8 form, in hexadecimal. -/
def tokenFingerprint (token : String) : String :=
  String.ofList (((Sha256.digest token.toUTF8.toList).take 6).flatMap hexByte)

end TrucoPaulista
