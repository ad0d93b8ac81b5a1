namespace TrucoPaulista.Text

/-- Where the reading of UTF-8 stands: before a character, or within one of which so many bytes are
missing, with the bits read so far and the bounds of the next byte. -/
inductive Utf8State where
  | start
  | within (missing value least most : Nat)

/-- The first byte of a character. A byte that no character begins with gives no character. -/
def beginChar (byte : Nat) : Utf8State × List (Option Char) :=
  if byte < 0x80 then (.start, [some (Char.ofNat byte)])
  else if byte < 0xc2 then (.start, [none])
  else if byte < 0xe0 then (.within 1 (byte - 0xc0) 0x80 0xbf, [])
  else if byte = 0xe0 then (.within 2 0 0xa0 0xbf, [])
  else if byte = 0xed then (.within 2 0xd 0x80 0x9f, [])
  else if byte < 0xf0 then (.within 2 (byte - 0xe0) 0x80 0xbf, [])
  else if byte = 0xf0 then (.within 3 0 0x90 0xbf, [])
  else if byte < 0xf4 then (.within 3 (byte - 0xf0) 0x80 0xbf, [])
  else if byte = 0xf4 then (.within 3 4 0x80 0x8f, [])
  else (.start, [none])

/-- The next byte. One that does not go on with the character before it begins a new one. -/
def continueChar (state : Utf8State) (byte : Nat) : Utf8State × List (Option Char) :=
  match state with
  | .start => beginChar byte
  | .within missing value least most =>
    if least ≤ byte && byte ≤ most then
      let value := value * 64 + byte % 64
      if missing ≤ 1 then (.start, [some (Char.ofNat value)])
      else (.within (missing - 1) value 0x80 0xbf, [])
    else
      let (state, read) := beginChar byte
      (state, none :: read)

/-- The characters of bytes in UTF-8; each part that is no character is left open. -/
def readUtf8 (state : Utf8State) : List UInt8 → List (Option Char)
  | [] =>
    match state with
    | .start => []
    | .within _ _ _ _ => [none]
  | byte :: rest =>
    let (state, read) := continueChar state byte.toNat
    read ++ readUtf8 state rest

/-- The text of bytes in UTF-8, if they are well formed. -/
def ofUtf8? (bytes : List UInt8) : Option String :=
  ((readUtf8 .start bytes).mapM id).map String.ofList

/-- The text of bytes in UTF-8, with the replacement character for what is not well formed. -/
def ofUtf8Lossy (bytes : List UInt8) : String :=
  String.ofList ((readUtf8 .start bytes).map (fun c => c.getD (Char.ofNat 0xfffd)))

end TrucoPaulista.Text
