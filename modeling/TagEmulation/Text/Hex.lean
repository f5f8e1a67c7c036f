/-!
# Text/Hex — bytes as pairs of hexadecimal digits

`Hex.ofBytes` writes every byte as two lowercase digits.  `Hex.toBytes` reads such text back: ASCII
blanks may stand anywhere, digits may have either case, and the first digit of a pair may give its
place to a plus sign.  The text is paired by its *bytes*, so a letter beyond ASCII never makes a
digit; where it stands decides which `Flaw` is found.
-/

namespace TagEmulation.Hex

/-! ## Writing -/

/-- The lowercase digit of a value below sixteen. -/
def digit (n : Nat) : Char := Char.ofNat (if n < 10 then 48 + n else 87 + n)

/-- The uppercase digit of a value below sixteen. -/
def upperDigit (n : Nat) : Char := Char.ofNat (if n < 10 then 48 + n else 55 + n)

/-- The two digits of a byte, high half first. -/
def pair (b : UInt8) : List Char := [digit (b.toNat / 16), digit (b.toNat % 16)]

/-- The two uppercase digits of a byte, high half first. -/
def upperPair (b : UInt8) : List Char := [upperDigit (b.toNat / 16), upperDigit (b.toNat % 16)]

/-- The lowercase digits of all bytes, without separators. -/
def ofBytes (bs : List UInt8) : String := String.ofList (bs.flatMap pair)

/-- The uppercase digits of all bytes, without separators. -/
def upperOfBytes (bs : List UInt8) : String := String.ofList (bs.flatMap upperPair)

/-- A byte as a number in a message: `0x` and two digits. -/
def literal8 (b : UInt8) : String := "0x" ++ ofBytes [b]

/-- A 16-bit word as a number in a message: `0x` and four digits. -/
def literal16 (w : UInt16) : String := "0x" ++ ofBytes [(w >>> 8).toUInt8, w.toUInt8]

/-! ## Reading -/

/-- Why a text is not a list of hexadecimal pairs. -/
inductive Flaw where
  /-- Blanks aside, the text has an odd number of bytes. -/
  | oddLength
  /-- The characters of this pair are not the digits of a byte. -/
  | badPair (pair : String)
  /-- The pair ends inside a character that begins at its byte `start`. -/
  | cutCharacter (start : Nat)
  /-- A flaw that a device reports in words of its own. -/
  | reported (text : String)
  deriving DecidableEq, Repr

/-- The report of a flaw. -/
def Flaw.message : Flaw → String
  | .oddLength => "hex string has odd length"
  | .badPair pair => "invalid hex pair '" ++ pair ++ "': invalid digit found in string"
  | .cutCharacter start => s!"incomplete utf-8 byte sequence from index {start}"
  | .reported text => text

/-- The blanks that may stand anywhere: space, tab, line feed, form feed and carriage return. -/
def isBlank (c : Char) : Bool :=
  c == ' ' || c == '\t' || c == '\n' || c == '\x0c' || c == '\r'

/-- The value of a hexadecimal digit of either case. -/
def value? (c : Char) : Option Nat :=
  if '0' ≤ c ∧ c ≤ '9' then some (c.toNat - 48)
  else if 'a' ≤ c ∧ c ≤ 'f' then some (c.toNat - 87)
  else if 'A' ≤ c ∧ c ≤ 'F' then some (c.toNat - 55)
  else none

/-- The byte a pair of characters denotes: two digits, or a plus sign and one digit. -/
def byte? (high low : Char) : Option UInt8 :=
  if high = '+' then (value? low).map UInt8.ofNat
  else (value? high).bind fun h => (value? low).map fun l => UInt8.ofNat (16 * h + l)

/-- The bytes denoted by a text without blanks, pair after pair.  The first pair that denotes no
byte decides the flaw. -/
def readPairs : List Char → Except Flaw (List UInt8)
  | [] => .ok []
  | [c] =>
    if c.utf8Size = 1 then .error .oddLength
    else if c.utf8Size = 2 then .error (.badPair (String.singleton c))
    else .error (.cutCharacter 0)
  | c :: d :: rest =>
    if c.utf8Size = 1 then
      if d.utf8Size = 1 then
        match byte? c d with
        | some b => (readPairs rest).map (b :: ·)
        | none => .error (.badPair (String.ofList [c, d]))
      else .error (.cutCharacter 1)
    else if c.utf8Size = 2 then .error (.badPair (String.singleton c))
    else .error (.cutCharacter 0)

/-- The number of bytes a text takes. -/
def byteCount : List Char → Nat
  | [] => 0
  | c :: cs => c.utf8Size + byteCount cs

/-- The bytes denoted by a list of characters, blanks left out. -/
def readChars (cs : List Char) : Except Flaw (List UInt8) :=
  let digits := cs.filter fun c => !isBlank c
  if byteCount digits % 2 = 0 then readPairs digits else .error .oddLength

/-- The bytes denoted by a text. -/
def toBytes (text : String) : Except Flaw (List UInt8) := readChars text.toList

end TagEmulation.Hex
