import TagEmulation.Parity
import TagEmulation.Text.Hex

/-!
# Text/Bits — bit-counted bytes as a reader of a log sees them

Every whole byte is written as two digits and two blanks; a trailing partial byte follows bare,
since it has no parity bit.  With parity bits at hand, the first of the two blanks becomes a mark
behind each byte whose bit is wrong or missing.
-/

namespace TagEmulation.Text

/-- The digits of the partial byte that the bit count ends in, if there is one and it is there. -/
def residue (data : List UInt8) (bits : Nat) : List Char :=
  if bits % 8 = 0 then [] else (data[bits / 8]?).elim [] Hex.pair

/-- Whole bytes, each followed by two blanks. -/
def spaced (data : List UInt8) : List Char := data.flatMap fun b => Hex.pair b ++ [' ', ' ']

/-- Whole bytes beside their parity bits, each followed by a blank, or by a mark where its bit is
wrong or missing, and by one more blank. -/
def marked : List UInt8 → List UInt8 → List Char
  | [], _ => []
  | b :: bs, parity =>
    Hex.pair b ++ [if parity.head? = some (parityBit b) then ' ' else '!', ' '] ++
      marked bs parity.tail

/-- The first `bits` bits of `data`.  Bits beyond the data are left out. -/
def ofBits (data : List UInt8) (bits : Nat) : String :=
  String.ofList (spaced (data.take (bits / 8)) ++ residue data bits)

/-- The first `bits` bits of `data`, with a mark for every whole byte whose parity bit is wrong or
missing. -/
def ofBitsParity (data : List UInt8) (bits : Nat) (parity : List UInt8) : String :=
  String.ofList (marked (data.take (bits / 8)) parity ++ residue data bits)

end TagEmulation.Text
