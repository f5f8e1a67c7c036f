import TagEmulation.Bits.LittleEndian

/-!
# Bits/Reverse — the order of bits within a byte

The radio sends the least significant bit of a byte first, while field notation writes the most
significant one first.  Reversing turns one into the other: the bits *within* each byte change
places, and the order of the bytes is left alone.  Doing it twice changes nothing.
-/

namespace TagEmulation

/-- The byte with the bits of `b` in the opposite order. -/
def reverseBits (b : UInt8) : UInt8 := UInt8.ofBitVec b.toBitVec.reverse

/-- Every byte with its bits reversed, in its place. -/
def reverseBitsEach (bs : List UInt8) : List UInt8 := bs.map reverseBits

/-- The word with the bits reversed within each of its four bytes. -/
def reverseBitsEach32 (v : UInt32) : UInt32 := word32 (reverseBitsEach (bytes32 v))

/-- The word with the bits reversed within each of its eight bytes. -/
def reverseBitsEach64 (v : UInt64) : UInt64 := word64 (reverseBitsEach (bytes64 v))

@[simp] theorem reverseBits_reverseBits (b : UInt8) : reverseBits (reverseBits b) = b := by
  simp [reverseBits]

@[simp] theorem length_reverseBitsEach (bs : List UInt8) :
    (reverseBitsEach bs).length = bs.length := by
  simp [reverseBitsEach]

end TagEmulation
