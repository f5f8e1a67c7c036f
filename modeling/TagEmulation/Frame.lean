import TagEmulation.Fault
import TagEmulation.Text.Bits

/-!
# Frame — bytes with an exact number of bits

A frame on the air need not end with a whole byte.  A `Frame` holds the bytes its bits touch, and no
more, with the number of bits; where parity is handled in software it also holds the parity bits,
at least one for every whole byte.  Both conditions are part of the type, so every way to make a
frame keeps them.  The bits of the last byte that the count leaves out are kept as they came.
-/

namespace TagEmulation

/-- The number of bytes that `bits` bits touch. -/
def bytesFor (bits : Nat) : Nat := (bits + 7) / 8

/-- A frame: bytes, an exact number of bits and, if carried, parity bits. -/
structure Frame where
  /-- The bytes the bits touch, least significant bit first within each. -/
  bytes : List UInt8
  /-- The number of bits. -/
  bits : Nat
  /-- The parity bits of the whole bytes, if they are carried. -/
  parity : Option (List UInt8)
  length_bytes : bytes.length = bytesFor bits
  whole_le_parity : ∀ p ∈ parity, bits / 8 ≤ p.length
  deriving DecidableEq

namespace Frame

/-! ## Making frames -/

/-- The frame without bits. -/
def empty : Frame where
  bytes := []
  bits := 0
  parity := none
  length_bytes := rfl
  whole_le_parity := by simp

instance : Inhabited Frame := ⟨empty⟩

/-- The frame of the first `bits` bits of `data`; bytes behind them are dropped. -/
def ofBits (data : List UInt8) (bits : Nat) : Except Fault Frame :=
  if h : bits ≤ 8 * data.length then
    .ok {
      bytes := data.take (bytesFor bits)
      bits
      parity := none
      length_bytes := by rw [List.length_take, bytesFor]; omega
      whole_le_parity := by simp }
  else
    .error (.tooManyBits bits data.length)

/-- The frame of the first `bits` bits of a receive buffer: the bytes they touch are cut out of the
buffer, and then framed. -/
def ofBuffer (buffer : List UInt8) (bits : Nat) : Except Fault Frame :=
  if bytesFor bits ≤ buffer.length then
    ofBits (buffer.take (bytesFor bits)) bits
  else
    .error (.tooManyBits bits buffer.length)

/-- The frame of all bits of `data`. -/
def ofBytes (data : List UInt8) : Frame where
  bytes := data
  bits := 8 * data.length
  parity := none
  length_bytes := by rw [bytesFor]; omega
  whole_le_parity := by simp

/-- The short frame of the lower seven bits of a command byte. -/
def short (command : UInt8) : Frame where
  bytes := [command &&& 0x7f]
  bits := 7
  parity := none
  length_bytes := rfl
  whole_le_parity := by simp

/-! ## Measures -/

/-- The number of bytes the bits touch. -/
def byteCount (f : Frame) : Nat := f.bytes.length

/-- The number of whole bytes, the ones that have a parity bit. -/
def wholeBytes (f : Frame) : Nat := f.bits / 8

/-- The number of bits behind the whole bytes. -/
def residualBits (f : Frame) : Nat := f.bits % 8

/-- Whether there are no bits. -/
def isEmpty (f : Frame) : Bool := f.bits == 0

/-- A frame has all its whole bytes. -/
theorem wholeBytes_le_length (f : Frame) : f.wholeBytes ≤ f.bytes.length := by
  rw [f.length_bytes, bytesFor, wholeBytes]; omega

/-- The bits of a frame lie in its bytes. -/
theorem bits_le_length (f : Frame) : f.bits ≤ 8 * f.bytes.length := by
  rw [f.length_bytes, bytesFor]; omega

/-! ## Parity -/

/-- The frame with the given parity bits, of which every whole byte needs one. -/
def withParity (f : Frame) (parity : List UInt8) : Except Fault Frame :=
  if h : f.wholeBytes ≤ parity.length then
    .ok { f with parity := some parity, whole_le_parity := by rintro p ⟨⟩; exact h }
  else
    .error (.wrongLength f.wholeBytes parity.length)

/-- The parity bits its whole bytes should have. -/
def rightParity (f : Frame) : List UInt8 := parityBits (f.bytes.take f.wholeBytes)

@[simp] theorem length_rightParity (f : Frame) : f.rightParity.length = f.wholeBytes := by
  simp [rightParity, Nat.min_eq_left f.wholeBytes_le_length]

/-- The frame with the parity bits its whole bytes should have. -/
def withRightParity (f : Frame) : Frame :=
  { f with
    parity := some f.rightParity
    whole_le_parity := by rintro p ⟨⟩; simp [wholeBytes] }

/-! ## Text -/

/-- The frame as a log shows it: bytes in hexadecimal, and marks where carried parity is wrong. -/
def text (f : Frame) : String :=
  match f.parity with
  | some parity => Text.ofBitsParity f.bytes f.bits parity
  | none => Text.ofBits f.bytes f.bits

end Frame

end TagEmulation
