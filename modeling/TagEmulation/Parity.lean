import TagEmulation.Breach
import TagEmulation.Buffer

/-!
# Parity — one odd parity bit for every whole byte

On the air every byte is followed by one bit that makes the number of ones among the nine odd.
`parityBit` is that bit; `Buffer.fillParity` writes the bits of many bytes into a buffer, and
`parityMismatches` lists the bytes whose received bit is not the right one.  A trailing partial byte
carries no parity bit, so it is never listed.
-/

namespace TagEmulation

/-- How many of the eight bits of `b` are set. -/
def ones (b : UInt8) : Nat := (List.range 8).countP fun i => b.toNat.testBit i

/-- The odd parity bit of a byte: 1 exactly when the number of its ones is even. -/
def parityBit (b : UInt8) : UInt8 := if ones b % 2 = 0 then 1 else 0

/-- The odd parity bits of a list of bytes. -/
def parityBits (bs : List UInt8) : List UInt8 := bs.map parityBit

@[simp] theorem length_parityBits (bs : List UInt8) : (parityBits bs).length = bs.length := by
  simp [parityBits]

/-- The buffer with the parity bits of `data` written over its front.  There must be a slot for each
byte; if not, nothing is written. -/
def Buffer.fillParity {n : Nat} (slots : Buffer n) (data : List UInt8) : Except Breach (Buffer n) :=
  if data.length ≤ n then .ok (slots.overwrite (parityBits data))
  else .error (.parityTooShort n data.length)

/-- The positions, in ascending order, of the whole bytes among the first `bits` bits of `data`
whose entry in `parity` is not their odd parity bit.  The bits must lie in `data`, and every whole
byte must have an entry. -/
def parityMismatches (data : List UInt8) (bits : Nat) (parity : List UInt8) :
    Except Breach (List Nat) :=
  if 8 * data.length < bits then
    .error (.bitsPastBytes bits data.length)
  else if parity.length < bits / 8 then
    .error (.parityTooShort parity.length (bits / 8))
  else
    .ok ((List.range (bits / 8)).filter fun i => data[i]?.map parityBit != parity[i]?)

end TagEmulation
