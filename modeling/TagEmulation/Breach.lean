/-!
# Breach — contracts that a caller can break

A `Breach` is not a fault of the radio link but a misuse of an operation: it was handed a buffer or
an offset that its contract rules out.  Such an operation stops at once and changes nothing more.
-/

namespace TagEmulation

/-- What a caller did that an operation's contract rules out. -/
inductive Breach where
  /-- The buffer for parity bits has `present` slots where `needed` are to be filled or read. -/
  | parityTooShort (present needed : Nat)
  /-- A bit count reaches past the bytes it is said to count. -/
  | bitsPastBytes (bits bytes : Nat)
  /-- A range of bytes ends before it starts. -/
  | backwardRange (start stop : Nat)
  /-- A position lies behind the last byte. -/
  | indexPastBytes (length index : Nat)
  /-- Two offsets have a sum that no word holds. -/
  | sumPastWord
  deriving DecidableEq, Repr

/-- The report of a broken contract.  A sum that no word holds comes without one. -/
def Breach.message : Breach → String
  | .parityTooShort present needed => s!"parity buffer too small: {present} < {needed}"
  | .bitsPastBytes bits bytes => s!"bit count exceeds buffer: {bits} bits in {bytes} bytes"
  | .backwardRange start stop => s!"slice index starts at {start} but ends at {stop}"
  | .indexPastBytes length index =>
    s!"index out of bounds: the len is {length} but the index is {index}"
  | .sumPastWord => ""

end TagEmulation
