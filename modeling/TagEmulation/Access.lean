import TagEmulation.Frame
import TagEmulation.Identity

/-!
# Access — reading bytes at given offsets

Every reader first asks whether there are enough bytes, and says how many it wants if there are not.
Offsets are 64-bit words, and so is the end of what is read.  What becomes of an end that no word
holds is a matter of the `Arithmetic`: where sums are checked, adding up is the breach; where they
wrap around, the end may come to lie in the data, and then what it is used for is the breach.
-/

namespace TagEmulation

/-! ## Sums of offsets -/

/-- What becomes of a sum that no word holds. -/
inductive Arithmetic where
  /-- It is a breach. -/
  | checked
  /-- It wraps around. -/
  | wrapping
  deriving DecidableEq, Repr

/-- The sum of two offsets. -/
def Arithmetic.sum : Arithmetic → UInt64 → UInt64 → Except Breach UInt64
  | .checked, x, y =>
    if x.toNat + y.toNat < UInt64.size then .ok (x + y) else .error .sumPastWord
  | .wrapping, x, y => .ok (x + y)

/-! ## Readers -/

/-- There must be at least `minimum` bytes. -/
def requireLength (data : List UInt8) (minimum : UInt64) : Except Fault Unit :=
  if data.length < minimum.toNat then .error (.wrongLength minimum.toNat data.length) else .ok ()

namespace Arithmetic

variable (a : Arithmetic) (data : List UInt8)

/-- The end of the `count` bytes from `start` on.  There must be as many bytes as it says. -/
def endOf (start count : UInt64) : Except Failure UInt64 :=
  match a.sum start count with
  | .error breach => .error (.breach breach)
  | .ok stop => orFault ((requireLength data stop).map fun _ => stop)

/-- The `count` bytes from `start` on. -/
def sliceAt (start count : UInt64) : Except Failure (List UInt8) :=
  match a.endOf data start count with
  | .error failure => .error failure
  | .ok stop =>
    if stop < start then .error (.breach (.backwardRange start.toNat stop.toNat))
    else .ok ((data.drop start.toNat).take count.toNat)

/-- The byte at `index`. -/
def byteAt (index : UInt64) : Except Failure UInt8 :=
  match a.endOf data index 1 with
  | .error failure => .error failure
  | .ok _ =>
    match data[index.toNat]? with
    | some b => .ok b
    | none => .error (.breach (.indexPastBytes data.length index.toNat))

/-- The UID in the four bytes from `start` on. -/
def uidAt (start : UInt64) : Except Failure Uid :=
  match a.sliceAt data start 4 with
  | .error failure => .error failure
  | .ok bs => orFault (Uid.ofBytes bs)

/-- The byte at `index` must be `expected`. -/
def requireByte (index : UInt64) (expected : UInt8) : Except Failure Unit :=
  match a.byteAt data index with
  | .error failure => .error failure
  | .ok actual =>
    if actual = expected then .ok () else .error (.fault (.wrongCommand expected actual))

end Arithmetic

/-! ## Readers whose sums are checked -/

/-- The bytes of a range, sums checked. -/
abbrev sliceAt := Arithmetic.checked.sliceAt

/-- The byte at a position, sums checked. -/
abbrev byteAt := Arithmetic.checked.byteAt

/-- The UID at a position, sums checked. -/
abbrev uidAt := Arithmetic.checked.uidAt

/-- The byte at a position must be the one given, sums checked. -/
abbrev requireByte := Arithmetic.checked.requireByte

/-! ## The length of a frame -/

/-- A frame must have exactly `bits` bits; the report counts in bytes. -/
def Frame.requireBits (f : Frame) (bits : Nat) : Except Fault Unit :=
  if f.bits = bits then .ok () else .error (.wrongLength (bits / 8) f.byteCount)

theorem Frame.requireBits_of_eq {f : Frame} {bits : Nat} (h : f.bits = bits) :
    f.requireBits bits = .ok () := if_pos h

theorem Frame.requireBits_eq_ok_iff {f : Frame} {bits : Nat} {u : Unit} :
    f.requireBits bits = .ok u ↔ f.bits = bits := by
  rw [requireBits]
  split
  · next h => exact ⟨fun _ => h, fun _ => rfl⟩
  · next h => exact ⟨nofun, fun hbits => absurd hbits h⟩

end TagEmulation
