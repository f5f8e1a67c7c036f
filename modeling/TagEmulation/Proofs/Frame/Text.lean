import Mathlib.Data.List.Basic
import TagEmulation.Proofs.Frame.Bits
import TagEmulation.Proofs.Text.Written

/-!
# Proofs/Frame/Text — the text of a frame, byte by byte

The text of a frame is one piece for each whole byte, and the digits of the byte the bits end in, if
they end inside one (`Frame.text_eq_spelling`).  A writer of bits marks a byte also where it is
given no parity bit for it.  In the text of a frame this never happens: a frame that carries parity
bits has one for each whole byte, so a mark says that the parity bit is there and wrong
(`Frame.isMarked`).
-/

namespace TagEmulation.Frame

variable (f : Frame)

/-- The parity bit of the byte at `i` is carried, and wrong. -/
def isMarked (i : Nat) : Bool := (f.parity.bind (·[i]?)).any (· != parityBit (f.byte i))

/-- The digits of the byte that the bits end in, if they end inside one. -/
def ending : List Char := if f.residualBits = 0 then [] else Hex.pair (f.byte f.wholeBytes)

/-- The text of a frame: its whole bytes, marked or not, and its ending. -/
def spelling : List Char :=
  (List.range f.wholeBytes).flatMap (fun i => Text.piece (f.isMarked i) (f.byte i)) ++ f.ending

/-- Bits that end inside a byte have a byte to end in. -/
theorem residue_eq_ending : Text.residue f.bytes f.bits = f.ending := by
  change (if f.residualBits = 0 then [] else (f.bytes[f.wholeBytes]?).elim [] Hex.pair) = _
  rw [ending]
  split_ifs with hresidual
  · rfl
  · have hlast : f.wholeBytes < f.bytes.length := by
      rw [residualBits] at hresidual
      rw [f.length_bytes, bytesFor, wholeBytes]
      omega
    rw [byte, List.getElem?_eq_getElem hlast]
    rfl

theorem length_take_wholeBytes : (f.bytes.take f.wholeBytes).length = f.wholeBytes := by
  rw [List.length_take, Nat.min_eq_left f.wholeBytes_le_length]

theorem getElem?_take_wholeBytes {i : Nat} (hi : i < f.wholeBytes) :
    (f.bytes.take f.wholeBytes)[i]? = some (f.byte i) := by
  have hlength : i < f.bytes.length := hi.trans_le f.wholeBytes_le_length
  rw [List.getElem?_take_of_lt hi, byte_of_lt hlength, List.getElem?_eq_getElem hlength]

theorem spaced_eq_flatMap : Text.spaced (f.bytes.take f.wholeBytes)
    = (List.range f.wholeBytes).flatMap fun i => Text.piece false (f.byte i) := by
  rw [Text.spaced_eq_flatMap, length_take_wholeBytes]
  refine List.flatMap_congr fun i hi => ?_
  rw [f.getElem?_take_wholeBytes (List.mem_range.mp hi), Option.getD_some]

/-- Every whole byte has a parity bit to look at. -/
theorem marked_eq_flatMap {parity : List UInt8} (hparity : f.parity = some parity) :
    Text.marked (f.bytes.take f.wholeBytes) parity
      = (List.range f.wholeBytes).flatMap fun i => Text.piece (f.isMarked i) (f.byte i) := by
  rw [Text.marked_eq_flatMap, length_take_wholeBytes]
  refine List.flatMap_congr fun i hi => ?_
  have hwhole : i < f.wholeBytes := List.mem_range.mp hi
  have hslot : i < parity.length := hwhole.trans_le (f.whole_le_parity parity hparity)
  have hmarked : f.isMarked i = (parity[i] != parityBit (f.byte i)) := by
    rw [isMarked, hparity, Option.bind_some, List.getElem?_eq_getElem hslot, Option.any_some]
  rw [f.getElem?_take_wholeBytes hwhole, List.getElem?_eq_getElem hslot, hmarked]
  rfl

/-- Written down without its parity bits, a frame has no marks. -/
theorem ofBits_eq_unmarked : Text.ofBits f.bytes f.bits = String.ofList
    ((List.range f.wholeBytes).flatMap (fun i => Text.piece false (f.byte i)) ++ f.ending) := by
  rw [← f.spaced_eq_flatMap, ← f.residue_eq_ending]
  rfl

/-- **The text of a frame marks a byte exactly if its parity bit is carried and wrong.** -/
theorem text_eq_spelling : f.text = String.ofList f.spelling := by
  rw [text, spelling]
  cases hparity : f.parity with
  | some parity =>
    rw [← f.marked_eq_flatMap hparity, ← f.residue_eq_ending]
    rfl
  | none =>
    have hunmarked (i : Nat) : f.isMarked i = false := by rw [isMarked, hparity]; rfl
    simp only [hunmarked, f.ofBits_eq_unmarked]

end TagEmulation.Frame
