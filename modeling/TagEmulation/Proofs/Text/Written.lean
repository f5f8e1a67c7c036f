import Mathlib.Logic.Function.Basic
import TagEmulation.Proofs.Text.HexGrammar
import TagEmulation.Text.Bits

/-!
# Proofs/Text/Written — a text of bits, byte by byte

The two digits of a byte tell which byte it is (`Hex.pair_injective`).  A text of whole bytes is
made of one piece for each of them, in order: two digits, a blank or a mark, and a blank
(`Text.spaced_eq_flatMap`, `Text.marked_eq_flatMap`).
-/

namespace TagEmulation

namespace Hex

/-! ## Digits -/

theorem value?_digit : ∀ v < 16, value? (digit v) = some v := by decide

theorem digit_inj {v w : Nat} (hv : v < 16) (hw : w < 16) : digit v = digit w ↔ v = w := by
  refine ⟨fun h => ?_, congrArg digit⟩
  rw [← Option.some.injEq, ← value?_digit v hv, h, value?_digit w hw]

/-- The two digits of a byte have values below sixteen: the high one, … -/
theorem high_lt (b : UInt8) : b.toNat / 16 < 16 := Nat.div_lt_of_lt_mul b.toNat_lt

/-- … and the low one. -/
theorem low_lt (b : UInt8) : b.toNat % 16 < 16 := Nat.mod_lt _ (by decide)

/-- **The two digits of a byte tell the byte.** -/
theorem pair_injective : Function.Injective pair := by
  intro b c h
  rw [pair, pair, List.cons.injEq, List.cons.injEq, digit_inj (high_lt b) (high_lt c),
    digit_inj (low_lt b) (low_lt c)] at h
  rw [← UInt8.toNat_inj, ← Nat.div_add_mod b.toNat 16, h.1, h.2.1, Nat.div_add_mod]

end Hex

namespace Text

/-! ## Whole bytes -/

/-- What a whole byte is written as, with a mark behind its digits or without. -/
def piece (marked : Bool) (b : UInt8) : List Char :=
  Hex.pair b ++ [if marked then '!' else ' ', ' ']

theorem spaced_eq_flatMap (data : List UInt8) :
    spaced data = (List.range data.length).flatMap fun i => piece false (data[i]?.getD 0) := by
  induction data with
  | nil => rfl
  | cons b bs ih =>
    rw [List.length_cons, List.range_succ_eq_map, List.flatMap_cons, List.flatMap_map]
    exact congrArg (piece false b ++ ·) ih

/-- A byte is marked if there is no parity bit for it, or a wrong one. -/
theorem marked_eq_flatMap (data : List UInt8) (parity : List UInt8) :
    marked data parity = (List.range data.length).flatMap fun i =>
      piece (parity[i]? != data[i]?.map parityBit) (data[i]?.getD 0) := by
  induction data generalizing parity with
  | nil => rfl
  | cons b bs ih =>
    have hhead : Hex.pair b ++ [if parity.head? = some (parityBit b) then ' ' else '!', ' ']
        = piece (parity[0]? != some (parityBit b)) b := by
      rw [piece, List.head?_eq_getElem?]
      by_cases h : parity[0]? = some (parityBit b) <;> simp [h]
    rw [List.length_cons, List.range_succ_eq_map, List.flatMap_cons, List.flatMap_map, marked, ih,
      hhead]
    simp only [List.getElem?_tail]
    rfl

end Text

end TagEmulation
