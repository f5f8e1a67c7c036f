import Mathlib.Data.Nat.Bitwise
import Mathlib.Logic.Function.Iterate
import TagEmulation.Checksum
import TagEmulation.Proofs.Bits.Row

/-!
# Proofs/Checksum/Register — CRC_A bit by bit

The checksum is defined by a shift register that takes one bit at a time (`crcShift`); the program
takes eight at once.  The register is linear (`crcShift_xor`) and, fed zeros, loses nothing
(`crcTurn_injective`).  So up to sixteen bits may as well be laid over the register before it turns
(`crcRow_eq_iterate`), and of the eight bits of a byte that is the step of the program
(`crcStep_eq`).  Hence the checksum of any bytes is the one taken bit by bit
(`crcA_eq_bit_by_bit`).
-/

namespace TagEmulation

variable {r s : UInt16} {row : List Bool}

/-! ## One bit -/

/-- The register after one more bit: shifted by one place, and the polynomial taken in exactly if
the bit that left differs from the one that came. -/
def crcShift (r : UInt16) (b : Bool) : UInt16 :=
  if r.toNat.testBit 0 = b then r >>> 1 else (r >>> 1) ^^^ crcPolynomial

/-- Registers with the same bits are the same. -/
theorem register_ext (h : ∀ i, r.toNat.testBit i = s.toNat.testBit i) : r = s :=
  UInt16.toNat_inj.mp (Nat.eq_of_testBit_eq h)

theorem testBit_of_sixteen_le (r : UInt16) {i : Nat} (hi : 16 ≤ i) : r.toNat.testBit i = false := by
  have hpow : 2 ^ 16 ≤ 2 ^ i := Nat.pow_le_pow_right Nat.two_pos hi
  exact Nat.testBit_lt_two_pow (lt_of_lt_of_le r.toNat_lt hpow)

/-- The polynomial feeds back at three places. -/
theorem testBit_crcPolynomial (i : Nat) :
    crcPolynomial.toNat.testBit i = decide (i = 3 ∨ i = 10 ∨ i = 15) := by
  rcases Nat.lt_or_ge i 16 with hi | hi
  · revert i
    decide
  · rw [testBit_of_sixteen_le _ hi, eq_comm, decide_eq_false_iff_not]
    omega

theorem testBit_shift (r : UInt16) (i : Nat) :
    (r >>> 1).toNat.testBit i = r.toNat.testBit (i + 1) := by
  have hone : (1 : UInt16).toNat % 16 = 1 := rfl
  rw [UInt16.toNat_shiftRight, hone, Nat.testBit_shiftRight, Nat.add_comm]

theorem testBit_crcShift (r : UInt16) (b : Bool) (i : Nat) :
    (crcShift r b).toNat.testBit i = (r.toNat.testBit (i + 1) ^^
      ((r.toNat.testBit 0 ^^ b) && crcPolynomial.toNat.testBit i)) := by
  unfold crcShift
  split
  · next h => rw [h, Bool.xor_self, Bool.false_and, Bool.xor_false, testBit_shift]
  · next h =>
    have hfeed : (r.toNat.testBit 0 ^^ b) = true := by
      cases hb : b <;> simpa [hb] using h
    rw [hfeed, Bool.true_and, UInt16.toNat_xor, Nat.testBit_xor, testBit_shift]

/-- **The register is linear.** -/
theorem crcShift_xor (r s : UInt16) (a b : Bool) :
    crcShift (r ^^^ s) (a ^^ b) = crcShift r a ^^^ crcShift s b := by
  refine register_ext fun i => ?_
  simp only [testBit_crcShift, UInt16.toNat_xor, Nat.testBit_xor]
  cases crcPolynomial.toNat.testBit i with
  | false => simp only [Bool.and_false, Bool.xor_false]
  | true => simp only [Bool.and_true, Bool.xor_assoc, Bool.xor_left_comm]

/-! ## Turning without input -/

/-- The register after one more bit of zero. -/
def crcTurn (r : UInt16) : UInt16 := crcShift r false

theorem crcTurn_zero : crcTurn 0 = 0 := rfl

/-- A bit that is set comes in as the polynomial. -/
theorem crcShift_true (r : UInt16) : crcShift r true = crcTurn r ^^^ crcPolynomial := by
  have hpolynomial : crcShift 0 true = crcPolynomial := rfl
  have hsplit := crcShift_xor r 0 false true
  rwa [UInt16.xor_zero, Bool.false_xor, hpolynomial] at hsplit

theorem crcTurn_xor (r s : UInt16) : crcTurn (r ^^^ s) = crcTurn r ^^^ crcTurn s :=
  crcShift_xor r s false false

theorem iterate_crcTurn_zero (n : Nat) : crcTurn^[n] 0 = 0 := Function.iterate_fixed crcTurn_zero n

theorem iterate_crcTurn_xor (n : Nat) (r s : UInt16) :
    crcTurn^[n] (r ^^^ s) = crcTurn^[n] r ^^^ crcTurn^[n] s := by
  induction n generalizing r s with
  | zero => rfl
  | succ n ih =>
    rw [Function.iterate_succ_apply, crcTurn_xor, ih, ← Function.iterate_succ_apply,
      ← Function.iterate_succ_apply]

/-- **Turning loses nothing**: the highest bit of the register tells whether the polynomial was
taken in. -/
theorem crcTurn_injective : Function.Injective crcTurn := by
  intro r s h
  have hbit (i : Nat) : (crcTurn r).toNat.testBit i = (crcTurn s).toNat.testBit i := by rw [h]
  simp only [crcTurn, testBit_crcShift, Bool.xor_false] at hbit
  have hleft : r.toNat.testBit 0 = s.toNat.testBit 0 := by
    simpa [testBit_of_sixteen_le, testBit_crcPolynomial] using hbit 15
  refine register_ext fun i => ?_
  cases i with
  | zero => exact hleft
  | succ i => simpa [hleft] using hbit i

theorem iterate_crcTurn_eq_zero_iff {n : Nat} : crcTurn^[n] r = 0 ↔ r = 0 := by
  have hzero := (crcTurn_injective.iterate n).eq_iff (a := r) (b := 0)
  rwa [iterate_crcTurn_zero] at hzero

/-- As long as only zeros leave, turning is shifting. -/
theorem testBit_iterate_crcTurn {n : Nat} (h : ∀ i < n, r.toNat.testBit i = false) (i : Nat) :
    (crcTurn^[n] r).toNat.testBit i = r.toNat.testBit (i + n) := by
  induction n generalizing r with
  | zero => rfl
  | succ n ih =>
    have hshift (i : Nat) : (crcTurn r).toNat.testBit i = r.toNat.testBit (i + 1) := by
      rw [crcTurn, testBit_crcShift, h 0 n.succ_pos, Bool.xor_self, Bool.false_and, Bool.xor_false]
    have hlow : ∀ j < n, (crcTurn r).toNat.testBit j = false := fun j hj =>
      (hshift j).trans (h (j + 1) (Nat.succ_lt_succ hj))
    rw [Function.iterate_succ_apply, ih hlow, hshift, Nat.add_assoc]

/-! ## Rows of bits -/

/-- The register after a row of bits. -/
def crcRow (r : UInt16) (row : List Bool) : UInt16 := row.foldl crcShift r

@[simp] theorem crcRow_nil (r : UInt16) : crcRow r [] = r := rfl

@[simp] theorem crcRow_cons (r : UInt16) (b : Bool) (row : List Bool) :
    crcRow r (b :: row) = crcRow (crcShift r b) row := rfl

theorem crcRow_append (r : UInt16) (u v : List Bool) :
    crcRow r (u ++ v) = crcRow (crcRow r u) v := List.foldl_append

theorem crcRow_replicate (r : UInt16) (n : Nat) :
    crcRow r (List.replicate n false) = crcTurn^[n] r := by
  induction n generalizing r with
  | zero => rfl
  | succ n ih => rw [List.replicate_succ, crcRow_cons, ih, Function.iterate_succ_apply]; rfl

theorem crcRow_xor (r s : UInt16) {u v : List Bool} (h : u.length = v.length) :
    crcRow (r ^^^ s) (u.zipWith xor v) = crcRow r u ^^^ crcRow s v := by
  induction u generalizing r s v with
  | nil =>
    obtain rfl := List.eq_nil_of_length_eq_zero h.symm
    rfl
  | cons a u ih =>
    cases v with
    | nil => cases h
    | cons b v =>
      rw [List.zipWith_cons_cons, crcRow_cons, crcRow_cons, crcRow_cons, crcShift_xor,
        ih _ _ (Nat.succ.inj h)]

/-! ## Up to sixteen bits at once -/

/-- The word with the bits of a row, the first one lowest. -/
def rowWord (row : List Bool) : UInt16 := .ofNat (Nat.ofBits row.get)

theorem testBit_rowWord (h : row.length ≤ 16) (i : Nat) :
    (rowWord row).toNat.testBit i = row[i]?.getD false := by
  have hfits : Nat.ofBits row.get < 2 ^ 16 :=
    lt_of_lt_of_le (Nat.ofBits_lt_two_pow _) (Nat.pow_le_pow_right Nat.two_pos h)
  rw [rowWord, UInt16.toNat_ofNat', Nat.mod_eq_of_lt hfits, Nat.testBit_ofBits]
  split
  · next hi => rw [List.getElem?_eq_getElem hi]; rfl
  · next hi => rw [List.getElem?_eq_none (not_lt.mp hi)]; rfl

/-- **A row may be laid over the register before it turns**, as long as it fits there: what comes
in later meets the same bit of the register. -/
theorem crcRow_eq_iterate (h : row.length ≤ 16) (r : UInt16) :
    crcRow r row = crcTurn^[row.length] (r ^^^ rowWord row) := by
  induction row generalizing r with
  | nil =>
    have hzero : rowWord [] = 0 := rfl
    rw [crcRow_nil, hzero, UInt16.xor_zero]
    rfl
  | cons b row ih =>
    have hrow : row.length ≤ 16 := by rw [List.length_cons] at h; omega
    have hturn : crcTurn (r ^^^ rowWord (b :: row)) = crcShift r b ^^^ rowWord row := by
      refine register_ext fun i => ?_
      simp only [crcTurn, testBit_crcShift, UInt16.toNat_xor, Nat.testBit_xor, testBit_rowWord h,
        testBit_rowWord hrow, List.getElem?_cons_zero, List.getElem?_cons_succ, Option.getD_some,
        Bool.xor_false]
      rw [Bool.xor_assoc, Bool.xor_assoc, Bool.xor_comm (row[i]?.getD false)]
    rw [List.length_cons, Function.iterate_succ_apply, hturn, ← ih hrow, crcRow_cons]

/-! ## Bytes -/

theorem rowWord_byteBits (byte : UInt8) : rowWord (byteBits byte) = byte.toUInt16 := by
  refine register_ext fun i => ?_
  rw [testBit_rowWord (by simp), UInt8.toNat_toUInt16, getD_byteBits]

/-- The high byte of the register does not meet the polynomial for eight turns. -/
theorem iterate_crcTurn_high (r : UInt16) :
    crcTurn^[8] (r ^^^ r.toUInt8.toUInt16) = r >>> 8 := by
  have hbit (i : Nat) : (r ^^^ r.toUInt8.toUInt16).toNat.testBit i
      = (r.toNat.testBit i ^^ (decide (i < 8) && r.toNat.testBit i)) := by
    rw [UInt16.toNat_xor, Nat.testBit_xor, UInt8.toNat_toUInt16, UInt16.toNat_toUInt8,
      Nat.testBit_mod_two_pow]
  have hlow : ∀ j < 8, (r ^^^ r.toUInt8.toUInt16).toNat.testBit j = false := fun j hj => by
    rw [hbit, decide_eq_true hj, Bool.true_and, Bool.xor_self]
  have hplaces : (8 : UInt16).toNat % 16 = 8 := rfl
  refine register_ext fun i => ?_
  have hhigh : ¬ i + 8 < 8 := by omega
  rw [testBit_iterate_crcTurn hlow, hbit, decide_eq_false hhigh, Bool.false_and, Bool.xor_false,
    UInt16.toNat_shiftRight, hplaces, Nat.testBit_shiftRight, Nat.add_comm]

/-- The low byte leaves in eight turns, and what comes of it is a matter of that byte alone. -/
theorem iterate_crcTurn_low (out : UInt8) :
    let feed := (out ^^^ (out <<< 4)).toUInt16
    crcTurn^[8] out.toUInt16 = (feed <<< 8) ^^^ (feed <<< 3) ^^^ (feed >>> 4) := by
  have hall : ∀ n < 256, crcTurn^[8] (UInt8.ofNat n).toUInt16 =
      let feed := ((UInt8.ofNat n) ^^^ ((UInt8.ofNat n) <<< 4)).toUInt16
      (feed <<< 8) ^^^ (feed <<< 3) ^^^ (feed >>> 4) := by
    decide +kernel
  have hout := hall out.toNat out.toNat_lt
  rwa [UInt8.ofNat_toNat] at hout

/-- **Eight bits at once are eight bits one by one.** -/
theorem crcStep_eq (r : UInt16) (byte : UInt8) : crcStep r byte = crcRow r (byteBits byte) := by
  let out := byte ^^^ r.toUInt8
  have hsplit : r ^^^ byte.toUInt16 = (r ^^^ r.toUInt8.toUInt16) ^^^ out.toUInt16 := by
    rw [UInt8.toUInt16_xor, UInt16.xor_comm byte.toUInt16, UInt16.xor_assoc,
      ← UInt16.xor_assoc r.toUInt8.toUInt16, UInt16.xor_self, UInt16.zero_xor]
  symm
  calc crcRow r (byteBits byte)
      = crcTurn^[8] (r ^^^ byte.toUInt16) := by
        rw [crcRow_eq_iterate (by simp), length_byteBits, rowWord_byteBits]
    _ = (r >>> 8) ^^^ crcTurn^[8] out.toUInt16 := by
        rw [hsplit, iterate_crcTurn_xor, iterate_crcTurn_high]
    _ = crcStep r byte := by
        rw [iterate_crcTurn_low, ← UInt16.xor_assoc, ← UInt16.xor_assoc]
        rfl

theorem foldl_crcStep (r : UInt16) (data : List UInt8) :
    data.foldl crcStep r = crcRow r (wireBits data) := by
  induction data generalizing r with
  | nil => rfl
  | cons byte data ih =>
    rw [List.foldl_cons, ih, wireBits_cons, crcRow_append, crcStep_eq]

/-- **CRC_A is what the shift register holds** after it has taken every bit, from the seed on, in
the order in which the bits are sent. -/
theorem crcA_eq_bit_by_bit (data : List UInt8) :
    crcA data = (wireBits data).foldl crcShift 0x6363 :=
  foldl_crcStep crcSeed data

/-- Three bytes, one bit after the other. -/
example : (wireBits [0x12, 0x34, 0x56]).foldl crcShift 0x6363 = 0x7348 := by
  decide +kernel

end TagEmulation
