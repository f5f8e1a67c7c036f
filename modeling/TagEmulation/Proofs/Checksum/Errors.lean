import Mathlib.Data.List.Basic
import Mathlib.Data.List.Iterate
import TagEmulation.Proofs.Checksum.Register
import TagEmulation.Session.Round

/-!
# Proofs/Checksum/Errors — which errors a CRC_A gives away

A block carries its CRC_A exactly if the register comes down to zero over the whole of it
(`carriesCrcA_iff`), and exactly if it was made with one (`carriesCrcA_iff_residue_iff_made`).  The
register is linear, so what an error does to it depends on the error alone: a pattern of flipped
bits stays unnoticed exactly if the register comes from zero back to zero over that pattern
(`carriesCrcA_flipBits_iff`).  No pattern does that whose bits lie close
together (`crcA_detects_bursts`), none of odd weight, and none of two bits in a frame that a session
has room for (`crcA_detects_scattered_errors`).
-/

namespace TagEmulation

variable {r : UInt16} {row : List Bool} {block pattern : List UInt8}

/-! ## Blocks that carry their CRC_A -/

theorem crcA_append (data rest : List UInt8) :
    crcA (data ++ rest) = crcRow (crcA data) (wireBits rest) := by
  rw [crcA, List.foldl_append, foldl_crcStep]
  rfl

theorem rowWord_wireBits_pair (low high : UInt8) :
    rowWord (wireBits [low, high]) = crcOfBytes low high := by
  refine register_ext fun i => ?_
  rw [testBit_rowWord (by simp), toNat_crcOfBytes, Nat.add_comm,
    Nat.testBit_two_pow_mul_add (i := 8) high.toNat low.toNat_lt, wireBits_cons, wireBits_cons,
    wireBits_nil, List.append_nil]
  split
  · next hi => rw [List.getElem?_append_left (by simpa using hi), getD_byteBits]
  · next hi => rw [List.getElem?_append_right (by simpa using hi), length_byteBits, getD_byteBits]

/-- Of all pairs of bytes, the register comes down to zero over its own. -/
theorem crcRow_pair_eq_zero_iff {low high : UInt8} :
    crcRow r (wireBits [low, high]) = 0 ↔ [low, high] = crcBytes r := by
  rw [crcRow_eq_iterate (by simp), iterate_crcTurn_eq_zero_iff, rowWord_wireBits_pair,
    UInt16.xor_eq_zero_iff, eq_comm, crcOfBytes_eq_iff]

/-- **A block carries its CRC_A exactly if its own CRC_A is zero.** -/
theorem carriesCrcA_iff : carriesCrcA block = true ↔ 2 ≤ block.length ∧ crcA block = 0 := by
  rw [carriesCrcA, Bool.and_eq_true, decide_eq_true_eq, beq_iff_eq]
  refine and_congr_right fun hlength => ?_
  have htail : (block.drop (block.length - 2)).length = 2 := by rw [List.length_drop]; omega
  obtain ⟨low, high, hpair⟩ := List.length_eq_two.mp htail
  have hblock : crcA block
      = crcRow (crcA (block.take (block.length - 2))) (wireBits [low, high]) := by
    rw [← hpair, ← crcA_append, List.take_append_drop]
  rw [hblock, crcRow_pair_eq_zero_iff, hpair, eq_comm]

theorem carriesCrcA_withCrcA (payload : List UInt8) : carriesCrcA (withCrcA payload) = true := by
  refine carriesCrcA_iff.mpr ⟨?_, ?_⟩
  · rw [withCrcA, List.length_append]
    exact Nat.le_add_left 2 _
  · rw [withCrcA, crcA_append]
    exact crcRow_pair_eq_zero_iff.mpr rfl

/-- What stands before the last two bytes of a block with its CRC_A is the payload. -/
theorem take_withCrcA (payload : List UInt8) :
    (withCrcA payload).take ((withCrcA payload).length - 2) = payload := by
  have hlength : (withCrcA payload).length - 2 = payload.length := by
    rw [withCrcA, List.length_append]
    exact Nat.add_sub_cancel ..
  rw [hlength, withCrcA, List.take_left]

/-- A block that carries its CRC_A is what stands before it, with its CRC_A. -/
theorem withCrcA_take (h : carriesCrcA block = true) :
    withCrcA (block.take (block.length - 2)) = block := by
  rw [carriesCrcA, Bool.and_eq_true, beq_iff_eq] at h
  rw [withCrcA, h.2, List.take_append_drop]

/-- **The two checks of a block agree, and they accept what was made with a CRC_A and nothing
else.**  The last two bytes of a block are the CRC_A of those before them exactly if there are two
and the CRC_A over the whole block is zero; and then the block is the one that those before them
make, and no other payload makes it. -/
theorem carriesCrcA_iff_residue_iff_made (block : List UInt8) :
    (carriesCrcA block = true ↔ 2 ≤ block.length ∧ crcA block = 0) ∧
    (carriesCrcA block = true ↔ ∃ payload, withCrcA payload = block) ∧
    ∀ payload, withCrcA payload = block
      ↔ carriesCrcA block = true ∧ payload = block.take (block.length - 2) := by
  have hmade (payload : List UInt8) : withCrcA payload = block
      ↔ carriesCrcA block = true ∧ payload = block.take (block.length - 2) := by
    constructor
    · rintro rfl
      exact ⟨carriesCrcA_withCrcA payload, (take_withCrcA payload).symm⟩
    · rintro ⟨hcarries, rfl⟩
      exact withCrcA_take hcarries
  refine ⟨carriesCrcA_iff, ⟨fun hcarries => ⟨_, withCrcA_take hcarries⟩, ?_⟩, hmade⟩
  rintro ⟨payload, h⟩
  exact ((hmade payload).mp h).1

/-- The shortest block that passes carries the CRC_A of no bytes, which is the seed. -/
example : carriesCrcA [0x63, 0x63] = true ∧ crcA [0x63, 0x63] = 0 ∧ carriesCrcA [0x63] = false := by
  decide

/-! ## Errors -/

/-- What an error does to a CRC_A depends on the error alone. -/
theorem crcA_flipBits (h : pattern.length = block.length) :
    crcA (flipBits block pattern) = crcA block ^^^ crcRow 0 (wireBits pattern) := by
  have hrows : (wireBits block).length = (wireBits pattern).length := by
    rw [length_wireBits, length_wireBits, h]
  rw [crcA, crcA, foldl_crcStep, foldl_crcStep, wireBits_flipBits h, ← crcRow_xor _ _ hrows,
    UInt16.xor_zero]

/-- **An error stays unnoticed exactly if the register comes back to zero over it.** -/
theorem carriesCrcA_flipBits_iff (h : pattern.length = block.length)
    (hblock : carriesCrcA block = true) :
    carriesCrcA (flipBits block pattern) = true ↔ crcRow 0 (wireBits pattern) = 0 := by
  obtain ⟨hlength, hzero⟩ := carriesCrcA_iff.mp hblock
  rw [carriesCrcA_iff, length_flipBits h, crcA_flipBits h, hzero, UInt16.zero_xor]
  exact and_iff_right hlength

/-- Zeros before an error leave the register at zero. -/
theorem crcRow_zeros_append (n : Nat) (row : List Bool) :
    crcRow 0 (List.replicate n false ++ row) = crcRow 0 row := by
  rw [crcRow_append, crcRow_replicate, iterate_crcTurn_zero]

/-! ## Bursts -/

/-- A short row with a bit set does not leave the register at zero: it is laid over the register as
a whole, and turning loses nothing. -/
theorem crcRow_ne_zero_of_short (h : row.length ≤ 16) (hset : true ∈ row) : crcRow 0 row ≠ 0 := by
  rw [crcRow_eq_iterate h, UInt16.zero_xor, Ne, iterate_crcTurn_eq_zero_iff]
  intro hzero
  obtain ⟨i, hi⟩ := List.mem_iff_getElem?.mp hset
  have hbit := testBit_rowWord h i
  rw [hi, hzero, UInt16.toNat_zero, Nat.zero_testBit] at hbit
  cases hbit

/-- Nor does a row of any length whose set bits lie within sixteen places. -/
theorem crcRow_ne_zero_of_burst {start : Nat} (hset : true ∈ row)
    (hburst : ∀ i, row[i]? = some true → start ≤ i ∧ i < start + 16) : crcRow 0 row ≠ 0 := by
  obtain ⟨k, rest, rfl⟩ := exists_first_set hset
  have hplace (i : Nat) :
      (List.replicate k false ++ true :: rest)[k + i]? = (true :: rest)[i]? := by
    rw [List.getElem?_append_right (by simp), List.length_replicate, Nat.add_sub_cancel_left]
  have hstart : start ≤ k := (hburst k (hplace 0)).1
  have hbehind : true ∉ rest.drop 15 := by
    intro h
    obtain ⟨j, hj⟩ := List.mem_iff_getElem?.mp h
    rw [List.getElem?_drop] at hj
    have hend := (hburst (k + (15 + j + 1)) ((hplace _).trans hj)).2
    omega
  -- the burst starts with the first bit set, and behind sixteen places there are only zeros
  have hrest : rest = rest.take 15 ++ List.replicate (rest.drop 15).length false := by
    rw [← eq_replicate_of_not_mem hbehind, List.take_append_drop]
  rw [crcRow_zeros_append, hrest, ← List.cons_append, crcRow_append, crcRow_replicate, Ne,
    iterate_crcTurn_eq_zero_iff]
  refine crcRow_ne_zero_of_short ?_ List.mem_cons_self
  rw [List.length_cons, List.length_take]
  omega

/-- **A CRC_A gives away every burst of up to sixteen bits**, wherever in the block it lies: over
the borders of bytes, and into the CRC_A itself. -/
theorem crcA_detects_bursts (payload pattern : List UInt8)
    (hlength : pattern.length = (withCrcA payload).length) (hset : ∃ b ∈ pattern, b ≠ 0)
    (start : Nat)
    (hburst : ∀ i, (wireBits pattern)[i]? = some true → start ≤ i ∧ i < start + 16) :
    carriesCrcA (flipBits (withCrcA payload) pattern) = false := by
  rw [Bool.eq_false_iff, Ne, carriesCrcA_flipBits_iff hlength (carriesCrcA_withCrcA payload)]
  exact crcRow_ne_zero_of_burst (true_mem_wireBits_iff.mpr hset) hburst

/-- Sixteen flipped bits in a row, from the payload into the CRC_A. -/
theorem crcA_detects_bursts_over_the_border :
    let payload : List UInt8 := [0x50, 0x00]
    let pattern : List UInt8 := [0x00, 0x80, 0xff, 0x7f]
    pattern.length = (withCrcA payload).length ∧ (∃ b ∈ pattern, b ≠ 0) ∧
      (∀ i, (wireBits pattern)[i]? = some true → 15 ≤ i ∧ i < 15 + 16) ∧
      carriesCrcA (flipBits (withCrcA payload) pattern) = false := by
  intro payload pattern
  have hset : ∃ b ∈ pattern, b ≠ 0 := by decide
  have hwithin : ∀ i < 32, (wireBits pattern)[i]? = some true → 15 ≤ i ∧ i < 15 + 16 := by decide
  have hburst (i : Nat) (hi : (wireBits pattern)[i]? = some true) : 15 ≤ i ∧ i < 15 + 16 :=
    hwithin i (List.getElem?_eq_some_iff.mp hi).1 hi
  exact ⟨rfl, hset, hburst, crcA_detects_bursts payload pattern rfl hset 15 hburst⟩

/-! ## Odd errors -/

/-- The bits of a register, lowest first. -/
def registerBits (r : UInt16) : List Bool := (List.range 16).map r.toNat.testBit

theorem registerBits_xor (r s : UInt16) :
    registerBits (r ^^^ s) = (registerBits r).zipWith xor (registerBits s) := by
  simp [registerBits]

/-- The bit that leaves on the right is the one by which the oddness changes. -/
theorem rowOdd_shift (r : UInt16) :
    rowOdd (registerBits (r >>> 1)) = (r.toNat.testBit 0 ^^ rowOdd (registerBits r)) := by
  let kept := (List.range 15).map fun i => r.toNat.testBit (i + 1)
  have hbefore : registerBits r = r.toNat.testBit 0 :: kept := by
    rw [registerBits, List.range_succ_eq_map, List.map_cons, List.map_map]
    rfl
  have hafter : registerBits (r >>> 1) = kept ++ [false] := by
    rw [registerBits, List.range_succ, List.map_append, List.map_singleton, testBit_shift,
      testBit_of_sixteen_le r (Nat.le_refl 16)]
    exact congrArg (· ++ [false]) (List.map_congr_left fun i _ => testBit_shift r i)
  rw [hbefore, hafter, rowOdd_append, rowOdd_cons, rowOdd_cons, rowOdd_nil, Bool.xor_false,
    Bool.xor_false, ← Bool.xor_assoc, Bool.xor_self, Bool.false_xor]

/-- What leaves the register comes back with the polynomial, at an odd number of places; so only
what comes in counts. -/
theorem rowOdd_crcShift (r : UInt16) (b : Bool) :
    rowOdd (registerBits (crcShift r b)) = (rowOdd (registerBits r) ^^ b) := by
  have hpolynomial : rowOdd (registerBits crcPolynomial) = true := by decide
  unfold crcShift
  split
  · next h => rw [rowOdd_shift, h, Bool.xor_comm]
  · next h =>
    have hb : b = !r.toNat.testBit 0 := by
      cases hbit : b <;> simpa [hbit] using h
    rw [registerBits_xor, rowOdd_zipWith (by simp [registerBits]), rowOdd_shift, hpolynomial, hb,
      Bool.xor_true, Bool.xor_comm, Bool.xor_not]

theorem rowOdd_crcRow (r : UInt16) (row : List Bool) :
    rowOdd (registerBits (crcRow r row)) = (rowOdd (registerBits r) ^^ rowOdd row) := by
  induction row generalizing r with
  | nil => rw [crcRow_nil, rowOdd_nil, Bool.xor_false]
  | cons b row ih => rw [crcRow_cons, ih, rowOdd_crcShift, rowOdd_cons, Bool.xor_assoc]

/-- A row of odd weight does not leave the register at zero. -/
theorem crcRow_ne_zero_of_odd (h : Odd (row.count true)) : crcRow 0 row ≠ 0 := by
  intro hzero
  have hodd := rowOdd_crcRow 0 row
  have hnone : rowOdd (registerBits 0) = false := by decide
  rw [hzero, hnone, Bool.false_xor, rowOdd_iff.mpr h] at hodd
  cases hodd

/-! ## Errors of two bits -/

/-- The polynomial does not turn into itself within a frame that a session has room for. -/
theorem iterate_crcTurn_crcPolynomial_ne {n : Nat} (hpos : 0 < n) (hn : n < 8 * stagingSize) :
    crcTurn^[n] crcPolynomial ≠ crcPolynomial := by
  have hnever : crcPolynomial ∉ List.iterate crcTurn (crcTurn crcPolynomial) 2111 := by
    decide +kernel
  intro hreturn
  obtain ⟨m, rfl⟩ := Nat.exists_eq_add_one_of_ne_zero hpos.ne'
  have hm : m < 2111 := Nat.lt_of_succ_lt_succ hn
  exact hnever (List.mem_iterate.mpr ⟨m, hm, hreturn.symm⟩)

/-- A row with two bits set does not leave the register at zero, unless it is longer than any frame
that a session has room for. -/
theorem crcRow_ne_zero_of_two (hcount : row.count true = 2)
    (hlength : row.length ≤ 8 * stagingSize) : crcRow 0 row ≠ 0 := by
  have hset : true ∈ row := List.count_pos_iff.mp (hcount ▸ Nat.two_pos)
  obtain ⟨i, rest, rfl⟩ := exists_first_set hset
  have hrest : rest.count true = 1 := by rw [count_first_set] at hcount; omega
  obtain ⟨k, last, rfl⟩ := exists_first_set (List.count_pos_iff.mp (hrest ▸ Nat.one_pos))
  have hlast : last = List.replicate last.length false := by
    refine eq_replicate_of_not_mem (List.count_eq_zero.mp ?_)
    rw [count_first_set] at hrest
    omega
  have hapart : k + 1 < 8 * stagingSize := by
    simp only [List.length_append, List.length_replicate, List.length_cons] at hlength
    omega
  have hturn : crcTurn (crcTurn^[k] crcPolynomial) = crcTurn^[k + 1] crcPolynomial :=
    (Function.iterate_succ_apply' crcTurn k crcPolynomial).symm
  -- both bits come in as the polynomial, the first of them some turns earlier
  rw [crcRow_zeros_append, crcRow_cons, crcShift_true, crcTurn_zero, UInt16.zero_xor,
    crcRow_append, crcRow_replicate, crcRow_cons, crcShift_true, hlast, crcRow_replicate, Ne,
    iterate_crcTurn_eq_zero_iff, UInt16.xor_eq_zero_iff, hturn]
  exact iterate_crcTurn_crcPolynomial_ne k.succ_pos hapart

/-- **A CRC_A gives away every error of odd weight** in a block of any length, and every error of
two bits in a block that a session has room for in one frame.  So no such block passes with one, two
or three of its bits flipped. -/
theorem crcA_detects_scattered_errors (block pattern : List UInt8)
    (hlength : pattern.length = block.length) (hblock : carriesCrcA block = true) :
    (Odd (weight pattern) → carriesCrcA (flipBits block pattern) = false) ∧
    (block.length ≤ stagingSize → weight pattern = 2 →
      carriesCrcA (flipBits block pattern) = false) ∧
    (block.length ≤ stagingSize → 1 ≤ weight pattern → weight pattern ≤ 3 →
      carriesCrcA (flipBits block pattern) = false) := by
  have hpasses :
      carriesCrcA (flipBits block pattern) = false ↔ crcRow 0 (wireBits pattern) ≠ 0 := by
    rw [Bool.eq_false_iff, Ne, carriesCrcA_flipBits_iff hlength hblock]
  have hodd (h : Odd (weight pattern)) : carriesCrcA (flipBits block pattern) = false :=
    hpasses.mpr (crcRow_ne_zero_of_odd (by rwa [count_wireBits]))
  have htwo (hfits : block.length ≤ stagingSize) (h : weight pattern = 2) :
      carriesCrcA (flipBits block pattern) = false := by
    refine hpasses.mpr (crcRow_ne_zero_of_two (by rwa [count_wireBits]) ?_)
    rw [length_wireBits, hlength]
    exact Nat.mul_le_mul_left 8 hfits
  refine ⟨hodd, htwo, fun hfits hone hthree => ?_⟩
  rcases Nat.even_or_odd (weight pattern) with heven | hweight
  · exact htwo hfits (by obtain ⟨m, hm⟩ := heven; omega)
  · exact hodd hweight

/-- The first bit of a SELECT and the last bit of its CRC_A. -/
theorem crcA_detects_scattered_errors_at_both_ends :
    let block := Command.selectBytes default
    let pattern : List UInt8 := [0x01, 0, 0, 0, 0, 0, 0, 0, 0x80]
    pattern.length = block.length ∧ carriesCrcA block = true ∧ block.length ≤ stagingSize ∧
      weight pattern = 2 ∧ carriesCrcA (flipBits block pattern) = false := by
  intro block pattern
  have hblock : carriesCrcA block = true := by decide
  have hfits : block.length ≤ stagingSize := by decide
  have htwo : weight pattern = 2 := by decide
  exact ⟨rfl, hblock, hfits, htwo,
    (crcA_detects_scattered_errors block pattern rfl hblock).2.1 hfits htwo⟩

end TagEmulation
