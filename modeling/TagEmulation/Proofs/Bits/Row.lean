import Mathlib.Algebra.Ring.Parity
import TagEmulation.Parity

/-!
# Proofs/Bits/Row — bytes as one row of bits

Bytes go over the air as a row of bits: in order, and of each the least significant bit first
(`wireBits`).  What goes wrong on the way is a pattern of bits that arrive flipped (`flipBits`), and
on rows that is the exclusive or, bit by bit (`wireBits_flipBits`).  How many bits a pattern flips
is its `weight`; whether that is an odd number, the exclusive or of the whole row tells (`rowOdd`).
-/

namespace TagEmulation

/-! ## Rows -/

/-- The bits of a byte, least significant first. -/
def byteBits (b : UInt8) : List Bool := (List.range 8).map b.toNat.testBit

/-- The bits of some bytes in the order they are sent. -/
def wireBits (bs : List UInt8) : List Bool := bs.flatMap byteBits

@[simp] theorem length_byteBits (b : UInt8) : (byteBits b).length = 8 := by
  rw [byteBits, List.length_map, List.length_range]

@[simp] theorem wireBits_nil : wireBits [] = [] := rfl

@[simp] theorem wireBits_cons (b : UInt8) (bs : List UInt8) :
    wireBits (b :: bs) = byteBits b ++ wireBits bs := rfl

@[simp] theorem length_wireBits (bs : List UInt8) : (wireBits bs).length = 8 * bs.length := by
  induction bs with
  | nil => rfl
  | cons b bs ih =>
    rw [wireBits_cons, List.length_append, length_byteBits, ih, List.length_cons]
    omega

/-- Behind the bits of a byte, and behind the eighth bit of its value, there is nothing set. -/
theorem getD_byteBits (b : UInt8) (i : Nat) : (byteBits b)[i]?.getD false = b.toNat.testBit i := by
  rw [byteBits, List.getElem?_map]
  rcases Nat.lt_or_ge i 8 with hi | hi
  · rw [List.getElem?_range hi]
    rfl
  · have hpow : 2 ^ 8 ≤ 2 ^ i := Nat.pow_le_pow_right Nat.two_pos hi
    rw [List.getElem?_eq_none (by simpa using hi), Option.map_none, Option.getD_none,
      Nat.testBit_lt_two_pow (lt_of_lt_of_le b.toNat_lt hpow)]

/-- A byte with none of its bits set is zero. -/
theorem true_mem_byteBits_iff {b : UInt8} : true ∈ byteBits b ↔ b ≠ 0 := by
  constructor
  · rintro h rfl
    exact absurd h (by decide)
  · intro hb
    by_contra hnone
    refine hb (UInt8.toNat_inj.mp (Nat.eq_of_testBit_eq fun i => ?_))
    rw [← getD_byteBits, UInt8.toNat_zero, Nat.zero_testBit]
    cases hi : (byteBits b)[i]? with
    | none => rfl
    | some bit =>
      cases bit with
      | false => rfl
      | true => exact absurd (List.mem_of_getElem? hi) hnone

theorem true_mem_wireBits_iff {bs : List UInt8} : true ∈ wireBits bs ↔ ∃ b ∈ bs, b ≠ 0 := by
  simp only [wireBits, List.mem_flatMap, true_mem_byteBits_iff]

/-- A row with no bit set is all zeros. -/
theorem eq_replicate_of_not_mem {row : List Bool} (h : true ∉ row) :
    row = List.replicate row.length false :=
  List.eq_replicate_iff.mpr ⟨rfl, fun _ hbit => Bool.eq_false_iff.mpr fun htrue =>
    h (htrue ▸ hbit)⟩

/-- A row with a bit set starts with zeros up to the first one. -/
theorem exists_first_set {row : List Bool} (h : true ∈ row) :
    ∃ k rest, row = List.replicate k false ++ true :: rest := by
  obtain ⟨zeros, rest, hrow, hzeros⟩ := List.eq_append_cons_of_mem h
  rw [eq_replicate_of_not_mem hzeros] at hrow
  exact ⟨zeros.length, rest, hrow⟩

/-! ## Flipped bits -/

/-- The bytes with the bits flipped that are set in a pattern of the same length. -/
def flipBits (bs pattern : List UInt8) : List UInt8 := bs.zipWith (· ^^^ ·) pattern

theorem length_flipBits {bs pattern : List UInt8} (h : pattern.length = bs.length) :
    (flipBits bs pattern).length = bs.length := by
  rw [flipBits, List.length_zipWith, h, Nat.min_self]

theorem byteBits_xor (a b : UInt8) :
    byteBits (a ^^^ b) = (byteBits a).zipWith xor (byteBits b) := by
  simp [byteBits]

/-- **Flipping bits is the exclusive or of the rows.** -/
theorem wireBits_flipBits {bs pattern : List UInt8} (h : pattern.length = bs.length) :
    wireBits (flipBits bs pattern) = (wireBits bs).zipWith xor (wireBits pattern) := by
  induction bs generalizing pattern with
  | nil => rfl
  | cons b bs ih =>
    cases pattern with
    | nil => cases h
    | cons p pattern =>
      have hrest : wireBits (flipBits bs pattern) = _ := ih (Nat.succ.inj h)
      have hcons : flipBits (b :: bs) (p :: pattern) = (b ^^^ p) :: flipBits bs pattern := rfl
      rw [hcons, wireBits_cons, wireBits_cons, wireBits_cons, byteBits_xor, hrest,
        List.zipWith_append (by simp)]

/-! ## How many bits are set -/

/-- How many bits are set in a pattern. -/
def weight (pattern : List UInt8) : Nat := (pattern.map ones).sum

theorem count_byteBits (b : UInt8) : (byteBits b).count true = ones b := by
  rw [byteBits, List.count, List.countP_map, ones]
  exact List.countP_congr fun i _ => by simp

theorem count_wireBits (bs : List UInt8) : (wireBits bs).count true = weight bs := by
  induction bs with
  | nil => rfl
  | cons b bs ih =>
    rw [wireBits_cons, List.count_append, count_byteBits, ih, weight, weight, List.map_cons,
      List.sum_cons]

theorem count_first_set (k : Nat) (rest : List Bool) :
    (List.replicate k false ++ true :: rest).count true = rest.count true + 1 := by
  rw [List.count_append, List.count_cons_self, List.count_replicate]
  simp

/-- Whether an odd number of bits of a row is set. -/
def rowOdd (row : List Bool) : Bool := row.foldr xor false

@[simp] theorem rowOdd_nil : rowOdd [] = false := rfl

@[simp] theorem rowOdd_cons (b : Bool) (row : List Bool) : rowOdd (b :: row) = (b ^^ rowOdd row) :=
  rfl

theorem rowOdd_append (u v : List Bool) : rowOdd (u ++ v) = (rowOdd u ^^ rowOdd v) := by
  induction u with
  | nil => exact (Bool.false_xor _).symm
  | cons b u ih => rw [List.cons_append, rowOdd_cons, rowOdd_cons, ih, Bool.xor_assoc]

theorem rowOdd_zipWith {u v : List Bool} (h : u.length = v.length) :
    rowOdd (u.zipWith xor v) = (rowOdd u ^^ rowOdd v) := by
  induction u generalizing v with
  | nil =>
    obtain rfl := List.eq_nil_of_length_eq_zero h.symm
    rfl
  | cons a u ih =>
    cases v with
    | nil => cases h
    | cons b v =>
      rw [List.zipWith_cons_cons, rowOdd_cons, rowOdd_cons, rowOdd_cons, ih (Nat.succ.inj h),
        Bool.xor_assoc, Bool.xor_assoc, Bool.xor_left_comm b]

theorem rowOdd_iff {row : List Bool} : rowOdd row = true ↔ Odd (row.count true) := by
  induction row with
  | nil => simp
  | cons b row ih =>
    cases b with
    | false => simpa using ih
    | true => simp [Nat.odd_add_one, ← ih]

end TagEmulation
