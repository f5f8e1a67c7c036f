/-!
# Bits/LittleEndian — words as bytes, least significant first

One encoder for every width: a natural number becomes exactly `n` bytes (`toBytes`) and a list of
bytes becomes a natural number again (`ofBytes`).  Swapping the byte order of a word is reading its
bytes back in reverse.  A swapped read takes a word in the order of the host first; the host is
little-endian here, so that it gives the big-endian value of the bytes.
-/

namespace TagEmulation.LittleEndian

/-- The `n` little-endian bytes of `v`; what lies above them is dropped. -/
def toBytes : Nat → Nat → List UInt8
  | 0, _ => []
  | n + 1, v => UInt8.ofNat v :: toBytes n (v / 256)

/-- The number with the given little-endian bytes. -/
def ofBytes : List UInt8 → Nat
  | [] => 0
  | b :: bs => b.toNat + 256 * ofBytes bs

@[simp] theorem toBytes_zero (v : Nat) : toBytes 0 v = [] := rfl

@[simp] theorem toBytes_succ (n v : Nat) :
    toBytes (n + 1) v = UInt8.ofNat v :: toBytes n (v / 256) := rfl

@[simp] theorem ofBytes_nil : ofBytes [] = 0 := rfl

@[simp] theorem ofBytes_cons (b : UInt8) (bs : List UInt8) :
    ofBytes (b :: bs) = b.toNat + 256 * ofBytes bs := rfl

@[simp] theorem length_toBytes (n v : Nat) : (toBytes n v).length = n := by
  induction n generalizing v with
  | zero => rfl
  | succ n ih => simp [ih]

theorem ofBytes_lt (bs : List UInt8) : ofBytes bs < Nat.pow 256 bs.length := by
  induction bs with
  | nil => exact Nat.one_pos
  | cons b bs ih =>
    have hb : b.toNat < 256 := b.toNat_lt
    change b.toNat + 256 * ofBytes bs < Nat.pow 256 bs.length * 256
    omega

/-- Writing the bytes of a number and reading them back keeps it up to the width. -/
theorem ofBytes_toBytes (n v : Nat) : ofBytes (toBytes n v) = v % Nat.pow 256 n := by
  induction n generalizing v with
  | zero => exact (Nat.mod_one v).symm
  | succ n ih =>
    have hpow : Nat.pow 256 (n + 1) = 256 * Nat.pow 256 n := Nat.mul_comm ..
    rw [toBytes_succ, ofBytes_cons, ih, hpow, Nat.mod_mul]
    rfl

/-- Reading bytes and writing them out again loses nothing. -/
theorem toBytes_ofBytes (bs : List UInt8) : toBytes bs.length (ofBytes bs) = bs := by
  induction bs with
  | nil => rfl
  | cons b bs ih =>
    have hb : b.toNat < 256 := b.toNat_lt
    have hdiv : (b.toNat + 256 * ofBytes bs) / 256 = ofBytes bs := by omega
    have hmod : UInt8.ofNat (b.toNat + 256 * ofBytes bs) = b := by
      apply UInt8.toNat_inj.mp
      simp only [UInt8.toNat_ofNat']
      omega
    rw [List.length_cons, ofBytes_cons, toBytes_succ, hdiv, hmod, ih]

end TagEmulation.LittleEndian

namespace TagEmulation

open LittleEndian

/-! ## Words of four and eight bytes -/

/-- The four bytes of `v`, least significant first. -/
def bytes32 (v : UInt32) : List UInt8 := toBytes 4 v.toNat

/-- The word whose bytes, least significant first, are `bs`. -/
def word32 (bs : List UInt8) : UInt32 := UInt32.ofNat (ofBytes bs)

/-- The eight bytes of `v`, least significant first. -/
def bytes64 (v : UInt64) : List UInt8 := toBytes 8 v.toNat

/-- The word whose bytes, least significant first, are `bs`. -/
def word64 (bs : List UInt8) : UInt64 := UInt64.ofNat (ofBytes bs)

/-- The word with the bytes of `v` in the opposite order. -/
def reverseBytes32 (v : UInt32) : UInt32 := word32 (bytes32 v).reverse

/-- The word with the bytes of `v` in the opposite order. -/
def reverseBytes64 (v : UInt64) : UInt64 := word64 (bytes64 v).reverse

/-- Reads a word from four bytes in the order of a little-endian host and swaps it: their value with
the first byte heaviest. -/
def readReversed32 (bs : List UInt8) : UInt32 := reverseBytes32 (word32 bs)

/-- Reads a word from eight bytes in the order of a little-endian host and swaps it: their value
with the first byte heaviest. -/
def readReversed64 (bs : List UInt8) : UInt64 := reverseBytes64 (word64 bs)

@[simp] theorem length_bytes32 (v : UInt32) : (bytes32 v).length = 4 := length_toBytes 4 _

@[simp] theorem length_bytes64 (v : UInt64) : (bytes64 v).length = 8 := length_toBytes 8 _

end TagEmulation
