import TagEmulation.Bits.Reverse
import TagEmulation.Proofs.Bits.Row

/-!
# Proofs/Bits/Reversal — bits reversed within bytes, and bytes within words

A word is a row of bits, cut into bytes: `testBit_ofBytes` reads its bits off that row.  There are
two ways to turn things round, the bits within each byte and the bytes within the word, and neither
moves what the other does.  On rows the two together are plain reversal
(`wireBits_reverse_reverseBitsEach`), so they reverse all bits of a word, in whichever order they
are done and however many bytes the word has (`ofNat_reversed`).
-/

namespace TagEmulation

open LittleEndian

variable {bs : List UInt8}

/-! ## Within a byte -/

theorem testBit_reverseBits (b : UInt8) {i : Nat} (hi : i < 8) :
    (reverseBits b).toNat.testBit i = b.toNat.testBit (7 - i) := by
  change b.toBitVec.reverse.getLsbD i = b.toBitVec.getLsbD (7 - i)
  rw [BitVec.getLsbD_reverse, BitVec.getMsbD_eq_getLsbD, decide_eq_true hi, Bool.true_and]

/-- The row of a byte is turned round. -/
theorem byteBits_reverseBits (b : UInt8) : byteBits (reverseBits b) = (byteBits b).reverse := by
  refine List.ext_getElem (by simp) fun i hi _ => ?_
  rw [length_byteBits] at hi
  simp only [byteBits, List.getElem_map, List.getElem_range, List.getElem_reverse,
    List.length_map, List.length_range]
  exact testBit_reverseBits b hi

theorem ones_reverseBits (b : UInt8) : ones (reverseBits b) = ones b := by
  rw [← count_byteBits, byteBits_reverseBits, List.count_reverse, count_byteBits]

theorem parityBit_reverseBits (b : UInt8) : parityBit (reverseBits b) = parityBit b := by
  rw [parityBit, ones_reverseBits, parityBit]

/-! ## Within each of many bytes -/

theorem reverseBitsEach_reverseBitsEach (bs : List UInt8) :
    reverseBitsEach (reverseBitsEach bs) = bs := by
  have htwice : reverseBits ∘ reverseBits = id := funext reverseBits_reverseBits
  rw [reverseBitsEach, reverseBitsEach, List.map_map, htwice, List.map_id]

theorem reverseBitsEach_reverse (bs : List UInt8) :
    reverseBitsEach bs.reverse = (reverseBitsEach bs).reverse := List.map_reverse

theorem parityBits_reverseBitsEach (bs : List UInt8) :
    parityBits (reverseBitsEach bs) = parityBits bs := by
  rw [parityBits, reverseBitsEach, List.map_map]
  exact List.map_congr_left fun b _ => parityBit_reverseBits b

/-- **With the bytes in the opposite order as well, the whole row is turned round.** -/
theorem wireBits_reverse_reverseBitsEach (bs : List UInt8) :
    wireBits (reverseBitsEach bs).reverse = (wireBits bs).reverse := by
  have hbyte : byteBits ∘ reverseBits = List.reverse ∘ byteBits := funext byteBits_reverseBits
  rw [wireBits, wireBits, List.reverse_flatMap, reverseBitsEach, ← List.map_reverse,
    List.flatMap_map]
  exact congrArg (bs.reverse.flatMap ·) hbyte

/-! ## Words as rows -/

theorem toBytes_ofBytes_mod {n : Nat} (h : bs.length = n) :
    toBytes n (ofBytes bs % 2 ^ (8 * n)) = bs := by
  have hfits : ofBytes bs < 2 ^ (8 * bs.length) := by
    rw [Nat.pow_mul]
    exact ofBytes_lt bs
  rw [← h, Nat.mod_eq_of_lt hfits, toBytes_ofBytes]

theorem ofBytes_toBytes_of_lt {n v : Nat} (h : v < 2 ^ (8 * n)) : ofBytes (toBytes n v) = v := by
  rw [Nat.pow_mul] at h
  exact (ofBytes_toBytes n v).trans (Nat.mod_eq_of_lt h)

/-- The bits of a word are the row of its bytes. -/
theorem testBit_ofBytes (bs : List UInt8) (i : Nat) :
    (ofBytes bs).testBit i = (wireBits bs)[i]?.getD false := by
  induction bs generalizing i with
  | nil => exact Nat.zero_testBit i
  | cons b bs ih =>
    have hvalue : ofBytes (b :: bs) = 2 ^ 8 * ofBytes bs + b.toNat := Nat.add_comm ..
    rw [hvalue, Nat.testBit_two_pow_mul_add _ b.toNat_lt, wireBits_cons]
    rcases Nat.lt_or_ge i 8 with hi | hi
    · rw [if_pos hi, List.getElem?_append_left (by simpa using hi), getD_byteBits]
    · rw [if_neg (not_lt.mpr hi), List.getElem?_append_right (by simpa using hi), length_byteBits,
        ih]

theorem wireBits_toBytes {n v : Nat} (h : v < 2 ^ (8 * n)) :
    wireBits (toBytes n v) = (List.range (8 * n)).map v.testBit := by
  refine List.ext_getElem (by simp) fun i hi _ => ?_
  have hbit := testBit_ofBytes (toBytes n v) i
  rw [ofBytes_toBytes_of_lt h, List.getElem?_eq_getElem hi, Option.getD_some] at hbit
  rw [List.getElem_map, List.getElem_range, hbit]

/-- **Reversing bits within bytes and bytes within a word reverses all bits of the word.** -/
theorem ofNat_reversed (n : Nat) (x : BitVec (8 * n)) :
    BitVec.ofNat (8 * n) (ofBytes (reverseBitsEach (toBytes n x.toNat)).reverse) = x.reverse := by
  refine BitVec.eq_of_getLsbD_eq fun i hi => ?_
  have hplace : 8 * n - 1 - i < 8 * n := by omega
  rw [BitVec.getLsbD_ofNat, decide_eq_true hi, Bool.true_and, testBit_ofBytes,
    wireBits_reverse_reverseBitsEach, wireBits_toBytes x.isLt, BitVec.getLsbD_reverse,
    BitVec.getMsbD_eq_getLsbD, decide_eq_true hi, Bool.true_and]
  rw [List.getElem?_reverse (by simpa using hi), List.length_map, List.length_range,
    List.getElem?_map, List.getElem?_range hplace]
  rfl

/-! ## Words of four and eight bytes -/

theorem bytes32_word32 (h : bs.length = 4) : bytes32 (word32 bs) = bs :=
  (congrArg (toBytes 4) UInt32.toNat_ofNat').trans (toBytes_ofBytes_mod h)

theorem bytes64_word64 (h : bs.length = 8) : bytes64 (word64 bs) = bs :=
  (congrArg (toBytes 8) UInt64.toNat_ofNat').trans (toBytes_ofBytes_mod h)

theorem word32_bytes32 (v : UInt32) : word32 (bytes32 v) = v :=
  (congrArg UInt32.ofNat (ofBytes_toBytes_of_lt (n := 4) v.toNat_lt)).trans v.ofNat_toNat

theorem word64_bytes64 (v : UInt64) : word64 (bytes64 v) = v :=
  (congrArg UInt64.ofNat (ofBytes_toBytes_of_lt (n := 8) v.toNat_lt)).trans v.ofNat_toNat

theorem bytes32_reverseBitsEach32 (v : UInt32) :
    bytes32 (reverseBitsEach32 v) = reverseBitsEach (bytes32 v) :=
  bytes32_word32 (by simp)

theorem bytes64_reverseBitsEach64 (v : UInt64) :
    bytes64 (reverseBitsEach64 v) = reverseBitsEach (bytes64 v) :=
  bytes64_word64 (by simp)

theorem toBitVec_reverseBytes32_reverseBitsEach32 (v : UInt32) :
    (reverseBytes32 (reverseBitsEach32 v)).toBitVec = v.toBitVec.reverse := by
  rw [reverseBytes32, bytes32_reverseBitsEach32]
  exact ofNat_reversed 4 v.toBitVec

theorem toBitVec_reverseBytes64_reverseBitsEach64 (v : UInt64) :
    (reverseBytes64 (reverseBitsEach64 v)).toBitVec = v.toBitVec.reverse := by
  rw [reverseBytes64, bytes64_reverseBitsEach64]
  exact ofNat_reversed 8 v.toBitVec

/-- It does not matter which is done first. -/
theorem reverseBitsEach32_reverseBytes32 (v : UInt32) :
    reverseBitsEach32 (reverseBytes32 v) = reverseBytes32 (reverseBitsEach32 v) := by
  rw [reverseBitsEach32, reverseBytes32, bytes32_word32 (by simp), reverseBitsEach_reverse,
    reverseBytes32, bytes32_reverseBitsEach32]

theorem reverseBitsEach64_reverseBytes64 (v : UInt64) :
    reverseBitsEach64 (reverseBytes64 v) = reverseBytes64 (reverseBitsEach64 v) := by
  rw [reverseBitsEach64, reverseBytes64, bytes64_word64 (by simp), reverseBitsEach_reverse,
    reverseBytes64, bytes64_reverseBitsEach64]

/-- **Reversing the bits of each byte and the bytes of the word reverses the word**, of four bytes
or of eight, whichever is done first.  On bytes, the former keeps their number and their parity
bits, undoes itself, and on those of a word, least significant first, does what it does on the word;
a reversed read of these is the word with its bytes reversed. -/
theorem bits_and_bytes_reverse_words :
    (∀ v : UInt32,
      (reverseBytes32 (reverseBitsEach32 v)).toBitVec = v.toBitVec.reverse ∧
      (reverseBitsEach32 (reverseBytes32 v)).toBitVec = v.toBitVec.reverse ∧
      reverseBitsEach (bytes32 v) = bytes32 (reverseBitsEach32 v) ∧
      readReversed32 (bytes32 v) = reverseBytes32 v) ∧
    (∀ v : UInt64,
      (reverseBytes64 (reverseBitsEach64 v)).toBitVec = v.toBitVec.reverse ∧
      (reverseBitsEach64 (reverseBytes64 v)).toBitVec = v.toBitVec.reverse ∧
      reverseBitsEach (bytes64 v) = bytes64 (reverseBitsEach64 v) ∧
      readReversed64 (bytes64 v) = reverseBytes64 v) ∧
    ∀ bs : List UInt8,
      (reverseBitsEach bs).length = bs.length ∧
      reverseBitsEach (reverseBitsEach bs) = bs ∧
      parityBits (reverseBitsEach bs) = parityBits bs := by
  refine ⟨fun v => ?_, fun v => ?_, fun bs => ?_⟩
  · have hall := toBitVec_reverseBytes32_reverseBitsEach32 v
    refine ⟨hall, ?_, (bytes32_reverseBitsEach32 v).symm, ?_⟩
    · rw [reverseBitsEach32_reverseBytes32, hall]
    · rw [readReversed32, word32_bytes32]
  · have hall := toBitVec_reverseBytes64_reverseBitsEach64 v
    refine ⟨hall, ?_, (bytes64_reverseBitsEach64 v).symm, ?_⟩
    · rw [reverseBitsEach64_reverseBytes64, hall]
    · rw [readReversed64, word64_bytes64]
  · exact ⟨length_reverseBitsEach bs, reverseBitsEach_reverseBitsEach bs,
      parityBits_reverseBitsEach bs⟩

/-- One bit per byte: first each byte is turned round, then the word. -/
example : reverseBitsEach32 0x01020408 = 0x80402010 ∧
    reverseBytes32 (reverseBitsEach32 0x01020408) = 0x10204080 := by
  decide

end TagEmulation
