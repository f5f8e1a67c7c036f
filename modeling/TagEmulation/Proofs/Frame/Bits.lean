import Mathlib.Algebra.Order.Ring.Nat
import TagEmulation.Frame

/-!
# Proofs/Frame/Bits — a frame as the row of bits on the air

What goes over the air is a row of bits, least significant first within each byte.  Two frames are
the same on the air (`Frame.SameBits`) if they have equally many bits and the same ones; what the
last byte holds behind them is not sent.  The bits of a byte that are sent are a number of their own
(`Frame.sent`), and comparing these numbers is comparing the rows (`sameBits_iff_sent`).  For a
frame of whole bytes that leaves nothing open (`sameBits_iff_of_whole`); a short frame leaves open
the highest bit of its only byte (`sameBits_short_iff`).
-/

namespace TagEmulation.Frame

variable {f g : Frame}

/-! ## Bits -/

/-- The byte at `i`; behind the last one it is zero. -/
def byte (f : Frame) (i : Nat) : UInt8 := f.bytes[i]?.getD 0

/-- The bit sent at `i`: bytes in order, the least significant bit of each first. -/
def bit (f : Frame) (i : Nat) : Bool := (f.byte (i / 8)).toNat.testBit (i % 8)

/-- The frames are the same on the air: they have equally many bits, and the same ones. -/
def SameBits (f g : Frame) : Prop := f.bits = g.bits ∧ ∀ i < f.bits, f.bit i = g.bit i

instance (f g : Frame) : Decidable (f.SameBits g) :=
  inferInstanceAs (Decidable (_ ∧ ∀ i < f.bits, _))

@[refl] theorem SameBits.refl (f : Frame) : f.SameBits f := ⟨rfl, fun _ _ => rfl⟩

/-! ## Bits byte by byte -/

/-- What the byte at `i` holds in those of its bits that are sent. -/
def sent (f : Frame) (i : Nat) : Nat := (f.byte i).toNat % 2 ^ (f.bits - 8 * i)

theorem sent_lt (f : Frame) (i : Nat) : f.sent i < 2 ^ 8 :=
  lt_of_le_of_lt (Nat.mod_le ..) (f.byte i).toNat_lt

theorem testBit_sent (f : Frame) (i : Nat) {j : Nat} (hj : j < 8) :
    (f.sent i).testBit j = (decide (8 * i + j < f.bits) && f.bit (8 * i + j)) := by
  have hbyte : (8 * i + j) / 8 = i := by omega
  have hplace : (8 * i + j) % 8 = j := by omega
  have hsent : j < f.bits - 8 * i ↔ 8 * i + j < f.bits := by omega
  rw [sent, Nat.testBit_mod_two_pow, bit, hbyte, hplace, decide_eq_decide.mpr hsent]

/-- **Frames are the same on the air if each byte holds the same in the bits that are sent.** -/
theorem sameBits_iff_sent : f.SameBits g ↔ f.bits = g.bits ∧ ∀ i, f.sent i = g.sent i := by
  refine and_congr_right fun hbits => ⟨fun h i => ?_, fun h k hk => ?_⟩
  · refine Nat.eq_of_testBit_eq fun j => ?_
    rcases Nat.lt_or_ge j 8 with hj | hj
    · rw [testBit_sent f i hj, testBit_sent g i hj, ← hbits]
      by_cases hsent : 8 * i + j < f.bits
      · rw [h _ hsent]
      · simp only [hsent, decide_false, Bool.false_and]
    · -- no byte has a bit up there, so the row says nothing about it
      have hpow : 2 ^ 8 ≤ 2 ^ j := Nat.pow_le_pow_right Nat.two_pos hj
      rw [Nat.testBit_lt_two_pow ((f.sent_lt i).trans_le hpow),
        Nat.testBit_lt_two_pow ((g.sent_lt i).trans_le hpow)]
  · have hplace : k % 8 < 8 := Nat.mod_lt k (by decide)
    have hbit (e : Frame) (he : k < e.bits) : (e.sent (k / 8)).testBit (k % 8) = e.bit k := by
      rw [testBit_sent e _ hplace, Nat.div_add_mod, decide_eq_true he, Bool.true_and]
    rw [← hbit f hk, ← hbit g (hbits ▸ hk), h]

/-! ## Whole bytes -/

/-- Of a whole byte, all is sent. -/
theorem sent_of_whole {i : Nat} (h : 8 * (i + 1) ≤ f.bits) : f.sent i = (f.byte i).toNat := by
  have hpow : 2 ^ 8 ≤ 2 ^ (f.bits - 8 * i) := Nat.pow_le_pow_right Nat.two_pos (by omega)
  exact Nat.mod_eq_of_lt ((f.byte i).toNat_lt.trans_le hpow)

theorem byte_of_lt {i : Nat} (h : i < f.bytes.length) : f.byte i = f.bytes[i] := by
  rw [byte, List.getElem?_eq_getElem h, Option.getD_some]

/-- **A frame of whole bytes leaves nothing open.** -/
theorem sameBits_iff_of_whole (h : g.residualBits = 0) :
    f.SameBits g ↔ f.bits = g.bits ∧ f.bytes = g.bytes := by
  rw [sameBits_iff_sent]
  refine and_congr_right fun hbits => ⟨fun hsent => ?_, fun hbytes i => ?_⟩
  · have hlength : f.bytes.length = g.bytes.length := by
      rw [f.length_bytes, g.length_bytes, hbits]
    refine List.ext_getElem hlength fun i hf hg => ?_
    have hwhole : 8 * (i + 1) ≤ g.bits := by
      rw [g.length_bytes, bytesFor] at hg
      change g.bits % 8 = 0 at h
      omega
    rw [← byte_of_lt hf, ← byte_of_lt hg, ← UInt8.toNat_inj, ← sent_of_whole (hbits ▸ hwhole),
      ← sent_of_whole hwhole, hsent]
  · rw [sent, sent, byte, byte, hbits, hbytes]

theorem sameBits_ofBytes_iff {data : List UInt8} :
    f.SameBits (ofBytes data) ↔ f.bits = 8 * data.length ∧ f.bytes = data :=
  sameBits_iff_of_whole (Nat.mul_mod_right ..)

/-! ## Short frames -/

theorem toNat_and_low (b : UInt8) : (b &&& 0x7f).toNat = b.toNat % 2 ^ 7 :=
  (UInt8.toNat_and b 0x7f).trans (Nat.and_two_pow_sub_one_eq_mod b.toNat 7)

/-- Behind its only byte, a short frame sends nothing. -/
theorem sent_succ_of_short (h : f.bits = 7) (i : Nat) : f.sent (i + 1) = 0 := by
  have hnone : f.bits - 8 * (i + 1) = 0 := by omega
  rw [sent, hnone, Nat.pow_zero, Nat.mod_one]

theorem sent_zero_of_short {b : UInt8} (hbits : f.bits = 7) (hbytes : f.bytes = [b]) :
    f.sent 0 = (b &&& 0x7f).toNat := by
  rw [sent, byte, hbits, hbytes, toNat_and_low]
  rfl

/-- **A short frame leaves the highest bit of its byte open.** -/
theorem sameBits_short_iff {code : UInt8} :
    f.SameBits (short code) ↔ f.bits = 7 ∧ ∃ b, f.bytes = [b] ∧ b &&& 0x7f = code &&& 0x7f := by
  have hshort : (short code).sent 0 = (code &&& 0x7f).toNat := by
    rw [sent_zero_of_short rfl rfl, UInt8.and_assoc, UInt8.and_self]
  rw [sameBits_iff_sent]
  refine and_congr_right fun hbits : f.bits = 7 => ⟨fun hsent => ?_, ?_⟩
  · have hlength : f.bytes.length = 1 := by rw [f.length_bytes, hbits, bytesFor]
    obtain ⟨b, hb⟩ := List.length_eq_one_iff.mp hlength
    refine ⟨b, hb, ?_⟩
    rw [← UInt8.toNat_inj, ← sent_zero_of_short hbits hb, hsent, hshort]
  · rintro ⟨b, hb, hcode⟩ (_ | i)
    · rw [sent_zero_of_short hbits hb, hcode, hshort]
    · rw [sent_succ_of_short hbits, sent_succ_of_short rfl]

end TagEmulation.Frame
