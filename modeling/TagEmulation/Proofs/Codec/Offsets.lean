import Mathlib.Tactic.SplitIfs
import TagEmulation.Command
import TagEmulation.Proofs.Codec.Bounds
import TagEmulation.Proofs.Frame.Bits

/-!
# Proofs/Codec/Offsets — frames read field by field

The readers of `Access` give any byte that a frame has, whether sums are checked or wrap around
(`Frame.readable_of_bits`).  `Command.decodeSelect` takes the nine bytes of SELECT apart at once,
where `Command.selectAtOffsets` asks for every field where it stands and may be turned down each
time.  It never is: a frame of the right number of bits has all nine bytes, so that both find the
same UID or the same fault (`Command.selectAtOffsets_eq`).
-/

namespace TagEmulation

variable {a : Arithmetic} {f : Frame} {bits : Nat}

namespace Frame

/-! ## Bytes at their offsets -/

/-- The UID in the four bytes from `start` on. -/
def uidFrom (f : Frame) (start : Nat) : Uid :=
  ⟨f.byte start, f.byte (start + 1), f.byte (start + 2), f.byte (start + 3)⟩

theorem bytes_eq_map_byte (f : Frame) : f.bytes = (List.range f.byteCount).map f.byte := by
  refine List.ext_getElem (by simp [byteCount]) fun i hi _ => ?_
  rw [List.getElem_map, List.getElem_range, byte_of_lt hi]

/-- The number of bits says how many bytes there are. -/
theorem bytes_of_bits (h : f.bits = bits) :
    f.bytes = (List.range (bytesFor bits)).map f.byte := by
  rw [bytes_eq_map_byte, byteCount, f.length_bytes, h]

theorem take_four_of_le {start : Nat} (h : start + 4 ≤ f.bytes.length) :
    (f.bytes.drop start).take 4 = (f.uidFrom start).bytes := by
  have hbyte {i : Nat} (hi : i < f.bytes.length) :
      f.bytes.drop i = f.byte i :: f.bytes.drop (i + 1) := by
    rw [List.drop_eq_getElem_cons hi, byte_of_lt hi]
  rw [hbyte (by omega), hbyte (by omega), hbyte (by omega), hbyte (by omega)]
  rfl

/-- The readers of bytes give whatever they are asked for within the first `count` bytes. -/
structure Readable (f : Frame) (count : Nat) : Prop where
  slice : ∀ {a : Arithmetic} (start n : UInt64), start.toNat + n.toNat ≤ count →
    a.sliceAt f.bytes start n = .ok ((f.bytes.drop start.toNat).take n.toNat)
  byte : ∀ {a : Arithmetic} (i : UInt64), i.toNat < count →
    a.byteAt f.bytes i = .ok (f.byte i.toNat)
  uid : ∀ {a : Arithmetic} (start : UInt64), start.toNat + 4 ≤ count →
    a.uidAt f.bytes start = .ok (f.uidFrom start.toNat)

/-- **A frame has all its whole bytes to read**, as long as its bits are counted by a word. -/
theorem readable_wholeBytes (hword : f.bits < UInt64.size) : f.Readable f.wholeBytes := by
  have hwhole : f.wholeBytes ≤ f.bytes.length := f.wholeBytes_le_length
  have hcount : f.wholeBytes < UInt64.size := by rw [wholeBytes]; omega
  refine ⟨fun start n h => ?_, fun i hi => ?_, fun start h => ?_⟩
  · exact Arithmetic.sliceAt_of_le (h.trans hwhole) (h.trans_lt hcount)
  · have hin : i.toNat < f.bytes.length := hi.trans_le hwhole
    rw [Arithmetic.byteAt_of_lt hin (lt_of_le_of_lt hi hcount), byte_of_lt hin]
  · have hin : start.toNat + 4 ≤ f.bytes.length := h.trans hwhole
    exact Arithmetic.uidAt_of_le hin (h.trans_lt hcount) (take_four_of_le hin)

theorem readable_of_bits (h : f.bits = bits) (hword : bits < UInt64.size) :
    f.Readable (bits / 8) := by
  subst h
  exact readable_wholeBytes hword

end Frame

/-! ## SELECT -/

theorem Arithmetic.requireByte_of_byteAt {data : List UInt8} {index : UInt64} {b : UInt8}
    (h : a.byteAt data index = .ok b) (expected : UInt8) :
    a.requireByte data index expected
      = if b = expected then .ok () else .error (.fault (.wrongCommand expected b)) := by
  rw [requireByte, h]

namespace Command

/-- The UID that a SELECT frame names, each field read at its offset. -/
def selectAtOffsets (a : Arithmetic) (f : Frame) : Except Failure Uid := do
  orFault (f.requireBits selectBits)
  a.requireByte f.bytes 0 levelOneCode
  a.requireByte f.bytes 1 allUidBits
  let guarded ← a.sliceAt f.bytes 0 7
  let low ← a.byteAt f.bytes 7
  let high ← a.byteAt f.bytes 8
  if crcA guarded ≠ crcOfBytes low high then
    .error (.fault (.wrongCrc (crcA guarded) (crcOfBytes low high)))
  else
    let uid ← a.uidAt f.bytes 2
    let check ← a.byteAt f.bytes 6
    if uid.check ≠ check then .error (.fault (.wrongBlockCheck uid.check check))
    else return uid

/-- **No reader turns SELECT down that is long enough.** -/
theorem selectAtOffsets_eq (f : Frame) : selectAtOffsets a f = orFault (decodeSelect f) := by
  by_cases hbits : f.bits = selectBits
  · have hread : f.Readable 9 := Frame.readable_of_bits hbits (by decide)
    have hbytes : f.bytes = [f.byte 0, f.byte 1, f.byte 2, f.byte 3, f.byte 4, f.byte 5, f.byte 6,
      f.byte 7, f.byte 8] := Frame.bytes_of_bits hbits
    have hfirst : a.byteAt f.bytes 0 = .ok (f.byte 0) := hread.byte 0 (by decide)
    have hsecond : a.byteAt f.bytes 1 = .ok (f.byte 1) := hread.byte 1 (by decide)
    have hguarded : a.sliceAt f.bytes 0 7 = .ok [f.byte 0, f.byte 1, f.byte 2, f.byte 3, f.byte 4,
        f.byte 5, f.byte 6] := (hread.slice 0 7 (by decide)).trans (by rw [hbytes]; rfl)
    have huid : a.uidAt f.bytes 2 = .ok ⟨f.byte 2, f.byte 3, f.byte 4, f.byte 5⟩ :=
      hread.uid 2 (by decide)
    have hcheck : a.byteAt f.bytes 6 = .ok (f.byte 6) := hread.byte 6 (by decide)
    have hlow : a.byteAt f.bytes 7 = .ok (f.byte 7) := hread.byte 7 (by decide)
    have hhigh : a.byteAt f.bytes 8 = .ok (f.byte 8) := hread.byte 8 (by decide)
    rw [selectAtOffsets, decodeSelect, Frame.requireBits_of_eq hbits,
      Arithmetic.requireByte_of_byteAt hfirst, Arithmetic.requireByte_of_byteAt hsecond, hguarded,
      huid, hcheck, hlow, hhigh, hbytes]
    simp only [ne_eq, ite_not, orFault, Except.mapError, bind, Except.bind]
    split_ifs <;> rfl
  · rw [selectAtOffsets, decodeSelect, Frame.requireBits, if_neg hbits]
    rfl

end Command

end TagEmulation
