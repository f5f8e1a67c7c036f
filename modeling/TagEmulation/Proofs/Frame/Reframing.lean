import Mathlib.Algebra.Order.Ring.Nat
import TagEmulation.Proofs.Frame.Making
import TagEmulation.Proofs.Session.Tap

/-!
# Proofs/Frame/Reframing — bytes and receive buffers are framed alike

There are two ways to frame the first bits of some bytes.  One compares the bits with eight times
the number of bytes, and then drops what is behind them; the other compares the number of bytes the
bits touch, cuts these out and then frames them.  They always come to the same
(`Frame.ofBuffer_eq_ofBits`), and a frame without parity bits that is framed once more is left as it
was (`Frame.ofBits_bytes`).

Frames count in natural numbers, a device in words of 64 bits, whose products and sums may wrap.
`Draft.ofBitsInWords` and `Draft.ofBufferInWords` do all comparing and cutting in words; for any
bytes that a device can hold, nothing wraps (`bytesInWords_lt_iff`, `toNat_bytesForWord`).
-/

namespace TagEmulation

variable {buffer data : List UInt8} {bits : UInt64}

/-! ## Counting in words -/

/-- The number of bytes that `bits` bits touch, counted in words. -/
def bytesForWord (bits : UInt64) : UInt64 := bits / 8 + if bits % 8 = 0 then 0 else 1

/-- The number of some bytes, as a word. -/
def bytesInWords (data : List UInt8) : UInt64 := .ofNat data.length

namespace Draft

/-- The first `bits` bits of `data`, with everything counted in words. -/
def ofBitsInWords (data : List UInt8) (bits : UInt64) : Except Fault Draft :=
  if bytesInWords data * 8 < bits then .error (.tooManyBits bits.toNat data.length)
  else .ok ⟨data.take (bytesForWord bits).toNat, bits.toNat, none⟩

/-- The first `bits` bits of a receive buffer, with everything counted in words. -/
def ofBufferInWords (buffer : List UInt8) (bits : UInt64) : Except Fault Draft :=
  if bytesInWords buffer < bytesForWord bits then .error (.tooManyBits bits.toNat buffer.length)
  else ofBitsInWords (buffer.take (bytesForWord bits).toNat) bits

end Draft

/-- However many bits there are, the bytes they touch can be counted in a word. -/
theorem toNat_bytesForWord (bits : UInt64) : (bytesForWord bits).toNat = bytesFor bits.toNat := by
  have hbits : bits.toNat < 2 ^ 64 := bits.toNat_lt
  have hwhole : (bits / 8).toNat = bits.toNat / 8 := UInt64.toNat_div ..
  have hrest : bits % 8 = 0 ↔ bits.toNat % 8 = 0 := by
    rw [← UInt64.toNat_inj, UInt64.toNat_mod]
    rfl
  rw [bytesForWord, UInt64.toNat_add, hwhole, bytesFor]
  split_ifs with h
  · rw [hrest] at h
    change (bits.toNat / 8 + 0) % 2 ^ 64 = _
    omega
  · rw [hrest] at h
    change (bits.toNat / 8 + 1) % 2 ^ 64 = _
    omega

theorem toNat_bytesInWords (h : data.length < 2 ^ 60) :
    (bytesInWords data).toNat = data.length := by
  rw [bytesInWords, UInt64.toNat_ofNat']
  omega

/-- The product of the one check does not wrap, … -/
theorem bytesInWords_mul_lt_iff (h : data.length < 2 ^ 60) :
    bytesInWords data * 8 < bits ↔ 8 * data.length < bits.toNat := by
  have hproduct : (bytesInWords data * 8).toNat = data.length * 8 % 2 ^ 64 := by
    rw [UInt64.toNat_mul, toNat_bytesInWords h]
    rfl
  rw [UInt64.lt_iff_toNat_lt, hproduct]
  omega

/-- … and neither does the sum of the other. -/
theorem bytesInWords_lt_iff (h : buffer.length < 2 ^ 60) :
    bytesInWords buffer < bytesForWord bits ↔ buffer.length < bytesFor bits.toNat := by
  rw [UInt64.lt_iff_toNat_lt, toNat_bytesInWords h, toNat_bytesForWord]

namespace Frame

/-! ## The two checks -/

theorem ofBits_of_lt {bits : Nat} (h : 8 * data.length < bits) :
    ofBits data bits = .error (.tooManyBits bits data.length) :=
  dif_neg (not_le.mpr h)

theorem exists_ofBits {bits : Nat} (h : bits ≤ 8 * data.length) :
    ∃ f, ofBits data bits = .ok f ∧ f.draft = ⟨data.take (bytesFor bits), bits, none⟩ :=
  ⟨_, dif_pos h, rfl⟩

/-- **Bytes and receive buffers are framed alike**, or refused alike. -/
theorem ofBuffer_eq_ofBits (buffer : List UInt8) (bits : Nat) :
    ofBuffer buffer bits = ofBits buffer bits := by
  rcases Nat.lt_or_ge (8 * buffer.length) bits with hlong | hfits
  · rw [ofBuffer_of_lt hlong, ofBits_of_lt hlong]
  · obtain ⟨f, hf, hdraft⟩ := exists_ofBits hfits
    obtain ⟨g, hg, hdraft'⟩ :=
      map_eq_ok_iff.mp ((draft_ofBuffer buffer bits).trans (Draft.ofBuffer_of_le hfits))
    rw [hf, hg, draft_injective (hdraft'.trans hdraft.symm)]

/-- So are they if everything is counted in words, … -/
theorem map_ofBits_eq_inWords (h : data.length < 2 ^ 60) (bits : UInt64) :
    (ofBits data bits.toNat).map draft = Draft.ofBitsInWords data bits := by
  rw [draft_ofBits, Draft.ofBits, Draft.ofBitsInWords, toNat_bytesForWord]
  by_cases hlong : 8 * data.length < bits.toNat
  · rw [if_neg (not_le.mpr hlong), if_pos ((bytesInWords_mul_lt_iff h).mpr hlong)]
  · rw [if_pos (not_lt.mp hlong), if_neg ((bytesInWords_mul_lt_iff h).not.mpr hlong)]

/-- … also those of a buffer. -/
theorem map_ofBuffer_eq_inWords (h : buffer.length < 2 ^ 60) (bits : UInt64) :
    (ofBuffer buffer bits.toNat).map draft = Draft.ofBufferInWords buffer bits := by
  have hcut : (buffer.take (bytesFor bits.toNat)).length < 2 ^ 60 :=
    lt_of_le_of_lt (List.length_take_le' ..) h
  rw [Draft.ofBufferInWords, toNat_bytesForWord, ← map_ofBits_eq_inWords hcut, ofBuffer]
  by_cases hlong : buffer.length < bytesFor bits.toNat
  · rw [if_neg (not_le.mpr hlong), if_pos ((bytesInWords_lt_iff h).mpr hlong)]
    rfl
  · rw [if_pos (not_lt.mp hlong), if_neg ((bytesInWords_lt_iff h).not.mpr hlong)]

/-! ## Framing once more -/

variable {f : Frame}

theorem withoutParity_of_plain (h : f.parity = none) : f.withoutParity = f :=
  ext_fields rfl rfl h.symm

/-- A frame is cut out of any buffer that starts with its bytes. -/
theorem ofBuffer_bytes_append (h : f.parity = none) (rest : List UInt8) :
    ofBuffer (f.bytes ++ rest) f.bits = .ok f := by
  rw [f.ofBuffer_of_take List.take_left, withoutParity_of_plain h]

theorem ofBits_bytes (h : f.parity = none) : ofBits f.bytes f.bits = .ok f := by
  rw [← ofBuffer_eq_ofBits, f.ofBuffer_of_take (List.take_length ..), withoutParity_of_plain h]

end Frame

/-- **The two ways to frame bytes agree.**  Both frame the bytes that the bits touch if there are
enough, and refuse with the number of all bytes there are if not; and both would do the same if they
counted in words of 64 bits, up to the longest bytes that a device can hold.  What a frame without
parity bits holds is framed as that frame again, with its number of bits, and so is a buffer that
starts with it. -/
theorem framing_twice_is_framing_once (buffer : List UInt8) :
    (∀ bits,
      Frame.ofBuffer buffer bits = Frame.ofBits buffer bits ∧
      ((∃ f, Frame.ofBits buffer bits = .ok f) ↔ bits ≤ 8 * buffer.length) ∧
      (bits ≤ 8 * buffer.length → ∃ f, Frame.ofBits buffer bits = .ok f ∧
        f.bytes = buffer.take (bytesFor bits) ∧ f.bits = bits ∧ f.parity = none) ∧
      (8 * buffer.length < bits →
        Frame.ofBits buffer bits = .error (.tooManyBits bits buffer.length))) ∧
    (buffer.length < 2 ^ 60 → ∀ bits : UInt64,
      (Frame.ofBits buffer bits.toNat).map Frame.draft = Draft.ofBitsInWords buffer bits ∧
      (Frame.ofBuffer buffer bits.toNat).map Frame.draft = Draft.ofBufferInWords buffer bits) ∧
    ∀ f : Frame, f.parity = none →
      Frame.ofBits f.bytes f.bits = .ok f ∧
      ∀ rest, Frame.ofBuffer (f.bytes ++ rest) f.bits = .ok f := by
  have hmade {bits : Nat} (h : bits ≤ 8 * buffer.length) : ∃ f, Frame.ofBits buffer bits = .ok f ∧
      f.bytes = buffer.take (bytesFor bits) ∧ f.bits = bits ∧ f.parity = none := by
    obtain ⟨f, hf, hdraft⟩ := Frame.exists_ofBits h
    exact ⟨f, hf, congrArg Draft.bytes hdraft, congrArg Draft.bits hdraft,
      congrArg Draft.parity hdraft⟩
  refine ⟨fun bits => ⟨Frame.ofBuffer_eq_ofBits buffer bits, ⟨fun ⟨f, hf⟩ => ?_, fun h => ?_⟩,
    hmade, Frame.ofBits_of_lt⟩, fun h bits => ⟨Frame.map_ofBits_eq_inWords h bits,
      Frame.map_ofBuffer_eq_inWords h bits⟩,
    fun f h => ⟨Frame.ofBits_bytes h, Frame.ofBuffer_bytes_append h⟩⟩
  · refine not_lt.mp fun hlong => ?_
    cases hf.symm.trans (Frame.ofBits_of_lt hlong)
  · obtain ⟨f, hf, -⟩ := hmade h
    exact ⟨f, hf⟩

/-- Three bytes hold a short frame and twenty-four bits, but neither one bit more nor the most bits
that a word can count; and a frame of twelve bits is framed again in front of another byte. -/
theorem framing_twice_of_three_bytes :
    let buffer : List UInt8 := [0x26, 0xff, 0xff]
    let f : Frame := ⟨[0x93, 0x0f], 12, none, rfl, by simp⟩
    (∃ g, Frame.ofBuffer buffer 7 = .ok g ∧ g.bytes = [0x26]) ∧
    (∃ g, Frame.ofBits buffer 24 = .ok g) ∧
    Frame.ofBits buffer 25 = .error (.tooManyBits 25 3) ∧
    buffer.length < 2 ^ 60 ∧
    (Frame.ofBuffer buffer (0xffffffffffffffff : UInt64).toNat).map Frame.draft
      = .error (.tooManyBits 0xffffffffffffffff 3) ∧
    f.parity = none ∧ Frame.ofBuffer [0x93, 0x0f, 0xaa] 12 = .ok f := by
  intro buffer f
  have hroom : buffer.length < 2 ^ 60 := by decide
  obtain ⟨hall, hwords, hagain⟩ := framing_twice_is_framing_once buffer
  obtain ⟨hsame, -, hseven, -⟩ := hall 7
  obtain ⟨g, hg, hbytes, -⟩ := hseven (by decide)
  obtain ⟨-, hfull, -⟩ := hall 24
  obtain ⟨-, -, -, hlong⟩ := hall 25
  obtain ⟨-, hmost⟩ := hwords hroom 0xffffffffffffffff
  exact ⟨⟨g, hsame.trans hg, hbytes⟩, hfull.mpr (by decide), hlong (by decide), hroom,
    hmost.trans rfl, rfl, (hagain f rfl).2 [0xaa]⟩

end TagEmulation
