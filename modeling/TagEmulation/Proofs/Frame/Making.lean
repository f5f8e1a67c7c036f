import TagEmulation.Proofs.Script.Arrival

/-!
# Proofs/Frame/Making — a frame can only be made so that it fits

A frame carries the proofs that its bytes are those its bits touch and that each whole byte has a
parity bit.  A `Draft` is what a frame stores, without these proofs, and a `Making` is a chain of
the calls that make frames.  Carried out on drafts, where nothing enforces it, a making comes to
what the frame stores (`Making.map_draft`), and what it comes to fits; the drafts that fit are just
those which some making comes to (`Making.exists_draft_iff`).  So the proofs rule out no frame that
a call would make without them.
-/

namespace TagEmulation

/-! ## Drafts -/

/-- What a frame stores. -/
structure Draft where
  bytes : List UInt8
  bits : Nat
  parity : Option (List UInt8)
  deriving DecidableEq

namespace Draft

variable {d : Draft}

/-- The bytes are those that the bits touch, and every whole byte has a parity bit if any has. -/
structure Fits (d : Draft) : Prop where
  length_bytes : d.bytes.length = bytesFor d.bits
  whole_le_parity : ∀ p ∈ d.parity, d.bits / 8 ≤ p.length

/-- The first `bits` bits of `data`. -/
def ofBits (data : List UInt8) (bits : Nat) : Except Fault Draft :=
  if bits ≤ 8 * data.length then .ok ⟨data.take (bytesFor bits), bits, none⟩
  else .error (.tooManyBits bits data.length)

/-- The first `bits` bits of a receive buffer. -/
def ofBuffer (buffer : List UInt8) (bits : Nat) : Except Fault Draft :=
  if bytesFor bits ≤ buffer.length then ofBits (buffer.take (bytesFor bits)) bits
  else .error (.tooManyBits bits buffer.length)

/-- The draft with the given parity bits, if there are enough. -/
def withParity (d : Draft) (parity : List UInt8) : Except Fault Draft :=
  if d.bits / 8 ≤ parity.length then .ok { d with parity := some parity }
  else .error (.wrongLength (d.bits / 8) parity.length)

/-- The draft with the right parity bits. -/
def withRightParity (d : Draft) : Draft :=
  { d with parity := some (parityBits (d.bytes.take (d.bits / 8))) }

theorem ofBuffer_of_le {buffer : List UInt8} {bits : Nat} (h : bits ≤ 8 * buffer.length) :
    ofBuffer buffer bits = .ok ⟨buffer.take (bytesFor bits), bits, none⟩ := by
  have hbytes : bytesFor bits ≤ buffer.length := by rw [bytesFor]; omega
  have hcut : bits ≤ 8 * (buffer.take (bytesFor bits)).length := by
    rw [List.length_take, Nat.min_eq_left hbytes, bytesFor]; omega
  rw [ofBuffer, if_pos hbytes, ofBits, if_pos hcut, List.take_take, Nat.min_self]

/-! ## Each call makes a draft that fits -/

theorem fits_of_ofBits {data : List UInt8} {bits : Nat} (h : ofBits data bits = .ok d) :
    d.Fits := by
  rw [ofBits] at h
  split_ifs at h with hroom
  cases h
  have hcut : (data.take (bytesFor bits)).length = bytesFor bits := by
    rw [List.length_take, bytesFor]
    omega
  exact ⟨hcut, by simp⟩

theorem fits_of_ofBuffer {buffer : List UInt8} {bits : Nat} (h : ofBuffer buffer bits = .ok d) :
    d.Fits := by
  rw [ofBuffer] at h
  split_ifs at h
  exact fits_of_ofBits h

theorem fits_ofBytes (data : List UInt8) : Fits ⟨data, 8 * data.length, none⟩ where
  length_bytes := by
    change data.length = bytesFor (8 * data.length)
    rw [bytesFor]
    omega
  whole_le_parity := by simp

theorem Fits.withParity (hd : d.Fits) {parity : List UInt8} {d' : Draft}
    (h : d.withParity parity = .ok d') : d'.Fits := by
  rw [Draft.withParity] at h
  split_ifs at h with hslots
  cases h
  exact ⟨hd.length_bytes, by rintro p ⟨⟩; exact hslots⟩

/-- Of a draft that fits, all whole bytes are there. -/
theorem Fits.whole_le_length (hd : d.Fits) : d.bits / 8 ≤ d.bytes.length := by
  rw [hd.length_bytes, bytesFor]
  omega

theorem Fits.bits_le_length (hd : d.Fits) : d.bits ≤ 8 * d.bytes.length := by
  rw [hd.length_bytes, bytesFor]
  omega

/-- So each of them gets its parity bit. -/
theorem Fits.length_rightParity (hd : d.Fits) :
    (parityBits (d.bytes.take (d.bits / 8))).length = d.bits / 8 := by
  rw [length_parityBits, List.length_take, Nat.min_eq_left hd.whole_le_length]

theorem Fits.withRightParity (hd : d.Fits) : d.withRightParity.Fits where
  length_bytes := hd.length_bytes
  whole_le_parity := by rintro p ⟨⟩; exact hd.length_rightParity.ge

end Draft

namespace Frame

/-- What a frame stores. -/
def draft (f : Frame) : Draft := ⟨f.bytes, f.bits, f.parity⟩

theorem draft_injective : Function.Injective draft := by
  intro f g h
  exact ext_fields (congrArg Draft.bytes h) (congrArg Draft.bits h) (congrArg Draft.parity h)

/-! ## Drafts follow the frames -/

theorem draft_ofBits (data : List UInt8) (bits : Nat) :
    (ofBits data bits).map draft = Draft.ofBits data bits := by
  rw [ofBits, Draft.ofBits]
  split_ifs <;> rfl

theorem draft_ofBuffer (buffer : List UInt8) (bits : Nat) :
    (ofBuffer buffer bits).map draft = Draft.ofBuffer buffer bits := by
  rw [ofBuffer, Draft.ofBuffer]
  split_ifs
  · exact draft_ofBits ..
  · rfl

theorem draft_withParity (f : Frame) (parity : List UInt8) :
    (f.withParity parity).map draft = f.draft.withParity parity := by
  by_cases h : f.wholeBytes ≤ parity.length
  · rw [withParity_of_le h]
    exact (if_pos h).symm
  · rw [withParity, dif_neg h]
    exact (if_neg h).symm

end Frame

/-! ## Makings -/

/-- A chain of calls that make a frame. -/
inductive Making where
  /-- The frame without bits. -/
  | empty
  /-- The first bits of some bytes. -/
  | ofBits (data : List UInt8) (bits : Nat)
  /-- The first bits of a receive buffer. -/
  | ofBuffer (buffer : List UInt8) (bits : Nat)
  /-- All bits of some bytes. -/
  | ofBytes (data : List UInt8)
  /-- The lower seven bits of a command byte. -/
  | short (command : UInt8)
  /-- And then these parity bits. -/
  | withParity (making : Making) (parity : List UInt8)
  /-- And then the right parity bits. -/
  | withRightParity (making : Making)

namespace Making

/-- The frame that is made, if no call fails. -/
def frame : Making → Except Fault Frame
  | .empty => .ok .empty
  | .ofBits data bits => Frame.ofBits data bits
  | .ofBuffer buffer bits => Frame.ofBuffer buffer bits
  | .ofBytes data => .ok (.ofBytes data)
  | .short command => .ok (.short command)
  | .withParity making parity => making.frame.bind (·.withParity parity)
  | .withRightParity making => making.frame.map .withRightParity

/-- The draft that is made, if no call fails. -/
def draft : Making → Except Fault Draft
  | .empty => .ok ⟨[], 0, none⟩
  | .ofBits data bits => Draft.ofBits data bits
  | .ofBuffer buffer bits => Draft.ofBuffer buffer bits
  | .ofBytes data => .ok ⟨data, 8 * data.length, none⟩
  | .short command => .ok ⟨[command &&& 0x7f], 7, none⟩
  | .withParity making parity => making.draft.bind (·.withParity parity)
  | .withRightParity making => making.draft.map .withRightParity

/-- **What a frame stores is what its making comes to without the proofs**, and where one fails, so
does the other. -/
theorem map_draft (m : Making) : m.frame.map Frame.draft = m.draft := by
  induction m with
  | empty => rfl
  | ofBits data bits => exact Frame.draft_ofBits data bits
  | ofBuffer buffer bits => exact Frame.draft_ofBuffer buffer bits
  | ofBytes data => rfl
  | short command => rfl
  | withParity making parity ih =>
    rw [frame, draft, ← ih]
    cases making.frame with
    | error fault => rfl
    | ok f => exact f.draft_withParity parity
  | withRightParity making ih =>
    rw [frame, draft, ← ih]
    cases making.frame <;> rfl

theorem frame_eq_ok_iff {m : Making} {f : Frame} : m.frame = .ok f ↔ m.draft = .ok f.draft := by
  rw [← m.map_draft, map_eq_ok_iff]
  refine ⟨fun h => ⟨f, h, rfl⟩, fun ⟨g, hg, hdraft⟩ => ?_⟩
  rw [hg, Frame.draft_injective hdraft]

theorem exists_frame {m : Making} {d : Draft} (h : m.draft = .ok d) :
    ∃ f, m.frame = .ok f ∧ f.draft = d :=
  map_eq_ok_iff.mp (m.map_draft.trans h)

/-- **What a making comes to fits**, call by call. -/
theorem fits_of_draft {m : Making} : ∀ {d : Draft}, m.draft = .ok d → d.Fits := by
  induction m with
  | empty =>
    rintro d ⟨⟩
    exact Draft.fits_ofBytes []
  | ofBits data bits => exact Draft.fits_of_ofBits
  | ofBuffer buffer bits => exact Draft.fits_of_ofBuffer
  | ofBytes data =>
    rintro d ⟨⟩
    exact Draft.fits_ofBytes data
  | short command =>
    rintro d ⟨⟩
    exact ⟨by simp [bytesFor], by simp⟩
  | withParity making parity ih =>
    intro d h
    obtain ⟨d', hd', hparity⟩ := bind_eq_ok_iff.mp h
    exact (ih hd').withParity hparity
  | withRightParity making ih =>
    intro d h
    obtain ⟨d', hd', rfl⟩ := map_eq_ok_iff.mp h
    exact (ih hd').withRightParity

/-- Right parity bits are as many as there are whole bytes. -/
theorem length_of_withRightParity {m : Making} {d : Draft} (h : m.withRightParity.draft = .ok d) :
    ∃ p, d.parity = some p ∧ p.length = d.bits / 8 := by
  obtain ⟨d', hd', rfl⟩ := map_eq_ok_iff.mp h
  exact ⟨_, rfl, (fits_of_draft hd').length_rightParity⟩

/-! ## Frames cut out of a buffer -/

/-- A frame is cut out of a buffer, and parity bits are added if there are any. -/
def cutOut (buffer : List UInt8) (bits : Nat) : Option (List UInt8) → Making
  | none => .ofBuffer buffer bits
  | some parity => .withParity (.ofBuffer buffer bits) parity

/-- The frame stores what it is cut out with. -/
theorem draft_cutOut {buffer : List UInt8} {bits : Nat} {parity : Option (List UInt8)}
    (hbits : bits ≤ 8 * buffer.length) (hslots : ∀ p ∈ parity, bits / 8 ≤ p.length) :
    (cutOut buffer bits parity).draft = .ok ⟨buffer.take (bytesFor bits), bits, parity⟩ := by
  cases parity with
  | none => exact Draft.ofBuffer_of_le hbits
  | some p =>
    rw [cutOut, draft, draft, Draft.ofBuffer_of_le hbits]
    exact if_pos (hslots p rfl)

/-- **The drafts that can be made are those that fit.** -/
theorem exists_draft_iff (d : Draft) : (∃ m : Making, m.draft = .ok d) ↔ d.Fits := by
  refine ⟨fun ⟨m, hm⟩ => fits_of_draft hm, fun hd => ⟨cutOut d.bytes d.bits d.parity, ?_⟩⟩
  rw [draft_cutOut hd.bits_le_length hd.whole_le_parity, ← hd.length_bytes, List.take_length]

end Making

end TagEmulation
