import TagEmulation.Frame
import TagEmulation.Proofs.Text.Marks
import TagEmulation.Proofs.Text.Retyped

/-!
# Proofs/Text/ReadBack — a text of bits still tells its bytes

A text of bits is laid out for the eye: two blanks behind each whole byte, or a mark and a blank,
and nothing behind a partial byte.  A reader of hexadecimal text passes over the blanks, so all it
has against such a text are the marks.  Without them the text is the digits of its bytes, typed
again with blanks put in (`retyped_ofBits`, `retyped_ofBitsParity`), and so it is read back as those
bytes.  Hence frames with different bytes have different texts (`texts_tell_the_bytes`).
-/

namespace TagEmulation

namespace Text

/-- The text without its marks. -/
def withoutMarks (text : String) : String := String.ofList (text.toList.filter (· ≠ '!'))

/-! ## Whole bytes -/

theorem filter_marks_of_notMem {cs : List Char} (h : '!' ∉ cs) : cs.filter (· ≠ '!') = cs := by
  refine List.filter_eq_self.mpr fun c hc => ?_
  rw [decide_eq_true_eq]
  rintro rfl
  exact h hc

/-- Two blanks behind each byte. -/
theorem retyped_spaced (data : List UInt8) :
    Hex.Retyped (data.flatMap Hex.pair) (spaced data) := by
  induction data with
  | nil => exact .nil
  | cons b bs ih =>
    have hgap : ∀ c ∈ [' ', ' '], c ∈ Hex.blanks := by simp [Hex.blanks]
    exact ((Hex.Retyped.refl (Hex.pair b)).append_blanks hgap).append ih

/-- A mark and a blank behind a byte leave a blank, once the mark is taken out. -/
theorem retyped_marked (data parity : List UInt8) :
    Hex.Retyped (data.flatMap Hex.pair) ((marked data parity).filter (· ≠ '!')) := by
  induction data generalizing parity with
  | nil => exact .nil
  | cons b bs ih =>
    have hgap : ∀ c ∈ [if parity.head? = some (parityBit b) then ' ' else '!', ' '].filter
        (· ≠ '!'), c ∈ Hex.blanks := by
      split_ifs <;> simp [Hex.blanks]
    rw [marked, List.filter_append, List.filter_append,
      filter_marks_of_notMem (Hex.mark_notMem_pair b)]
    exact ((Hex.Retyped.refl (Hex.pair b)).append_blanks hgap).append (ih parity.tail)

/-! ## The partial byte -/

/-- The bytes that the bits touch: the whole ones, and the one that the bits end in. -/
theorem take_bytesFor (data : List UInt8) (bits : Nat) :
    data.take (bytesFor bits)
      = data.take (bits / 8) ++ if bits % 8 = 0 then [] else data[bits / 8]?.toList := by
  split_ifs with hwhole
  · have hcount : bytesFor bits = bits / 8 := by rw [bytesFor]; omega
    rw [hcount, List.append_nil]
  · have hcount : bytesFor bits = bits / 8 + 1 := by rw [bytesFor]; omega
    rw [hcount, List.take_add_one]

theorem residue_eq_flatMap (data : List UInt8) (bits : Nat) :
    residue data bits
      = (if bits % 8 = 0 then [] else data[bits / 8]?.toList).flatMap Hex.pair := by
  rw [residue]
  split_ifs
  · rfl
  · cases data[bits / 8]? with
    | none => rfl
    | some b => exact (List.append_nil _).symm

/-- The digits of the bytes that the bits touch. -/
theorem ofBytes_take_bytesFor (data : List UInt8) (bits : Nat) :
    (Hex.ofBytes (data.take (bytesFor bits))).toList
      = (data.take (bits / 8)).flatMap Hex.pair ++ residue data bits := by
  rw [Hex.ofBytes, String.toList_ofList, take_bytesFor, List.flatMap_append, residue_eq_flatMap]

/-! ## Read back -/

/-- **A text of bits is the digits of the bytes they touch, with blanks put in.** -/
theorem retyped_ofBits (data : List UInt8) (bits : Nat) :
    Hex.Retyped (Hex.ofBytes (data.take (bytesFor bits))).toList (ofBits data bits).toList := by
  rw [ofBytes_take_bytesFor, ofBits, String.toList_ofList]
  exact (retyped_spaced _).append (.refl _)

/-- **So is a text with marks, once they are taken out**, whatever the parity bits. -/
theorem retyped_ofBitsParity (data : List UInt8) (bits : Nat) (parity : List UInt8) :
    Hex.Retyped (Hex.ofBytes (data.take (bytesFor bits))).toList
      (withoutMarks (ofBitsParity data bits parity)).toList := by
  rw [ofBytes_take_bytesFor, withoutMarks, ofBitsParity, String.toList_ofList, String.toList_ofList,
    List.filter_append, filter_marks_of_notMem (mark_notMem_residue data bits)]
  exact (retyped_marked _ parity).append (.refl _)

theorem toBytes_ofBits (data : List UInt8) (bits : Nat) :
    Hex.toBytes (ofBits data bits) = .ok (data.take (bytesFor bits)) :=
  (Hex.retyped_iff_toBytes.mp (retyped_ofBits data bits)).1

theorem toBytes_ofBitsParity (data : List UInt8) (bits : Nat) (parity : List UInt8) :
    Hex.toBytes (withoutMarks (ofBitsParity data bits parity))
      = .ok (data.take (bytesFor bits)) :=
  (Hex.retyped_iff_toBytes.mp (retyped_ofBitsParity data bits parity)).1

/-- A text without parity bits has no marks to take out. -/
theorem withoutMarks_ofBits (data : List UInt8) (bits : Nat) :
    withoutMarks (ofBits data bits) = ofBits data bits := by
  have hnone : '!' ∉ (ofBits data bits).toList := by
    rw [← map_unmarked_ofBitsParity data bits [], List.mem_map]
    rintro ⟨c, -, hc⟩
    rw [unmarked] at hc
    split_ifs at hc with hmark
    · cases hc
    · exact hmark hc
  rw [withoutMarks, filter_marks_of_notMem hnone, String.ofList_toList]

end Text

/-- **A frame is read back from its text**, byte by byte, once the marks are taken out. -/
theorem Frame.toBytes_withoutMarks_text (f : Frame) :
    Hex.toBytes (Text.withoutMarks f.text) = .ok f.bytes := by
  have htouched : f.bytes.take (bytesFor f.bits) = f.bytes :=
    List.take_of_length_le (Nat.le_of_eq f.length_bytes)
  rw [text]
  cases f.parity with
  | some parity =>
    change Hex.toBytes (Text.withoutMarks (Text.ofBitsParity f.bytes f.bits parity)) = _
    rw [Text.toBytes_ofBitsParity, htouched]
  | none =>
    change Hex.toBytes (Text.withoutMarks (Text.ofBits f.bytes f.bits)) = _
    rw [Text.withoutMarks_ofBits, Text.toBytes_ofBits, htouched]

/-- **The text of some bits tells the bytes that they touch.**  Read as hexadecimal text it gives
those bytes, the last one whole even if the bits end inside it; and so does the text of a frame once
its marks are taken out, whatever parity bits the frame carries.  So no two frames with different
bytes have the same text, with their marks or without. -/
theorem texts_tell_the_bytes :
    (∀ (data : List UInt8) (bits : Nat), bits ≤ 8 * data.length →
      Hex.toBytes (Text.ofBits data bits) = .ok (data.take (bytesFor bits)) ∧
        (data.take (bytesFor bits)).length = bytesFor bits) ∧
    (∀ f : Frame, Hex.toBytes (Text.withoutMarks f.text) = .ok f.bytes) ∧
    ∀ f g : Frame, f.bytes ≠ g.bytes →
      f.text ≠ g.text ∧ Text.withoutMarks f.text ≠ Text.withoutMarks g.text := by
  have hframe := Frame.toBytes_withoutMarks_text
  refine ⟨fun data bits hbits => ⟨Text.toBytes_ofBits data bits, ?_⟩, hframe, fun f g hne => ?_⟩
  · have htouched : bytesFor bits ≤ data.length := by rw [bytesFor]; omega
    rw [List.length_take, Nat.min_eq_left htouched]
  · have hwithout : Text.withoutMarks f.text ≠ Text.withoutMarks g.text := fun h => by
      have hread := hframe f
      rw [h, hframe g, Except.ok.injEq] at hread
      exact hne hread.symm
    exact ⟨fun h => hwithout (congrArg Text.withoutMarks h), hwithout⟩

/-- Twenty bits, two of whose bytes are whole; and two frames of twelve bits, with a wrong parity
bit, that differ in what the last byte holds behind the bits. -/
theorem texts_tell_the_bytes_of_partial_bytes :
    let data : List UInt8 := [0x93, 0x20, 0xf1, 0x55]
    ∃ f g : Frame, (Frame.ofBits [0x93, 0x05] 12).bind (·.withParity [0]) = .ok f ∧
      (Frame.ofBits [0x93, 0xa5] 12).bind (·.withParity [0]) = .ok g ∧
      20 ≤ 8 * data.length ∧ Hex.toBytes (Text.ofBits data 20) = .ok [0x93, 0x20, 0xf1] ∧
      Hex.toBytes (Text.withoutMarks f.text) = .ok [0x93, 0x05] ∧ f.bytes ≠ g.bytes ∧
      f.text ≠ g.text := by
  intro data
  obtain ⟨hdata, hframe, hframes⟩ := texts_tell_the_bytes
  refine ⟨_, _, rfl, rfl, by decide, (hdata data 20 (by decide)).1, hframe _, ?_⟩
  have hne : ([0x93, 0x05] : List UInt8) ≠ [0x93, 0xa5] := by decide
  exact ⟨hne, (hframes _ _ hne).1⟩

end TagEmulation
