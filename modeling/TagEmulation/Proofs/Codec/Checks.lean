import Mathlib.Tactic.SplitIfs
import TagEmulation.Proofs.Codec.Offsets
import TagEmulation.Proofs.Codec.Response

/-!
# Proofs/Codec/Checks — a reader of frames names the first check that fails

A reader of frames makes its checks one after the other, the length first, and reports the first
that fails (`FirstFails`).  On a corrupted frame several may fail, and then their order counts.
`Check` makes each of them a value with its verdict and its report, so that a reader is its list of
checks (`judge`).  That leaves the readers of bytes out, which could turn a frame down as well; but
a frame whose length was checked has all its bytes to read (`Frame.readable_of_bits`), and reading
it field by field comes to the same (`Command.anticollisionAtOffsets_eq`, `Response.atOffsets_eq`).
-/

namespace TagEmulation

variable {a : Arithmetic}

/-! ## Checks in order -/

/-- A check of a frame: whether the frame passes, and what is reported if it does not. -/
structure Check where
  passes : Bool
  fault : Fault

/-- The fault is that of the first check which fails. -/
def FirstFails (checks : List Check) (fault : Fault) : Prop :=
  ∃ passed failed rest, checks = passed ++ failed :: rest ∧ (∀ c ∈ passed, c.passes) ∧
    ¬ failed.passes ∧ failed.fault = fault

/-- The value if all checks pass, or else the fault of the first which fails. -/
def judge {α : Type} (value : α) : List Check → Except Fault α
  | [] => .ok value
  | c :: cs => if c.passes then judge value cs else .error c.fault

section Judging

variable {α : Type} {value : α} {checks : List Check} {c : Check} {fault : Fault}

theorem not_firstFails_nil : ¬ FirstFails [] fault := by
  rintro ⟨passed, failed, rest, h, -⟩
  exact List.append_ne_nil_of_right_ne_nil passed (List.cons_ne_nil failed rest) h.symm

theorem firstFails_cons_of_pass (h : c.passes) :
    FirstFails (c :: checks) fault ↔ FirstFails checks fault := by
  constructor
  · rintro ⟨_ | ⟨p, passed⟩, failed, rest, heq, hpassed, hfailed, hfault⟩
    · obtain ⟨rfl, rfl⟩ := List.cons.inj heq
      exact absurd h hfailed
    · obtain ⟨rfl, rfl⟩ := List.cons.inj heq
      exact ⟨passed, failed, rest, rfl, (List.forall_mem_cons.mp hpassed).2, hfailed, hfault⟩
  · rintro ⟨passed, failed, rest, rfl, hpassed, hfailed, hfault⟩
    exact ⟨c :: passed, failed, rest, rfl, List.forall_mem_cons.mpr ⟨h, hpassed⟩, hfailed, hfault⟩

theorem firstFails_cons_of_fail (h : ¬ c.passes) :
    FirstFails (c :: checks) fault ↔ c.fault = fault := by
  constructor
  · rintro ⟨_ | ⟨p, passed⟩, failed, rest, heq, hpassed, hfailed, hfault⟩
    · obtain ⟨rfl, rfl⟩ := List.cons.inj heq
      exact hfault
    · obtain ⟨rfl, rfl⟩ := List.cons.inj heq
      exact absurd (hpassed c List.mem_cons_self) h
  · intro hfault
    exact ⟨[], c, checks, rfl, nofun, h, hfault⟩

/-- **To judge is to report the first check which fails.** -/
theorem judge_eq_error_iff : judge value checks = .error fault ↔ FirstFails checks fault := by
  induction checks with
  | nil => exact iff_of_false nofun not_firstFails_nil
  | cons c checks ih =>
    rw [judge]
    split_ifs with h
    · exact ih.trans (firstFails_cons_of_pass h).symm
    · rw [firstFails_cons_of_fail h, Except.error.injEq]

end Judging

namespace Frame

/-! ## Checks of a frame -/

section Checks

variable (f : Frame)

/-- The frame has this number of bits; the report counts in bytes. -/
def hasBits (bits : Nat) : Check := ⟨f.bits == bits, .wrongLength (bits / 8) f.byteCount⟩

/-- The byte at `i` is this one. -/
def hasByte (i : Nat) (expected : UInt8) : Check :=
  ⟨f.byte i == expected, .wrongCommand expected (f.byte i)⟩

/-- The first `count` bytes are followed by their CRC_A, low byte first. -/
def hasCrc (count : Nat) : Check :=
  let made := crcA (f.bytes.take count)
  let carried := (f.byte count).toUInt16 ||| ((f.byte (count + 1)).toUInt16 <<< 8)
  ⟨made == carried, .wrongCrc made carried⟩

/-- The four bytes from `start` on are followed by their exclusive or. -/
def hasBlockCheck (start : Nat) : Check :=
  let made := f.byte start ^^^ f.byte (start + 1) ^^^ f.byte (start + 2) ^^^ f.byte (start + 3)
  let carried := f.byte (start + 4)
  ⟨made == carried, .wrongBlockCheck made carried⟩

end Checks

end Frame

/-! ## Readers that judge -/

section Judged

variable {α : Type} {f : Frame} {bits : Nat} {value : α} {checks : List Check}
  {result : Except Fault α}

/-- A reader that wants this number of bits checks that first. -/
theorem eq_judge_hasBits
    (hshort : ∀ fault, f.requireBits bits = .error fault → result = .error fault)
    (hfull : f.bits = bits → result = judge value checks) :
    result = judge value (f.hasBits bits :: checks) := by
  rw [judge, Frame.hasBits]
  split_ifs with hpasses
  · exact hfull (beq_iff_eq.mp hpasses)
  · exact hshort _ (if_neg fun hbits => hpasses (beq_iff_eq.mpr hbits))

/-- So does a reader that reads field by field. -/
theorem requireBits_bind_eq {next : Unit → Except Failure α}
    (hfull : f.bits = bits → next () = orFault (judge value checks)) :
    (orFault (f.requireBits bits) >>= next) = orFault (judge value (f.hasBits bits :: checks)) := by
  rw [judge, Frame.hasBits, Frame.requireBits]
  by_cases hbits : f.bits = bits
  · rw [if_pos hbits, if_pos (beq_iff_eq.mpr hbits)]
    exact hfull hbits
  · rw [if_neg hbits, if_neg fun hpasses => hbits (beq_iff_eq.mp hpasses)]
    rfl

theorem orFault_ite {p : Prop} [Decidable p] [Decidable (¬ p)] {fault : Fault} :
    orFault (if p then .ok value else .error fault)
      = if ¬ p then .error (.fault fault) else .ok value := by
  by_cases h : p
  · rw [if_pos h, if_neg (not_not_intro h)]
    rfl
  · rw [if_neg h, if_pos h]
    rfl

theorem map_judge {β : Type} (g : α → β) : (judge value checks).map g = judge (g value) checks := by
  induction checks with
  | nil => rfl
  | cons c checks ih =>
    rw [judge, judge]
    split_ifs
    · exact ih
    · rfl

/-- What a reader makes of a frame that must have this number of bits and pass these checks: it
names the first check which fails, it complains of a length for the number of bits only, and with
the right number of bits no byte is missing. -/
structure Judges (f : Frame) (bits : Nat) (checks : List Check) (result : Except Fault α) :
    Prop where
  error_iff : ∀ fault, result = .error fault ↔ FirstFails (f.hasBits bits :: checks) fault
  wrongLength_iff : ∀ expected actual, result = .error (.wrongLength expected actual)
    ↔ f.bits ≠ bits ∧ expected = bits / 8 ∧ actual = f.bytes.length
  readable : f.bits = bits → f.Readable (bits / 8)

/-- If no other check is for a length, a length is reported for the number of bits only. -/
theorem judges_of_eq_judge (h : result = judge value (f.hasBits bits :: checks))
    (hword : bits < UInt64.size)
    (hother : ∀ c ∈ checks, ∀ expected actual, c.fault ≠ .wrongLength expected actual) :
    Judges f bits checks result where
  error_iff fault := by rw [h, judge_eq_error_iff]
  wrongLength_iff expected actual := by
    rw [h, judge_eq_error_iff]
    by_cases hbits : f.bits = bits
    · refine iff_of_false ?_ fun hne => hne.1 hbits
      rw [firstFails_cons_of_pass (beq_iff_eq.mpr hbits)]
      rintro ⟨passed, failed, rest, rfl, -, -, hfault⟩
      exact hother failed (List.mem_append_right _ List.mem_cons_self) _ _ hfault
    · have hfails : ¬ (f.hasBits bits).passes := fun hpasses => hbits (beq_iff_eq.mp hpasses)
      rw [firstFails_cons_of_fail hfails, Frame.hasBits, Fault.wrongLength.injEq]
      exact ⟨fun h => ⟨hbits, h.1.symm, h.2.symm⟩, fun h => ⟨h.2.1.symm, h.2.2.symm⟩⟩
  readable hbits := Frame.readable_of_bits hbits hword

end Judged

namespace Command

/-- SELECT is judged by its length, its two header bytes, its CRC_A and its block check. -/
theorem decodeSelect_eq_judge (f : Frame) : decodeSelect f = judge (f.uidFrom 2)
    [f.hasBits selectBits, f.hasByte 0 levelOneCode, f.hasByte 1 allUidBits, f.hasCrc 7,
      f.hasBlockCheck 2] := by
  refine eq_judge_hasBits (fun fault h => by rw [decodeSelect, h]) fun hbits => ?_
  have hbytes : f.bytes = [f.byte 0, f.byte 1, f.byte 2, f.byte 3, f.byte 4, f.byte 5, f.byte 6,
    f.byte 7, f.byte 8] := Frame.bytes_of_bits hbits
  rw [decodeSelect, Frame.requireBits_of_eq hbits]
  simp only [judge, Frame.hasByte, Frame.hasCrc, Frame.hasBlockCheck, hbytes, Uid.check_eq,
    beq_iff_eq, ne_eq, ite_not]
  rfl

theorem decodeAnticollision_eq_judge (f : Frame) : decodeAnticollision f = judge ()
    [f.hasBits anticollisionBits, f.hasByte 0 levelOneCode, f.hasByte 1 noUidBits] := by
  refine eq_judge_hasBits (fun fault h => by rw [decodeAnticollision, h]) fun hbits => ?_
  have hbytes : f.bytes = [f.byte 0, f.byte 1] := Frame.bytes_of_bits hbits
  rw [decodeAnticollision, Frame.requireBits_of_eq hbits]
  simp only [judge, Frame.hasByte, hbytes, beq_iff_eq, ne_eq, ite_not]

/-- ANTICOLLISION, each field read at its offset. -/
def anticollisionAtOffsets (a : Arithmetic) (f : Frame) : Except Failure Unit := do
  orFault (f.requireBits anticollisionBits)
  a.requireByte f.bytes 0 levelOneCode
  a.requireByte f.bytes 1 noUidBits

theorem anticollisionAtOffsets_eq (f : Frame) :
    anticollisionAtOffsets a f = orFault (decodeAnticollision f) := by
  rw [decodeAnticollision_eq_judge]
  refine requireBits_bind_eq fun hbits => ?_
  have hread : f.Readable 2 := Frame.readable_of_bits hbits (by decide)
  have hfirst : a.byteAt f.bytes 0 = .ok (f.byte 0) := hread.byte 0 (by decide)
  have hsecond : a.byteAt f.bytes 1 = .ok (f.byte 1) := hread.byte 1 (by decide)
  rw [Arithmetic.requireByte_of_byteAt hfirst, Arithmetic.requireByte_of_byteAt hsecond]
  simp only [judge, Frame.hasByte, beq_iff_eq]
  split_ifs <;> rfl

end Command

namespace Response

/-- The number of bits of the answer that a command asks for. -/
def bitsAsked : Command → Nat
  | .reqa | .wupa => 16
  | .anticollision => 40
  | .select _ => 24

/-- What the answer is checked for that a command asks for, besides its number of bits. -/
def checksAsked (f : Frame) : Command → List Check
  | .reqa | .wupa => []
  | .anticollision => [f.hasBlockCheck 0]
  | .select _ => [f.hasCrc 1]

theorem decodeAtqa_eq_judge (f : Frame) :
    decodeAtqa f = judge ⟨f.byte 0, f.byte 1⟩ [f.hasBits atqaBits] := by
  refine eq_judge_hasBits (fun fault h => by rw [decodeAtqa, h]) fun hbits => ?_
  have hbytes : f.bytes = [f.byte 0, f.byte 1] := Frame.bytes_of_bits hbits
  rw [decodeAtqa, Frame.requireBits_of_eq hbits]
  simp only [judge, hbytes]

theorem decodeUid_eq_judge (f : Frame) :
    decodeUid f = judge (f.uidFrom 0) [f.hasBits uidBits, f.hasBlockCheck 0] := by
  refine eq_judge_hasBits (fun fault h => by rw [decodeUid, h]) fun hbits => ?_
  have hbytes : f.bytes = [f.byte 0, f.byte 1, f.byte 2, f.byte 3, f.byte 4] :=
    Frame.bytes_of_bits hbits
  rw [decodeUid, Frame.requireBits_of_eq hbits]
  simp only [judge, Frame.hasBlockCheck, hbytes, Uid.check_eq, beq_iff_eq, ne_eq, ite_not]
  rfl

theorem decodeSak_eq_judge (f : Frame) :
    decodeSak f = judge ⟨f.byte 0⟩ [f.hasBits sakBits, f.hasCrc 1] := by
  refine eq_judge_hasBits (fun fault h => by rw [decodeSak, h]) fun hbits => ?_
  have hbytes : f.bytes = [f.byte 0, f.byte 1, f.byte 2] := Frame.bytes_of_bits hbits
  rw [decodeSak, Frame.requireBits_of_eq hbits]
  simp only [judge, Frame.hasCrc, hbytes, beq_iff_eq, ne_eq, ite_not]
  rfl

/-- What a reader makes of an answer that passes. -/
def asRead (f : Frame) : Command → Response
  | .reqa | .wupa => .atqa ⟨f.byte 0, f.byte 1⟩
  | .anticollision => .uid (f.uidFrom 0)
  | .select _ => .sak ⟨f.byte 0⟩

/-- An answer is judged by its length, and then by the check it carries, if it carries one. -/
theorem decode_eq_judge (c : Command) (f : Frame) :
    decode c f = judge (asRead f c) (f.hasBits (bitsAsked c) :: checksAsked f c) := by
  cases c with
  | reqa | wupa =>
    change (decodeAtqa f).map Response.atqa = _
    rw [decodeAtqa_eq_judge, map_judge]
    rfl
  | anticollision =>
    change (decodeUid f).map Response.uid = _
    rw [decodeUid_eq_judge, map_judge]
    rfl
  | select uid =>
    change (decodeSak f).map Response.sak = _
    rw [decodeSak_eq_judge, map_judge]
    rfl

/-- The answer in a frame, each field read at its offset. -/
def atOffsets (a : Arithmetic) (f : Frame) : Command → Except Failure Response
  | .reqa | .wupa => do
    orFault (f.requireBits atqaBits)
    let first ← a.byteAt f.bytes 0
    let second ← a.byteAt f.bytes 1
    return .atqa ⟨first, second⟩
  | .anticollision => do
    orFault (f.requireBits uidBits)
    let uid ← a.uidAt f.bytes 0
    let check ← a.byteAt f.bytes 4
    if uid.check ≠ check then .error (.fault (.wrongBlockCheck uid.check check))
    else return .uid uid
  | .select _ => do
    orFault (f.requireBits sakBits)
    let value ← a.byteAt f.bytes 0
    let low ← a.byteAt f.bytes 1
    let high ← a.byteAt f.bytes 2
    if crcA [value] ≠ crcOfBytes low high then
      .error (.fault (.wrongCrc (crcA [value]) (crcOfBytes low high)))
    else return .sak ⟨value⟩

/-- **No reader turns an answer down that is long enough.** -/
theorem atOffsets_eq (c : Command) (f : Frame) : atOffsets a f c = orFault (decode c f) := by
  rw [decode_eq_judge]
  cases c with
  | reqa | wupa =>
    refine requireBits_bind_eq fun hbits => ?_
    have hread : f.Readable 2 := Frame.readable_of_bits hbits (by decide)
    have hfirst : a.byteAt f.bytes 0 = .ok (f.byte 0) := hread.byte 0 (by decide)
    have hsecond : a.byteAt f.bytes 1 = .ok (f.byte 1) := hread.byte 1 (by decide)
    rw [hfirst, hsecond]
    rfl
  | anticollision =>
    refine requireBits_bind_eq fun hbits => ?_
    have hread : f.Readable 5 := Frame.readable_of_bits hbits (by decide)
    have huid : a.uidAt f.bytes 0 = .ok (f.uidFrom 0) := hread.uid 0 (by decide)
    have hcheck : a.byteAt f.bytes 4 = .ok (f.byte 4) := hread.byte 4 (by decide)
    rw [huid, hcheck]
    simp only [checksAsked, judge, Frame.hasBlockCheck, Uid.check_eq, beq_iff_eq]
    exact orFault_ite.symm
  | select uid =>
    refine requireBits_bind_eq fun hbits => ?_
    have hread : f.Readable 3 := Frame.readable_of_bits hbits (by decide)
    have hvalue : a.byteAt f.bytes 0 = .ok (f.byte 0) := hread.byte 0 (by decide)
    have hlow : a.byteAt f.bytes 1 = .ok (f.byte 1) := hread.byte 1 (by decide)
    have hhigh : a.byteAt f.bytes 2 = .ok (f.byte 2) := hread.byte 2 (by decide)
    have hfront : f.bytes.take 1 = [f.byte 0] := by rw [Frame.bytes_of_bits hbits]; rfl
    rw [hvalue, hlow, hhigh]
    simp only [checksAsked, judge, Frame.hasCrc, hfront, beq_iff_eq]
    exact orFault_ite.symm

end Response

/-- **A reader of frames names the first check which fails.**  SELECT is checked for its length, its
two header bytes, its CRC_A and the exclusive or of its UID, in this order; ANTICOLLISION for its
length and its two bytes; and an answer for its length and the check it carries.  Each report holds
what was due and what the frame carries.  A length is reported for the number of bits only: once
that is right, every byte is there to be read, and a reader that goes field by field reports the
same, whether sums of offsets are checked or wrap around. -/
theorem decoders_name_the_first_failing_check (f : Frame) :
    Judges f 72
      [f.hasByte 0 0x93, f.hasByte 1 0x70, f.hasCrc 7,
        ⟨f.byte 2 ^^^ f.byte 3 ^^^ f.byte 4 ^^^ f.byte 5 == f.byte 6,
          .wrongBlockCheck (f.byte 2 ^^^ f.byte 3 ^^^ f.byte 4 ^^^ f.byte 5) (f.byte 6)⟩]
      (Command.decodeSelect f) ∧
    Judges f 16 [f.hasByte 0 0x93, f.hasByte 1 0x20] (Command.decodeAnticollision f) ∧
    (∀ c, Judges f (Response.bitsAsked c) (Response.checksAsked f c) (Response.decode c f)) ∧
    ∀ a : Arithmetic,
      Command.selectAtOffsets a f = orFault (Command.decodeSelect f) ∧
      Command.anticollisionAtOffsets a f = orFault (Command.decodeAnticollision f) ∧
      ∀ c, Response.atOffsets a f c = orFault (Response.decode c f) := by
  refine ⟨judges_of_eq_judge (Command.decodeSelect_eq_judge f) (by decide) ?_,
    judges_of_eq_judge (Command.decodeAnticollision_eq_judge f) (by decide) ?_, fun c => ?_,
    fun a => ⟨Command.selectAtOffsets_eq f, Command.anticollisionAtOffsets_eq f,
      fun c => Response.atOffsets_eq c f⟩⟩
  · simp [Frame.hasByte, Frame.hasCrc]
  · simp [Frame.hasByte]
  · refine judges_of_eq_judge (Response.decode_eq_judge c f) ?_ ?_
    · cases c <;> exact of_decide_eq_true rfl
    · cases c <;> simp [Response.checksAsked, Frame.hasCrc, Frame.hasBlockCheck]

/-- The UID 01020304 with five for its block check, in a SELECT whose CRC_A is right and in an
answer; and the same SELECT with another CRC_A, which is reported first. -/
theorem decoders_name_a_wrong_block_check :
    Command.decodeSelect (.ofBytes [0x93, 0x70, 1, 2, 3, 4, 5, 0x07, 0x34])
        = .error (.wrongBlockCheck (1 ^^^ 2 ^^^ 3 ^^^ 4) 5) ∧
      Response.decode .anticollision (.ofBytes [1, 2, 3, 4, 5])
        = .error (.wrongBlockCheck (1 ^^^ 2 ^^^ 3 ^^^ 4) 5) ∧
      Command.decodeSelect (.ofBytes [0x93, 0x70, 1, 2, 3, 4, 5, 6, 7])
        = .error (.wrongCrc 0x3407 0x0706) := by
  obtain ⟨hselect, -⟩ := decoders_name_the_first_failing_check
    (.ofBytes [0x93, 0x70, 1, 2, 3, 4, 5, 0x07, 0x34])
  obtain ⟨-, -, hanswer, -⟩ := decoders_name_the_first_failing_check (.ofBytes [1, 2, 3, 4, 5])
  obtain ⟨hcrc, -⟩ := decoders_name_the_first_failing_check
    (.ofBytes [0x93, 0x70, 1, 2, 3, 4, 5, 6, 7])
  refine ⟨(hselect.error_iff _).mpr ⟨[_, _, _, _], _, [], rfl, ?_, ?_, rfl⟩,
    ((hanswer .anticollision).error_iff _).mpr ⟨[_], _, [], rfl, ?_, ?_, rfl⟩,
    (hcrc.error_iff _).mpr ⟨[_, _, _], _, [_], rfl, ?_, ?_, rfl⟩⟩ <;> decide +kernel

end TagEmulation
