import Mathlib.Tactic.SplitIfs
import TagEmulation.Command
import TagEmulation.Proofs.Frame.Bits

/-!
# Proofs/Codec/Command — a command is read from its own frame only

A command has one of three layouts, and for each the frames that pass every check are those that on
the air are the same as the frame written for the command: `decodeRequest_eq_ok_iff`,
`decodeAnticollision_eq_ok_iff` and `decodeSelect_eq_ok_iff`.  The layouts differ in length, so
`decode_eq_ok_iff` joins the three, and reading and writing are inverse (`decode_inverts_encode`).
-/

namespace TagEmulation.Command

variable {f : Frame} {c : Command} {uid : Uid}

/-! ## Layout by layout -/

/-- A request is read from its short frame, whatever the bit that the frame leaves open. -/
theorem decodeRequest_eq_ok_iff :
    decodeRequest f = .ok c ↔ (c = .reqa ∨ c = .wupa) ∧ f.SameBits c.encode := by
  constructor
  · intro h
    unfold decodeRequest at h
    split at h
    · cases h
    · next hbits =>
      rw [not_ne_iff] at hbits
      split at h
      · next b hbytes =>
        split_ifs at h with hreqa hwupa
        · cases h
          exact ⟨.inl rfl, Frame.sameBits_short_iff.mpr ⟨hbits, b, hbytes, hreqa⟩⟩
        · cases h
          exact ⟨.inr rfl, Frame.sameBits_short_iff.mpr ⟨hbits, b, hbytes, hwupa⟩⟩
      · cases h
  · rintro ⟨rfl | rfl, h⟩
    all_goals
      obtain ⟨hbits, b, hbytes, hcode⟩ := Frame.sameBits_short_iff.mp h
      simp only [decodeRequest, hbits, hbytes, hcode]
      rfl

theorem decodeAnticollision_eq_ok_iff :
    decodeAnticollision f = .ok () ↔ f.SameBits anticollision.encode := by
  rw [encode, Frame.sameBits_ofBytes_iff]
  constructor
  · intro h
    unfold decodeAnticollision at h
    split at h
    · cases h
    · next first second hreq hbytes =>
      simp only [ne_eq, ite_not] at h
      split_ifs at h with hfirst hsecond
      refine ⟨Frame.requireBits_eq_ok_iff.mp hreq, ?_⟩
      rw [hbytes, hfirst, hsecond]
    · cases h
  · rintro ⟨hbits : f.bits = anticollisionBits, hbytes⟩
    rw [decodeAnticollision, Frame.requireBits_of_eq hbits, hbytes]
    rfl

theorem sameBits_select_iff :
    f.SameBits (select uid).encode ↔ f.bits = selectBits ∧ f.bytes = selectBytes uid :=
  Frame.sameBits_ofBytes_iff

/-- **The checks leave one row of nine bytes for each UID**: together header, block check and CRC_A
fix every byte that the UID does not. -/
theorem decodeSelect_eq_ok_iff : decodeSelect f = .ok uid ↔ f.SameBits (select uid).encode := by
  rw [sameBits_select_iff]
  constructor
  · intro h
    unfold decodeSelect at h
    split at h
    · cases h
    · next first second a b c d check low high hreq hbytes =>
      simp only [ne_eq, ite_not] at h
      split_ifs at h with hfirst hsecond hcrc hcheck
      cases h
      refine ⟨Frame.requireBits_eq_ok_iff.mp hreq, ?_⟩
      -- the CRC_A is read as one register, but written as two bytes
      have hsent : [low, high] = crcBytes (crcA [first, second, a, b, c, d, check]) :=
        crcOfBytes_eq_iff.mp hcrc.symm
      subst hfirst hsecond hcheck
      rw [hbytes]
      exact congrArg ([levelOneCode, allUidBits] ++ Uid.checked ⟨a, b, c, d⟩ ++ ·) hsent
    · cases h
  · rintro ⟨hbits, hbytes⟩
    rw [decodeSelect, Frame.requireBits_of_eq hbits, hbytes]
    simp [selectBytes, withCrcA, crcBytes, Uid.checked, Uid.bytes]

/-! ## All layouts -/

theorem decode_of_request (h : f.bits = requestBits) : decode f = decodeRequest f := if_pos h

theorem decode_of_anticollision (h : f.bits = anticollisionBits) :
    decode f = (decodeAnticollision f).map fun () => .anticollision := by
  rw [decode, if_neg (by rw [h]; decide), if_pos h]

theorem decode_of_select (h : f.bits = selectBits) : decode f = (decodeSelect f).map .select := by
  rw [decode, if_neg (by rw [h]; decide), if_neg (by rw [h]; decide), if_pos h]

/-- No command has any other length. -/
theorem decode_of_other (hrequest : f.bits ≠ requestBits)
    (hanticollision : f.bits ≠ anticollisionBits) (hselect : f.bits ≠ selectBits) :
    decode f = .error (.badFrame (.noSuchCommand f.bits)) := by
  rw [decode, if_neg hrequest, if_neg hanticollision, if_neg hselect]

/-- **A frame is read as a command exactly if on the air it is the frame of that command.** -/
theorem decode_eq_ok_iff : decode f = .ok c ↔ f.SameBits c.encode := by
  constructor
  · intro h
    unfold decode at h
    split_ifs at h with hrequest hanticollision hselect
    · exact (decodeRequest_eq_ok_iff.mp h).2
    · obtain ⟨_, hread, rfl⟩ := map_eq_ok_iff.mp h
      exact decodeAnticollision_eq_ok_iff.mp hread
    · obtain ⟨uid, hread, rfl⟩ := map_eq_ok_iff.mp h
      exact decodeSelect_eq_ok_iff.mp hread
  · intro h
    cases c with
    | reqa => rw [decode_of_request h.1, decodeRequest_eq_ok_iff.mpr ⟨.inl rfl, h⟩]
    | wupa => rw [decode_of_request h.1, decodeRequest_eq_ok_iff.mpr ⟨.inr rfl, h⟩]
    | anticollision =>
      rw [decode_of_anticollision h.1, decodeAnticollision_eq_ok_iff.mpr h]
      rfl
    | select uid =>
      rw [decode_of_select h.1, decodeSelect_eq_ok_iff.mpr h]
      rfl

theorem decode_encode (c : Command) : decode c.encode = .ok c :=
  decode_eq_ok_iff.mpr (.refl _)

/-- **Reading a command is the inverse of writing it.**  A frame is read as a command exactly if it
has the bits written for it, parity bits or not; so what is written is read back, and a frame with
the bits of no command is turned down. -/
theorem decode_inverts_encode (f : Frame) :
    (∀ c, decode f = .ok c ↔ f.SameBits c.encode) ∧
    (∀ c, decode (encode c) = .ok c) ∧
    ((∃ fault, decode f = .error fault) ↔ ∀ c, ¬ f.SameBits (encode c)) :=
  ⟨fun _ => decode_eq_ok_iff, decode_encode,
    exists_eq_error_iff.trans (forall_congr' fun _ => not_congr decode_eq_ok_iff)⟩

/-- The bit that a short frame leaves open is not asked about. -/
example : ∃ f, Frame.ofBits [0xa6] 7 = .ok f ∧ f.SameBits reqa.encode ∧ f ≠ reqa.encode ∧
    decode f = .ok .reqa :=
  ⟨_, rfl, by decide, by decide, rfl⟩

end TagEmulation.Command
