import Mathlib.Tactic.SplitIfs
import TagEmulation.Proofs.Codec.Command
import TagEmulation.Response

/-!
# Proofs/Codec/Response — an answer is read from its own frame only

A reader reads a frame in the light of the command it sent.  `Command.Asks` says which answers that
command asks for; `decode_eq_ok_iff` says that such an answer is read from the bytes written for it,
and nothing else is.  An answer that was not asked for has the wrong length (`Asks.of_bits_eq`).
-/

namespace TagEmulation

/-- The command asks for an answer of this kind. -/
inductive Command.Asks : Command → Response → Prop
  | reqa (atqa : Atqa) : Asks .reqa (.atqa atqa)
  | wupa (atqa : Atqa) : Asks .wupa (.atqa atqa)
  | anticollision (uid : Uid) : Asks .anticollision (.uid uid)
  | select (uid : Uid) (sak : Sak) : Asks (.select uid) (.sak sak)

/-- Which answer is asked for shows in its length. -/
theorem Command.Asks.of_bits_eq {c : Command} {r r' : Response} (h : c.Asks r')
    (hbits : r.bits = r'.bits) : c.Asks r := by
  cases h with
  | reqa =>
    cases r with
    | atqa atqa => exact .reqa atqa
    | uid | sak => cases hbits
  | wupa =>
    cases r with
    | atqa atqa => exact .wupa atqa
    | uid | sak => cases hbits
  | anticollision =>
    cases r with
    | uid uid => exact .anticollision uid
    | atqa | sak => cases hbits
  | select uid =>
    cases r with
    | sak sak => exact .select uid sak
    | atqa | uid => cases hbits

namespace Response

variable {f : Frame} {c : Command} {r : Response}

/-! ## Kind by kind -/

theorem decodeAtqa_eq_ok_iff {atqa : Atqa} :
    decodeAtqa f = .ok atqa ↔ f.bits = atqaBits ∧ f.bytes = atqa.bytes := by
  constructor
  · intro h
    unfold decodeAtqa at h
    split at h
    · cases h
    · next first second hreq hbytes =>
      cases h
      exact ⟨Frame.requireBits_eq_ok_iff.mp hreq, hbytes⟩
    · cases h
  · rintro ⟨hbits, hbytes⟩
    rw [decodeAtqa, Frame.requireBits_of_eq hbits, hbytes]
    rfl

theorem decodeUid_eq_ok_iff {uid : Uid} :
    decodeUid f = .ok uid ↔ f.bits = uidBits ∧ f.bytes = uid.checked := by
  constructor
  · intro h
    unfold decodeUid at h
    split at h
    · cases h
    · next a b c d check hreq hbytes =>
      simp only [ne_eq, ite_not] at h
      split_ifs at h with hcheck
      cases h
      refine ⟨Frame.requireBits_eq_ok_iff.mp hreq, ?_⟩
      rw [hbytes, ← hcheck]
      rfl
    · cases h
  · rintro ⟨hbits, hbytes⟩
    rw [decodeUid, Frame.requireBits_of_eq hbits, hbytes]
    simp [Uid.checked, Uid.bytes]

theorem decodeSak_eq_ok_iff {sak : Sak} :
    decodeSak f = .ok sak ↔ f.bits = sakBits ∧ f.bytes = sak.checked := by
  constructor
  · intro h
    unfold decodeSak at h
    split at h
    · cases h
    · next value low high hreq hbytes =>
      simp only [ne_eq, ite_not] at h
      split_ifs at h with hcrc
      cases h
      refine ⟨Frame.requireBits_eq_ok_iff.mp hreq, ?_⟩
      rw [hbytes]
      exact congrArg (value :: ·) (crcOfBytes_eq_iff.mp hcrc.symm)
    · cases h
  · rintro ⟨hbits, hbytes⟩
    rw [decodeSak, Frame.requireBits_of_eq hbits, hbytes]
    simp [Sak.checked, withCrcA, crcBytes]

/-! ## All kinds -/

/-- **An answer is read exactly from the bytes written for it**, by a reader that asked for it. -/
theorem decode_eq_ok_iff :
    decode c f = .ok r ↔ c.Asks r ∧ f.bits = r.encode.bits ∧ f.bytes = r.encode.bytes := by
  constructor
  · intro h
    cases c with
    | reqa =>
      obtain ⟨atqa, hread, rfl⟩ := map_eq_ok_iff.mp h
      exact ⟨.reqa atqa, decodeAtqa_eq_ok_iff.mp hread⟩
    | wupa =>
      obtain ⟨atqa, hread, rfl⟩ := map_eq_ok_iff.mp h
      exact ⟨.wupa atqa, decodeAtqa_eq_ok_iff.mp hread⟩
    | anticollision =>
      obtain ⟨uid, hread, rfl⟩ := map_eq_ok_iff.mp h
      exact ⟨.anticollision uid, decodeUid_eq_ok_iff.mp hread⟩
    | select uid =>
      obtain ⟨sak, hread, rfl⟩ := map_eq_ok_iff.mp h
      exact ⟨.select uid sak, decodeSak_eq_ok_iff.mp hread⟩
  · rintro ⟨hasks, hf⟩
    cases hasks with
    | reqa atqa => exact map_eq_ok_iff.mpr ⟨atqa, decodeAtqa_eq_ok_iff.mpr hf, rfl⟩
    | wupa atqa => exact map_eq_ok_iff.mpr ⟨atqa, decodeAtqa_eq_ok_iff.mpr hf, rfl⟩
    | anticollision uid => exact map_eq_ok_iff.mpr ⟨uid, decodeUid_eq_ok_iff.mpr hf, rfl⟩
    | select uid sak => exact map_eq_ok_iff.mpr ⟨sak, decodeSak_eq_ok_iff.mpr hf, rfl⟩

theorem decode_encode_of_asks (h : c.Asks r) : decode c r.encode = .ok r :=
  decode_eq_ok_iff.mpr ⟨h, rfl, rfl⟩

/-- What was not asked for is turned down, for it has another length. -/
theorem decode_encode_of_not_asks (h : ¬ c.Asks r) :
    ∃ fault, decode c r.encode = .error fault := by
  refine exists_eq_error_iff.mpr fun r' hread => h ?_
  obtain ⟨hasks, hbits, -⟩ := decode_eq_ok_iff.mp hread
  rw [bits_encode, bits_encode] at hbits
  exact hasks.of_bits_eq hbits

/-- **Reading an answer is the inverse of writing it**, in the light of the command it answers: an
answer is read exactly if it was asked for and the frame has the bytes and bits written for it.  So
an answer is read back by the readers that asked for it, and turned down by all others. -/
theorem decode_inverts_encode_of_asks (c : Command) :
    (∀ f r, decode c f = .ok r
      ↔ c.Asks r ∧ f.bits = r.encode.bits ∧ f.bytes = r.encode.bytes) ∧
    (∀ r, c.Asks r → decode c r.encode = .ok r) ∧
    ∀ r, ¬ c.Asks r → ∃ fault, decode c r.encode = .error fault :=
  ⟨fun _ _ => decode_eq_ok_iff, fun _ => decode_encode_of_asks, fun _ => decode_encode_of_not_asks⟩

end Response

end TagEmulation
