import Mathlib.Order.Nat
import TagEmulation.Proofs.Frame.Bits
import TagEmulation.Proofs.Script.Play

/-!
# Proofs/Codec/OpenBits — what a frame leaves open is never read

The last byte of a frame may hold bits that the frame does not count.  Frames that are the same on
the air (`Frame.SameBits`) may differ in them, and still every reader makes the same of both, down
to the fault it reports.  Most readers take one length only, a whole number of bytes, and then there
are no such bits (`ReadsWhole.eq_of_sameBits`).  The others are a short frame, whose byte is masked
(`SameBits.decodeRequest_eq`), and the check of the parity bits, which stops at the last whole byte
(`SameBits.parityMismatches_eq`).
-/

namespace TagEmulation

variable {f g : Frame}

namespace Frame.SameBits

/-! ## Frames that are the same on the air -/

theorem byteCount_eq (h : f.SameBits g) : f.byteCount = g.byteCount := by
  rw [byteCount, byteCount, f.length_bytes, g.length_bytes, h.1]

/-- They have the same whole bytes. -/
theorem getElem?_eq (h : f.SameBits g) {i : Nat} (hi : i < f.wholeBytes) :
    f.bytes[i]? = g.bytes[i]? := by
  have hif : i < f.bytes.length := hi.trans_le f.wholeBytes_le_length
  have hig : i < g.bytes.length := by rwa [← byteCount, ← h.byteCount_eq]
  have hf : 8 * (i + 1) ≤ f.bits := by rw [wholeBytes] at hi; omega
  have hsent : f.sent i = g.sent i := (sameBits_iff_sent.mp h).2 i
  rw [sent_of_whole hf, sent_of_whole (h.1 ▸ hf), UInt8.toNat_inj, byte_of_lt hif,
    byte_of_lt hig] at hsent
  rw [List.getElem?_eq_getElem hif, List.getElem?_eq_getElem hig, hsent]

/-- Without a partial byte they have the same bytes throughout. -/
theorem bytes_eq (h : f.SameBits g) (hwhole : f.residualBits = 0) : f.bytes = g.bytes := by
  rw [residualBits, h.1] at hwhole
  exact ((sameBits_iff_of_whole hwhole).mp h).2

theorem requireBits_eq (h : f.SameBits g) (bits : Nat) :
    f.requireBits bits = g.requireBits bits := by
  rw [requireBits, requireBits, h.1, h.byteCount_eq]

/-! ## Parity -/

/-- The same parity bits are wrong for both. -/
theorem parityMismatches_eq (h : f.SameBits g) (parity : List UInt8) :
    parityMismatches f.bytes f.bits parity = parityMismatches g.bytes g.bits parity := by
  have hlength : f.bytes.length = g.bytes.length := h.byteCount_eq
  have hwrong : (List.range (f.bits / 8)).filter
        (fun i => f.bytes[i]?.map parityBit != parity[i]?)
      = (List.range (f.bits / 8)).filter fun i => g.bytes[i]?.map parityBit != parity[i]? :=
    List.filter_congr fun i hi => by rw [h.getElem?_eq (List.mem_range.mp hi)]
  rw [parityMismatches, parityMismatches, hwrong, hlength, h.1]

end Frame.SameBits

/-! ## Readers of whole bytes -/

/-- The reader takes frames of one length only, and reads nothing but their bytes. -/
structure ReadsWhole {α : Type} (bits : Nat) (read : Frame → Except Fault α) : Prop where
  turnsDown : ∀ {f fault}, f.requireBits bits = .error fault → read f = .error fault
  reads : ∀ {f g}, f.bytes = g.bytes → f.bits = g.bits → read f = read g

/-- **Where a length of whole bytes is required, nothing is left open.** -/
theorem ReadsWhole.eq_of_sameBits {α : Type} {bits : Nat} {read : Frame → Except Fault α}
    (hread : ReadsWhole bits read) (hwhole : bits % 8 = 0) (h : f.SameBits g) :
    read f = read g := by
  have hrequire := h.requireBits_eq bits
  cases hf : f.requireBits bits with
  | error fault => rw [hread.turnsDown hf, hread.turnsDown (hrequire.symm.trans hf)]
  | ok done =>
    have hbits : f.bits = bits := Frame.requireBits_eq_ok_iff.mp hf
    have hnone : f.residualBits = 0 := by rw [Frame.residualBits, hbits, hwhole]
    exact hread.reads (h.bytes_eq hnone) h.1

namespace Command

theorem readsWhole_decodeAnticollision : ReadsWhole anticollisionBits decodeAnticollision where
  turnsDown h := by rw [decodeAnticollision, h]
  reads hbytes hbits := by
    rw [decodeAnticollision, decodeAnticollision, Frame.requireBits_congr hbytes hbits, hbytes]

theorem readsWhole_decodeSelect : ReadsWhole selectBits decodeSelect where
  turnsDown h := by rw [decodeSelect, h]
  reads := decodeSelect_congr

end Command

namespace Response

theorem readsWhole_decodeAtqa : ReadsWhole atqaBits decodeAtqa where
  turnsDown h := by rw [decodeAtqa, h]
  reads hbytes hbits := by
    rw [decodeAtqa, decodeAtqa, Frame.requireBits_congr hbytes hbits, hbytes]

theorem readsWhole_decodeUid : ReadsWhole uidBits decodeUid where
  turnsDown h := by rw [decodeUid, h]
  reads hbytes hbits := by
    rw [decodeUid, decodeUid, Frame.requireBits_congr hbytes hbits, hbytes]

theorem readsWhole_decodeSak : ReadsWhole sakBits decodeSak where
  turnsDown h := by rw [decodeSak, h]
  reads hbytes hbits := by
    rw [decodeSak, decodeSak, Frame.requireBits_congr hbytes hbits, hbytes]

end Response

namespace Frame.SameBits

theorem decodeAnticollision_eq (h : f.SameBits g) :
    Command.decodeAnticollision f = Command.decodeAnticollision g :=
  Command.readsWhole_decodeAnticollision.eq_of_sameBits rfl h

theorem decodeSelect_eq (h : f.SameBits g) : Command.decodeSelect f = Command.decodeSelect g :=
  Command.readsWhole_decodeSelect.eq_of_sameBits rfl h

/-! ## Short frames, and all frames -/

/-- The bytes of two such short frames are equal once they are masked. -/
theorem decodeRequest_eq (h : f.SameBits g) :
    Command.decodeRequest f = Command.decodeRequest g := by
  by_cases hbits : f.bits = Command.requestBits
  · obtain ⟨b, hf⟩ := List.length_eq_one_iff.mp (f.length_bytes.trans (by rw [hbits]; rfl))
    have hgbits : g.bits = Command.requestBits := h.1 ▸ hbits
    obtain ⟨b', hg⟩ := List.length_eq_one_iff.mp (g.length_bytes.trans (by rw [hgbits]; rfl))
    have hmasked : b &&& 0x7f = b' &&& 0x7f := by
      rw [← UInt8.toNat_inj, ← sent_zero_of_short hbits hf, ← sent_zero_of_short hgbits hg]
      exact (sameBits_iff_sent.mp h).2 0
    simp only [Command.decodeRequest, hbits, hgbits, hf, hg, hmasked]
  · have hgbits : g.bits ≠ Command.requestBits := h.1 ▸ hbits
    rw [Command.decodeRequest, Command.decodeRequest, if_pos hbits, if_pos hgbits, h.1]

/-- **A reader of commands makes the same of both.** -/
theorem decode_eq (h : f.SameBits g) : Command.decode f = Command.decode g := by
  rw [Command.decode, Command.decode, h.decodeRequest_eq, h.decodeAnticollision_eq,
    h.decodeSelect_eq, h.1]

/-- **So does a reader of answers**, whatever it asked for. -/
theorem decodeResponse_eq (h : f.SameBits g) (c : Command) :
    Response.decode c f = Response.decode c g := by
  cases c with
  | reqa | wupa =>
    exact congrArg (Except.map _) (Response.readsWhole_decodeAtqa.eq_of_sameBits rfl h)
  | anticollision =>
    exact congrArg (Except.map _) (Response.readsWhole_decodeUid.eq_of_sameBits rfl h)
  | select uid =>
    exact congrArg (Except.map _) (Response.readsWhole_decodeSak.eq_of_sameBits rfl h)

/-- **And a tag gives both the same answer**, strict or not. -/
theorem answer_eq (h : f.SameBits g) (r : Responder) : r.answer f = r.answer g := by
  rw [Responder.answer, Responder.answer, Responder.isSelectedBy, Responder.isSelectedBy,
    h.decodeSelect_eq, h.1]

/-- If a strict tag turns one down, it turns down the other for the same fault. -/
theorem objection?_eq (h : f.SameBits g) (r : Responder) : r.objection? f = r.objection? g := by
  rw [Responder.objection?, Responder.objection?, h.decodeSelect_eq, h.1]

end Frame.SameBits

end TagEmulation
