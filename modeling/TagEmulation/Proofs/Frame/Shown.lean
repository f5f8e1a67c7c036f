import TagEmulation.Proofs.Codec.Command
import TagEmulation.Proofs.Codec.OpenBits
import TagEmulation.Proofs.Frame.Text

/-!
# Proofs/Frame/Shown — where the bits that a frame leaves open do show

Behind the bits that a frame counts, its last byte holds others, and no reader looks at them
(Proofs/Codec/OpenBits).  Who compares two frames or writes them down does: of frames that are the
same on the air, equality and the text tell whether they hold the same there (`Frame.openBits`,
`open_bits_show_iff`).  So a command can be read from a frame that is not the frame of that command.
-/

namespace TagEmulation

namespace Frame

variable {f g : Frame}

/-- The bits behind the last one that is sent, as the number they are on their own. -/
def openBits (f : Frame) : Nat := (f.byte f.wholeBytes).toNat / 2 ^ f.residualBits

/-- What is sent and what is left open make up the byte the bits end in. -/
theorem toNat_byte_wholeBytes (f : Frame) :
    (f.byte f.wholeBytes).toNat = 2 ^ f.residualBits * f.openBits + f.sent f.wholeBytes := by
  have hrest : f.bits - 8 * f.wholeBytes = f.residualBits := by
    rw [wholeBytes, residualBits]; omega
  rw [openBits, sent, hrest, Nat.div_add_mod]

/-- Without a partial byte, nothing is left open. -/
theorem openBits_of_whole (h : f.residualBits = 0) : f.openBits = 0 := by
  have hlength : f.bytes.length ≤ f.wholeBytes := by
    rw [residualBits] at h
    rw [f.length_bytes, bytesFor, wholeBytes]
    omega
  rw [openBits, byte, List.getElem?_eq_none hlength]
  exact Nat.zero_div _

/-- A frame that is written for a command leaves nothing open. -/
theorem openBits_encode (c : Command) : c.encode.openBits = 0 := by
  cases c with
  | reqa => rfl
  | wupa => rfl
  | anticollision => exact openBits_of_whole (Nat.mul_mod_right ..)
  | select uid => exact openBits_of_whole (Nat.mul_mod_right ..)

namespace SameBits

theorem wholeBytes_eq (h : f.SameBits g) : f.wholeBytes = g.wholeBytes := by
  rw [wholeBytes, wholeBytes, h.1]

theorem residualBits_eq (h : f.SameBits g) : f.residualBits = g.residualBits := by
  rw [residualBits, residualBits, h.1]

/-- They hold the same whole bytes. -/
theorem byte_eq (h : f.SameBits g) {i : Nat} (hi : i < f.wholeBytes) : f.byte i = g.byte i := by
  rw [byte, byte, h.getElem?_eq hi]

/-- And the same in the byte the bits end in, as far as it is sent. -/
theorem byte_wholeBytes_eq_iff (h : f.SameBits g) :
    f.byte f.wholeBytes = g.byte g.wholeBytes ↔ f.openBits = g.openBits := by
  have hsent : f.sent f.wholeBytes = g.sent g.wholeBytes := by
    rw [← h.wholeBytes_eq, (sameBits_iff_sent.mp h).2]
  constructor
  · intro hbyte
    rw [openBits, openBits, hbyte, h.residualBits_eq]
  · intro hopen
    rw [← UInt8.toNat_inj, toNat_byte_wholeBytes, toNat_byte_wholeBytes, hopen, hsent,
      h.residualBits_eq]

/-- **What frames that are the same on the air store differs in the open bits, or not at all.** -/
theorem bytes_eq_iff (h : f.SameBits g) : f.bytes = g.bytes ↔ f.openBits = g.openBits := by
  rw [← h.byte_wholeBytes_eq_iff]
  constructor
  · intro hbytes
    rw [byte, byte, hbytes, h.wholeBytes_eq]
  · intro hlast
    have hlength : f.bytes.length = g.bytes.length := h.byteCount_eq
    refine List.ext_getElem hlength fun i hf hg => ?_
    rw [← byte_of_lt hf, ← byte_of_lt hg]
    rcases Nat.lt_or_ge i f.wholeBytes with hi | hi
    · exact h.byte_eq hi
    · have hi' : i = f.wholeBytes := by
        rw [f.length_bytes, bytesFor] at hf
        rw [wholeBytes] at hi ⊢
        omega
      rwa [hi', ← h.wholeBytes_eq] at *

/-- Their endings are the same if the bytes they end in are. -/
theorem ending_eq_iff (h : f.SameBits g) : f.ending = g.ending ↔ f.openBits = g.openBits := by
  rw [ending, ending, ← h.residualBits_eq]
  split_ifs with hresidual
  · have hresidual' : g.residualBits = 0 := h.residualBits_eq ▸ hresidual
    rw [openBits_of_whole hresidual, openBits_of_whole hresidual']
    exact iff_of_true rfl rfl
  · rw [Hex.pair_injective.eq_iff, h.byte_wholeBytes_eq_iff]

/-- **So does what they look like**, parity bits left out. -/
theorem ofBits_eq_iff (h : f.SameBits g) :
    Text.ofBits f.bytes f.bits = Text.ofBits g.bytes g.bits ↔ f.openBits = g.openBits := by
  have hwhole : (List.range f.wholeBytes).flatMap (fun i => Text.piece false (f.byte i))
      = (List.range g.wholeBytes).flatMap fun i => Text.piece false (g.byte i) := by
    rw [← h.wholeBytes_eq]
    exact List.flatMap_congr fun i hi => by rw [h.byte_eq (List.mem_range.mp hi)]
  rw [ofBits_eq_unmarked, ofBits_eq_unmarked, String.ofList_inj, hwhole, List.append_cancel_left_eq,
    h.ending_eq_iff]

/-- Frames without parity bits are equal if they also hold the same in the bits left open. -/
theorem eq_iff (h : f.SameBits g) (hf : f.parity = none) (hg : g.parity = none) :
    f = g ↔ f.openBits = g.openBits := by
  rw [← h.bytes_eq_iff]
  exact ⟨congrArg bytes, fun hbytes => ext_fields hbytes h.1 (hf.trans hg.symm)⟩

end SameBits

theorem text_of_plain (hf : f.parity = none) : f.text = Text.ofBits f.bytes f.bits := by
  rw [text, hf]

end Frame

theorem Command.parity_encode (c : Command) : c.encode.parity = none := by
  cases c <;> rfl

/-- **The bits that a frame leaves open show in a comparison and in a text.**  Of frames without
parity bits that are the same on the air, these tell whether both hold the same in the bits left
open.  So a frame that is read as a command is the frame of that command exactly if those bits
of it are zero. -/
theorem open_bits_show_iff (f g : Frame) (hf : f.parity = none) (hg : g.parity = none)
    (h : f.SameBits g) :
    (f = g ↔ f.openBits = g.openBits) ∧
    (f.text = g.text ↔ f.openBits = g.openBits) ∧
    (Text.ofBits f.bytes f.bits = Text.ofBits g.bytes g.bits ↔ f.openBits = g.openBits) ∧
    ∀ c, Command.decode f = .ok c → (f = c.encode ↔ f.openBits = 0) := by
  refine ⟨h.eq_iff hf hg, ?_, h.ofBits_eq_iff, fun c hc => ?_⟩
  · rw [Frame.text_of_plain hf, Frame.text_of_plain hg, h.ofBits_eq_iff]
  · have hcommand : f.SameBits c.encode := Command.decode_eq_ok_iff.mp hc
    rw [hcommand.eq_iff hf c.parity_encode, Frame.openBits_encode]

/-- Twelve bits with two fillings of the last four, and a wake-up with its eighth bit set. -/
theorem open_bits_show_of_twelve_bits :
    let f : Frame := ⟨[0x93, 0x27], 12, none, rfl, nofun⟩
    let g : Frame := ⟨[0x93, 0xf7], 12, none, rfl, nofun⟩
    let wakeUp : Frame := ⟨[0xd2], 7, none, rfl, nofun⟩
    f.SameBits g ∧ f.openBits = 2 ∧ g.openBits = 15 ∧ f ≠ g ∧ f.text ≠ g.text ∧
      Command.decode wakeUp = .ok .wupa ∧ wakeUp.openBits = 1 ∧ wakeUp ≠ Command.wupa.encode := by
  intro f g wakeUp
  have hsame : f.SameBits g := by decide
  have hopen : f.openBits ≠ g.openBits := by decide
  have hread : Command.decode wakeUp = .ok .wupa := rfl
  have hset : wakeUp.openBits = 1 := by decide
  obtain ⟨hequal, htext, -, -⟩ := open_bits_show_iff f g rfl rfl hsame
  obtain ⟨-, -, -, hcommands⟩ := open_bits_show_iff wakeUp wakeUp rfl rfl (.refl wakeUp)
  have hcommand := hcommands .wupa hread
  exact ⟨hsame, by decide, by decide, mt hequal.mp hopen, mt htext.mp hopen, hread, hset,
    mt hcommand.mp (by rw [hset]; decide)⟩

/-- A frame that is made of seven bits with the eighth one set is read as a request and is the same
on the air as the frame of the request, but it is not equal to that, and it is written otherwise. -/
theorem noisy_request_is_another_frame :
    let noisy : Frame := ⟨[0xa6], 7, none, rfl, nofun⟩
    let request := Command.reqa.encode
    Frame.ofBits [0xa6] 7 = .ok noisy ∧ noisy.SameBits request ∧
      noisy.parity = none ∧ request.parity = none ∧ Command.decode noisy = .ok .reqa ∧
      noisy ≠ request ∧ noisy.text = "a6" ∧ request.text = "26" := by
  decide +kernel

end TagEmulation
