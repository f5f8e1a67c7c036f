import Mathlib.Order.Nat
import TagEmulation.Session.Rehearsal

/-!
# Proofs/Script/Arrival — a scripted frame passes the buffers unchanged

A scripted device lays a frame over the front of a staging buffer that still holds what came
before, and the session cuts the frame out again by its number of bits alone.  `hear_frame` says
that the two are inverse: what is heard (`Config.heard`) is a function of the frame, never of the
buffers.  `speak_eq` is the same fact for an answer on its way out (`Config.outgoing`).
-/

namespace TagEmulation

/-! ## Buffers -/

/-- As much of the source as fits is found at the front. -/
theorem Buffer.take_overwrite_of_le {n k : Nat} (b : Buffer n) {source : List UInt8} (hn : k ≤ n)
    (hk : k ≤ source.length) : (b.overwrite source).bytes.take k = source.take k := by
  have hfront : k ≤ (source.take n).length := by rw [List.length_take]; omega
  rw [overwrite, List.take_append_of_le_length hfront, List.take_take, Nat.min_eq_left hn]

namespace Frame

/-! ## Frames with other parity bits -/

theorem ext_fields {f g : Frame} (hbytes : f.bytes = g.bytes) (hbits : f.bits = g.bits)
    (hparity : f.parity = g.parity) : f = g := by
  cases f; cases g; cases hbytes; cases hbits; cases hparity; rfl

/-- The frame without parity bits. -/
def withoutParity (f : Frame) : Frame := { f with parity := none, whole_le_parity := by simp }

/-- The parity bits the whole bytes arrive with: those carried, right or wrong, or the right
ones. -/
def arrivingParity (f : Frame) : List UInt8 := (f.parity.getD f.rightParity).take f.wholeBytes

theorem length_arrivingParity (f : Frame) : f.arrivingParity.length = f.wholeBytes := by
  rw [arrivingParity, List.length_take, Nat.min_eq_left]
  cases hp : f.parity with
  | none => simp
  | some p => exact f.whole_le_parity p hp

/-- The frame with the parity bits it arrives with. -/
def arrived (f : Frame) : Frame :=
  { f with
    parity := some f.arrivingParity
    whole_le_parity := by rintro p ⟨⟩; exact f.length_arrivingParity.ge }

/-- The positions of the whole bytes that arrive with a wrong parity bit. -/
def wrongParity (f : Frame) : List Nat :=
  (List.range f.wholeBytes).filter fun i => f.bytes[i]?.map parityBit != f.arrivingParity[i]?

/-! ## Framing is the inverse of laying out -/

/-- A frame is cut out of any buffer that has its bytes at the front. -/
theorem ofBuffer_of_take (f : Frame) {buffer : List UInt8}
    (h : buffer.take f.bytes.length = f.bytes) :
    ofBuffer buffer f.bits = .ok f.withoutParity := by
  have hlen : bytesFor f.bits ≤ buffer.length := by
    have := congrArg List.length h
    rw [List.length_take, f.length_bytes] at this
    omega
  have hcut : buffer.take (bytesFor f.bits) = f.bytes := by rw [← f.length_bytes, h]
  rw [ofBuffer, if_pos hlen, hcut, ofBits, dif_pos f.bits_le_length]
  refine congrArg Except.ok (ext_fields ?_ rfl rfl)
  exact List.take_of_length_le f.length_bytes.le

theorem withParity_of_le {f : Frame} {parity : List UInt8} (h : f.wholeBytes ≤ parity.length) :
    f.withParity parity
      = .ok { f with parity := some parity, whole_le_parity := by rintro p ⟨⟩; exact h } :=
  dif_pos h

theorem withoutParity_withParity_arrivingParity (f : Frame) :
    f.withoutParity.withParity f.arrivingParity = .ok f.arrived :=
  withParity_of_le f.length_arrivingParity.ge

theorem withoutParity_withParity_rightParity (f : Frame) :
    f.withoutParity.withParity f.rightParity = .ok f.withRightParity :=
  withParity_of_le f.length_rightParity.ge

/-- The parity check on a frame that arrived lists its wrong positions; it is never misused. -/
theorem parityMismatches_arrived (f : Frame) :
    parityMismatches f.bytes f.bits f.arrivingParity = .ok f.wrongParity := by
  have hbits : ¬ 8 * f.bytes.length < f.bits := not_lt.mpr f.bits_le_length
  have hslots : ¬ f.arrivingParity.length < f.bits / 8 := not_lt.mpr f.length_arrivingParity.ge
  rw [parityMismatches, if_neg hbits, if_neg hslots]
  rfl

end Frame

/-! ## What is heard and what goes out -/

/-- What a session with these options makes of a frame. -/
def Config.heard (c : Config) (f : Frame) : Heard :=
  if c.hardwareParity then ⟨f.withoutParity, none⟩ else ⟨f.arrived, some f.wrongParity⟩

@[simp] theorem Config.heard_bytes (c : Config) (f : Frame) :
    (c.heard f).frame.bytes = f.bytes := by
  unfold heard; split <;> rfl

@[simp] theorem Config.heard_bits (c : Config) (f : Frame) : (c.heard f).frame.bits = f.bits := by
  unfold heard; split <;> rfl

/-- An answer as the device keeps it: the same bytes and bits, and parity bits only if the session
is in charge of them. -/
def Config.outgoing (c : Config) (reply : Frame) : Frame :=
  if c.hardwareParity then reply.withoutParity else reply.withRightParity

@[simp] theorem Config.outgoing_bytes (c : Config) (reply : Frame) :
    (c.outgoing reply).bytes = reply.bytes := by
  unfold outgoing; split <;> rfl

@[simp] theorem Config.outgoing_bits (c : Config) (reply : Frame) :
    (c.outgoing reply).bits = reply.bits := by
  unfold outgoing; split <;> rfl

/-! ## Hearing -/

/-- A frame cut out of a buffer is heard as it is. -/
theorem heardPlain_of_take (f : Frame) {data : List UInt8}
    (h : data.take f.bytes.length = f.bytes) :
    heardPlain data f.bits = .ok ⟨f.withoutParity, none⟩ := by
  rw [heardPlain, f.ofBuffer_of_take h]
  rfl

/-- So is a frame cut out of a buffer beside its parity bits. -/
theorem heardWithParity_of_take (f : Frame) {data parity : List UInt8}
    (h : data.take f.bytes.length = f.bytes) (hp : parity.take f.wholeBytes = f.arrivingParity) :
    heardWithParity data parity f.bits = .ok ⟨f.arrived, some f.wrongParity⟩ := by
  have hframe : (Frame.ofBuffer data f.bits).bind (·.withParity f.arrivingParity)
      = .ok f.arrived := by
    rw [f.ofBuffer_of_take h]
    exact f.withoutParity_withParity_arrivingParity
  have hcheck : parityMismatches f.arrived.bytes f.bits f.arrivingParity = .ok f.wrongParity :=
    f.parityMismatches_arrived
  change parity.take (f.bits / 8) = f.arrivingParity at hp
  rw [heardWithParity, hp, hframe]
  change (orBreach (parityMismatches f.arrived.bytes f.bits f.arrivingParity)).map _ = _
  rw [hcheck]
  rfl

namespace Script

variable (name : String) (c : Config) {s : Script} {rest : List Cue} {f : Frame}

/-- The parity bits a fitting frame leaves in the slots are those it arrives with. -/
theorem parityOf_eq {n m : Nat} (f : Frame) (rx : Buffer n) (slots : Buffer m)
    (hrx : rx.bytes.take f.bytes.length = f.bytes) (hm : f.byteCount ≤ m) :
    ∃ filled, parityOf f rx slots = .ok filled ∧
      filled.bytes.take f.wholeBytes = f.arrivingParity := by
  have hwhole : f.wholeBytes ≤ m := f.wholeBytes_le_length.trans hm
  cases hp : f.parity with
  | some p =>
    have hlen : f.wholeBytes ≤ p.length := f.whole_le_parity p hp
    refine ⟨slots.overwrite p, by simp only [parityOf, hp], ?_⟩
    rw [Buffer.take_overwrite_of_le _ hwhole hlen, Frame.arrivingParity, hp, Option.getD_some]
  | none =>
    have hdata : rx.bytes.take (f.bits / 8) = f.bytes.take f.wholeBytes := by
      rw [← hrx, List.take_take, Nat.min_eq_left f.wholeBytes_le_length]; rfl
    have hroom : (f.bytes.take f.wholeBytes).length ≤ m := by
      rw [List.length_take]; omega
    refine ⟨slots.overwrite f.rightParity, ?_, ?_⟩
    · simp only [parityOf, hp, hdata, Buffer.fillParity, if_pos hroom]; rfl
    · rw [Buffer.take_overwrite_of_le _ hwhole f.length_rightParity.ge, Frame.arrivingParity, hp,
        Option.getD_none]

theorem next_dry (hin : s.inbound = []) :
    s.next = (.error (if s.disconnectsWhenDry then .disconnected else .timeout),
      { s with stopRaised := s.stopRaised || s.stopsWhenDry }) := by
  simp only [next, hin]

theorem next_silence (hin : s.inbound = .silence :: rest) :
    s.next = (.error .timeout, { s with inbound := rest }) := by
  simp only [next, hin]

theorem next_frame (hin : s.inbound = .frame f :: rest) :
    s.next = (.ok f, { s with inbound := rest }) := by
  simp only [next, hin]

/-- **A fitting frame is heard whatever the buffers hold.** -/
theorem hear_frame (hin : s.inbound = .frame f :: rest) (hfit : f.byteCount ≤ stagingSize)
    (staging : Staging) :
    ∃ staging', hear (transport name) c staging s
      = ⟨.ok (c.heard f), staging', { s with inbound := rest }⟩ := by
  have hnext := next_frame hin
  have hdeliver : deliver f staging.data = .ok (staging.data.overwrite f.bytes) := if_pos hfit
  have htake : (staging.data.overwrite f.bytes).bytes.take f.bytes.length = f.bytes :=
    staging.data.take_overwrite hfit
  cases hc : c.hardwareParity with
  | true =>
    refine ⟨{ staging with data := staging.data.overwrite f.bytes }, ?_⟩
    simp only [hear, hc, if_true, transport, receive, hnext, hdeliver, Config.heard]
    exact congrArg (Hearing.mk · _ _) (heardPlain_of_take f htake)
  | false =>
    obtain ⟨filled, hfilled, hslots⟩ := parityOf_eq f _ staging.parity htake hfit
    refine ⟨⟨staging.data.overwrite f.bytes, filled⟩, ?_⟩
    simp only [hear, hc, Bool.false_eq_true, if_false, transport, receiveWithParity, hnext,
      hdeliver, hfilled, Config.heard]
    exact congrArg (Hearing.mk · _ _) (heardWithParity_of_take f htake hslots)

/-- A frame that does not fit is gone, and nothing else has changed. -/
theorem hear_oversized (hin : s.inbound = .frame f :: rest) (hbig : stagingSize < f.byteCount)
    (staging : Staging) :
    hear (transport name) c staging s
      = ⟨.error (.fault (.badFrame (.exceedsBuffer f.byteCount stagingSize))), staging,
          { s with inbound := rest }⟩ := by
  have hnext := next_frame hin
  have hdeliver : deliver f staging.data
      = .error (.badFrame (.exceedsBuffer f.byteCount stagingSize)) := if_neg (not_le.mpr hbig)
  cases hc : c.hardwareParity <;>
    simp only [hear, hc, Bool.false_eq_true, if_true, if_false, transport, receive,
      receiveWithParity, hnext, hdeliver] <;> rfl

/-- When the next cue is no frame, the fault is reported and the buffers stay as they are. -/
theorem hear_fault {fault : Fault} {s' : Script} (hnext : s.next = (.error fault, s'))
    (staging : Staging) :
    hear (transport name) c staging s = ⟨.error (.fault fault), staging, s'⟩ := by
  cases hc : c.hardwareParity <;>
    simp only [hear, hc, Bool.false_eq_true, if_true, if_false, transport, receive,
      receiveWithParity, hnext] <;> rfl

/-! ## Speaking -/

/-- **An answer is recorded as it goes out.** -/
theorem speak_eq (reply : Frame) :
    speak (transport name) c reply s = s.record (c.outgoing reply) := by
  have hframe : Frame.ofBuffer reply.bytes reply.bits = .ok reply.withoutParity :=
    reply.ofBuffer_of_take (List.take_length ..)
  cases hc : c.hardwareParity with
  | true =>
    simp only [speak, hc, if_true, transport, transmit, hframe, recordIf, Config.outgoing]
  | false =>
    have hparity : (Except.ok reply.withoutParity : Except Fault Frame).bind
        (·.withParity reply.rightParity) = .ok reply.withRightParity :=
      reply.withoutParity_withParity_rightParity
    simp only [speak, hc, Bool.false_eq_true, if_false, transport, transmitWithParity, hframe,
      hparity, recordIf, Config.outgoing]

end Script

end TagEmulation
