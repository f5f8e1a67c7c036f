import TagEmulation.Proofs.Frame.Making
import TagEmulation.Proofs.Script.Opening
import TagEmulation.Proofs.Script.Play
import TagEmulation.Proofs.Session.Tap

/-!
# Proofs/Script/Acts — all that can come of one call of a scripted device

An `Act` is a call of a scripted device, whoever makes it: a session, or a test that writes the
script and looks into what was sent.  `Script.Does` lists what can come of each, with the guards
under which it does: what the call returns, what it leaves in the buffers, and each change to the
script.  Nothing else can happen (`Script.does_perform`).  Of a receive, the script shows no more
than that its next cue is gone or that it has run dry (`Receives.eq_advance`).
-/

namespace TagEmulation

/-! ## Calls -/

/-- A call of a scripted device. -/
inductive Act where
  /-- Put a cue at the end of the script. -/
  | push (cue : Cue)
  /-- Receive a frame. -/
  | receive {n : Nat} (rx : Buffer n) (limit : Option UInt64)
  /-- Receive a frame with its parity bits. -/
  | receiveWithParity {n m : Nat} (rx : Buffer n) (slots : Buffer m) (limit : Option UInt64)
  /-- Become a target, and receive the first command. -/
  | becomeTarget (identity : Identity) {n : Nat} (rx : Buffer n) (limit : Option UInt64)
  /-- Send the first bits of some bytes. -/
  | transmit (tx : List UInt8) (bits : Nat)
  /-- Send the first bits of some bytes with parity bits. -/
  | transmitWithParity (tx : List UInt8) (bits : Nat) (parity : List UInt8)
  /-- Switch an option. -/
  | configure (option : DeviceOption) (value : Bool)
  /-- Make so many of the next sends fail. -/
  | failSends (count : Nat)
  /-- Take back the frame sent last. -/
  | popSent

/-- What a call returns; of a receive, with the buffers it leaves. -/
inductive Reply where
  /-- Nothing is returned. -/
  | nothing
  /-- The outcome of a receive, the buffer, and the slots for parity bits if there are any. -/
  | received (outcome : Except Failure Nat) (rx : List UInt8) (slots : Option (List UInt8))
  /-- The outcome of an order. -/
  | acknowledged (outcome : Except Failure Unit)
  /-- The frame taken back, if there was one. -/
  | popped (frame? : Option Frame)

/-- The bytes of a buffer with a source laid over their front, as far as it fits. -/
def laidOver (source buffer : List UInt8) : List UInt8 :=
  source.take buffer.length ++ buffer.drop source.length

theorem Buffer.bytes_overwrite {n : Nat} (b : Buffer n) (source : List UInt8) :
    (b.overwrite source).bytes = laidOver source b.bytes := by
  rw [overwrite, laidOver, b.length_bytes]

namespace Script

/-- What a call returns, and the script it leaves. -/
def perform (name : String) (s : Script) : Act → Reply × Script
  | .push cue => (.nothing, s.push cue)
  | .receive rx limit =>
    let r := (transport name).receive rx limit s
    (.received r.outcome r.rx.bytes none, r.device)
  | .receiveWithParity rx slots limit =>
    let r := (transport name).receiveWithParity rx slots limit s
    (.received r.outcome r.rx.bytes (some r.parity.bytes), r.device)
  | .becomeTarget identity rx limit =>
    let r := (transport name).becomeTarget identity rx limit s
    (.received r.outcome r.rx.bytes none, r.device)
  | .transmit tx bits =>
    let r := (transport name).transmit tx bits s
    (.acknowledged r.outcome, r.device)
  | .transmitWithParity tx bits parity =>
    let r := (transport name).transmitWithParity tx bits parity s
    (.acknowledged r.outcome, r.device)
  | .configure option value =>
    let r := (transport name).configure option value s
    (.acknowledged r.outcome, r.device)
  | .failSends count => (.nothing, { s with failuresLeft := count })
  | .popSent => (.popped s.popSent.1, s.popSent.2)

/-! ## What can come of a call -/

/-- What can come of a receive into `rx`, with slots for parity bits or without. -/
inductive Receives (s : Script) (rx : List UInt8) (slots : Option (List UInt8)) :
    Reply → Script → Prop
  /-- The script has run dry. -/
  | dry (hin : s.inbound = []) :
      Receives s rx slots
        (.received (.error (.fault (if s.disconnectsWhenDry then .disconnected else .timeout)))
          rx slots)
        { s with stopRaised := s.stopRaised || s.stopsWhenDry }
  /-- No frame comes in time. -/
  | silence {rest : List Cue} (hin : s.inbound = .silence :: rest) :
      Receives s rx slots (.received (.error (.fault .timeout)) rx slots)
        { s with inbound := rest }
  /-- There is no room for the frame. -/
  | oversized {f : Frame} {rest : List Cue} (hin : s.inbound = .frame f :: rest)
      (hbig : rx.length < f.byteCount) :
      Receives s rx slots
        (.received (.error (.fault (.badFrame (.exceedsBuffer f.byteCount rx.length)))) rx slots)
        { s with inbound := rest }
  /-- The right parity bits would be filled in, but there are too few slots. -/
  | misused {f : Frame} {rest : List Cue} {p : List UInt8} (hin : s.inbound = .frame f :: rest)
      (hfit : f.byteCount ≤ rx.length) (hplain : f.parity = none) (hslots : slots = some p)
      (hfew : p.length < f.wholeBytes) :
      Receives s rx slots
        (.received (.error (.breach (.parityTooShort p.length f.wholeBytes)))
          (f.bytes ++ rx.drop f.byteCount) slots)
        { s with inbound := rest }
  /-- The frame is received; its parity bits are those it carries, or else the right ones. -/
  | arrived {f : Frame} {rest : List Cue} (hin : s.inbound = .frame f :: rest)
      (hfit : f.byteCount ≤ rx.length)
      (hslots : ∀ p ∈ slots, f.parity = none → f.wholeBytes ≤ p.length) :
      Receives s rx slots
        (.received (.ok f.bits) (f.bytes ++ rx.drop f.byteCount)
          (slots.map (laidOver (f.parity.getD f.rightParity))))
        { s with inbound := rest }

/-- What can come of sending the first bits of some bytes, with parity bits or without. -/
inductive Sends (s : Script) (tx : List UInt8) (bits : Nat) (parity : Option (List UInt8)) :
    Except Failure Unit → Script → Prop
  /-- There are not that many bits. -/
  | tooManyBits (hbits : 8 * tx.length < bits) :
      Sends s tx bits parity (.error (.fault (.tooManyBits bits tx.length))) s
  /-- There is not a parity bit for every whole byte. -/
  | wrongLength {p : List UInt8} (hbits : bits ≤ 8 * tx.length) (hparity : parity = some p)
      (hfew : p.length < bits / 8) :
      Sends s tx bits parity (.error (.fault (.wrongLength (bits / 8) p.length))) s
  /-- The frame is well formed, but this send is to fail. -/
  | lost (hbits : bits ≤ 8 * tx.length) (hslots : ∀ p ∈ parity, bits / 8 ≤ p.length)
      (hleft : 0 < s.failuresLeft) :
      Sends s tx bits parity (.error (.fault sendFault))
        { s with failuresLeft := s.failuresLeft - 1 }
  /-- The frame is well formed, and it is kept. -/
  | kept {f : Frame} (hbits : bits ≤ 8 * tx.length) (hslots : ∀ p ∈ parity, bits / 8 ≤ p.length)
      (hleft : s.failuresLeft = 0) (hf : f.draft = ⟨tx.take (bytesFor bits), bits, parity⟩) :
      Sends s tx bits parity (.ok ()) { s with sent := s.sent ++ [f] }

/-- What can come of a call: what it returns, and the script it leaves. -/
inductive Does (s : Script) : Act → Reply → Script → Prop
  | push (cue : Cue) : Does s (.push cue) .nothing { s with inbound := s.inbound ++ [cue] }
  | receive {n : Nat} {rx : Buffer n} {limit : Option UInt64} {reply : Reply} {s' : Script}
      (h : Receives s rx.bytes none reply s') : Does s (.receive rx limit) reply s'
  | receiveWithParity {n m : Nat} {rx : Buffer n} {slots : Buffer m} {limit : Option UInt64}
      {reply : Reply} {s' : Script} (h : Receives s rx.bytes (some slots.bytes) reply s') :
      Does s (.receiveWithParity rx slots limit) reply s'
  | becomeTarget {identity : Identity} {n : Nat} {rx : Buffer n} {limit : Option UInt64}
      {reply : Reply} {s' : Script}
      (h : Receives { s with identities := s.identities ++ [identity] } rx.bytes none reply s') :
      Does s (.becomeTarget identity rx limit) reply s'
  | transmit {tx : List UInt8} {bits : Nat} {outcome : Except Failure Unit} {s' : Script}
      (h : Sends s tx bits none outcome s') :
      Does s (.transmit tx bits) (.acknowledged outcome) s'
  | transmitWithParity {tx : List UInt8} {bits : Nat} {parity : List UInt8}
      {outcome : Except Failure Unit} {s' : Script} (h : Sends s tx bits (some parity) outcome s') :
      Does s (.transmitWithParity tx bits parity) (.acknowledged outcome) s'
  | configure (option : DeviceOption) (value : Bool) :
      Does s (.configure option value) (.acknowledged (.ok ()))
        { s with options := s.options ++ [(option, value)] }
  | failSends (count : Nat) : Does s (.failSends count) .nothing { s with failuresLeft := count }
  | popNothing (hsent : s.sent = []) : Does s .popSent (.popped none) s
  | popLast {before : List Frame} {f : Frame} (hsent : s.sent = before ++ [f]) :
      Does s .popSent (.popped (some f)) { s with sent := before }

variable {s s' : Script} {f : Frame} {rest : List Cue}

/-! ## Receiving -/

section Receiving

variable {n m : Nat} (rx : Buffer n) (slots : Buffer m) (limit : Option UInt64)

theorem bytes_overwrite_of_fit (hfit : f.byteCount ≤ n) :
    (rx.overwrite f.bytes).bytes = f.bytes ++ rx.bytes.drop f.byteCount := by
  rw [Buffer.bytes_overwrite, laidOver, rx.length_bytes, List.take_of_length_le hfit,
    Frame.byteCount]

theorem receiveWithParity_fault {fault : Fault} (hnext : s.next = (.error fault, s')) :
    s.receiveWithParity rx slots limit = ⟨.error (.fault fault), rx, slots, s'⟩ := by
  simp only [receiveWithParity, hnext]

theorem receiveWithParity_oversized (hnext : s.next = (.ok f, s')) (hbig : n < f.byteCount) :
    s.receiveWithParity rx slots limit
      = ⟨.error (.fault (.badFrame (.exceedsBuffer f.byteCount n))), rx, slots, s'⟩ := by
  simp only [receiveWithParity, hnext, deliver, if_neg (not_le.mpr hbig)]

/-- The right parity bits of a frame just laid over a buffer are filled in, if there are slots. -/
theorem fillParity_overwrite (hfit : f.byteCount ≤ n) :
    slots.fillParity ((rx.overwrite f.bytes).bytes.take (f.bits / 8))
      = if f.wholeBytes ≤ m then .ok (slots.overwrite f.rightParity)
        else .error (.parityTooShort m f.wholeBytes) := by
  have hwhole : (rx.overwrite f.bytes).bytes.take (f.bits / 8) = f.bytes.take f.wholeBytes :=
    rx.take_overwrite_of_le (f.wholeBytes_le_length.trans hfit) f.wholeBytes_le_length
  have hlength : (f.bytes.take f.wholeBytes).length = f.wholeBytes :=
    (length_parityBits _).symm.trans f.length_rightParity
  rw [hwhole, Buffer.fillParity, hlength]
  rfl

theorem receiveWithParity_misused (hnext : s.next = (.ok f, s')) (hfit : f.byteCount ≤ n)
    (hplain : f.parity = none) (hfew : m < f.wholeBytes) :
    s.receiveWithParity rx slots limit
      = ⟨.error (.breach (.parityTooShort m f.wholeBytes)), rx.overwrite f.bytes, slots, s'⟩ := by
  simp only [receiveWithParity, hnext, deliver, if_pos hfit, parityOf, hplain,
    fillParity_overwrite rx slots hfit, if_neg (not_le.mpr hfew)]

theorem receiveWithParity_fitting (hnext : s.next = (.ok f, s')) (hfit : f.byteCount ≤ n)
    (hslots : f.parity = none → f.wholeBytes ≤ m) :
    s.receiveWithParity rx slots limit
      = ⟨.ok f.bits, rx.overwrite f.bytes, slots.overwrite (f.parity.getD f.rightParity), s'⟩ := by
  cases hp : f.parity with
  | some p => simp only [receiveWithParity, hnext, deliver, if_pos hfit, parityOf, hp,
      Option.getD_some]
  | none => simp only [receiveWithParity, hnext, deliver, if_pos hfit, parityOf, hp,
      fillParity_overwrite rx slots hfit, if_pos (hslots hp), Option.getD_none]

/-- A receive comes to one of its cases. -/
theorem receives_receive (s : Script) :
    let r := s.receive rx limit
    s.Receives rx.bytes none (.received r.outcome r.rx.bytes none) r.device := by
  match hin : s.inbound with
  | [] =>
    rw [receive_fault rx limit (next_dry hin)]
    exact .dry hin
  | .silence :: rest =>
    rw [receive_fault rx limit (next_silence hin)]
    exact .silence hin
  | .frame f :: rest =>
    -- the size of a buffer is part of its type: only its bytes can be compared with the frame
    obtain ⟨bytes, rfl⟩ := rx
    rcases Nat.lt_or_ge bytes.length f.byteCount with hbig | hfit
    · rw [receive_oversized _ limit (next_frame hin) hbig]
      exact .oversized hin hbig
    · rw [receive_fitting _ limit (next_frame hin) hfit]
      simp only [bytes_overwrite_of_fit _ hfit]
      exact .arrived hin hfit (by simp)

/-- So does a receive with parity bits. -/
theorem receives_receiveWithParity (s : Script) :
    let r := s.receiveWithParity rx slots limit
    s.Receives rx.bytes (some slots.bytes) (.received r.outcome r.rx.bytes (some r.parity.bytes))
      r.device := by
  match hin : s.inbound with
  | [] =>
    rw [receiveWithParity_fault rx slots limit (next_dry hin)]
    exact .dry hin
  | .silence :: rest =>
    rw [receiveWithParity_fault rx slots limit (next_silence hin)]
    exact .silence hin
  | .frame f :: rest =>
    have hnext := next_frame hin
    obtain ⟨bytes, rfl⟩ := rx
    obtain ⟨p, rfl⟩ := slots
    rcases Nat.lt_or_ge bytes.length f.byteCount with hbig | hfit
    · rw [receiveWithParity_oversized _ _ limit hnext hbig]
      exact .oversized hin hbig
    · by_cases hroom : f.parity = none → f.wholeBytes ≤ p.length
      · rw [receiveWithParity_fitting _ _ limit hnext hfit hroom]
        simp only [bytes_overwrite_of_fit _ hfit, Buffer.bytes_overwrite]
        refine .arrived hin hfit ?_
        rintro p ⟨⟩
        exact hroom
      · obtain ⟨hplain, hfew⟩ := Classical.not_imp.mp hroom
        rw [receiveWithParity_misused _ _ limit hnext hfit hplain (not_le.mp hfew)]
        simp only [bytes_overwrite_of_fit _ hfit]
        exact .misused hin hfit hplain rfl (not_le.mp hfew)

end Receiving

/-- The script without its next cue; if it has none, it has run dry. -/
def advance (s : Script) : Script :=
  { s with
    inbound := s.inbound.tail
    stopRaised := s.stopRaised || (s.stopsWhenDry && s.inbound.isEmpty) }

/-- **A receive takes the next cue, whatever comes of it**, and changes nothing else. -/
theorem Receives.eq_advance {rx : List UInt8} {slots : Option (List UInt8)} {reply : Reply}
    (h : s.Receives rx slots reply s') : s' = s.advance := by
  cases h with
  | dry hin => simp [advance, hin]
  | silence hin => simp [advance, hin]
  | oversized hin => simp [advance, hin]
  | misused hin => simp [advance, hin]
  | arrived hin => simp [advance, hin]

/-! ## Sending -/

section Sending

variable {tx : List UInt8} {bits : Nat}

theorem cutOut_tooManyBits (hbits : 8 * tx.length < bits) (parity : Option (List UInt8)) :
    (Making.cutOut tx bits parity).frame = .error (.tooManyBits bits tx.length) := by
  cases parity with
  | none => exact Frame.ofBuffer_of_lt hbits
  | some p =>
    rw [Making.cutOut, Making.frame, Making.frame, Frame.ofBuffer_of_lt hbits]
    rfl

theorem cutOut_wrongLength (hbits : bits ≤ 8 * tx.length) {p : List UInt8}
    (hfew : p.length < bits / 8) :
    (Making.cutOut tx bits (some p)).frame = .error (.wrongLength (bits / 8) p.length) := by
  obtain ⟨f, hcut, rfl⟩ := Frame.exists_ofBuffer hbits
  rw [Making.cutOut, Making.frame, Making.frame, hcut]
  exact dif_neg (not_le.mpr hfew)

/-- A send comes to one of its cases. -/
theorem sends_recordIf (s : Script) (tx : List UInt8) (bits : Nat)
    (parity : Option (List UInt8)) :
    let r := s.recordIf (Making.cutOut tx bits parity).frame
    s.Sends tx bits parity r.outcome r.device := by
  rcases Nat.lt_or_ge (8 * tx.length) bits with hbits | hbits
  · rw [cutOut_tooManyBits hbits]
    exact .tooManyBits hbits
  by_cases hslots : ∀ p ∈ parity, bits / 8 ≤ p.length
  · obtain ⟨f, hmade, hf⟩ := Making.exists_frame (Making.draft_cutOut hbits hslots)
    rw [hmade]
    change s.Sends tx bits parity (s.record f).outcome (s.record f).device
    rcases Nat.eq_zero_or_pos s.failuresLeft with hleft | hleft
    · rw [record_of_sending hleft]
      exact .kept hbits hslots hleft hf
    · rw [record_of_failing hleft]
      exact .lost hbits hslots hleft
  · obtain ⟨p, rfl, hfew⟩ : ∃ p, parity = some p ∧ p.length < bits / 8 := by
      simpa only [not_forall, not_le, Option.mem_def, exists_prop] using hslots
    rw [cutOut_wrongLength hbits hfew]
    exact .wrongLength hbits rfl hfew

end Sending

/-! ## Every call -/

theorem does_popSent (s : Script) : s.Does .popSent (.popped s.popSent.1) s.popSent.2 := by
  cases hlast : s.sent.getLast? with
  | none =>
    have hsent : s.sent = [] := List.getLast?_eq_none_iff.mp hlast
    have hpop : s.popSent = (none, s) := by
      rw [popSent, hlast, hsent, List.dropLast_nil, ← hsent]
    rw [hpop]
    exact .popNothing hsent
  | some f =>
    obtain ⟨before, hsent⟩ := List.getLast?_eq_some_iff.mp hlast
    have hpop : s.popSent = (some f, { s with sent := before }) := by
      rw [popSent, hlast, hsent, List.dropLast_concat]
    rw [hpop]
    exact .popLast hsent

/-- **Nothing else can come of a call.** -/
theorem does_perform (name : String) (s : Script) (act : Act) :
    s.Does act (s.perform name act).1 (s.perform name act).2 := by
  cases act with
  | push cue => exact .push cue
  | receive rx limit => exact .receive (receives_receive rx limit s)
  | receiveWithParity rx slots limit =>
    exact .receiveWithParity (receives_receiveWithParity rx slots limit s)
  | becomeTarget identity rx limit => exact .becomeTarget (receives_receive rx limit _)
  | transmit tx bits => exact .transmit (sends_recordIf s tx bits none)
  | transmitWithParity tx bits parity =>
    exact .transmitWithParity (sends_recordIf s tx bits (some parity))
  | configure option value => exact .configure option value
  | failSends count => exact .failSends count
  | popSent => exact does_popSent s

end Script

end TagEmulation
