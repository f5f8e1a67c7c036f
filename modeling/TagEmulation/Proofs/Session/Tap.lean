import Mathlib.Order.Nat
import TagEmulation.Session.Run

/-!
# Proofs/Session/Tap — a device that keeps a record of its orders

What a session reports of itself is worth what its device can confirm.  `Transport.tapped` is any
device with a tap on it: it does what the device does and writes down each order with its outcome
(`Order`).  A tap changes nothing for who gives the orders (`exchange_tapped`), and the orders of a
round show what the round came to (`Round.Shows`): one receive, and one send if the frame received
has an answer.  A `Record` is what the tap shows of many rounds.
-/

namespace TagEmulation

variable {σ : Type}

/-! ## Orders -/

/-- An order to a device, and how it came out. -/
inductive Order where
  /-- Become a target of this identity, and receive the first command of a reader. -/
  | becomeTarget (identity : Identity) (rx : List UInt8) (limit : Option UInt64)
      (outcome : Except Failure Nat)
  /-- Receive a frame into a buffer, and its parity bits into slots if there are any. -/
  | receive (rx : List UInt8) (slots : Option (List UInt8)) (limit : Option UInt64)
      (outcome : Except Failure Nat)
  /-- Send the first bits of some bytes, with parity bits if they are given. -/
  | transmit (tx : List UInt8) (bits : Nat) (parity : Option (List UInt8))
      (outcome : Except Failure Unit)
  /-- Switch an option. -/
  | configure (option : DeviceOption) (value : Bool) (outcome : Except Failure Unit)

/-- What comes of a receive into a buffer of so many bytes: the bits that the device reports, if
they fit. -/
def reception (capacity : Nat) (outcome : Except Failure Nat) : Except Failure Nat :=
  outcome.bind fun bits =>
    if bits ≤ 8 * capacity then .ok bits else .error (.fault (.tooManyBits bits capacity))

namespace Order

/-- The order is a receive, and this comes of it. -/
def Yields (result : Except Failure Nat) : Order → Prop
  | .receive rx _ _ outcome => reception rx.length outcome = result
  | _ => False

/-- The number of bits of the frame received, if the order is a receive that yields one. -/
def frameBits? : Order → Option Nat
  | .receive rx _ _ outcome => (reception rx.length outcome).toOption
  | _ => none

/-- Whether the order is a send that succeeds. -/
def isSent : Order → Bool
  | .transmit _ _ _ (.ok ()) => true
  | _ => false

/-- Whether the order is a send that fails. -/
def isLost : Order → Bool
  | .transmit _ _ _ (.error _) => true
  | _ => false

variable {order : Order} {result : Except Failure Nat}

theorem frameBits?_of_yields (h : order.Yields result) :
    order.frameBits? = result.toOption := by
  cases order with
  | receive rx slots limit outcome => exact congrArg Except.toOption h
  | _ => exact h.elim

theorem isSent_of_yields (h : order.Yields result) : order.isSent = false := by
  cases order with
  | receive => rfl
  | _ => exact h.elim

theorem isLost_of_yields (h : order.Yields result) : order.isLost = false := by
  cases order with
  | receive => rfl
  | _ => exact h.elim

end Order

/-! ## The tap -/

/-- The device with a tap on it, which keeps the orders so far, oldest first. -/
def Transport.tapped (T : Transport σ) : Transport (σ × List Order) where
  receive := fun rx limit d =>
    let r := T.receive rx limit d.1
    ⟨r.outcome, r.rx, (r.device, d.2 ++ [.receive rx.bytes none limit r.outcome])⟩
  transmit := fun tx bits d =>
    let r := T.transmit tx bits d.1
    ⟨r.outcome, (r.device, d.2 ++ [.transmit tx bits none r.outcome])⟩
  receiveWithParity := fun rx slots limit d =>
    let r := T.receiveWithParity rx slots limit d.1
    ⟨r.outcome, r.rx, r.parity,
      (r.device, d.2 ++ [.receive rx.bytes (some slots.bytes) limit r.outcome])⟩
  transmitWithParity := fun tx bits parity d =>
    let r := T.transmitWithParity tx bits parity d.1
    ⟨r.outcome, (r.device, d.2 ++ [.transmit tx bits (some parity) r.outcome])⟩
  configure := fun option value d =>
    let r := T.configure option value d.1
    ⟨r.outcome, (r.device, d.2 ++ [.configure option value r.outcome])⟩
  becomeTarget := fun identity {_} rx limit d =>
    let r := T.becomeTarget identity rx limit d.1
    ⟨r.outcome, r.rx, (r.device, d.2 ++ [.becomeTarget identity rx.bytes limit r.outcome])⟩
  name := T.name

/-! ## Framing what was received -/

section Framing

variable {data parity : List UInt8} {bits : Nat}

/-- Bits that fit a buffer are framed. -/
theorem Frame.exists_ofBuffer (h : bits ≤ 8 * data.length) :
    ∃ f, ofBuffer data bits = .ok f ∧ f.bits = bits := by
  have hbytes : bytesFor bits ≤ data.length := by rw [bytesFor]; omega
  have hcut : bits ≤ 8 * (data.take (bytesFor bits)).length := by
    rw [List.length_take, Nat.min_eq_left hbytes, bytesFor]; omega
  exact ⟨_, (if_pos hbytes).trans (dif_pos hcut), rfl⟩

theorem Frame.ofBuffer_of_lt (h : 8 * data.length < bits) :
    ofBuffer data bits = .error (.tooManyBits bits data.length) := by
  have hbytes : ¬ bytesFor bits ≤ data.length := by rw [bytesFor]; omega
  exact if_neg hbytes

/-- A frame is checked against as many parity bits as it has whole bytes. -/
theorem Frame.exists_parityMismatches (f : Frame) (h : f.wholeBytes ≤ parity.length) :
    ∃ wrong, parityMismatches f.bytes f.bits parity = .ok wrong := by
  have hbits : ¬ 8 * f.bytes.length < f.bits := not_lt.mpr f.bits_le_length
  have hslots : ¬ parity.length < f.bits / 8 := not_lt.mpr h
  exact ⟨_, (if_neg hbits).trans (if_neg hslots)⟩

/-- Framing drops nothing but what does not fit the buffer. -/
theorem heardPlain_bits (data : List UInt8) (outcome : Except Failure Nat) :
    (outcome.bind (heardPlain data)).map (·.frame.bits) = reception data.length outcome := by
  cases outcome with
  | error why => rfl
  | ok bits =>
    change (heardPlain data bits).map _ = ite ..
    split_ifs with h
    · obtain ⟨f, hframe, hbits⟩ := Frame.exists_ofBuffer h
      rw [heardPlain, hframe, ← hbits]
      rfl
    · rw [heardPlain, Frame.ofBuffer_of_lt (not_le.mp h)]
      rfl

/-- Nor does the check of the parity bits, if there is a slot for each byte of the buffer. -/
theorem heardWithParity_bits (hslots : data.length ≤ parity.length)
    (outcome : Except Failure Nat) :
    (outcome.bind (heardWithParity data parity)).map (·.frame.bits)
      = reception data.length outcome := by
  cases outcome with
  | error why => rfl
  | ok bits =>
    change (heardWithParity data parity bits).map _ = ite ..
    split_ifs with h
    · obtain ⟨f, hframe, rfl⟩ := Frame.exists_ofBuffer h
      have hwhole : f.wholeBytes ≤ (parity.take (f.bits / 8)).length := by
        rw [List.length_take, Frame.wholeBytes]; omega
      obtain ⟨wrong, hwrong⟩ := f.exists_parityMismatches hwhole
      have hcarried : (Except.ok f : Except Fault Frame).bind
          (·.withParity (parity.take (f.bits / 8)))
          = .ok { f with
              parity := some (parity.take (f.bits / 8))
              whole_le_parity := by rintro p ⟨⟩; exact hwhole } := dif_pos hwhole
      rw [heardWithParity, hframe, hcarried]
      change Except.map _ ((orBreach (parityMismatches f.bytes f.bits _)).map _) = _
      rw [hwrong]
      rfl
    · rw [heardWithParity, Frame.ofBuffer_of_lt (not_le.mp h)]
      rfl

end Framing

/-! ## A round, tapped -/

/-- The parity slots that a device is handed, if the session is in charge of parity. -/
def Staging.slots (c : Config) (staging : Staging) : Option (List UInt8) :=
  if c.hardwareParity then none else some staging.parity.bytes

/-- The parity bits that go out with an answer, if the session is in charge of them. -/
def Config.spokenParity (c : Config) (reply : Frame) : Option (List UInt8) :=
  if c.hardwareParity then none else some reply.rightParity

section Rounds

variable {T : Transport σ} {r : Responder} {c : Config} {staging staging' : Staging} {d d' d'' : σ}
  {heard : Heard} {reply : Frame} {why : Failure}

/-- Hearing is one receive, and what is heard is what comes of it. -/
theorem hear_tapped {outcome : Except Failure Heard}
    (h : hear T c staging d = ⟨outcome, staging', d'⟩) (orders : List Order) :
    ∃ reported, reception stagingSize reported = outcome.map (·.frame.bits) ∧
      hear T.tapped c staging (d, orders) = ⟨outcome, staging',
        (d', orders ++ [.receive staging.data.bytes (staging.slots c) (some c.pollMillis)
          reported])⟩ := by
  cases hc : c.hardwareParity with
  | true =>
    let r := T.receive staging.data (some c.pollMillis) d
    simp only [hear, hc, if_true] at h
    cases h
    refine ⟨r.outcome, ?_, ?_⟩
    · rw [heardPlain_bits, r.rx.length_bytes]
    · simp only [hear, hc, if_true, Transport.tapped, Staging.slots, r]
  | false =>
    let r := T.receiveWithParity staging.data staging.parity (some c.pollMillis) d
    have hslots : r.rx.bytes.length ≤ r.parity.bytes.length :=
      (r.rx.length_bytes.trans r.parity.length_bytes.symm).le
    simp only [hear, hc, Bool.false_eq_true, if_false] at h
    cases h
    refine ⟨r.outcome, ?_, ?_⟩
    · rw [heardWithParity_bits hslots, r.rx.length_bytes]
    · simp only [hear, hc, Bool.false_eq_true, if_false, Transport.tapped, Staging.slots, r]

/-- Speaking is one send. -/
theorem speak_tapped {outcome : Except Failure Unit} (h : speak T c reply d = ⟨outcome, d'⟩)
    (orders : List Order) :
    speak T.tapped c reply (d, orders) = ⟨outcome,
      (d', orders ++ [.transmit reply.bytes reply.bits (c.spokenParity reply) outcome])⟩ := by
  cases hc : c.hardwareParity <;>
    simp only [speak, hc, Bool.false_eq_true, if_true, if_false] at h <;>
    simp only [speak, hc, Bool.false_eq_true, if_true, if_false, Transport.tapped, h,
      Config.spokenParity]

theorem exchange_silent (h : hear T c staging d = ⟨.error why, staging', d'⟩) :
    exchange T r c staging d = ⟨.silent why, staging', d'⟩ := by
  rw [exchange, h]

theorem exchange_ignored (h : hear T c staging d = ⟨.ok heard, staging', d'⟩)
    (hr : r.answer heard.frame = none) :
    exchange T r c staging d = ⟨.ignored heard, staging', d'⟩ := by
  simp only [exchange, h, hr]

theorem exchange_answered (h : hear T c staging d = ⟨.ok heard, staging', d'⟩)
    (hr : r.answer heard.frame = some reply) (hsent : speak T c reply d' = ⟨.ok (), d''⟩) :
    exchange T r c staging d = ⟨.answered heard reply, staging', d''⟩ := by
  simp only [exchange, h, hr, hsent]

theorem exchange_unsent (h : hear T c staging d = ⟨.ok heard, staging', d'⟩)
    (hr : r.answer heard.frame = some reply) (hsent : speak T c reply d' = ⟨.error why, d''⟩) :
    exchange T r c staging d = ⟨.unsent heard reply why, staging', d''⟩ := by
  simp only [exchange, h, hr, hsent]

end Rounds

/-- These orders are what a device sees of a round that came to this. -/
inductive Round.Shows (r : Responder) : Round → List Order → Prop
  | silent {why : Failure} {order : Order} (hyields : order.Yields (.error why)) :
      Shows r (.silent why) [order]
  | ignored {heard : Heard} {order : Order} (hyields : order.Yields (.ok heard.frame.bits))
      (hr : r.answer heard.frame = none) : Shows r (.ignored heard) [order]
  | answered {heard : Heard} {reply : Frame} {order : Order} {parity : Option (List UInt8)}
      (hyields : order.Yields (.ok heard.frame.bits)) (hr : r.answer heard.frame = some reply) :
      Shows r (.answered heard reply) [order, .transmit reply.bytes reply.bits parity (.ok ())]
  | unsent {heard : Heard} {reply : Frame} {why : Failure} {order : Order}
      {parity : Option (List UInt8)} (hyields : order.Yields (.ok heard.frame.bits))
      (hr : r.answer heard.frame = some reply) :
      Shows r (.unsent heard reply why)
        [order, .transmit reply.bytes reply.bits parity (.error why)]

/-- **A tap changes nothing, and it shows what a round came to.** -/
theorem exchange_tapped (T : Transport σ) (r : Responder) (c : Config) (staging : Staging) (d : σ)
    (before : List Order) :
    let x := exchange T r c staging d
    ∃ orders, x.round.Shows r orders ∧
      exchange T.tapped r c staging (d, before)
        = ⟨x.round, x.staging, (x.device, before ++ orders)⟩ := by
  match h : hear T c staging d with
  | ⟨outcome, staging', d'⟩ =>
    obtain ⟨reported, hreception, htapped⟩ := hear_tapped h before
    let order : Order := .receive staging.data.bytes (staging.slots c) (some c.pollMillis) reported
    have hyields : order.Yields (outcome.map (·.frame.bits)) := by
      rw [← hreception, ← staging.data.length_bytes]
      rfl
    cases outcome with
    | error why =>
      rw [exchange_silent h, exchange_silent htapped]
      exact ⟨[order], .silent hyields, rfl⟩
    | ok heard =>
      cases hr : r.answer heard.frame with
      | none =>
        rw [exchange_ignored h hr, exchange_ignored htapped hr]
        exact ⟨[order], .ignored hyields hr, rfl⟩
      | some reply =>
        match hsent : speak T c reply d' with
        | ⟨sent, d''⟩ =>
          have hspoken := speak_tapped hsent (before ++ [order])
          rw [List.append_assoc] at hspoken
          cases sent with
          | error why =>
            rw [exchange_unsent h hr hsent, exchange_unsent htapped hr hspoken]
            exact ⟨_, .unsent hyields hr, rfl⟩
          | ok done =>
            rw [exchange_answered h hr hsent, exchange_answered htapped hr hspoken]
            exact ⟨_, .answered hyields hr, rfl⟩

/-! ## The record of many rounds -/

/-- The orders are what a device sees of these rounds, played one after the other. -/
inductive Record (r : Responder) : List Round → List Order → Prop
  | nil : Record r [] []
  | cons {round : Round} {rounds : List Round} {orders orders' : List Order}
      (hshows : round.Shows r orders) (hrecord : Record r rounds orders') :
      Record r (round :: rounds) (orders ++ orders')

theorem Record.append {r : Responder} {rounds rounds' : List Round} {orders orders' : List Order}
    (h : Record r rounds orders) (h' : Record r rounds' orders') :
    Record r (rounds ++ rounds') (orders ++ orders') := by
  induction h with
  | nil => exact h'
  | cons hshows _ ih =>
    rw [List.append_assoc]
    exact .cons hshows ih

theorem Record.singleton {r : Responder} {round : Round} {orders : List Order}
    (h : round.Shows r orders) : Record r [round] orders := by
  simpa using Record.cons h .nil

end TagEmulation
