import Mathlib.Order.Nat
import TagEmulation.Proofs.Session.Calls
import TagEmulation.Proofs.Session.Safety

/-!
# Proofs/Session/Stages — how far a step gets

A step asks its device for a frame, counts the frame, and hands the device an answer if it has one.
It can fail in the first stage and in the last, and what it has done by then stays done.
`Session.StepsTo` says what a step comes to: its outcome, the counters it leaves and each order it
gave.  All that decides on it is what the device reported (`NoFrame`, `Session.map_hear_outcome`),
whether the frame has an answer, and whether that was sent (`step_gets_as_far_as_its_device`).
-/

namespace TagEmulation

variable {σ : Type} {T : Transport σ} {s : Session σ} {staging staging' : Staging} {d' : σ}
  {heard : Heard} {reply : Frame} {why : Failure}

/-! ## Stages -/

/-- Why no frame comes of what a device reports: the device failed, or it reports more bits than
there is room for. -/
inductive NoFrame : Except Failure Nat → Failure → Prop
  | failed (why : Failure) : NoFrame (.error why) why
  | overlong {bits : Nat} (h : 8 * stagingSize < bits) :
      NoFrame (.ok bits) (.fault (.tooManyBits bits stagingSize))

namespace Session

/-- The order by which a step receives a frame. -/
def receiveOrder (s : Session σ) (staging : Staging) (outcome : Except Failure Nat) : Order :=
  .receive staging.data.bytes (staging.slots s.config) (some s.config.pollMillis) outcome

/-- The order by which a step sends an answer. -/
def sendOrder (s : Session σ) (reply : Frame) (outcome : Except Failure Unit) : Order :=
  .transmit reply.bytes reply.bits (s.config.spokenParity reply) outcome

/-- The orders that a step gives its device. -/
def stepOrders (T : Transport σ) (s : Session σ) (staging : Staging) : List Order :=
  (s.tapped.step T.tapped staging).session.device.2

/-- A step has this outcome, leaves these counters and the tag as it was, and gives its device these
orders and no others. -/
structure StepsTo (T : Transport σ) (s : Session σ) (staging : Staging)
    (outcome : Except Failure FrameKind) (stats : Stats) (orders : List Order) : Prop where
  outcome : (s.step T staging).outcome = outcome
  stats : (s.step T staging).session.stats = stats
  tag : (s.step T staging).session.toTag = s.toTag
  orders : s.stepOrders T staging = orders

/-! ## Receiving -/

/-- A frame is heard exactly if the device reports bits that fit, and it has as many. -/
theorem map_hear_outcome (T : Transport σ) (s : Session σ) (staging : Staging) :
    (hear T s.config staging s.device).outcome.map (·.frame.bits)
      = reception stagingSize (s.report T staging).1 := by
  cases hc : s.config.hardwareParity with
  | true =>
    simp only [hear, report, hc, if_true]
    rw [heardPlain_bits, Buffer.length_bytes]
  | false =>
    simp only [hear, report, hc, Bool.false_eq_true, if_false]
    rw [heardWithParity_bits (by rw [Buffer.length_bytes, Buffer.length_bytes]),
      Buffer.length_bytes]

theorem device_hear (T : Transport σ) (s : Session σ) (staging : Staging) :
    (hear T s.config staging s.device).device = (s.report T staging).2 := by
  cases hc : s.config.hardwareParity <;>
    simp only [hear, report, hc, Bool.false_eq_true, if_true, if_false]

/-- The tap shows what the device reported. -/
theorem hear_tapped_report {outcome : Except Failure Heard}
    (h : hear T s.config staging s.device = ⟨outcome, staging', d'⟩) :
    hear T.tapped s.config staging s.tapped.device
      = ⟨outcome, staging', (d', [s.receiveOrder staging (s.report T staging).1])⟩ := by
  cases hc : s.config.hardwareParity <;>
    simp only [hear, hc, Bool.false_eq_true, if_true, if_false, Hearing.mk.injEq] at h <;>
    simp only [hear, report, hc, Bool.false_eq_true, if_true, if_false, tapped, Transport.tapped,
      receiveOrder, Staging.slots, List.nil_append, h]

theorem reception_of_noFrame {reported : Except Failure Nat} (h : NoFrame reported why) :
    reception stagingSize reported = .error why := by
  cases h with
  | failed why => rfl
  | overlong h => exact if_neg (not_le.mpr h)

theorem exists_hear_of_noFrame (h : NoFrame (s.report T staging).1 why) :
    ∃ staging', hear T s.config staging s.device
      = ⟨.error why, staging', (s.report T staging).2⟩ := by
  have hbits := (map_hear_outcome T s staging).trans (reception_of_noFrame h)
  have hdevice := device_hear T s staging
  match hheard : hear T s.config staging s.device with
  | ⟨.error why', staging', d'⟩ =>
    rw [hheard] at hbits hdevice
    cases hbits
    cases hdevice
    exact ⟨staging', rfl⟩
  | ⟨.ok heard, staging', d'⟩ =>
    rw [hheard] at hbits
    cases hbits

/-- No stage of receiving fails but those of the device. -/
theorem exists_heard_of_fitting {bits : Nat} (h : (s.report T staging).1 = .ok bits)
    (hfits : bits ≤ 8 * stagingSize) :
    ∃ heard, (hear T s.config staging s.device).outcome = .ok heard ∧ heard.frame.bits = bits := by
  have hbits := map_hear_outcome T s staging
  rw [h] at hbits
  exact map_eq_ok_iff.mp (hbits.trans (if_pos hfits))

/-! ## What a step comes to -/

theorem stepsTo_of_exchange {x : Exchange σ} {x' : Exchange (σ × List Order)}
    (hx : exchange T s.responder s.config staging s.device = x)
    (hx' : exchange T.tapped s.responder s.config staging s.tapped.device = x') :
    s.StepsTo T staging x.round.outcome (x.round.count s.stats) x'.device.2 where
  outcome := by rw [← hx]; rfl
  stats := by rw [← hx]; rfl
  tag := rfl
  orders := by rw [← hx']; rfl

theorem stepsTo_silent (h : hear T s.config staging s.device = ⟨.error why, staging', d'⟩) :
    s.StepsTo T staging (.error why) s.stats [s.receiveOrder staging (s.report T staging).1] :=
  stepsTo_of_exchange (exchange_silent h) (exchange_silent (hear_tapped_report h))

theorem stepsTo_ignored (h : hear T s.config staging s.device = ⟨.ok heard, staging', d'⟩)
    (hr : s.responder.answer heard.frame = none) :
    s.StepsTo T staging (.ok (FrameKind.ofBits heard.frame.bits))
      (s.stats.receive heard.frame.bits).ignore
      [s.receiveOrder staging (s.report T staging).1] :=
  stepsTo_of_exchange (exchange_ignored h hr) (exchange_ignored (hear_tapped_report h) hr)

theorem stepsTo_answered (h : hear T s.config staging s.device = ⟨.ok heard, staging', d'⟩)
    (hr : s.responder.answer heard.frame = some reply)
    (hsent : (speak T s.config reply d').outcome = .ok ()) :
    s.StepsTo T staging (.ok (FrameKind.ofBits heard.frame.bits))
      (s.stats.receive heard.frame.bits).answer
      [s.receiveOrder staging (s.report T staging).1, s.sendOrder reply (.ok ())] := by
  have hspoken : speak T s.config reply d' = ⟨.ok (), (speak T s.config reply d').device⟩ := by
    rw [← hsent]
  exact stepsTo_of_exchange (exchange_answered h hr hspoken)
    (exchange_answered (hear_tapped_report h) hr (speak_tapped hspoken _))

theorem stepsTo_unsent (h : hear T s.config staging s.device = ⟨.ok heard, staging', d'⟩)
    (hr : s.responder.answer heard.frame = some reply)
    (hsent : (speak T s.config reply d').outcome = .error why) :
    s.StepsTo T staging (.error why) (s.stats.receive heard.frame.bits)
      [s.receiveOrder staging (s.report T staging).1, s.sendOrder reply (.error why)] := by
  have hspoken : speak T s.config reply d' = ⟨.error why, (speak T s.config reply d').device⟩ := by
    rw [← hsent]
  exact stepsTo_of_exchange (exchange_unsent h hr hspoken)
    (exchange_unsent (hear_tapped_report h) hr (speak_tapped hspoken _))

end Session

open Session in
/-- **A step gets as far as its device lets it, and keeps what it has done by then.**  If the device
reports a failure, or more bits than there is room for, the step fails so: nothing is counted, and
the device was only asked for a frame.  In any other case a frame of that many bits is heard, and it
is counted.  If it has an answer, that is sent once; the step fails as the sending does, and
otherwise counts the answer.  If it has none, the step counts that.  No step changes the tag, and to
tap its device changes nothing. -/
theorem step_gets_as_far_as_its_device (T : Transport σ) (s : Session σ) (staging : Staging) :
    let reported := s.report T staging
    let received := s.receiveOrder staging reported.1
    (s.tapped.step T.tapped staging).session.untapped = (s.step T staging).session ∧
    (∀ why, NoFrame reported.1 why → s.StepsTo T staging (.error why) s.stats [received]) ∧
    (∀ bits, reported.1 = .ok bits → bits ≤ 8 * stagingSize →
      ∃ heard, (hear T s.config staging s.device).outcome = .ok heard ∧
        heard.frame.bits = bits) ∧
    ∀ heard, (hear T s.config staging s.device).outcome = .ok heard →
      let kind := FrameKind.ofBits heard.frame.bits
      let counted : Stats := { s.stats with
        received := s.stats.received + 1
        polls := if heard.frame.bits = 7 then s.stats.polls + 1 else s.stats.polls }
      (∀ reply why, s.responder.answer heard.frame = some reply →
        (speak T s.config reply reported.2).outcome = .error why →
        s.StepsTo T staging (.error why) counted [received, s.sendOrder reply (.error why)]) ∧
      (∀ reply, s.responder.answer heard.frame = some reply →
        (speak T s.config reply reported.2).outcome = .ok () →
        s.StepsTo T staging (.ok kind) { counted with answered := s.stats.answered + 1 }
          [received, s.sendOrder reply (.ok ())]) ∧
      (s.responder.answer heard.frame = none →
        s.StepsTo T staging (.ok kind) { counted with ignored := s.stats.ignored + 1 }
          [received]) := by
  intro reported received
  refine ⟨untapped_afterCall s.tapped (.step staging), fun why h => ?_,
    fun bits h hfits => exists_heard_of_fitting h hfits, fun heard houtcome => ?_⟩
  · obtain ⟨staging', hsilent⟩ := exists_hear_of_noFrame h
    exact stepsTo_silent hsilent
  · have hdevice := device_hear T s staging
    match hheard : hear T s.config staging s.device with
    | ⟨outcome, staging', d'⟩ =>
      rw [hheard] at houtcome hdevice
      obtain rfl : outcome = .ok heard := houtcome
      obtain rfl : d' = reported.2 := hdevice
      intro kind counted
      have hcounted : s.stats.receive heard.frame.bits = counted := s.stats.receive_eq _
      refine ⟨fun reply why hr hsent => ?_, fun reply hr hsent => ?_, fun hr => ?_⟩
      · have hunsent := stepsTo_unsent hheard hr hsent
        rwa [hcounted] at hunsent
      · have hanswered := stepsTo_answered hheard hr hsent
        rwa [hcounted] at hanswered
      · have hignored := stepsTo_ignored hheard hr
        rwa [hcounted] at hignored

/-- A tag that is polled with more bits than fit, then with a request whose answer is lost, and then
with a frame as long as no command. -/
theorem step_gets_as_far_as_its_device_in_three_rounds :
    let T := Bench.full
    let up (device : Bench) : Session Bench :=
      { Tag.ofConfig default default with stats := ⟨4, 2, 1, 3⟩, device }
    let long := up { inbound := [.delivers [0xff] [] 2113] }
    let lost := up { inbound := [.delivers [0x26] [] 7], sends := [some .timeout] }
    let other := up { inbound := [.delivers [0x50, 0x00] [] 12] }
    let atqa := (Response.atqa default).encode
    long.StepsTo T .zeroed (.error (.fault (.tooManyBits 2113 264))) ⟨4, 2, 1, 3⟩
        [long.receiveOrder .zeroed (.ok 2113)] ∧
      lost.StepsTo T .zeroed (.error (.fault .timeout)) ⟨5, 2, 1, 4⟩
        [lost.receiveOrder .zeroed (.ok 7), lost.sendOrder atqa (.error (.fault .timeout))] ∧
      other.StepsTo T .zeroed (.ok .unknown) ⟨5, 2, 2, 3⟩ [other.receiveOrder .zeroed (.ok 12)] := by
  intro T up long lost other atqa
  let halt : Frame := ⟨[0x50, 0x00], 12, none, rfl, by simp⟩
  obtain ⟨-, hlong, -⟩ := step_gets_as_far_as_its_device T long .zeroed
  obtain ⟨-, -, -, hlost⟩ := step_gets_as_far_as_its_device T lost .zeroed
  obtain ⟨-, -, -, hother⟩ := step_gets_as_far_as_its_device T other .zeroed
  have hreport : (long.report T .zeroed).1 = .ok 2113 := by decide +kernel
  have hoverlong : NoFrame (long.report T .zeroed).1 (.fault (.tooManyBits 2113 stagingSize)) := by
    rw [hreport]
    exact .overlong (by decide)
  have hrequest : (hear T lost.config .zeroed lost.device).outcome
      = .ok ⟨Command.reqa.encode, none⟩ := by decide +kernel
  have hhalt : (hear T other.config .zeroed other.device).outcome = .ok ⟨halt, none⟩ := by
    decide +kernel
  obtain ⟨hunsent, -, -⟩ := hlost _ hrequest
  obtain ⟨-, -, hignored⟩ := hother _ hhalt
  exact ⟨hlong _ hoverlong, hunsent atqa _ rfl (by decide +kernel), hignored rfl⟩

end TagEmulation
