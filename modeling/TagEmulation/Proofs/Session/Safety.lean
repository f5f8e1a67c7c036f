import Mathlib.Algebra.Order.Ring.Nat
import TagEmulation.Proofs.Session.Checked
import TagEmulation.Proofs.Session.Exchanges
import TagEmulation.Transport.Bench

/-!
# Proofs/Session/Safety — no frame breaks a session off

A device may write what it likes into the buffers of a session and report any number of bits.  If it
breaks no contract itself (`Transport.Sound`), nothing that it reports makes the session break one:
bringing a tag up, playing a round and running come to the same as with every cut and every contract
checked (`Checked.bringUp_eq`, `Checked.step_eq`, `Checked.poll_eq`), and they end with a result or
a fault.  A report of more bits than there is room for is such a fault, and all that comes of it
(`Session.step_of_overlong`).
-/

namespace TagEmulation

variable {σ : Type}

/-! ## Sound devices -/

/-- A device that breaks no contract: whatever it is asked, it comes back with a result or a fault.
It may receive parity bits in a way of its own; of the way that every device has, nothing is asked
but that it receives. -/
structure Transport.Sound (T : Transport σ) : Prop where
  receive : ∀ (rx : Buffer stagingSize) limit d, Unbroken (T.receive rx limit d).outcome
  transmit : ∀ tx bits d, Unbroken (T.transmit tx bits d).outcome
  receiveWithParity :
    (∀ (rx slots : Buffer stagingSize) limit d,
      T.receiveWithParity rx slots limit d = Receive.thenFillParity T.receive rx slots limit d) ∨
    ∀ (rx slots : Buffer stagingSize) limit d,
      Unbroken (T.receiveWithParity rx slots limit d).outcome
  transmitWithParity : ∀ tx bits parity d, Unbroken (T.transmitWithParity tx bits parity d).outcome
  configure : ∀ option value d, Unbroken (T.configure option value d).outcome
  becomeTarget : ∀ identity (rx : Buffer stagingSize) limit d,
    Unbroken (T.becomeTarget identity rx limit d).outcome

/-- A device with nothing but what a device must bring along is sound if that is. -/
theorem Transport.Sound.of_required {receive : Receive σ} {transmit : Transmit σ}
    (hreceive : ∀ (rx : Buffer stagingSize) limit d, Unbroken (receive rx limit d).outcome)
    (htransmit : ∀ tx bits d, Unbroken (transmit tx bits d).outcome) :
    Transport.Sound { receive, transmit } where
  receive := hreceive
  transmit := htransmit
  receiveWithParity := .inl fun _ _ _ _ => rfl
  transmitWithParity tx bits _ := htransmit tx bits
  configure _ _ _ := .ok ()
  becomeTarget _ := hreceive

/-- A bench device with no more than that is sound: it only ever fails as it was told to. -/
theorem Bench.plain_sound : Bench.plain.Sound := by
  refine .of_required (fun rx limit d => ?_) fun tx bits d => ?_
  · rw [Bench.receive]
    match d.next limit with
    | (.error cause, d') => exact .fault cause
    | (.ok (data, parity, bits), d') => exact .ok bits
  · rw [Bench.transmit, Bench.record]
    match d.sends with
    | some cause :: rest => exact .fault cause
    | none :: rest => exact .ok ()
    | [] => exact .ok ()

section Sound

variable {T : Transport σ}

theorem Transport.Sound.unbroken_receiveWithParity (hT : T.Sound) (rx slots : Buffer stagingSize)
    (limit : Option UInt64) (d : σ) : Unbroken (T.receiveWithParity rx slots limit d).outcome := by
  obtain husual | hown := hT.receiveWithParity
  · have hreceive := hT.receive rx limit d
    rw [husual, (Checked.thenFillParity_eq le_rfl hreceive).2]
    exact hreceive
  · exact hown rx slots limit d

theorem Transport.Sound.unbroken_hear (hT : T.Sound) (config : Config) (staging : Staging) (d : σ) :
    Unbroken (hear T config staging d).outcome := by
  cases hc : config.hardwareParity with
  | true =>
    simp only [hear, hc, if_true]
    refine .of_map (g := (·.frame.bits)) ?_
    rw [heardPlain_bits]
    exact (hT.receive ..).reception _
  | false =>
    simp only [hear, hc, Bool.false_eq_true, if_false]
    refine .of_map (g := (·.frame.bits)) ?_
    rw [heardWithParity_bits (by rw [Buffer.length_bytes, Buffer.length_bytes])]
    exact (hT.unbroken_receiveWithParity ..).reception _

theorem Transport.Sound.unbroken_speak (hT : T.Sound) (config : Config) (reply : Frame) (d : σ) :
    Unbroken (speak T config reply d).outcome := by
  rw [speak]
  split
  · exact hT.transmit ..
  · exact hT.transmitWithParity ..

theorem Transport.Sound.unbroken_exchange (hT : T.Sound) (r : Responder) (config : Config)
    (staging : Staging) (d : σ) : Unbroken (exchange T r config staging d).round.outcome := by
  have hheard := hT.unbroken_hear config staging d
  match h : hear T config staging d with
  | ⟨.error why, staging', d'⟩ =>
    rw [exchange_silent h]
    exact .passed_on (h ▸ hheard)
  | ⟨.ok heard, staging', d'⟩ =>
    cases hr : r.answer heard.frame with
    | none =>
      rw [exchange_ignored h hr]
      exact .ok _
    | some reply =>
      have hspoken := hT.unbroken_speak config reply d'
      match hsent : speak T config reply d' with
      | ⟨.error why, d''⟩ =>
        rw [exchange_unsent h hr hsent]
        exact .passed_on (hsent ▸ hspoken)
      | ⟨.ok (), d''⟩ =>
        rw [exchange_answered h hr hsent]
        exact .ok _

theorem Transport.Sound.unbroken_firstCommand (hT : T.Sound) (t : Tag) (d : σ) :
    Unbroken (t.firstCommand T d).outcome := by
  rw [Tag.firstCommand]
  refine .of_map (g := (·.frame.bits)) ?_
  rw [heardPlain_bits]
  exact (hT.becomeTarget ..).reception _

theorem Transport.Sound.unbroken_takeOver (hT : T.Sound) (t : Tag) (d : σ) :
    Unbroken (t.takeOver T d).outcome := by
  have hcrc := hT.configure .handleCrc false d
  rw [Tag.takeOver]
  match h : T.configure .handleCrc false d with
  | ⟨.error why, d'⟩ => exact .passed_on (h ▸ hcrc)
  | ⟨.ok (), d'⟩ => exact hT.configure ..

theorem Transport.Sound.unbroken_bringUp (hT : T.Sound) (t : Tag) (d : σ) :
    Unbroken (t.bringUp T d).outcome := by
  have hfirst := hT.unbroken_firstCommand t d
  rw [Tag.bringUp]
  match h : t.firstCommand T d with
  | ⟨.error why, staging, d'⟩ => exact .passed_on (h ▸ hfirst)
  | ⟨.ok heard, staging, d'⟩ =>
    have htaken := hT.unbroken_takeOver t d'
    dsimp only
    match h' : t.takeOver T d' with
    | ⟨.error why, d''⟩ => exact .passed_on (h' ▸ htaken)
    | ⟨.ok (), d''⟩ => exact .ok _

end Sound

/-! ## The checked session -/

namespace Checked

/-- `exchange`, checked. -/
def exchange (T : Transport σ) (r : Responder) (config : Config) (staging : Staging) (d : σ) :
    Except Breach (Exchange σ) := do
  let h ← hear T config staging d
  match h.outcome with
  | .error why => return ⟨.silent why, h.staging, h.device⟩
  | .ok heard =>
    match ← answer r heard.frame with
    | none => return ⟨.ignored heard, h.staging, h.device⟩
    | some reply =>
      let sent ← speak T config reply h.device
      match sent.outcome with
      | .error why => return ⟨.unsent heard reply why, h.staging, sent.device⟩
      | .ok () => return ⟨.answered heard reply, h.staging, sent.device⟩

/-- `Session.step`, checked. -/
def step (T : Transport σ) (s : Session σ) (staging : Staging) : Except Breach (Step σ) := do
  let x ← exchange T s.responder s.config staging s.device
  let events := x.round.events s.responder s.config.quiet
  let _ ← log events
  return ⟨x.round.outcome, { s with stats := x.round.count s.stats, device := x.device },
    x.staging, events⟩

/-- `Session.poll`, checked. -/
def poll (T : Transport σ) (stopRaised : σ → Bool) :
    Nat → Session σ → Staging → Except Breach (Run σ)
  | rounds, s, staging =>
    if stopRaised s.device then return ⟨.stopped s.stats, s, [.stopped s.stats]⟩
    else
      match rounds with
      | 0 => return ⟨.polling, s, []⟩
      | n + 1 => do
        let step ← step T s staging
        match fatal? step.outcome with
        | some why => return ⟨.failed why, step.session, step.events ++ why.endEvents⟩
        | none => return (← poll T stopRaised n step.session step.staging).after step.events

/-- `Session.run`, checked. -/
def run (T : Transport σ) (stopRaised : σ → Bool) (rounds : Nat) (s : Session σ) :
    Except Breach (Run σ) := do
  return (← poll T stopRaised rounds s Staging.zeroed).after [.started T.name]

/-- `Tag.firstCommand`, checked. -/
def firstCommand (T : Transport σ) (t : Tag) (d : σ) : Except Breach (Hearing σ) := do
  let r := T.becomeTarget t.identity (Buffer.zeroed stagingSize) t.config.firstMillis d
  let outcome := r.outcome.bind (heardPlain r.rx.bytes)
  escalate outcome
  return ⟨outcome, { Staging.zeroed with data := r.rx }, r.device⟩

/-- `Tag.takeOver`, checked. -/
def takeOver (T : Transport σ) (t : Tag) (d : σ) : Except Breach (Acknowledgement σ) := do
  let crc := T.configure .handleCrc false d
  escalate crc.outcome
  match crc.outcome with
  | .error why => return ⟨.error why, crc.device⟩
  | .ok () =>
    let parity := T.configure .handleParity t.config.hardwareParity crc.device
    escalate parity.outcome
    return parity

/-- `Tag.bringUp`, checked. -/
def bringUp (T : Transport σ) (t : Tag) (d : σ) : Except Breach (BringUp σ) := do
  let first ← firstCommand T t d
  match first.outcome with
  | .error why => return ⟨.error why, first.device, t.identity.misfitEvents⟩
  | .ok heard =>
    let seen := t.identity.misfitEvents ++ [.firstCommand T.name heard.frame]
    let _ ← log seen
    let taken ← takeOver T t first.device
    match taken.outcome with
    | .error why => return ⟨.error why, taken.device, seen⟩
    | .ok () =>
      return ⟨.ok { t with stats := .zero, device := taken.device }, taken.device,
        seen ++ [.broughtUp t.identity.uid t.config.hardwareParity]⟩

variable {T : Transport σ}

theorem exchange_eq (hT : T.Sound) (r : Responder) (config : Config) (staging : Staging) (d : σ) :
    exchange T r config staging d = .ok (TagEmulation.exchange T r config staging d) := by
  rw [exchange, hear_eq (hT.unbroken_hear config staging d)]
  match h : TagEmulation.hear T config staging d with
  | ⟨.error why, staging', d'⟩ =>
    rw [exchange_silent h]
    rfl
  | ⟨.ok heard, staging', d'⟩ =>
    change (answer r heard.frame >>= fun _ => _) = _
    rw [answer_eq]
    cases hr : r.answer heard.frame with
    | none =>
      rw [exchange_ignored h hr]
      rfl
    | some reply =>
      change (speak T config reply d' >>= fun _ => _) = _
      rw [speak_eq (hT.unbroken_speak config reply d')]
      match hsent : TagEmulation.speak T config reply d' with
      | ⟨.error why, d''⟩ =>
        rw [exchange_unsent h hr hsent]
        rfl
      | ⟨.ok (), d''⟩ =>
        rw [exchange_answered h hr hsent]
        rfl

theorem step_eq (hT : T.Sound) (s : Session σ) (staging : Staging) :
    step T s staging = .ok (s.step T staging) := by
  rw [step, exchange_eq hT]
  change (log _ >>= fun _ => _) = _
  rw [log_eq]
  rfl

theorem poll_eq (hT : T.Sound) (stopRaised : σ → Bool) (n : Nat) :
    ∀ (s : Session σ) (staging : Staging),
      poll T stopRaised n s staging = .ok (s.poll T stopRaised n staging) := by
  induction n with
  | zero =>
    intro s staging
    rw [poll, Session.poll]
    split <;> rfl
  | succ n ih =>
    intro s staging
    rw [poll, Session.poll, step_eq hT]
    split
    · rfl
    · change (match fatal? (s.step T staging).outcome with | some _ => _ | none => _)
        = Except.ok (match fatal? (s.step T staging).outcome with | some _ => _ | none => _)
      cases fatal? (s.step T staging).outcome with
      | some why => rfl
      | none =>
        change (poll T stopRaised n _ _ >>= fun _ => _) = _
        rw [ih]
        rfl

theorem run_eq (hT : T.Sound) (stopRaised : σ → Bool) (n : Nat) (s : Session σ) :
    run T stopRaised n s = .ok (s.run T stopRaised n) := by
  rw [run, poll_eq hT]
  rfl

theorem firstCommand_eq (hT : T.Sound) (t : Tag) (d : σ) :
    firstCommand T t d = .ok (t.firstCommand T d) := by
  have hplain : ∀ data, heardPlain data = TagEmulation.heardPlain data :=
    fun data => funext (heardPlain_eq data)
  have hfirst := hT.unbroken_firstCommand t d
  rw [Tag.firstCommand] at hfirst ⊢
  rw [firstCommand]
  simp only [hplain, escalate_of_unbroken hfirst]
  rfl

theorem takeOver_eq (hT : T.Sound) (t : Tag) (d : σ) :
    takeOver T t d = .ok (t.takeOver T d) := by
  rw [takeOver, Tag.takeOver, escalate_of_unbroken (hT.configure ..)]
  match T.configure .handleCrc false d with
  | ⟨.error why, d'⟩ => rfl
  | ⟨.ok (), d'⟩ =>
    change (escalate (T.configure .handleParity t.config.hardwareParity d').outcome
      >>= fun _ => _) = _
    rw [escalate_of_unbroken (hT.configure ..)]
    rfl

theorem bringUp_eq (hT : T.Sound) (t : Tag) (d : σ) : bringUp T t d = .ok (t.bringUp T d) := by
  rw [bringUp, firstCommand_eq hT, Tag.bringUp]
  match t.firstCommand T d with
  | ⟨.error why, staging, d'⟩ => rfl
  | ⟨.ok heard, staging, d'⟩ =>
    change (log _ >>= fun _ => _) = _
    rw [log_eq]
    change (takeOver T t d' >>= fun _ => _) = _
    rw [takeOver_eq hT]
    dsimp only
    match t.takeOver T d' with
    | ⟨.error why, d''⟩ => rfl
    | ⟨.ok (), d''⟩ => rfl

end Checked

/-! ## Reports of too many bits -/

/-- More bits are reported than a session has room for. -/
def Overlong (reported : Except Failure Nat) (bits : Nat) : Prop :=
  reported = .ok bits ∧ 8 * stagingSize < bits

/-- What the device reports when a session asks it for a frame, and the device that this leaves. -/
def Session.report (T : Transport σ) (s : Session σ) (staging : Staging) :
    Except Failure Nat × σ :=
  if s.config.hardwareParity then
    let r := T.receive staging.data (some s.config.pollMillis) s.device
    (r.outcome, r.device)
  else
    let r := T.receiveWithParity staging.data staging.parity (some s.config.pollMillis) s.device
    (r.outcome, r.device)

section Overlong

variable {T : Transport σ} {s : Session σ} {staging : Staging} {bits : Nat}

theorem Buffer.framed_of_lt {n : Nat} (rx : Buffer n) (h : 8 * n < bits) :
    Frame.ofBuffer rx.bytes bits = .error (.tooManyBits bits n) := by
  have hlength : rx.bytes.length = n := rx.length_bytes
  rw [Frame.ofBuffer_of_lt (hlength.symm ▸ h), hlength]

theorem Overlong.heardPlain {reported : Except Failure Nat} (h : Overlong reported bits)
    (rx : Buffer stagingSize) :
    reported.bind (heardPlain rx.bytes) = .error (.fault (.tooManyBits bits stagingSize)) := by
  obtain ⟨rfl, hbits⟩ := h
  change TagEmulation.heardPlain rx.bytes bits = _
  rw [TagEmulation.heardPlain, rx.framed_of_lt hbits]
  rfl

theorem Overlong.heardWithParity {reported : Except Failure Nat} (h : Overlong reported bits)
    (rx : Buffer stagingSize) (slots : List UInt8) :
    reported.bind (heardWithParity rx.bytes slots)
      = .error (.fault (.tooManyBits bits stagingSize)) := by
  obtain ⟨rfl, hbits⟩ := h
  change TagEmulation.heardWithParity rx.bytes slots bits = _
  rw [TagEmulation.heardWithParity, rx.framed_of_lt hbits]
  rfl

theorem exists_hear_of_overlong (h : Overlong (s.report T staging).1 bits) :
    ∃ staging', hear T s.config staging s.device
      = ⟨.error (.fault (.tooManyBits bits stagingSize)), staging', (s.report T staging).2⟩ := by
  cases hc : s.config.hardwareParity with
  | true =>
    simp only [Session.report, hc, if_true] at h
    simp only [hear, Session.report, hc, if_true, h.heardPlain]
    exact ⟨_, rfl⟩
  | false =>
    simp only [Session.report, hc, Bool.false_eq_true, if_false] at h
    simp only [hear, Session.report, hc, Bool.false_eq_true, if_false, h.heardWithParity]
    exact ⟨_, rfl⟩

/-- **A report of too many bits is a fault and nothing else**: nothing is counted, sent or logged,
and the device is as its report left it. -/
theorem Session.step_of_overlong (h : Overlong (s.report T staging).1 bits) :
    ∃ staging', s.step T staging
      = ⟨.error (.fault (.tooManyBits bits stagingSize)),
          { s with device := (s.report T staging).2 }, staging', []⟩ := by
  obtain ⟨staging', hheard⟩ := exists_hear_of_overlong h
  exact ⟨staging', by rw [step, exchange_silent hheard]; rfl⟩

/-- A run ends with it. -/
theorem Session.poll_of_overlong {stopRaised : σ → Bool} {n : Nat}
    (h : Overlong (s.report T staging).1 bits) (hdown : stopRaised s.device = false) :
    s.poll T stopRaised (n + 1) staging
      = ⟨.failed (.fault (.tooManyBits bits stagingSize)),
          { s with device := (s.report T staging).2 },
          [.ended (.tooManyBits bits stagingSize)]⟩ := by
  obtain ⟨staging', hheard⟩ := exists_hear_of_overlong h
  exact poll_succ_of_fatal hdown (exchange_silent hheard) rfl

/-- A tag does not come up with it. -/
theorem Tag.bringUp_of_overlong {t : Tag} {d : σ}
    (h : Overlong (T.becomeTarget t.identity (Buffer.zeroed stagingSize) t.config.firstMillis
      d).outcome bits) :
    t.bringUp T d
      = ⟨.error (.fault (.tooManyBits bits stagingSize)),
          (T.becomeTarget t.identity (Buffer.zeroed stagingSize) t.config.firstMillis d).device,
          t.identity.misfitEvents⟩ := by
  simp only [bringUp, firstCommand, h.heardPlain]

end Overlong

/-! ## Whatever is reported -/

theorem Unbroken.exists_fault_of_fatal {α : Type} {outcome : Except Failure α} {why : Failure}
    (h : Unbroken outcome) (hf : fatal? outcome = some why) : ∃ cause, why = .fault cause := by
  obtain ⟨result, rfl⟩ := h
  cases result with
  | ok a => cases hf
  | error cause =>
    change (if cause.isFatal then some (Failure.fault cause) else none) = some why at hf
    split at hf
    · exact ⟨cause, (Option.some.inj hf).symm⟩
    · cases hf

/-- A run on a sound device fails by a fault, if it fails. -/
theorem Session.exists_fault_of_poll {T : Transport σ} (hT : T.Sound) (stopRaised : σ → Bool)
    (n : Nat) (s : Session σ) (staging : Staging) {why : Failure}
    (h : (s.poll T stopRaised n staging).ending = .failed why) : ∃ cause, why = .fault cause := by
  refine poll_induct T stopRaised
    (motive := fun _ _ run => run.ending = .failed why → ∃ cause, why = .fault cause)
    ?_ ?_ ?_ ?_ n s staging h
  · intro _ _ h; cases h
  · intro _ _ h; cases h
  · rintro s staging _ why' _ rfl hf h
    cases h
    exact (hT.unbroken_exchange s.responder s.config staging s.device).exists_fault_of_fatal hf
  · intro _ _ _ _ run _ _ _ ih h
    exact ih h

/-- **No frame breaks a session off.**  Take a device that breaks no contract itself, whatever it
writes into the buffers and however many bits it reports.  Then bringing a tag up on it, playing a
round and running come to the same as with every cut, every index and every contract checked; so no
check ever strikes, and what comes of it is a result or a fault.  If more bits are reported than
there is room for, that is the fault: nothing is counted or sent, no tag comes up, and a run ends
there.  Nor does a device break a contract by receiving parity bits in the usual way. -/
theorem no_frame_breaks_a_session_off {T : Transport σ} (hT : T.Sound) :
    (∀ (t : Tag) (d : σ),
      let first := T.becomeTarget t.identity (Buffer.zeroed stagingSize) t.config.firstMillis d
      Checked.bringUp T t d = .ok (t.bringUp T d) ∧ Unbroken (t.bringUp T d).outcome ∧
        ∀ bits, Overlong first.outcome bits →
          t.bringUp T d = ⟨.error (.fault (.tooManyBits bits stagingSize)), first.device,
            t.identity.misfitEvents⟩) ∧
    (∀ (s : Session σ) (staging : Staging),
      let left := { s with device := (s.report T staging).2 }
      Checked.step T s staging = .ok (s.step T staging) ∧ Unbroken (s.step T staging).outcome ∧
        ∀ bits, Overlong (s.report T staging).1 bits →
          ∃ staging', s.step T staging
            = ⟨.error (.fault (.tooManyBits bits stagingSize)), left, staging', []⟩) ∧
    (∀ (s : Session σ) (stopRaised : σ → Bool) (n : Nat),
      Checked.run T stopRaised n s = .ok (s.run T stopRaised n) ∧
      ∀ staging,
        let left := { s with device := (s.report T staging).2 }
        Checked.poll T stopRaised n s staging = .ok (s.poll T stopRaised n staging) ∧
          (∀ why, (s.poll T stopRaised n staging).ending = .failed why →
            ∃ cause, why = .fault cause) ∧
          ∀ bits, Overlong (s.report T staging).1 bits → stopRaised s.device = false →
            s.poll T stopRaised (n + 1) staging
              = ⟨.failed (.fault (.tooManyBits bits stagingSize)), left,
                  [.ended (.tooManyBits bits stagingSize)]⟩) ∧
    ∀ {n m : Nat} (rx : Buffer n) (slots : Buffer m) limit d, n ≤ m →
      Unbroken (T.receive rx limit d).outcome →
        Checked.thenFillParity T.receive rx slots limit d
            = .ok (Receive.thenFillParity T.receive rx slots limit d) ∧
          (Receive.thenFillParity T.receive rx slots limit d).outcome
            = (T.receive rx limit d).outcome := by
  refine ⟨fun t d => ?_, fun s staging => ?_, fun s stopRaised n => ?_,
    fun _ _ _ _ hslots h => Checked.thenFillParity_eq hslots h⟩
  · exact ⟨Checked.bringUp_eq hT t d, hT.unbroken_bringUp t d,
      fun _ h => Tag.bringUp_of_overlong h⟩
  · exact ⟨Checked.step_eq hT s staging,
      hT.unbroken_exchange s.responder s.config staging s.device,
      fun _ h => Session.step_of_overlong h⟩
  · refine ⟨Checked.run_eq hT stopRaised n s, fun staging => ?_⟩
    exact ⟨Checked.poll_eq hT stopRaised n s staging,
      fun _ h => Session.exists_fault_of_poll hT stopRaised n s staging h,
      fun _ h hdown => Session.poll_of_overlong h hdown⟩

/-- Two requests, and then one byte that is reported as all the bits a word can count: the first
request brings the tag up, the second is answered, and the third report ends the run. -/
theorem no_frame_breaks_a_session_off_of_word :
    let T := Bench.plain
    let t : Tag := Tag.ofConfig default { (default : Config) with hardwareParity := false }
    let request : BenchReading := .delivers [0x26] [] 7
    let overlong : BenchReading := .delivers [0x26] [] (2 ^ 64 - 1)
    let d : Bench := { inbound := [request, request, overlong] }
    let s : Session Bench := { t with stats := .zero, device := { inbound := [request, overlong] } }
    let s' : Session Bench := { t with stats := .zero, device := { inbound := [overlong] } }
    T.Sound ∧ Unbroken (t.bringUp T d).outcome ∧
      Checked.run T Bench.stopRaised 2 s = .ok (s.run T Bench.stopRaised 2) ∧
      (s.run T Bench.stopRaised 2).ending = .failed (.fault (.tooManyBits (2 ^ 64 - 1) 264)) ∧
      (s.run T Bench.stopRaised 2).session.stats = ⟨1, 1, 0, 1⟩ ∧
      Overlong (s'.report T .zeroed).1 (2 ^ 64 - 1) ∧
      (∃ staging', s'.step T .zeroed = ⟨.error (.fault (.tooManyBits (2 ^ 64 - 1) 264)),
        { s' with device := (s'.report T .zeroed).2 }, staging', []⟩) := by
  intro T t request overlong d s s'
  obtain ⟨hup, hstep, hrun, -⟩ := no_frame_breaks_a_session_off Bench.plain_sound
  have hoverlong : Overlong (s'.report T .zeroed).1 (2 ^ 64 - 1) :=
    ⟨by decide +kernel, by decide⟩
  exact ⟨Bench.plain_sound, (hup t d).2.1, (hrun s Bench.stopRaised 2).1, by decide +kernel,
    by decide +kernel, hoverlong, (hstep s' .zeroed).2.2 _ hoverlong⟩

end TagEmulation
