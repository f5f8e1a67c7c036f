import TagEmulation.Proofs.Session.Stages

/-!
# Proofs/Session/BringUp — a tag comes up by a fixed protocol

A tag that comes up orders three things of its device, one after the other: to become a target and
receive the first command of a reader, to leave CRC_A alone, and to keep parity or leave it alone.
`Tag.ComesTo` says what a bring-up comes to: its outcome, the device it leaves and each order it
gave.  The first stage that fails is the last one (`Tag.bringUp_cases`), so a tag comes up exactly
if the device does all three things and the first command fits the buffer
(`bring_up_keeps_to_its_protocol`).
-/

namespace TagEmulation

variable {σ : Type} {T : Transport σ} {t : Tag} {d : σ} {why : Failure}

/-- Of what a device reports comes no frame, or a frame that fits. -/
theorem noFrame_or_fits (reported : Except Failure Nat) :
    (∃ why, NoFrame reported why) ∨ ∃ bits, reported = .ok bits ∧ bits ≤ 8 * stagingSize := by
  cases reported with
  | error why => exact .inl ⟨why, .failed why⟩
  | ok bits =>
    rcases Nat.lt_or_ge (8 * stagingSize) bits with hlong | hfits
    · exact .inl ⟨_, .overlong hlong⟩
    · exact .inr ⟨bits, rfl, hfits⟩

namespace Tag

/-! ## Stages -/

/-- What comes of the order to become a target. -/
def firstReport (T : Transport σ) (t : Tag) (d : σ) : Reception σ stagingSize :=
  T.becomeTarget t.identity (Buffer.zeroed stagingSize) t.config.firstMillis d

/-- What comes of the order to leave CRC_A alone. -/
def crcReport (T : Transport σ) (t : Tag) (d : σ) : Acknowledgement σ :=
  T.configure .handleCrc false (t.firstReport T d).device

/-- What comes of the order about parity. -/
def parityReport (T : Transport σ) (t : Tag) (d : σ) : Acknowledgement σ :=
  T.configure .handleParity t.config.hardwareParity (t.crcReport T d).device

/-- The orders of all three stages. -/
def protocol (T : Transport σ) (t : Tag) (d : σ) : List Order :=
  [.becomeTarget t.identity (Buffer.zeroed stagingSize).bytes t.config.firstMillis
      (t.firstReport T d).outcome,
    .configure .handleCrc false (t.crcReport T d).outcome,
    .configure .handleParity t.config.hardwareParity (t.parityReport T d).outcome]

/-- The orders that a bring-up gives its device. -/
def bringUpOrders (T : Transport σ) (t : Tag) (d : σ) : List Order :=
  (t.bringUp T.tapped (d, [])).device.2

/-- A bring-up has this outcome, with a tap on the device and without; it leaves this device, and
gives the orders of so many stages and no others. -/
structure ComesTo (T : Transport σ) (t : Tag) (d : σ) (outcome : Except Failure (Session σ))
    (device : σ) (stages : Nat) : Prop where
  tapped : (t.bringUp T.tapped (d, [])).outcome.map Session.untapped = outcome
  outcome : (t.bringUp T d).outcome = outcome
  device : (t.bringUp T d).device = device
  orders : t.bringUpOrders T d = (t.protocol T d).take stages

/-! ## Receiving the first command -/

/-- The first command is heard exactly if the device reports bits that fit. -/
theorem map_firstCommand_outcome (T : Transport σ) (t : Tag) (d : σ) :
    (t.firstCommand T d).outcome.map (·.frame.bits)
      = reception stagingSize (t.firstReport T d).outcome := by
  rw [firstCommand, heardPlain_bits, Buffer.length_bytes]
  rfl

theorem firstCommand_of_noFrame (h : NoFrame (t.firstReport T d).outcome why) :
    (t.firstCommand T d).outcome = .error why := by
  have hbits := (map_firstCommand_outcome T t d).trans (Session.reception_of_noFrame h)
  cases houtcome : (t.firstCommand T d).outcome with
  | ok heard =>
    rw [houtcome] at hbits
    cases hbits
  | error why' =>
    rw [houtcome] at hbits
    cases hbits
    rfl

theorem exists_firstCommand_of_fitting {bits : Nat} (h : (t.firstReport T d).outcome = .ok bits)
    (hfits : bits ≤ 8 * stagingSize) : ∃ heard, (t.firstCommand T d).outcome = .ok heard := by
  have hbits := map_firstCommand_outcome T t d
  rw [h] at hbits
  obtain ⟨heard, hheard, -⟩ := map_eq_ok_iff.mp (hbits.trans (if_pos hfits))
  exact ⟨heard, hheard⟩

/-! ## What a bring-up comes to -/

/-- The tap shows the order to become a target. -/
theorem firstCommand_tapped (T : Transport σ) (t : Tag) (d : σ) :
    t.firstCommand T.tapped (d, []) = { t.firstCommand T d with
      device := ((t.firstReport T d).device, (t.protocol T d).take 1) } := rfl

/-- If the device does not leave CRC_A alone, it is not asked about parity. -/
theorem takeOver_of_error (h : (t.crcReport T d).outcome = .error why) :
    t.takeOver T (t.firstReport T d).device = ⟨.error why, (t.crcReport T d).device⟩ ∧
      t.takeOver T.tapped ((t.firstReport T d).device, (t.protocol T d).take 1)
        = ⟨.error why, ((t.crcReport T d).device, (t.protocol T d).take 2)⟩ := by
  -- with the order spelled out, the report is the one that the stage looks at
  change (T.configure _ _ (t.firstReport T d).device).outcome = _ at h
  constructor
  · simp only [takeOver, h]
    rfl
  · simp only [takeOver, Transport.tapped, h]
    simp only [protocol, crcReport, h]
    rfl

/-- If it does, what it makes of parity decides. -/
theorem takeOver_of_ok (h : (t.crcReport T d).outcome = .ok ()) :
    t.takeOver T (t.firstReport T d).device
        = ⟨(t.parityReport T d).outcome, (t.parityReport T d).device⟩ ∧
      t.takeOver T.tapped ((t.firstReport T d).device, (t.protocol T d).take 1)
        = ⟨(t.parityReport T d).outcome,
            ((t.parityReport T d).device, (t.protocol T d).take 3)⟩ := by
  change (T.configure _ _ (t.firstReport T d).device).outcome = _ at h
  constructor
  · simp only [takeOver, h]
    rfl
  · simp only [takeOver, Transport.tapped, h]
    simp only [protocol, crcReport, h]
    rfl

theorem comesTo_of_unheard (h : (t.firstCommand T d).outcome = .error why) :
    t.ComesTo T d (.error why) (t.firstReport T d).device 1 where
  tapped := by
    simp only [bringUp, firstCommand_tapped, h]
    rfl
  outcome := by simp only [bringUp, h]
  device := by
    simp only [bringUp, h]
    rfl
  orders := by simp only [bringUpOrders, bringUp, firstCommand_tapped, h]

theorem comesTo_of_heard {heard : Heard} {outcome : Except Failure Unit} {d' : σ} {stages : Nat}
    (h : (t.firstCommand T d).outcome = .ok heard)
    (htaken : t.takeOver T (t.firstReport T d).device = ⟨outcome, d'⟩)
    (htapped : t.takeOver T.tapped ((t.firstReport T d).device, (t.protocol T d).take 1)
      = ⟨outcome, (d', (t.protocol T d).take stages)⟩) :
    t.ComesTo T d (outcome.map fun _ => { t with stats := .zero, device := d' }) d' stages := by
  have htaken' : t.takeOver T (t.firstCommand T d).device = ⟨outcome, d'⟩ := htaken
  constructor
  · simp only [bringUp, firstCommand_tapped, h, htapped]
    cases outcome <;> rfl
  · simp only [bringUp, h, htaken']
    cases outcome <;> rfl
  · simp only [bringUp, h, htaken']
    cases outcome <;> rfl
  · simp only [bringUpOrders, bringUp, firstCommand_tapped, h, htapped]
    cases outcome <;> rfl

/-! ## Stage by stage -/

/-- If no first command is heard, that is all. -/
theorem comesTo_of_noFrame (h : NoFrame (t.firstReport T d).outcome why) :
    t.ComesTo T d (.error why) (t.firstReport T d).device 1 :=
  comesTo_of_unheard (firstCommand_of_noFrame h)

section Heard

variable {bits : Nat} (h : (t.firstReport T d).outcome = .ok bits) (hfits : bits ≤ 8 * stagingSize)

include h hfits

/-- If one is heard, the device is asked to leave CRC_A alone, … -/
theorem comesTo_of_crc_error (hcrc : (t.crcReport T d).outcome = .error why) :
    t.ComesTo T d (.error why) (t.crcReport T d).device 2 := by
  obtain ⟨heard, hheard⟩ := exists_firstCommand_of_fitting h hfits
  obtain ⟨htaken, htapped⟩ := takeOver_of_error hcrc
  exact comesTo_of_heard hheard htaken htapped

/-- … and if it does, to do as the options say of parity. -/
theorem comesTo_of_crc_ok (hcrc : (t.crcReport T d).outcome = .ok ()) :
    t.ComesTo T d
      ((t.parityReport T d).outcome.map fun _ =>
        { t with stats := .zero, device := (t.parityReport T d).device })
      (t.parityReport T d).device 3 := by
  obtain ⟨heard, hheard⟩ := exists_firstCommand_of_fitting h hfits
  obtain ⟨htaken, htapped⟩ := takeOver_of_ok hcrc
  exact comesTo_of_heard hheard htaken htapped

/-- If it does not, the tag fails in the last stage, … -/
theorem comesTo_of_parity_error (hcrc : (t.crcReport T d).outcome = .ok ())
    (hparity : (t.parityReport T d).outcome = .error why) :
    t.ComesTo T d (.error why) (t.parityReport T d).device 3 := by
  have hcomes := comesTo_of_crc_ok h hfits hcrc
  rwa [hparity] at hcomes

/-- … and if it does all that, the tag is up. -/
theorem comesTo_of_ok (hcrc : (t.crcReport T d).outcome = .ok ())
    (hparity : (t.parityReport T d).outcome = .ok ()) :
    t.ComesTo T d (.ok { t with stats := .zero, device := (t.parityReport T d).device })
      (t.parityReport T d).device 3 := by
  have hcomes := comesTo_of_crc_ok h hfits hcrc
  rwa [hparity] at hcomes

end Heard

/-- **A bring-up ends with the first stage that fails**, or after all three. -/
theorem bringUp_cases (T : Transport σ) (t : Tag) (d : σ) :
    (∃ why, NoFrame (t.firstReport T d).outcome why ∧
      t.ComesTo T d (.error why) (t.firstReport T d).device 1) ∨
    ∃ bits, (t.firstReport T d).outcome = .ok bits ∧ bits ≤ 8 * stagingSize ∧
      ((∃ why, (t.crcReport T d).outcome = .error why ∧
        t.ComesTo T d (.error why) (t.crcReport T d).device 2) ∨
      (t.crcReport T d).outcome = .ok () ∧
        ((∃ why, (t.parityReport T d).outcome = .error why ∧
          t.ComesTo T d (.error why) (t.parityReport T d).device 3) ∨
        (t.parityReport T d).outcome = .ok () ∧
          t.ComesTo T d (.ok { t with stats := .zero, device := (t.parityReport T d).device })
            (t.parityReport T d).device 3)) := by
  rcases noFrame_or_fits (t.firstReport T d).outcome with ⟨why, hnone⟩ | ⟨bits, h, hfits⟩
  · exact .inl ⟨why, hnone, comesTo_of_noFrame hnone⟩
  · refine .inr ⟨bits, h, hfits, ?_⟩
    cases hcrc : (t.crcReport T d).outcome with
    | error why => exact .inl ⟨why, rfl, comesTo_of_crc_error h hfits hcrc⟩
    | ok done =>
      refine .inr ⟨rfl, ?_⟩
      cases hparity : (t.parityReport T d).outcome with
      | error why => exact .inl ⟨why, rfl, comesTo_of_parity_error h hfits hcrc hparity⟩
      | ok done => exact .inr ⟨rfl, comesTo_of_ok h hfits hcrc hparity⟩

/-- A tag comes up exactly if no stage fails. -/
theorem outcome_bringUp_eq_ok_iff {s : Session σ} :
    (t.bringUp T d).outcome = .ok s ↔
      s = { t with stats := .zero, device := (t.parityReport T d).device } ∧
        (∃ bits ≤ 8 * stagingSize, (t.firstReport T d).outcome = .ok bits) ∧
        (t.crcReport T d).outcome = .ok () ∧ (t.parityReport T d).outcome = .ok () := by
  constructor
  · intro hup
    obtain ⟨why, -, hcomes⟩ | ⟨bits, h, hfits, ⟨why, -, hcomes⟩ | ⟨hcrc, ⟨why, -, hcomes⟩ |
      ⟨hparity, hcomes⟩⟩⟩ := bringUp_cases T t d
    · cases hup.symm.trans hcomes.outcome
    · cases hup.symm.trans hcomes.outcome
    · cases hup.symm.trans hcomes.outcome
    · exact ⟨Except.ok.inj (hup.symm.trans hcomes.outcome), ⟨bits, hfits, h⟩, hcrc, hparity⟩
  · rintro ⟨rfl, ⟨bits, hfits, h⟩, hcrc, hparity⟩
    exact (comesTo_of_ok h hfits hcrc hparity).outcome

/-- No order is given out of turn. -/
theorem bringUpOrders_prefix_protocol (T : Transport σ) (t : Tag) (d : σ) :
    t.bringUpOrders T d <+: t.protocol T d := by
  obtain ⟨why, -, hcomes⟩ | ⟨bits, h, hfits, ⟨why, -, hcomes⟩ | ⟨hcrc, ⟨why, -, hcomes⟩ |
    ⟨hparity, hcomes⟩⟩⟩ := bringUp_cases T t d
  all_goals
    rw [hcomes.orders]
    exact List.take_prefix ..

/-- None of the orders is to send. -/
theorem ne_transmit_of_mem_protocol {order : Order} (h : order ∈ t.protocol T d) (tx : List UInt8)
    (bits : Nat) (parity : Option (List UInt8)) (outcome : Except Failure Unit) :
    order ≠ .transmit tx bits parity outcome := by
  simp only [protocol, List.mem_cons, List.not_mem_nil, or_false] at h
  rcases h with rfl | rfl | rfl <;> exact nofun

end Tag

open Tag in
/-- **A tag comes up by a fixed protocol.**  It orders its device to become a target of its identity,
with a buffer of 264 zeros and its time limit for the first command, then to leave CRC_A alone, and
then to keep parity or leave it alone as the options say; each once, and no more once one fails.  It
fails as the device does, or if more bits are reported than the buffer has room for.  Otherwise it
comes up, as it was and with all counters at zero; and whether it does or not, nothing is sent.  So
the first command of a reader is neither counted nor answered.  A tap on the device changes
nothing. -/
theorem bring_up_keeps_to_its_protocol (T : Transport σ) (t : Tag) (d : σ) :
    let first := T.becomeTarget t.identity (Buffer.zeroed 264) t.config.firstMillis d
    let crc := T.configure .handleCrc false first.device
    let parity := T.configure .handleParity t.config.hardwareParity crc.device
    let protocol : List Order :=
      [.becomeTarget t.identity (List.replicate 264 0) t.config.firstMillis first.outcome,
        .configure .handleCrc false crc.outcome,
        .configure .handleParity t.config.hardwareParity parity.outcome]
    let up : Session σ := { t with stats := ⟨0, 0, 0, 0⟩, device := parity.device }
    t.protocol T d = protocol ∧
    (∀ why, first.outcome = .error why → t.ComesTo T d (.error why) first.device 1) ∧
    (∀ bits, first.outcome = .ok bits → 8 * 264 < bits →
      t.ComesTo T d (.error (.fault (.tooManyBits bits 264))) first.device 1) ∧
    (∀ bits, first.outcome = .ok bits → bits ≤ 8 * 264 →
      (∀ why, crc.outcome = .error why → t.ComesTo T d (.error why) crc.device 2) ∧
      (crc.outcome = .ok () →
        (∀ why, parity.outcome = .error why → t.ComesTo T d (.error why) parity.device 3) ∧
        (parity.outcome = .ok () → t.ComesTo T d (.ok up) parity.device 3))) ∧
    (∀ s, (t.bringUp T d).outcome = .ok s ↔
      s = up ∧ (∃ bits ≤ 8 * 264, first.outcome = .ok bits) ∧ crc.outcome = .ok () ∧
        parity.outcome = .ok ()) ∧
    t.bringUpOrders T d <+: protocol ∧
    ∀ order ∈ t.bringUpOrders T d, ∀ tx bits parity outcome,
      order ≠ .transmit tx bits parity outcome := by
  intro first crc parity protocol up
  have hstages := bringUpOrders_prefix_protocol T t d
  refine ⟨rfl, fun why h => ?_, fun bits h hlong => ?_, fun bits h hfits =>
    ⟨fun why => comesTo_of_crc_error h hfits, fun hcrc =>
      ⟨fun why => comesTo_of_parity_error h hfits hcrc, comesTo_of_ok h hfits hcrc⟩⟩,
    fun s => outcome_bringUp_eq_ok_iff, hstages,
    fun order hmem => ne_transmit_of_mem_protocol (hstages.subset hmem)⟩
  · have hnone : NoFrame first.outcome why := h ▸ .failed why
    exact comesTo_of_noFrame hnone
  · have hnone : NoFrame first.outcome (.fault (.tooManyBits bits 264)) := h ▸ .overlong hlong
    exact comesTo_of_noFrame hnone

open Tag in
/-- A device that hears nobody, one that reports too many bits, two that fail to do as they are told
at the second and at the third stage, and one that does it all. -/
theorem bring_up_keeps_to_its_protocol_on_five_devices :
    let T := Bench.full
    let t := Tag.ofConfig default default
    let woken : List BenchReading := [.delivers [0x52] [] 7]
    let dry : Bench := { disconnectsWhenDry := true }
    let long : Bench := { inbound := [.delivers [0xff] [] 2113] }
    let second : Bench := { inbound := woken, switches := [some .timeout] }
    let third : Bench := { inbound := woken, switches := [none, some .disconnected] }
    let willing : Bench := { inbound := woken }
    let after : Bench := (t.parityReport T willing).device
    t.ComesTo T dry (.error (.fault .disconnected)) (t.firstReport T dry).device 1 ∧
      t.ComesTo T long (.error (.fault (.tooManyBits 2113 264))) (t.firstReport T long).device 1 ∧
      t.ComesTo T second (.error (.fault .timeout)) (t.crcReport T second).device 2 ∧
      t.ComesTo T third (.error (.fault .disconnected)) (t.parityReport T third).device 3 ∧
      t.ComesTo T willing (.ok { t with stats := .zero, device := after }) after 3 ∧
      after.options = [(.handleCrc, false), (.handleParity, true)] ∧ after.sent = [] := by
  intro T t woken dry long second third willing after
  obtain ⟨-, hdry, -⟩ := bring_up_keeps_to_its_protocol T t dry
  obtain ⟨-, -, hlong, -⟩ := bring_up_keeps_to_its_protocol T t long
  obtain ⟨-, -, -, hsecond, -⟩ := bring_up_keeps_to_its_protocol T t second
  obtain ⟨-, -, -, hthird, -⟩ := bring_up_keeps_to_its_protocol T t third
  obtain ⟨-, -, -, hwilling, -⟩ := bring_up_keeps_to_its_protocol T t willing
  exact ⟨hdry _ rfl, hlong 2113 rfl (by decide), (hsecond 7 rfl (by decide)).1 _ rfl,
    ((hthird 7 rfl (by decide)).2 rfl).1 _ rfl, ((hwilling 7 rfl (by decide)).2 rfl).2 rfl,
    by decide +kernel, by decide +kernel⟩

end TagEmulation
