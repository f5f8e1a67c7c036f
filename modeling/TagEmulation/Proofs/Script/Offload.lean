import TagEmulation.Proofs.Script.Beside

/-!
# Proofs/Script/Offload — who is in charge of parity is not heard

A device may make and check parity bits, or leave that to the session.  The two ways receive and
send through different operations and buffers, yet the talk between reader and tag is the same:
`parity_offload_is_not_heard`.  All that differs is what each frame sent has with it, no parity bits
or the right ones of all its bytes (`Moment.SameTalk`).
-/

namespace TagEmulation

/-- The tag, with the device in charge of parity or not. -/
def Tag.offloading (t : Tag) (offload : Bool) : Tag := { t with config.hardwareParity := offload }

/-- What there is to see after both calls is the same talk: they returned the same, and the counters
are equal, the scripts still to come, and all of the log but the frames received.  The frames sent
since `before` have the same bytes and bits; the first device was handed no parity bits with them,
the second one the right ones of all bytes. -/
structure Moment.SameTalk (before : List Frame) (m m' : Moment Script) : Prop where
  returned : m.returned = m'.returned
  stats : m.session.stats = m'.session.stats
  script : { m.session.device with sent := [], options := [] }
    = { m'.session.device with sent := [], options := [] }
  sent : ∃ said said', m.session.device.sent = before ++ said ∧
    m'.session.device.sent = before ++ said' ∧
    said.map (fun f => (f.bytes, f.bits)) = said'.map (fun f => (f.bytes, f.bits)) ∧
    (∀ f ∈ said, f.parity = none) ∧ ∀ f ∈ said', f.parity = some (parityBits f.bytes)
  events : m.events.filter (fun e => !e.showsReceived)
    = m'.events.filter fun e => !e.showsReceived

/-- An answer is of whole bytes, so all of them have a parity bit. -/
theorem Response.rightParity_encode (r : Response) :
    r.encode.rightParity = parityBits r.encode.bytes := by
  have hwhole (data : List UInt8) : (Frame.ofBytes data).rightParity = parityBits data := by
    have hall : 8 * data.length / 8 = data.length := by omega
    simp only [Frame.rightParity, Frame.wholeBytes, Frame.ofBytes, hall, List.take_length]
  cases r with
  | atqa value => exact hwhole _
  | uid value => exact hwhole _
  | sak value => exact hwhole _

namespace Script

/-- The tag with the device in charge of parity beside the tag without. -/
def offloadComparison (t : Tag) (before : List Frame) : Comparison Script :=
  comparison (t.offloading true) (t.offloading false) Eq before

theorem alike_offloading (t : Tag) : (t.offloading true).Alike (t.offloading false) where
  responder := rfl
  quiet := rfl

theorem sameOnAir_of_eq (cue cue' : Cue) (h : cue = cue') : cue.SameOnAir cue' := h ▸ .refl cue

/-- A script is beside itself. -/
theorem Beside.self (c c' : Config) (d : Script) : Beside Eq d.sent c c' d d where
  inbound := List.forall₂_same.mpr fun _ _ => rfl
  sent := ⟨[], (List.append_nil _).symm, (List.append_nil _).symm⟩
  identities := rfl
  failuresLeft := rfl
  disconnectsWhenDry := rfl
  stopsWhenDry := rfl
  stopRaised := rfl

/-- Of scripts side by side, with parity in the device and in the session, the talk is the same. -/
theorem sameTalk_of_moments {t : Tag} {before : List Frame} {m m' : Moment Script}
    (h : (offloadComparison t before).Moments m m') :
    m.SameTalk before m' where
  returned := h.returned
  stats := h.sessions.stats
  script := by
    have hdevices : Beside Eq before _ _ m.session.device m'.session.device := h.sessions.devices
    obtain ⟨hinbound, -, hidentities, hfailures, hgone, hstops, hraised⟩ := hdevices
    rw [List.forall₂_eq_eq_eq] at hinbound
    simp only [hinbound, hidentities, hfailures, hgone, hstops, hraised]
  sent := by
    have hdevices : Beside Eq before _ _ m.session.device m'.session.device := h.sessions.devices
    obtain ⟨said, hsent, hsent'⟩ := hdevices.sent
    refine ⟨_, _, hsent, hsent', ?_, ?_, ?_⟩
    · simp only [List.map_map, Function.comp_def, Config.outgoing_bytes, Config.outgoing_bits]
    · simp only [List.mem_map]
      rintro f ⟨r, -, rfl⟩
      rfl
    · simp only [List.mem_map]
      rintro f ⟨r, -, rfl⟩
      exact congrArg some r.rightParity_encode
  events := h.events

end Script

/-- **Who is in charge of parity is not heard.**  Bring a tag up on the same script with the device
in charge of parity and without: it fails for the same reason, or comes up side by side.  Sessions
in the same state are side by side as well.  From then on do the same with both, step or run, with
any buffers: after each call, the talk was the same. -/
theorem parity_offload_is_not_heard (name : String) (t : Tag) :
    let T := Script.transport name
    let hard := t.offloading true
    let soft := t.offloading false
    (∀ d, (Script.offloadComparison t d.sent).Openings (hard.bringUp T d).outcome
        (soft.bringUp T d).outcome) ∧
      (∀ stats d, (Script.offloadComparison t d.sent).Sessions { hard with stats, device := d }
        { soft with stats, device := d }) ∧
      ∀ before s s', (Script.offloadComparison t before).Sessions s s' → ∀ calls calls',
        List.Forall₂ (Call.Alike (Script.offloadComparison t before).related) calls calls' →
        List.Forall₂ (Moment.SameTalk before) (s.moments T calls) (s'.moments T calls') := by
  intro T hard soft
  have ht := Script.alike_offloading t
  refine ⟨fun d => ?_, fun stats d => ⟨rfl, rfl, rfl, Script.Beside.self _ _ d⟩, ?_⟩
  · exact Script.openings_beside name ht Script.sameOnAir_of_eq (Script.Beside.self _ _ d)
  · intro before s s' hs calls calls' hcalls
    have hlockstep : (Script.offloadComparison t before).Lockstep T :=
      Script.lockstep_beside name ht Script.sameOnAir_of_eq
    exact (hlockstep.moments hcalls hs).imp fun _ _ => Script.sameTalk_of_moments

/-- Buffers full of ones. -/
def Staging.filled : Staging :=
  ⟨⟨List.replicate stagingSize 0xff, List.length_replicate⟩,
    ⟨List.replicate stagingSize 0xff, List.length_replicate⟩⟩

/-- A strict tag is asked with right parity bits and then with wrong ones, and the last answer
cannot be sent. -/
theorem parity_offload_is_not_heard_with_wrong_parity :
    let T := Script.transport Script.ownedName
    let t : Tag := Tag.ofConfig default { (default : Config) with strictSelect := true }
    let wrong : Frame :=
      { Frame.ofBytes [0x93, 0x20] with
        parity := some [0, 0, 7], whole_le_parity := by rintro p ⟨⟩; decide }
    let d : Script :=
      { inbound := [.frame wrong.withRightParity, .silence, .frame wrong]
        stopsWhenDry := true }
    let s : Session Script := { t.offloading true with stats := .zero, device := d }
    let s' : Session Script := { t.offloading false with stats := .zero, device := d }
    let calls : List (Call Script) :=
      [.step Staging.zeroed, .change (fun d => { d with failuresLeft := 1 }),
        .run Script.stopRaised 5]
    let calls' : List (Call Script) :=
      [.step Staging.filled, .change (fun d => { d with failuresLeft := 1 }),
        .run Script.stopRaised 5]
    (Script.offloadComparison t d.sent).Sessions s s' ∧
      List.Forall₂ (Call.Alike (Script.offloadComparison t d.sent).related) calls calls' ∧
      List.Forall₂ (Moment.SameTalk d.sent) (s.moments T calls) (s'.moments T calls') ∧
      (s.afterCalls T calls).device.sent = [.ofBytes [0xde, 0xad, 0xbe, 0xaf, 0x62]] ∧
      (s'.afterCalls T calls').device.sent
        = [(Frame.ofBytes [0xde, 0xad, 0xbe, 0xaf, 0x62]).withRightParity] ∧
      (s.afterCalls T calls).stats = ⟨2, 1, 0, 0⟩ := by
  intro T t wrong d s s' calls calls'
  obtain ⟨-, hstates, htalk⟩ := parity_offload_is_not_heard Script.ownedName t
  have hs := hstates .zero d
  have hcalls : List.Forall₂ (Call.Alike (Script.offloadComparison t d.sent).related) calls
      calls' :=
    .cons (.step _ _) (.cons (.change fun _ _ h => { h with failuresLeft := rfl })
      (.cons (.run 5 fun _ _ h => h.stopRaised) .nil))
  exact ⟨hs, hcalls, htalk d.sent s s' hs calls calls' hcalls, by decide +kernel,
    by decide +kernel, by decide +kernel⟩

end TagEmulation
