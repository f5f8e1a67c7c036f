import TagEmulation.Proofs.Script.Beside

/-!
# Proofs/Script/OpenBits — the bits a frame leaves open change no session

Nothing that a tag or a reader makes of a frame depends on the bits that the frame does not count
(Proofs/Codec/OpenBits), and so no session does: `open_bits_change_nothing`.  They show in one place
only, the log of the frames received.
-/

namespace TagEmulation

/-- What there is to see after both calls is the same but for bits left open: they returned the
same, and the counters are equal, the frames sent, the scripts still to come as far as they go on
the air, and all of the log but the frames received. -/
structure Moment.SameOnAir (m m' : Moment Script) : Prop where
  returned : m.returned = m'.returned
  stats : m.session.stats = m'.session.stats
  sent : m.session.device.sent = m'.session.device.sent
  script : List.Forall₂ Cue.SameOnAir m.session.device.inbound m'.session.device.inbound
  events : m.events.filter (fun e => !e.showsReceived)
    = m'.events.filter fun e => !e.showsReceived

namespace Script

/-- The same tag on two scripts that are the same on the air. -/
def onAirComparison (t : Tag) (before : List Frame) : Comparison Script :=
  comparison t t Cue.SameOnAir before

theorem alike_self (t : Tag) : t.Alike t := ⟨rfl, rfl⟩

theorem Beside.withInbound (c : Config) (d : Script) {inbound : List Cue}
    (h : List.Forall₂ Cue.SameOnAir d.inbound inbound) :
    Beside Cue.SameOnAir d.sent c c d { d with inbound } where
  inbound := h
  sent := ⟨[], (List.append_nil _).symm, (List.append_nil _).symm⟩
  identities := rfl
  failuresLeft := rfl
  disconnectsWhenDry := rfl
  stopsWhenDry := rfl
  stopRaised := rfl

theorem sameOnAir_of_moments {t : Tag} {before : List Frame} {m m' : Moment Script}
    (h : (onAirComparison t before).Moments m m') : m.SameOnAir m' := by
  have hdevices : Beside Cue.SameOnAir before _ _ m.session.device m'.session.device :=
    h.sessions.devices
  obtain ⟨said, hsent, hsent'⟩ := hdevices.sent
  exact ⟨h.returned, h.sessions.stats, hsent.trans hsent'.symm, hdevices.inbound, h.events⟩

end Script

/-- **The bits that a frame leaves open change nothing.**  Of two frames that are the same on the
air, readers of commands and of answers make the same, down to the fault; the same parity bits are
wrong for both, and a tag answers both alike.  On scripts that are the same on the air, cue by cue,
a tag fails to come up for the same reason or comes up side by side; sessions in the same state are
side by side as well; and from then on, if the same is done with both, it comes to the same. -/
theorem open_bits_change_nothing :
    (∀ f g : Frame, f.SameBits g →
      Command.decode f = Command.decode g ∧
      Command.decodeRequest f = Command.decodeRequest g ∧
      Command.decodeAnticollision f = Command.decodeAnticollision g ∧
      Command.decodeSelect f = Command.decodeSelect g ∧
      (∀ c, Response.decode c f = Response.decode c g) ∧
      (∀ parity,
        parityMismatches f.bytes f.bits parity = parityMismatches g.bytes g.bits parity) ∧
      ∀ r : Responder, r.answer f = r.answer g) ∧
    ∀ (name : String) (t : Tag),
      let T := Script.transport name
      (∀ (d : Script) inbound, List.Forall₂ Cue.SameOnAir d.inbound inbound →
        (Script.onAirComparison t d.sent).Openings (t.bringUp T d).outcome
            (t.bringUp T { d with inbound }).outcome ∧
          ∀ stats, (Script.onAirComparison t d.sent).Sessions { t with stats, device := d }
            { t with stats, device := { d with inbound } }) ∧
      ∀ before s s', (Script.onAirComparison t before).Sessions s s' → ∀ calls calls',
        List.Forall₂ (Call.Alike (Script.onAirComparison t before).related) calls calls' →
        List.Forall₂ Moment.SameOnAir (s.moments T calls) (s'.moments T calls') := by
  refine ⟨fun f g h => ⟨h.decode_eq, h.decodeRequest_eq, h.decodeAnticollision_eq,
    h.decodeSelect_eq, h.decodeResponse_eq, h.parityMismatches_eq, h.answer_eq⟩, ?_⟩
  intro name t T
  have ht := Script.alike_self t
  refine ⟨fun d inbound hinbound => ⟨?_, fun stats => ?_⟩, ?_⟩
  · exact Script.openings_beside name ht (fun _ _ => id) (.withInbound _ d hinbound)
  · exact ⟨rfl, rfl, rfl, .withInbound _ d hinbound⟩
  · intro before s s' hs calls calls' hcalls
    have hlockstep : (Script.onAirComparison t before).Lockstep T :=
      Script.lockstep_beside name ht fun _ _ => id
    exact (hlockstep.moments hcalls hs).imp fun _ _ => Script.sameOnAir_of_moments

/-- A request in seven bits, once with the eighth bit set and once without, and a run that has
parity in the session. -/
theorem open_bits_change_nothing_of_request :
    let T := Script.transport Script.ownedName
    let t : Tag := Tag.ofConfig default { (default : Config) with hardwareParity := false }
    let f : Frame := Frame.short 0x26
    let g : Frame := ⟨[0xa6], 7, none, rfl, nofun⟩
    let d : Script := { inbound := [.silence, .frame f], stopsWhenDry := true }
    let inbound : List Cue := [.silence, .frame g]
    let s : Session Script := { t with stats := .zero, device := d }
    let s' : Session Script := { t with stats := .zero, device := { d with inbound } }
    let calls : List (Call Script) := [.step Staging.zeroed, .run Script.stopRaised 3]
    f.SameBits g ∧ f ≠ g ∧ Command.decode g = .ok .reqa ∧
      List.Forall₂ Cue.SameOnAir d.inbound inbound ∧
      (Script.onAirComparison t d.sent).Sessions s s' ∧
      List.Forall₂ (Call.Alike (Script.onAirComparison t d.sent).related) calls calls ∧
      List.Forall₂ Moment.SameOnAir (s.moments T calls) (s'.moments T calls) ∧
      (s'.afterCalls T calls).stats = ⟨1, 1, 0, 1⟩ := by
  intro T t f g d inbound s s' calls
  have hsame : f.SameBits g := by decide
  obtain ⟨hframes, hsessions⟩ := open_bits_change_nothing
  obtain ⟨hopening, htalk⟩ := hsessions Script.ownedName t
  have hinbound : List.Forall₂ Cue.SameOnAir d.inbound inbound :=
    .cons .silence (.cons (.frame hsame) .nil)
  have hs := (hopening d inbound hinbound).2 .zero
  have hcalls : List.Forall₂ (Call.Alike (Script.onAirComparison t d.sent).related) calls calls :=
    .cons (.step _ _) (.cons (.run 3 fun _ _ h => h.stopRaised) .nil)
  exact ⟨hsame, by decide, (hframes f g hsame).1.symm.trans rfl, hinbound, hs, hcalls,
    htalk d.sent s s' hs calls calls hcalls, by decide +kernel⟩

end TagEmulation
