import Mathlib.Tactic.SplitIfs
import TagEmulation.Proofs.Script.Arrival

/-!
# Proofs/Script/Opening — bringing a tag up with a scripted reader

`Script.opening` tells from the first cue alone whether a tag comes up and what it then finds on its
device, and `Tag.outcome_bringUp` says that bringing it up comes to that.  The first frame has no
say in it but by its length, and what the options say of parity only shows in the record of the
options.
-/

namespace TagEmulation

namespace Script

/-- What bringing a tag up comes to, read off the first cue. -/
def opening (t : Tag) (d : Script) : Except Failure (Session Script) :=
  match d.inbound with
  | [] => .error (.fault (if d.disconnectsWhenDry then .disconnected else .timeout))
  | .silence :: _ => .error (.fault .timeout)
  | .frame f :: rest =>
    if f.byteCount ≤ stagingSize then
      .ok { t with
        stats := .zero
        device := { d with
          inbound := rest
          identities := d.identities ++ [t.identity]
          options := d.options ++
            [(.handleCrc, false), (.handleParity, t.config.hardwareParity)] } }
    else .error (.fault (.badFrame (.exceedsBuffer f.byteCount stagingSize)))

variable {n : Nat} (rx : Buffer n) (limit : Option UInt64) {s s' : Script} {f : Frame}

/-! ## Receiving -/

theorem receive_fault {fault : Fault} (hnext : s.next = (.error fault, s')) :
    receive rx limit s = ⟨.error (.fault fault), rx, s'⟩ := by
  simp only [receive, hnext]

theorem receive_fitting (hnext : s.next = (.ok f, s')) (hfit : f.byteCount ≤ n) :
    receive rx limit s = ⟨.ok f.bits, rx.overwrite f.bytes, s'⟩ := by
  simp only [receive, hnext, deliver, if_pos hfit]

theorem receive_oversized (hnext : s.next = (.ok f, s')) (hbig : n < f.byteCount) :
    receive rx limit s
      = ⟨.error (.fault (.badFrame (.exceedsBuffer f.byteCount n))), rx, s'⟩ := by
  simp only [receive, hnext, deliver, if_neg (not_le.mpr hbig)]

end Script

namespace Tag

variable {σ : Type} {T : Transport σ} {t : Tag} {d d' d'' : σ} {rx : Buffer stagingSize}

/-! ## Bringing a tag up -/

/-- A tag whose device hears no reader does not come up. -/
theorem outcome_bringUp_of_error {why : Failure}
    (h : T.becomeTarget t.identity (Buffer.zeroed stagingSize) t.config.firstMillis d
      = ⟨.error why, rx, d'⟩) : (t.bringUp T d).outcome = .error why := by
  simp only [bringUp, firstCommand, h, Except.bind]

/-- A tag whose device hears a reader and obeys the options comes up, and logs how. -/
theorem bringUp_of_ok {bits : Nat} {heard : Heard}
    (h : T.becomeTarget t.identity (Buffer.zeroed stagingSize) t.config.firstMillis d
      = ⟨.ok bits, rx, d'⟩)
    (hheard : heardPlain rx.bytes bits = .ok heard) (htaken : t.takeOver T d' = ⟨.ok (), d''⟩) :
    t.bringUp T d
      = ⟨.ok { t with stats := .zero, device := d'' }, d'',
          t.identity.misfitEvents ++ [.firstCommand T.name heard.frame] ++
            [.broughtUp t.identity.uid t.config.hardwareParity]⟩ := by
  simp only [bringUp, firstCommand, h, Except.bind, hheard, htaken]

/-- A scripted device obeys the options and keeps a record of them. -/
theorem takeOver_script (name : String) (t : Tag) (d : Script) :
    t.takeOver (Script.transport name) d = ⟨.ok (), { d with
      options := d.options ++
        [(.handleCrc, false), (.handleParity, t.config.hardwareParity)] }⟩ := by
  simp only [takeOver, Script.transport, List.append_assoc, List.singleton_append]

/-- **A frame that fits brings a tag up.**  The log tells of the frame without its parity bits. -/
theorem bringUp_of_fitting (name : String) (t : Tag) {d : Script} {f : Frame} {rest : List Cue}
    (hin : d.inbound = .frame f :: rest) (hfit : f.byteCount ≤ stagingSize) :
    let device : Script := { d with
      inbound := rest
      identities := d.identities ++ [t.identity]
      options := d.options ++ [(.handleCrc, false), (.handleParity, t.config.hardwareParity)] }
    t.bringUp (Script.transport name) d
      = ⟨.ok { t with stats := .zero, device }, device,
          t.identity.misfitEvents ++ [.firstCommand name f.withoutParity] ++
            [.broughtUp t.identity.uid t.config.hardwareParity]⟩ := by
  intro device
  let d' : Script := { d with identities := d.identities ++ [t.identity] }
  let rx := Buffer.zeroed stagingSize
  have hheard := heardPlain_of_take f (rx.take_overwrite hfit)
  exact bringUp_of_ok
    (Script.receive_fitting rx t.config.firstMillis (Script.next_frame (s := d') hin) hfit) hheard
    (takeOver_script name t _)

/-- **Bringing a tag up comes to what the first cue tells.** -/
theorem outcome_bringUp (name : String) (t : Tag) (d : Script) :
    (t.bringUp (Script.transport name) d).outcome = d.opening t := by
  let d' : Script := { d with identities := d.identities ++ [t.identity] }
  let rx := Buffer.zeroed stagingSize
  let limit := t.config.firstMillis
  match hin : d.inbound with
  | [] =>
    have hfault := Script.receive_fault rx limit (Script.next_dry (s := d') hin)
    rw [outcome_bringUp_of_error hfault, Script.opening, hin]
  | .silence :: rest =>
    have hfault := Script.receive_fault rx limit (Script.next_silence (s := d') hin)
    rw [outcome_bringUp_of_error hfault, Script.opening, hin]
  | .frame f :: rest =>
    have hnext := Script.next_frame (s := d') hin
    simp only [Script.opening, hin]
    split_ifs with hfit
    · rw [bringUp_of_fitting name t hin hfit]
    · exact outcome_bringUp_of_error (Script.receive_oversized rx limit hnext (not_le.mp hfit))

end Tag

end TagEmulation
