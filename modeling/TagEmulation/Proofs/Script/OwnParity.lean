import Mathlib.Data.List.Forall2
import TagEmulation.Proofs.Script.Ledger

/-!
# Proofs/Script/OwnParity — a scripted device fills in parity bits as any other

A device that checks frames itself leaves their parity bits to `Receive.thenFillParity`.  A scripted
device has a reception of its own, for frames that carry parity bits.  As long as the next cue is no
such frame, the two are the same, misuse included (`Script.receiveWithParity_eq_thenFillParity`).
A frame that carries the right parity bits arrives as one without, if there is a slot for each
(`Frame.sameArrival_withRightParity`).  What arrives is all that a script shows of its frames: of
two scripts on which the same arrives, each call returns the same and leaves two such scripts
(`Script.SameArrival.perform`), and so do any calls (`Script.SameArrival.history`).
-/

namespace TagEmulation

/-! ## What arrives -/

/-- The same arrives of two frames: bits, and parity bits, carried or filled in. -/
structure Frame.SameArrival (f g : Frame) : Prop where
  bytes : f.bytes = g.bytes
  bits : f.bits = g.bits
  parity : f.parity.getD f.rightParity = g.parity.getD g.rightParity

/-- The same arrives: nothing, or of two frames. -/
inductive Cue.SameArrival : Cue → Cue → Prop
  | silence : SameArrival .silence .silence
  | frame {f g : Frame} (h : f.SameArrival g) : SameArrival (.frame f) (.frame g)

/-- Two scripts with cues of which the same arrives, one by one, and nothing else that differs. -/
structure Script.SameArrival (s s' : Script) : Prop where
  inbound : List.Forall₂ Cue.SameArrival s.inbound s'.inbound
  others : s' = { s with inbound := s'.inbound }

/-- The same call, or two calls that put cues into the script of which the same arrives. -/
inductive Act.SameArrival : Act → Act → Prop
  | same (act : Act) : SameArrival act act
  | push {cue cue' : Cue} (h : cue.SameArrival cue') : SameArrival (.push cue) (.push cue')

/-- If the call has slots for parity bits, there is one for each whole byte of the next frame. -/
def Entry.HasRoom (e : Entry) : Prop :=
  match e.act with
  | @Act.receiveWithParity _ m _ _ _ =>
    ∀ f, e.before.inbound.head? = some (.frame f) → f.wholeBytes ≤ m
  | _ => True

/-- The next cue, if there is one, is no frame that carries parity bits. -/
def Script.NextIsPlain (s : Script) : Prop :=
  ∀ f, s.inbound.head? = some (.frame f) → f.parity = none

namespace Frame

theorem SameArrival.refl (f : Frame) : f.SameArrival f := ⟨rfl, rfl, rfl⟩

/-- The right parity bits arrive whether they are carried or filled in. -/
theorem sameArrival_withRightParity (f : Frame) : f.withRightParity.SameArrival f.withoutParity :=
  ⟨rfl, rfl, rfl⟩

theorem SameArrival.byteCount {f g : Frame} (h : f.SameArrival g) : f.byteCount = g.byteCount := by
  rw [Frame.byteCount, Frame.byteCount, h.bytes]

theorem SameArrival.wholeBytes {f g : Frame} (h : f.SameArrival g) :
    f.wholeBytes = g.wholeBytes := by
  rw [Frame.wholeBytes, Frame.wholeBytes, h.bits]

end Frame

theorem Cue.SameArrival.refl (cue : Cue) : cue.SameArrival cue := by
  cases cue with
  | frame f => exact .frame (.refl f)
  | silence => exact .silence

/-- Behind what is laid over its front, a buffer stays as it was. -/
theorem Buffer.drop_overwrite {n : Nat} (b : Buffer n) {source : List UInt8}
    (h : source.length ≤ n) :
    (b.overwrite source).bytes.drop source.length = b.bytes.drop source.length := by
  rw [bytes_overwrite, laidOver, b.length_bytes, List.take_of_length_le h, List.drop_left]

section Filling

variable {σ : Type} {receive : Receive σ} {n m : Nat} {rx rx' : Buffer n} {slots : Buffer m}
  {limit : Option UInt64} {d d' : σ}

theorem Receive.thenFillParity_error {why : Failure}
    (h : receive rx limit d = ⟨.error why, rx', d'⟩) :
    receive.thenFillParity rx slots limit d = ⟨.error why, rx', slots, d'⟩ := by
  simp only [thenFillParity, h]

theorem Receive.thenFillParity_misused {bits : Nat} {breach : Breach}
    (h : receive rx limit d = ⟨.ok bits, rx', d'⟩)
    (hfill : slots.fillParity (rx'.bytes.take (bits / 8)) = .error breach) :
    receive.thenFillParity rx slots limit d = ⟨.error (.breach breach), rx', slots, d'⟩ := by
  simp only [thenFillParity, h, hfill]

theorem Receive.thenFillParity_filled {bits : Nat} {filled : Buffer m}
    (h : receive rx limit d = ⟨.ok bits, rx', d'⟩)
    (hfill : slots.fillParity (rx'.bytes.take (bits / 8)) = .ok filled) :
    receive.thenFillParity rx slots limit d = ⟨.ok bits, rx', filled, d'⟩ := by
  simp only [thenFillParity, h, hfill]

end Filling

namespace Script

variable {s s' : Script} {n m : Nat}

/-! ## The two receptions -/

/-- The next cue brings a fault, or else a frame. -/
theorem next_cases (s : Script) :
    (∃ fault s', s.next = (.error fault, s') ∧ ∀ f, s.inbound.head? ≠ some (.frame f)) ∨
      ∃ f s', s.next = (.ok f, s') ∧ s.inbound.head? = some (.frame f) := by
  match hin : s.inbound with
  | [] => exact .inl ⟨_, _, next_dry hin, nofun⟩
  | .silence :: rest => exact .inl ⟨_, _, next_silence hin, nofun⟩
  | .frame f :: rest => exact .inr ⟨f, _, next_frame hin, rfl⟩

section Receptions

variable (rx : Buffer n) (slots : Buffer m) (limit : Option UInt64)

/-- **Unless the next frame carries parity bits, they are filled in as for any other device.** -/
theorem receiveWithParity_eq_thenFillParity (hplain : s.NextIsPlain) :
    receiveWithParity rx slots limit s
      = Receive.thenFillParity receive rx slots limit s := by
  rcases s.next_cases with ⟨fault, s', hnext, -⟩ | ⟨f, s', hnext, hhead⟩
  · rw [receiveWithParity_fault rx slots limit hnext,
      Receive.thenFillParity_error (receive_fault rx limit hnext)]
  have hnone : f.parity = none := hplain f hhead
  rcases Nat.lt_or_ge n f.byteCount with hbig | hfit
  · rw [receiveWithParity_oversized rx slots limit hnext hbig,
      Receive.thenFillParity_error (receive_oversized rx limit hnext hbig)]
  have hreceive := receive_fitting rx limit hnext hfit
  have hfill := fillParity_overwrite rx slots hfit
  by_cases hroom : f.wholeBytes ≤ m
  · rw [if_pos hroom] at hfill
    rw [receiveWithParity_fitting rx slots limit hnext hfit fun _ => hroom, hnone,
      Receive.thenFillParity_filled hreceive hfill, Option.getD_none]
  · rw [if_neg hroom] at hfill
    rw [receiveWithParity_misused rx slots limit hnext hfit hnone (not_le.mp hroom),
      Receive.thenFillParity_misused hreceive hfill]

/-- A reception of parity bits is misused exactly if the next frame fits the buffer and carries
none, and there are too few slots. -/
theorem receiveWithParity_breach_iff {breach : Breach} :
    (receiveWithParity rx slots limit s).outcome = .error (.breach breach) ↔
      ∃ f, s.inbound.head? = some (.frame f) ∧ f.parity = none ∧ f.byteCount ≤ n ∧
        m < f.wholeBytes ∧ breach = .parityTooShort m f.wholeBytes := by
  rcases s.next_cases with ⟨fault, s', hnext, hhead⟩ | ⟨f, s', hnext, hhead⟩
  · rw [receiveWithParity_fault rx slots limit hnext]
    exact iff_of_false (by rintro ⟨⟩) fun ⟨f, hf, _⟩ => hhead f hf
  simp only [hhead, Option.some.injEq, Cue.frame.injEq, exists_eq_left']
  rcases Nat.lt_or_ge n f.byteCount with hbig | hfit
  · rw [receiveWithParity_oversized rx slots limit hnext hbig]
    exact iff_of_false (by rintro ⟨⟩) fun ⟨_, hfit, _⟩ => absurd hfit (not_le.mpr hbig)
  by_cases hroom : f.parity = none → f.wholeBytes ≤ m
  · rw [receiveWithParity_fitting rx slots limit hnext hfit hroom]
    exact iff_of_false (by rintro ⟨⟩) fun ⟨hnone, _, hfew, _⟩ =>
      absurd (hroom hnone) (not_le.mpr hfew)
  · obtain ⟨hnone, hfew⟩ := Classical.not_imp.mp hroom
    rw [receiveWithParity_misused rx slots limit hnext hfit hnone (not_le.mp hfew)]
    simp [hnone, hfit, not_le.mp hfew, eq_comm]

/-- **The right parity bits are received the same whether they are scripted or filled in**, if there
is a slot for each; slots behind them stay as they were. -/
theorem receiveWithParity_withRightParity {f : Frame} (hroom : f.wholeBytes ≤ m) (rest : List Cue) :
    let r := receiveWithParity rx slots limit { s with inbound := .frame f.withRightParity :: rest }
    r = receiveWithParity rx slots limit { s with inbound := .frame f.withoutParity :: rest } ∧
      r.parity.bytes.drop f.wholeBytes = slots.bytes.drop f.wholeBytes := by
  let before (g : Frame) : Script := { s with inbound := .frame g :: rest }
  have hright : (before f.withRightParity).next = (.ok f.withRightParity, _) := next_frame rfl
  have hwithout : (before f.withoutParity).next = (.ok f.withoutParity, _) := next_frame rfl
  rcases Nat.lt_or_ge n f.byteCount with hbig | hfit
  · rw [receiveWithParity_oversized rx slots limit hright hbig,
      receiveWithParity_oversized rx slots limit hwithout hbig]
    exact ⟨rfl, rfl⟩
  · rw [receiveWithParity_fitting rx slots limit hright hfit fun _ => hroom,
      receiveWithParity_fitting rx slots limit hwithout hfit fun _ => hroom]
    refine ⟨rfl, ?_⟩
    have hlength : f.rightParity.length = f.wholeBytes := f.length_rightParity
    have hdrop := slots.drop_overwrite (hlength.trans_le hroom)
    rwa [hlength] at hdrop

end Receptions

/-! ## Calls of two scripts -/

namespace SameArrival

/-- Two scripts on which the same arrives differ in their cues alone. -/
theorem exists_cues (h : s.SameArrival s') :
    ∃ cues, List.Forall₂ Cue.SameArrival s.inbound cues ∧ s' = { s with inbound := cues } :=
  ⟨s'.inbound, h.inbound, h.others⟩

/-- The next cues bring the same fault, or frames of which the same arrives. -/
theorem next (h : s.SameArrival s') :
    (∃ fault t t', s.next = (.error fault, t) ∧ s'.next = (.error fault, t') ∧
      t.SameArrival t') ∨
    ∃ f g t t', s.inbound.head? = some (.frame f) ∧ f.SameArrival g ∧ s.next = (.ok f, t) ∧
      s'.next = (.ok g, t') ∧ t.SameArrival t' := by
  obtain ⟨cues, hcues, rfl⟩ := h.exists_cues
  generalize hin : s.inbound = inbound at hcues
  cases hcues with
  | nil =>
    refine .inl ⟨_, _, _, next_dry hin, next_dry rfl, ?_, rfl⟩
    rw [hin]
    exact .nil
  | cons hcue hrest =>
    cases hcue with
    | silence => exact .inl ⟨_, _, _, next_silence hin, next_silence rfl, hrest, rfl⟩
    | frame hfg => exact .inr ⟨_, _, _, _, rfl, hfg, next_frame hin, next_frame rfl, hrest, rfl⟩

/-- Both scripts leave a receive alike, … -/
theorem receive (h : s.SameArrival s') (rx : Buffer n) (limit : Option UInt64) :
    let r := Script.receive rx limit s
    let r' := Script.receive rx limit s'
    Reply.received r.outcome r.rx.bytes none = .received r'.outcome r'.rx.bytes none ∧
      r.device.SameArrival r'.device := by
  rcases h.next with ⟨fault, t, t', hs, hs', ht⟩ | ⟨f, g, t, t', -, hfg, hs, hs', ht⟩
  · rw [receive_fault rx limit hs, receive_fault rx limit hs']
    exact ⟨rfl, ht⟩
  rcases Nat.lt_or_ge n f.byteCount with hbig | hfit
  · rw [receive_oversized rx limit hs hbig,
      receive_oversized rx limit hs' (hfg.byteCount ▸ hbig), hfg.byteCount]
    exact ⟨rfl, ht⟩
  · rw [receive_fitting rx limit hs hfit, receive_fitting rx limit hs' (hfg.byteCount ▸ hfit),
      hfg.bytes, hfg.bits]
    exact ⟨rfl, ht⟩

/-- … a receive with parity bits, if there are slots for them, … -/
theorem receiveWithParity (h : s.SameArrival s') (rx : Buffer n) (slots : Buffer m)
    (limit : Option UInt64)
    (hroom : ∀ f, s.inbound.head? = some (.frame f) → f.wholeBytes ≤ m) :
    let r := Script.receiveWithParity rx slots limit s
    let r' := Script.receiveWithParity rx slots limit s'
    Reply.received r.outcome r.rx.bytes (some r.parity.bytes)
        = .received r'.outcome r'.rx.bytes (some r'.parity.bytes) ∧
      r.device.SameArrival r'.device := by
  rcases h.next with ⟨fault, t, t', hs, hs', ht⟩ | ⟨f, g, t, t', hin, hfg, hs, hs', ht⟩
  · rw [receiveWithParity_fault rx slots limit hs, receiveWithParity_fault rx slots limit hs']
    exact ⟨rfl, ht⟩
  rcases Nat.lt_or_ge n f.byteCount with hbig | hfit
  · rw [receiveWithParity_oversized rx slots limit hs hbig,
      receiveWithParity_oversized rx slots limit hs' (hfg.byteCount ▸ hbig), hfg.byteCount]
    exact ⟨rfl, ht⟩
  · have hslots : f.wholeBytes ≤ m := hroom f hin
    rw [receiveWithParity_fitting rx slots limit hs hfit fun _ => hslots,
      receiveWithParity_fitting rx slots limit hs' (hfg.byteCount ▸ hfit)
        fun _ => hfg.wholeBytes ▸ hslots,
      hfg.bytes, hfg.bits, hfg.parity]
    exact ⟨rfl, ht⟩

/-- … and a send. -/
theorem recordIf (h : s.SameArrival s') (made : Except Fault Frame) :
    let r := s.recordIf made
    let r' := s'.recordIf made
    Reply.acknowledged r.outcome = .acknowledged r'.outcome ∧
      r.device.SameArrival r'.device := by
  obtain ⟨cues, hcues, rfl⟩ := h.exists_cues
  cases made with
  | error fault => exact ⟨rfl, hcues, rfl⟩
  | ok f =>
    intro r r'
    simp only [r, r', Script.recordIf]
    rcases Nat.eq_zero_or_pos s.failuresLeft with hleft | hleft
    · rw [record_of_sending hleft, record_of_sending (s := { s with inbound := cues }) hleft]
      exact ⟨rfl, hcues, rfl⟩
    · rw [record_of_failing hleft, record_of_failing (s := { s with inbound := cues }) hleft]
      exact ⟨rfl, hcues, rfl⟩

/-- **Any one call returns the same**, and the same still arrives. -/
theorem perform (name : String) {act act' : Act} (h : s.SameArrival s')
    (hact : act.SameArrival act')
    (hroom : Entry.HasRoom ⟨s, act, (s.perform name act).1, (s.perform name act).2⟩) :
    (s.perform name act).1 = (s'.perform name act').1 ∧
      (s.perform name act).2.SameArrival (s'.perform name act').2 := by
  obtain ⟨cues, hcues, hs'⟩ := h.exists_cues
  cases hact with
  | push hcue =>
    subst hs'
    exact ⟨rfl, List.rel_append hcues (.cons hcue .nil), rfl⟩
  | same act =>
    cases act with
    | push cue =>
      subst hs'
      exact ⟨rfl, List.rel_append hcues (.cons (.refl cue) .nil), rfl⟩
    | receive rx limit => exact h.receive rx limit
    | receiveWithParity rx slots limit => exact h.receiveWithParity rx slots limit hroom
    | becomeTarget identity rx limit =>
      subst hs'
      have hnamed : SameArrival { s with identities := s.identities ++ [identity] }
          { s with inbound := cues, identities := s.identities ++ [identity] } := ⟨hcues, rfl⟩
      exact hnamed.receive rx limit
    | transmit tx bits => exact h.recordIf (Frame.ofBuffer tx bits)
    | transmitWithParity tx bits parity =>
      exact h.recordIf ((Frame.ofBuffer tx bits).bind (·.withParity parity))
    | configure option value => subst hs'; exact ⟨rfl, hcues, rfl⟩
    | failSends count => subst hs'; exact ⟨rfl, hcues, rfl⟩
    | popSent => subst hs'; exact ⟨rfl, hcues, rfl⟩

/-- **Any calls return the same**, since each does. -/
theorem history (name : String) {acts acts' : List Act}
    (hacts : List.Forall₂ Act.SameArrival acts acts') :
    ∀ {s s' : Script}, s.SameArrival s' → (∀ e ∈ s.history name acts, e.HasRoom) →
      (s.history name acts).map Entry.reply = (s'.history name acts').map Entry.reply ∧
        (s.closing name acts).SameArrival (s'.closing name acts') := by
  induction hacts with
  | nil => exact fun h _ => ⟨rfl, h⟩
  | cons hact _ ih =>
    intro s s' h hroom
    obtain ⟨hfirst, hrest⟩ := List.forall_mem_cons.mp hroom
    obtain ⟨hreply, hafter⟩ := h.perform name hact hfirst
    obtain ⟨hreplies, hclosing⟩ := ih hafter hrest
    exact ⟨congrArg₂ List.cons hreply hreplies, hclosing⟩

end SameArrival

end Script

/-- **A scripted device fills in parity bits as any other.**  Unless the next cue is a frame that
carries parity bits, its own reception of them is the one of a device that has checked the frame:
the outcome, both buffers and the device it leaves.  It is then misused exactly if the frame fits
the buffer and has more whole bytes than there are slots.  If there are slots enough, a frame
scripted with the right parity bits is received as the same frame without, and slots behind those of
its whole bytes stay as they were.  Nor can the two be told apart by any other calls, wherever they
stand in the script. -/
theorem own_parity_is_filled_in (name : String) {n m : Nat} (rx : Buffer n) (slots : Buffer m)
    (limit : Option UInt64) (s : Script) :
    let T := Script.transport name
    let received := T.receiveWithParity rx slots limit
    (s.NextIsPlain →
      received s = Receive.thenFillParity T.receive rx slots limit s ∧
      ∀ breach, (received s).outcome = .error (.breach breach) ↔
        ∃ f, s.inbound.head? = some (.frame f) ∧ f.byteCount ≤ n ∧ m < f.wholeBytes ∧
          breach = .parityTooShort m f.wholeBytes) ∧
    (∀ (f : Frame) (rest : List Cue), f.wholeBytes ≤ m →
      let right := received { s with inbound := .frame f.withRightParity :: rest }
      right = received { s with inbound := .frame f.withoutParity :: rest } ∧
        right.parity.bytes.drop f.wholeBytes = slots.bytes.drop f.wholeBytes) ∧
    (∀ f : Frame, f.withRightParity.SameArrival f.withoutParity) ∧
    ∀ (s' : Script) (acts acts' : List Act), s.SameArrival s' →
      List.Forall₂ Act.SameArrival acts acts' → (∀ e ∈ s.history name acts, e.HasRoom) →
      (s.history name acts).map Entry.reply = (s'.history name acts').map Entry.reply ∧
        (s.closing name acts).SameArrival (s'.closing name acts') := by
  refine ⟨fun hplain => ⟨?_, fun breach => ?_⟩, fun f rest hroom => ?_,
    Frame.sameArrival_withRightParity, fun s' acts acts' h hacts => h.history name hacts⟩
  · exact Script.receiveWithParity_eq_thenFillParity rx slots limit hplain
  · refine (Script.receiveWithParity_breach_iff rx slots limit).trans (exists_congr fun f => ?_)
    exact and_congr_right fun hnext => and_iff_right (hplain f hnext)
  · exact Script.receiveWithParity_withRightParity rx slots limit hroom rest

/-- Two whole bytes and five bits, received into one slot and into three, of which two are filled
in; and then once more, from scripts on which the same arrives. -/
theorem own_parity_is_filled_in_for_two_bytes :
    let T := Script.transport Script.ownedName
    let f : Frame := ⟨[0x93, 0x20, 0x1f], 21, none, rfl, by simp⟩
    let s : Script := { inbound := [.frame f] }
    let right : Script := { inbound := [.frame f.withRightParity] }
    let rx : Buffer 4 := Buffer.zeroed 4
    let slots : Buffer 3 := ⟨[7, 7, 7], rfl⟩
    let acts : List Act := [.receiveWithParity rx slots none, .receive rx none]
    s.NextIsPlain ∧
      (T.receiveWithParity rx (Buffer.zeroed 1) none s).outcome
        = .error (.breach (.parityTooShort 1 2)) ∧
      T.receiveWithParity rx slots none s = Receive.thenFillParity T.receive rx slots none s ∧
      (T.receiveWithParity rx slots none s).outcome = .ok 21 ∧
      (T.receiveWithParity rx slots none s).parity.bytes = [1, 0, 7] ∧
      f.wholeBytes ≤ 3 ∧
      T.receiveWithParity rx slots none right = T.receiveWithParity rx slots none s ∧
      right.SameArrival s ∧ (∀ e ∈ right.history Script.ownedName acts, e.HasRoom) ∧
      (right.history Script.ownedName acts).map Entry.reply
        = (s.history Script.ownedName acts).map Entry.reply := by
  intro T f s right rx slots acts
  have hplain : s.NextIsPlain := by rintro g ⟨⟩; rfl
  have hsame : right.SameArrival s := ⟨.cons (.frame ⟨rfl, rfl, rfl⟩) .nil, rfl⟩
  have hacts : List.Forall₂ Act.SameArrival acts acts :=
    List.forall₂_same.mpr fun act _ => .same act
  have hroom : ∀ e ∈ right.history Script.ownedName acts, e.HasRoom := by
    refine List.forall_mem_cons.mpr ⟨?_, List.forall_mem_cons.mpr ⟨trivial, List.forall_mem_nil _⟩⟩
    rintro g ⟨⟩
    decide
  obtain ⟨hfewSlots, -⟩ := own_parity_is_filled_in Script.ownedName rx (Buffer.zeroed 1) none s
  obtain ⟨hfilled, hright, -⟩ := own_parity_is_filled_in Script.ownedName rx slots none s
  obtain ⟨-, -, -, hcalls⟩ := own_parity_is_filled_in Script.ownedName rx slots none right
  exact ⟨hplain, ((hfewSlots hplain).2 _).mpr ⟨f, rfl, by decide, by decide, by decide⟩,
    (hfilled hplain).1, by decide, by decide, by decide, (hright f [] (by decide)).1, hsame, hroom,
    (hcalls s acts acts hsame hacts hroom).1⟩

end TagEmulation
