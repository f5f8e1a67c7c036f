import TagEmulation.Proofs.Codec.OpenBits
import TagEmulation.Proofs.Script.Opening
import TagEmulation.Proofs.Session.Lockstep

/-!
# Proofs/Script/Beside — two scripts side by side

Two scripts are side by side (`Script.Beside`) if their cues are related one by one and the answers
sent so far are the same, each script keeping them in its own way.  If related cues are the same on
the air (`Cue.SameOnAir`), then two tags that differ in no more than who is in charge of parity go
in lockstep on them: `Script.lockstep_beside`.  They also come up together
(`Script.openings_beside`).
-/

namespace TagEmulation

/-! ## What is compared -/

/-- The same happens on the air: nothing, or a frame with the same bits. -/
inductive Cue.SameOnAir : Cue → Cue → Prop
  | silence : SameOnAir .silence .silence
  | frame {f g : Frame} (h : f.SameBits g) : SameOnAir (.frame f) (.frame g)

theorem Cue.SameOnAir.refl (cue : Cue) : cue.SameOnAir cue := by
  cases cue with
  | frame f => exact .frame (.refl f)
  | silence => exact .silence

/-- The event shows a frame as it was received. -/
def Event.showsReceived : Event → Bool
  | .firstCommand _ _ | .parityWrong _ _ | .parityRight _ | .heard _ => true
  | _ => false

/-- The cues still to come are related one by one, the same answers were sent since the frames
`before`, and the scripts are set alike. -/
structure Script.Beside (cues : Cue → Cue → Prop) (before : List Frame) (c c' : Config)
    (d d' : Script) : Prop where
  inbound : List.Forall₂ cues d.inbound d'.inbound
  sent : ∃ said : List Response, d.sent = before ++ said.map (fun r => c.outgoing r.encode) ∧
    d'.sent = before ++ said.map fun r => c'.outgoing r.encode
  identities : d.identities = d'.identities
  failuresLeft : d.failuresLeft = d'.failuresLeft
  disconnectsWhenDry : d.disconnectsWhenDry = d'.disconnectsWhenDry
  stopsWhenDry : d.stopsWhenDry = d'.stopsWhenDry
  stopRaised : d.stopRaised = d'.stopRaised

/-- Two tags on scripts side by side; of their logs, all is looked at but the frames received. -/
def Script.comparison (t t' : Tag) (cues : Cue → Cue → Prop) (before : List Frame) :
    Comparison Script where
  first := t
  second := t'
  related := Script.Beside cues before t.config t'.config
  looksAt e := !e.showsReceived

/-- The tags say the same: no more differs than who is in charge of parity, and the time limits. -/
structure Tag.Alike (t t' : Tag) : Prop where
  responder : t.responder = t'.responder
  quiet : t.config.quiet = t'.config.quiet

/-! ## The log of a round, but for the frames received -/

section Log

variable {r : Responder} {quiet : Bool} {heard : Heard}

theorem filter_parityEvents :
    (Round.parityEvents heard).filter (fun e => !e.showsReceived) = [] := by
  unfold Round.parityEvents
  split <;> rfl

/-- Of a frame received, the log without it keeps no more than whether it opens a round. -/
theorem filter_heardEvents {f : Frame} :
    (Round.heardEvents quiet f).filter (fun e => !e.showsReceived)
      = if quiet then [] else if FrameKind.ofBits f.bits = .request then [.newRound] else [] := by
  unfold Round.heardEvents
  split_ifs <;> rfl

theorem filter_objected {fault? : Option Fault} :
    (fault?.map Event.objected).toList.filter (fun e => !e.showsReceived)
      = (fault?.map Event.objected).toList := by
  cases fault? <;> rfl

end Log

namespace Script

variable {t t' : Tag} {cues : Cue → Cue → Prop} {before : List Frame} {f g : Frame}

/-! ## Rounds side by side -/

theorem sameBits_heard (c c' : Config) (h : f.SameBits g) :
    (c.heard f).frame.SameBits (c'.heard g).frame := by
  refine ⟨by rw [c.heard_bits, c'.heard_bits, h.1], fun i hi => ?_⟩
  rw [c.heard_bits] at hi
  rw [Frame.bit, Frame.bit, Frame.byte, Frame.byte, c.heard_bytes, c'.heard_bytes]
  exact h.2 i hi

/-- What is logged before an answer is the same, but for the frame received. -/
theorem filter_inboundEvents (ht : t.Alike t') (h : f.SameBits g) :
    (Round.inboundEvents t.responder t.config.quiet (t.config.heard f)).filter
        (fun e => !e.showsReceived)
      = (Round.inboundEvents t'.responder t'.config.quiet (t'.config.heard g)).filter
          fun e => !e.showsReceived := by
  have hheard := sameBits_heard t.config t'.config h
  simp only [Round.inboundEvents, List.filter_append, filter_parityEvents, filter_heardEvents,
    filter_objected, hheard.objection?_eq, hheard.1, ht.responder, ht.quiet]

theorem rounds_silent (why : Failure) :
    (comparison t t' cues before).Rounds (.silent why) (.silent why) :=
  ⟨rfl, fun _ => rfl, rfl⟩

theorem rounds_ignored (ht : t.Alike t') (h : f.SameBits g) :
    (comparison t t' cues before).Rounds (.ignored (t.config.heard f))
      (.ignored (t'.config.heard g)) where
  outcome := by rw [Round.outcome, Round.outcome, Config.heard_bits, Config.heard_bits, h.1]
  count s := by rw [Round.count, Round.count, Config.heard_bits, Config.heard_bits, h.1]
  events := by
    simp only [comparison, Round.events, List.filter_append, filter_inboundEvents ht h,
      Config.heard_bits, h.1]

theorem rounds_answered (ht : t.Alike t') (h : f.SameBits g) (reply : Frame) :
    (comparison t t' cues before).Rounds (.answered (t.config.heard f) reply)
      (.answered (t'.config.heard g) reply) where
  outcome := by rw [Round.outcome, Round.outcome, Config.heard_bits, Config.heard_bits, h.1]
  count s := by rw [Round.count, Round.count, Config.heard_bits, Config.heard_bits, h.1]
  events := by
    simp only [comparison, Round.events, List.filter_append]
    rw [filter_inboundEvents ht h, ht.quiet]

theorem rounds_unsent (ht : t.Alike t') (h : f.SameBits g) (reply : Frame) (why : Failure) :
    (comparison t t' cues before).Rounds (.unsent (t.config.heard f) reply why)
      (.unsent (t'.config.heard g) reply why) where
  outcome := rfl
  count s := by rw [Round.count, Round.count, Config.heard_bits, Config.heard_bits, h.1]
  events := filter_inboundEvents ht h

/-! ## Lockstep -/

/-- An answer is the frame of a response. -/
theorem exists_encode_of_answer {r : Responder} {reply : Frame} (h : r.answer f = some reply) :
    ∃ response : Response, response.encode = reply := by
  unfold Responder.answer at h
  split_ifs at h
  obtain ⟨response, -, hreply⟩ := Option.map_eq_some_iff.mp h
  exact ⟨response, hreply⟩

/-- **The next cue is played the same on scripts side by side**, and leaves them so. -/
theorem play_beside (ht : t.Alike t') (hcues : ∀ cue cue', cues cue cue' → cue.SameOnAir cue')
    {d d' : Script} (hd : Beside cues before t.config t'.config d d') :
    (comparison t t' cues before).Rounds (d.play t.responder t.config).1
        (d'.play t'.responder t'.config).1 ∧
      Beside cues before t.config t'.config (d.play t.responder t.config).2
        (d'.play t'.responder t'.config).2 := by
  match hin : d.inbound, hin' : d'.inbound, hd.inbound with
  | [], [], .nil =>
    rw [play_dry hin, play_dry hin']
    refine ⟨?_, { hd with stopRaised := ?_ }⟩
    · rw [hd.disconnectsWhenDry]
      exact rounds_silent _
    · rw [hd.stopRaised, hd.stopsWhenDry]
  | cue :: rest, cue' :: rest', .cons hcue hrest =>
    have hgone : Beside cues before t.config t'.config { d with inbound := rest }
      { d' with inbound := rest' } := { hd with inbound := hrest }
    cases hcues cue cue' hcue with
    | silence =>
      rw [play_silence hin, play_silence hin']
      exact ⟨rounds_silent _, hgone⟩
    | @frame f g h =>
      rcases Nat.lt_or_ge stagingSize f.byteCount with hbig | hfit
      · rw [play_oversized hin hbig, play_oversized hin' (h.byteCount_eq ▸ hbig), h.byteCount_eq]
        exact ⟨rounds_silent _, hgone⟩
      · have hfit' : g.byteCount ≤ stagingSize := h.byteCount_eq ▸ hfit
        have hanswer : t.responder.answer f = t'.responder.answer g := by
          rw [ht.responder, h.answer_eq]
        cases hr : t.responder.answer f with
        | none =>
          have hr' := hanswer.symm.trans hr
          rw [play_ignored hin hfit hr, play_ignored hin' hfit' hr']
          exact ⟨rounds_ignored ht h, hgone⟩
        | some reply =>
          have hr' := hanswer.symm.trans hr
          rcases Nat.eq_zero_or_pos d.failuresLeft with hsend | hsend
          · rw [play_answered hin hfit hr hsend,
              play_answered hin' hfit' hr' (hd.failuresLeft ▸ hsend)]
            obtain ⟨response, rfl⟩ := exists_encode_of_answer hr
            obtain ⟨said, hsent, hsent'⟩ := hd.sent
            refine ⟨rounds_answered ht h _,
              { hgone with sent := ⟨said ++ [response], ?_, ?_⟩ }⟩
            · rw [List.map_append, ← List.append_assoc, ← hsent]
              rfl
            · rw [List.map_append, ← List.append_assoc, ← hsent']
              rfl
          · rw [play_unsent hin hfit hr hsend,
              play_unsent hin' hfit' hr' (hd.failuresLeft ▸ hsend)]
            refine ⟨rounds_unsent ht h _ _, { hgone with failuresLeft := ?_ }⟩
            rw [hd.failuresLeft]

/-- **Tags that say the same go in lockstep on scripts side by side.** -/
theorem lockstep_beside (name : String) (ht : t.Alike t')
    (hcues : ∀ cue cue', cues cue cue' → cue.SameOnAir cue') :
    (comparison t t' cues before).Lockstep (transport name) := by
  intro d d' hd staging staging'
  obtain ⟨left, hx⟩ := exchange_eq_play name t.responder t.config staging d
  obtain ⟨left', hx'⟩ := exchange_eq_play name t'.responder t'.config staging' d'
  change (comparison t t' cues before).Rounds
      (exchange _ t.responder t.config staging d).round
      (exchange _ t'.responder t'.config staging' d').round ∧
    Beside cues before t.config t'.config (exchange _ t.responder t.config staging d).device
      (exchange _ t'.responder t'.config staging' d').device
  rw [hx, hx']
  exact play_beside ht hcues hd

/-- **They also come up together.** -/
theorem openings_beside (name : String) (ht : t.Alike t')
    (hcues : ∀ cue cue', cues cue cue' → cue.SameOnAir cue') {d d' : Script}
    (hd : Beside cues before t.config t'.config d d') :
    (comparison t t' cues before).Openings (t.bringUp (transport name) d).outcome
      (t'.bringUp (transport name) d').outcome := by
  rw [Tag.outcome_bringUp, Tag.outcome_bringUp]
  match hin : d.inbound, hin' : d'.inbound, hd.inbound with
  | [], [], .nil =>
    rw [opening, opening, hin, hin', hd.disconnectsWhenDry]
    exact .failed _
  | cue :: rest, cue' :: rest', .cons hcue hrest =>
    cases hcues cue cue' hcue with
    | silence =>
      simp only [opening, hin, hin']
      exact .failed _
    | @frame f g h =>
      simp only [opening, hin, hin', h.byteCount_eq]
      split_ifs with hfit
      · refine .up ⟨rfl, rfl, rfl, { hd with inbound := hrest, identities := ?_ }⟩
        rw [hd.identities, Tag.identity, Tag.identity, ht.responder]
      · exact .failed _

end Script

end TagEmulation
