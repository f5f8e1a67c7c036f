import TagEmulation.Proofs.Script.Play
import TagEmulation.Proofs.Session.Exchanges

/-!
# Proofs/Script/Course — a whole session with a scripted reader

A run takes the cues of a script one by one.  As long as they pass (`Cue.Passes`), what it leaves is
known in one formula (`Session.past`), and `poll_past` moves the run behind them.  What ends the run
is the next cue alone:

* `run_answers_script` — a script of which every cue passes is answered throughout, and the flag
  stops the run that finds it dry.
* `run_fails_script` — any other run fails at the first cue that does not pass, or when it finds the
  reader gone.
-/

namespace TagEmulation

/-! ## What a script comes to -/

/-- The frame of a cue, if it is one. -/
def Cue.frame? : Cue → Option Frame
  | .frame f => some f
  | .silence => none

/-- A cue that ends no run: a silence, or a frame that fits and, if the next send fails, has no
answer. -/
def Cue.Passes (r : Responder) (failuresLeft : Nat) : Cue → Prop
  | .silence => True
  | .frame f => f.byteCount ≤ stagingSize ∧ (0 < failuresLeft → r.answer f = none)

instance (r : Responder) (failuresLeft : Nat) : DecidablePred (Cue.Passes r failuresLeft)
  | .silence => inferInstanceAs (Decidable True)
  | .frame f =>
    inferInstanceAs (Decidable (f.byteCount ≤ stagingSize ∧ (0 < failuresLeft → r.answer f = none)))

/-- What comes of a cue that passes: a silence, or a frame that is answered if it has an answer. -/
def Cue.round (r : Responder) (c : Config) : Cue → Round
  | .silence => .silent (.fault .timeout)
  | .frame f =>
    match r.answer f with
    | none => .ignored (c.heard f)
    | some reply => .answered (c.heard f) reply

/-- What is logged of some cues that pass. -/
def Cue.log (r : Responder) (c : Config) (cues : List Cue) : List Event :=
  cues.flatMap fun cue => (cue.round r c).events r c.quiet

theorem Cue.log_cons (r : Responder) (c : Config) (cue : Cue) (cues : List Cue) :
    Cue.log r c (cue :: cues) = (cue.round r c).events r c.quiet ++ Cue.log r c cues :=
  List.flatMap_cons ..

/-- The counters after a tag has heard some frames and sent its answers. -/
def Stats.tally (s : Stats) (r : Responder) (frames : List Frame) : Stats where
  received := s.received + .ofNat frames.length
  answered := s.answered + .ofNat (frames.countP fun f => (r.answer f).isSome)
  ignored := s.ignored + .ofNat (frames.countP fun f => (r.answer f).isNone)
  polls := s.polls + .ofNat (frames.countP fun f => f.bits == 7)

/-- The session after it has answered some cues, with the rest of the script still to come. -/
def Session.past (s : Session Script) (cues rest : List Cue) : Session Script :=
  let frames := cues.filterMap Cue.frame?
  { s with
    stats := s.stats.tally s.responder frames
    device := { s.device with
      inbound := rest
      sent := s.device.sent ++ (frames.filterMap s.responder.answer).map s.config.outgoing } }

/-! ## The counters -/

@[simp] theorem Stats.tally_nil (s : Stats) (r : Responder) : s.tally r [] = s := by
  simp [tally]

/-- Tallies add up. -/
theorem Stats.tally_tally (s : Stats) (r : Responder) (fs gs : List Frame) :
    (s.tally r fs).tally r gs = s.tally r (fs ++ gs) := by
  simp only [tally, List.length_append, List.countP_append, UInt64.ofNat_add, UInt64.add_assoc]

/-- One frame is a poll exactly if it has seven bits. -/
theorem Stats.polls_singleton (s : Stats) (f : Frame) :
    s.polls + .ofNat ([f].countP fun f => f.bits == 7) = (s.receive f.bits).polls := by
  by_cases hbits : f.bits = 7
  · have hreq := FrameKind.ofBits_eq_request_iff.mpr hbits
    rw [List.countP_cons_of_pos (by simpa using hbits), receive, if_pos hreq]
    rfl
  · have hreq := FrameKind.ofBits_eq_request_iff.not.mpr hbits
    rw [List.countP_cons_of_neg (by simpa using hbits), receive, if_neg hreq]
    exact UInt64.add_zero _

theorem Stats.tally_singleton_of_some (s : Stats) {r : Responder} {f reply : Frame}
    (h : r.answer f = some reply) : s.tally r [f] = (s.receive f.bits).answer := by
  rw [tally, s.polls_singleton]
  simp [h, receive, answer]

theorem Stats.tally_singleton_of_none (s : Stats) {r : Responder} {f : Frame}
    (h : r.answer f = none) : s.tally r [f] = (s.receive f.bits).ignore := by
  rw [tally, s.polls_singleton]
  simp [h, receive, ignore]

namespace Session

variable {s : Session Script} {cue : Cue} {rest : List Cue} {n : Nat} {staging : Staging}

/-! ## Passing cues -/

theorem past_nil (h : s.device.inbound = rest) : s.past [] rest = s := by
  subst h
  simp [past]

/-- Cues are passed one after the other. -/
theorem past_past (s : Session Script) (cues cues' rest rest' : List Cue) :
    (s.past cues rest).past cues' rest' = s.past (cues ++ cues') rest' := by
  simp only [past, Stats.tally_tally, List.filterMap_append, List.map_append, List.append_assoc]

/-- The session after the next round, read off the script. -/
def played (s : Session Script) : Session Script :=
  { s with
    stats := (s.device.play s.responder s.config).1.count s.stats
    device := (s.device.play s.responder s.config).2 }

theorem played_eq {round : Round} {device : Script}
    (h : s.device.play s.responder s.config = (round, device)) :
    s.played = { s with stats := round.count s.stats, device } := by
  rw [played, h]

/-- What comes of a cue that passes ends no run. -/
theorem harmless_round (r : Responder) (c : Config) (cue : Cue) :
    fatal? (cue.round r c).outcome = none := by
  match cue with
  | .silence => rfl
  | .frame f =>
    rw [Cue.round]
    split <;> rfl

/-- The session gets past a cue that passes. -/
theorem played_of_passes (hin : s.device.inbound = cue :: rest)
    (hcue : cue.Passes s.responder s.device.failuresLeft) :
    (s.device.play s.responder s.config).1 = cue.round s.responder s.config ∧
      s.played = s.past [cue] rest := by
  cases cue with
  | silence =>
    have hplay := Script.play_silence (r := s.responder) (c := s.config) hin
    refine ⟨by rw [hplay]; rfl, ?_⟩
    simp [played, past, hplay, Round.count, Cue.frame?, List.filterMap_cons]
  | frame f =>
    obtain ⟨hfit, hquiet⟩ := hcue
    cases hr : s.responder.answer f with
    | none =>
      have hplay := Script.play_ignored (c := s.config) hin hfit hr
      refine ⟨by rw [hplay, Cue.round, hr], ?_⟩
      simp [played, past, hplay, Round.count, Cue.frame?, hr, Stats.tally_singleton_of_none]
    | some reply =>
      have hsend : s.device.failuresLeft = 0 := by
        by_contra hne
        have := hquiet (Nat.pos_of_ne_zero hne)
        rw [hr] at this
        cases this
      have hplay := Script.play_answered (c := s.config) hin hfit hr hsend
      refine ⟨by rw [hplay, Cue.round, hr], ?_⟩
      simp [played, past, hplay, Round.count, Cue.frame?, hr, Stats.tally_singleton_of_some _ hr]

/-! ## Polling a script -/

/-- A round of a run with a script ends it as the script tells. -/
theorem poll_succ_failed {why : Failure} (name : String) (hdown : s.device.stopRaised = false)
    (hfatal : fatal? (s.device.play s.responder s.config).1.outcome = some why) (n : Nat)
    (staging : Staging) :
    (s.poll (Script.transport name) Script.stopRaised (n + 1) staging).ending = .failed why ∧
      (s.poll (Script.transport name) Script.stopRaised (n + 1) staging).session = s.played := by
  obtain ⟨staging', hx⟩ :=
    Script.exchange_eq_play name s.responder s.config staging s.device
  rw [poll_succ_of_fatal hdown hx hfatal]
  exact ⟨rfl, rfl⟩

/-- Otherwise the run goes on with the session that the script tells. -/
theorem poll_succ_played (name : String) (hdown : s.device.stopRaised = false)
    (hharmless : fatal? (s.device.play s.responder s.config).1.outcome = none) (n : Nat)
    (staging : Staging) :
    ∃ staging', s.poll (Script.transport name) Script.stopRaised (n + 1) staging
      = (s.played.poll (Script.transport name) Script.stopRaised n staging').after
          ((s.device.play s.responder s.config).1.events s.responder s.config.quiet) := by
  obtain ⟨staging', hx⟩ :=
    Script.exchange_eq_play name s.responder s.config staging s.device
  exact ⟨staging', poll_succ_of_harmless hdown hx hharmless⟩

/-- **A run gets past the cues that pass**, and logs what comes of each. -/
theorem poll_past (name : String) (rest : List Cue) (n : Nat) :
    ∀ (cues : List Cue) (s : Session Script) (staging : Staging),
      s.device.inbound = cues ++ rest → s.device.stopRaised = false →
      (∀ cue ∈ cues, cue.Passes s.responder s.device.failuresLeft) →
      ∃ staging',
        s.poll (Script.transport name) Script.stopRaised (n + cues.length) staging
          = ((s.past cues rest).poll (Script.transport name) Script.stopRaised n staging').after
              (Cue.log s.responder s.config cues) := by
  intro cues
  induction cues with
  | nil =>
    intro s staging hin _ _
    have hall : s.past [] rest = s := past_nil hin
    exact ⟨staging, by rw [hall]; rfl⟩
  | cons cue cues ih =>
    intro s staging hin hdown hpass
    obtain ⟨hcue, hcues⟩ := List.forall_mem_cons.mp hpass
    have hnext : s.device.inbound = cue :: (cues ++ rest) := hin
    obtain ⟨hround, hplayed⟩ := played_of_passes hnext hcue
    have hharmless := harmless_round s.responder s.config cue
    rw [← hround] at hharmless
    obtain ⟨staging₁, hstep⟩ :=
      poll_succ_played name hdown hharmless (n + cues.length) staging
    -- the flag, the responder and the failures left are the same behind a cue that passes
    obtain ⟨staging₂, hrest⟩ :=
      ih (s.past [cue] (cues ++ rest)) staging₁ rfl hdown hcues
    refine ⟨staging₂, ?_⟩
    rw [List.length_cons, ← Nat.add_assoc, hstep, hround, hplayed, hrest, past_past, Cue.log_cons]
    simp only [Run.after, List.append_assoc]
    rfl

/-- **Cues that pass are followed by one round more** if that round ends the run. -/
theorem endsAfter_past {cues : List Cue} {ending : Ending} {final : Session Script} (name : String)
    (hin : s.device.inbound = cues ++ rest) (hdown : s.device.stopRaised = false)
    (hpass : ∀ cue ∈ cues, cue.Passes s.responder s.device.failuresLeft)
    (hlast : ∀ n staging,
      ((s.past cues rest).poll (Script.transport name) Script.stopRaised (n + 1) staging).ending
          = ending ∧
        ((s.past cues rest).poll (Script.transport name) Script.stopRaised (n + 1) staging).session
          = final) :
    s.EndsAfter (Script.transport name) Script.stopRaised (cues.length + 1) ending final where
  polling n hn := by
    have hlen : (cues.take n).length = n := by rw [List.length_take]; omega
    have hcut : s.device.inbound = cues.take n ++ (cues.drop n ++ rest) := by
      rw [hin, ← List.append_assoc, List.take_append_drop]
    obtain ⟨staging', hpoll⟩ := poll_past name (cues.drop n ++ rest) 0 (cues.take n) s
      Staging.zeroed hcut hdown fun cue hcue => hpass cue (List.mem_of_mem_take hcue)
    have hpast : (s.past (cues.take n) (cues.drop n ++ rest)).device.stopRaised = false := hdown
    rw [hlen, Nat.zero_add, poll_zero_of_down hpast] at hpoll
    rw [run, hpoll]
    rfl
  ends n hn := by
    obtain ⟨m, rfl⟩ := Nat.exists_eq_add_of_le hn
    obtain ⟨staging', hpoll⟩ :=
      poll_past name rest (m + 1) cues s Staging.zeroed hin hdown hpass
    have hrounds : cues.length + 1 + m = m + 1 + cues.length := by omega
    rw [hrounds, run, hpoll]
    exact hlast m staging'

/-! ## Scripts of which every cue passes -/

/-- A round that finds a script dry raises the stop flag, and that ends the run. -/
theorem poll_dry (name : String) (hin : s.device.inbound = [])
    (hdown : s.device.stopRaised = false) (hstay : s.device.disconnectsWhenDry = false)
    (hstop : s.device.stopsWhenDry = true) (n : Nat) (staging : Staging) :
    s.poll (Script.transport name) Script.stopRaised (n + 1) staging
      = ⟨.stopped s.stats, { s with device := { s.device with stopRaised := true } },
          [.stopped s.stats]⟩ := by
  have hplay : s.device.play s.responder s.config
      = (.silent (.fault .timeout), { s.device with stopRaised := true }) := by
    simp only [Script.play_dry hin, hstay, hstop, Bool.or_true, Bool.false_eq_true, if_false]
  have hplayed : s.played = { s with device := { s.device with stopRaised := true } } :=
    played_eq hplay
  obtain ⟨staging', hpoll⟩ :=
    poll_succ_played name hdown (by rw [hplay]; rfl) n staging
  rw [hpoll, hplayed, poll_of_raised rfl, hplay]
  rfl

theorem poll_succ_dry (name : String) (hin : s.device.inbound = [])
    (hdown : s.device.stopRaised = false) (hstay : s.device.disconnectsWhenDry = false)
    (hstop : s.device.stopsWhenDry = true) (n : Nat) (staging : Staging) :
    (s.poll (Script.transport name) Script.stopRaised (n + 1) staging).ending = .stopped s.stats ∧
      (s.poll (Script.transport name) Script.stopRaised (n + 1) staging).session
        = { s with device := { s.device with stopRaised := true } } := by
  rw [poll_dry name hin hdown hstay hstop]
  exact ⟨rfl, rfl⟩

/-- **A script of which every cue passes is played to its end**: the run is stopped by the flag, and
logs what comes of each cue. -/
theorem playOut_past (name : String) (hdown : s.device.stopRaised = false)
    (hpass : ∀ cue ∈ s.device.inbound, cue.Passes s.responder s.device.failuresLeft)
    (hstay : s.device.disconnectsWhenDry = false) (hstop : s.device.stopsWhenDry = true) :
    let past := s.past s.device.inbound []
    s.playOut (Script.transport name)
      = ⟨.stopped past.stats, { past with device := { past.device with stopRaised := true } },
          .started name :: Cue.log s.responder s.config s.device.inbound ++
            [.stopped past.stats]⟩ := by
  intro past
  obtain ⟨staging', hpoll⟩ := poll_past name [] 1 s.device.inbound s Staging.zeroed
    (List.append_nil _).symm hdown hpass
  rw [playOut, run, Script.roundsToDry, Nat.add_comm, hpoll,
    poll_dry (s := past) name rfl hdown hstay hstop]
  rfl

end Session

/-- On the way out the bytes and the numbers of bits stay as they are. -/
theorem map_outgoing (c : Config) (replies : List Frame) :
    (replies.map c.outgoing).map (fun f => (f.bytes, f.bits))
      = replies.map fun f => (f.bytes, f.bits) := by
  simp

/-- **A script whose frames fit is answered throughout.**  Its run takes one round per cue and one
more to find the script dry; it hears every frame, sends every answer in order, and is stopped by
the flag. -/
theorem run_answers_script (name : String) (s : Session Script)
    (hfit : ∀ f, .frame f ∈ s.device.inbound → f.byteCount ≤ stagingSize)
    (hsend : s.device.failuresLeft = 0) (hstay : s.device.disconnectsWhenDry = false)
    (hstop : s.device.stopsWhenDry = true) (hdown : s.device.stopRaised = false) :
    let frames := s.device.inbound.filterMap Cue.frame?
    let stats := s.stats.tally s.responder frames
    let replies := frames.filterMap s.responder.answer
    let sent := replies.map s.config.outgoing
    s.EndsAfter (Script.transport name) Script.stopRaised (s.device.inbound.length + 1)
        (.stopped stats)
        { s with
          stats
          device := { s.device with
            inbound := []
            sent := s.device.sent ++ sent
            stopRaised := true } } ∧
      sent.map (fun f => (f.bytes, f.bits)) = replies.map fun f => (f.bytes, f.bits) := by
  have hpass : ∀ cue ∈ s.device.inbound, cue.Passes s.responder s.device.failuresLeft := by
    intro cue hcue
    cases cue with
    | silence => trivial
    | frame f => exact ⟨hfit f hcue, fun hpos => absurd hsend hpos.ne'⟩
  refine ⟨?_, map_outgoing _ _⟩
  refine Session.endsAfter_past name (List.append_nil _).symm hdown hpass fun n staging => ?_
  exact Session.poll_succ_dry (s := s.past s.device.inbound []) name rfl hdown hstay hstop n staging

/-- A request, a silence and a frame that has no answer take four rounds. -/
theorem run_answers_script_of_three_cues :
    let s : Session Script :=
      { Tag.ofConfig default default with
        stats := ⟨5, 2, 3, 4⟩
        device :=
          { inbound := [.frame Command.reqa.encode, .silence,
              .frame (.ofBytes [0x50, 0x00, 0x57, 0xcd])]
            stopsWhenDry := true } }
    (∀ f, .frame f ∈ s.device.inbound → f.byteCount ≤ stagingSize) ∧
      s.device.failuresLeft = 0 ∧ s.device.disconnectsWhenDry = false ∧
      s.device.stopsWhenDry = true ∧ s.device.stopRaised = false ∧
      s.EndsAfter (Script.transport Script.ownedName) Script.stopRaised 4
        (.stopped ⟨7, 3, 4, 5⟩)
        { s with
          stats := ⟨7, 3, 4, 5⟩
          device := { s.device with
            inbound := []
            sent := [.ofBytes [0x04, 0x00]]
            stopRaised := true } } := by
  intro s
  have hfit : ∀ f, .frame f ∈ s.device.inbound → f.byteCount ≤ stagingSize := by
    simp [s, Command.encode, Frame.short, Frame.ofBytes, Frame.byteCount, stagingSize]
  exact ⟨hfit, rfl, rfl, rfl, rfl, (run_answers_script _ s hfit rfl rfl rfl rfl).1⟩

/-! ## Scripts with a cue that does not pass -/

namespace Session

variable {s : Session Script}

/-- The first cue that does not pass, or none. -/
theorem exists_first_not_passes (s : Session Script) :
    (∀ cue ∈ s.device.inbound, cue.Passes s.responder s.device.failuresLeft) ∨
      ∃ before cue after, s.device.inbound = before ++ cue :: after ∧
        (∀ cue ∈ before, cue.Passes s.responder s.device.failuresLeft) ∧
        ¬ cue.Passes s.responder s.device.failuresLeft := by
  let fails (cue : Cue) : Bool := !decide (cue.Passes s.responder s.device.failuresLeft)
  cases hfind : s.device.inbound.find? fails with
  | none =>
    left
    intro cue hcue
    simpa [fails] using List.find?_eq_none.mp hfind cue hcue
  | some cue =>
    right
    obtain ⟨hcue, before, after, hin, hbefore⟩ := List.find?_eq_some_iff_append.mp hfind
    refine ⟨before, cue, after, hin, fun c hc => ?_, by simpa [fails] using hcue⟩
    simpa [fails] using hbefore c hc

/-- A run fails behind the cues that pass if its next round does. -/
theorem endsAfter_past_failed {cues rest : List Cue} {round : Round} {device : Script}
    {why : Failure} (name : String) (hin : s.device.inbound = cues ++ rest)
    (hdown : s.device.stopRaised = false)
    (hpass : ∀ cue ∈ cues, cue.Passes s.responder s.device.failuresLeft)
    (hplay : (s.past cues rest).device.play s.responder s.config = (round, device))
    (hfatal : fatal? round.outcome = some why) :
    s.EndsAfter (Script.transport name) Script.stopRaised (cues.length + 1) (.failed why)
      { s.past cues rest with stats := round.count (s.past cues rest).stats, device } := by
  refine endsAfter_past name hin hdown hpass fun n staging => ?_
  have hplayed : (s.past cues rest).played
      = { s.past cues rest with stats := round.count (s.past cues rest).stats, device } :=
    played_eq hplay
  rw [← hplayed]
  exact poll_succ_failed (s := s.past cues rest) name hdown
    ((congrArg (fatal? ·.1.outcome) hplay).trans hfatal) n staging

/-- A frame that does not fit ends the run; nothing but the script has changed. -/
theorem endsAfter_oversized (name : String) {before after : List Cue} {f : Frame}
    (hin : s.device.inbound = before ++ .frame f :: after) (hdown : s.device.stopRaised = false)
    (hpass : ∀ cue ∈ before, cue.Passes s.responder s.device.failuresLeft)
    (hbig : stagingSize < f.byteCount) :
    s.EndsAfter (Script.transport name) Script.stopRaised (before.length + 1)
      (.failed (.fault (.badFrame (.exceedsBuffer f.byteCount stagingSize))))
      (s.past before after) :=
  endsAfter_past_failed name hin hdown hpass (Script.play_oversized rfl hbig) rfl

/-- An answer that is not sent ends the run; its frame is counted, and one failure is used up. -/
theorem endsAfter_unsent (name : String) {before after : List Cue} {f reply : Frame}
    (hin : s.device.inbound = before ++ .frame f :: after) (hdown : s.device.stopRaised = false)
    (hpass : ∀ cue ∈ before, cue.Passes s.responder s.device.failuresLeft)
    (hfit : f.byteCount ≤ stagingSize) (hr : s.responder.answer f = some reply)
    (hsend : 0 < s.device.failuresLeft) :
    s.EndsAfter (Script.transport name) Script.stopRaised (before.length + 1)
      (.failed (.fault Script.sendFault))
      { s.past before after with
        stats := (s.past before after).stats.receive f.bits
        device := { (s.past before after).device with
          failuresLeft := s.device.failuresLeft - 1 } } := by
  have hplay := Script.play_unsent (c := s.config)
    (s := (s.past before (.frame f :: after)).device) rfl hfit hr hsend
  have hfailed := endsAfter_past_failed name hin hdown hpass hplay rfl
  rw [Round.count, Config.heard_bits] at hfailed
  exact hfailed

/-- A reader that has gone ends the run, whatever the stop flag says by then. -/
theorem endsAfter_gone (name : String) (hdown : s.device.stopRaised = false)
    (hpass : ∀ cue ∈ s.device.inbound, cue.Passes s.responder s.device.failuresLeft)
    (hgone : s.device.disconnectsWhenDry = true) :
    s.EndsAfter (Script.transport name) Script.stopRaised (s.device.inbound.length + 1)
      (.failed (.fault .disconnected))
      { s.past s.device.inbound [] with
        device := { (s.past s.device.inbound []).device with
          stopRaised := s.device.stopsWhenDry } } := by
  have hplay : (s.past s.device.inbound []).device.play s.responder s.config
      = (.silent (.fault .disconnected),
        { (s.past s.device.inbound []).device with stopRaised := s.device.stopsWhenDry }) := by
    rw [Script.play_dry rfl]
    simp only [past, hgone, hdown, Bool.false_or, if_true]
  exact endsAfter_past_failed name (List.append_nil _).symm hdown hpass hplay rfl

end Session

/-- **A script that cannot be answered throughout fails at the first cue that does not pass**, or
when it is found dry and the reader gone.  All cues before are answered and counted.  A frame that
does not fit changes no counter; a frame whose answer is not sent is heard, and counted as no more
than that; a reader that has gone is reported even if the stop flag is raised by then. -/
theorem run_fails_script (name : String) (s : Session Script)
    (hdown : s.device.stopRaised = false)
    (hdoom : (∃ f, .frame f ∈ s.device.inbound ∧ stagingSize < f.byteCount) ∨
      (0 < s.device.failuresLeft ∧
        ∃ f, .frame f ∈ s.device.inbound ∧ (s.responder.answer f).isSome) ∨
      s.device.disconnectsWhenDry = true) :
    ∃ before after why final,
      (∀ cue ∈ before, cue.Passes s.responder s.device.failuresLeft) ∧
      s.EndsAfter (Script.transport name) Script.stopRaised (before.length + 1)
        (.failed (.fault why)) final ∧
      let past := s.past before after
      let replies := (before.filterMap Cue.frame?).filterMap s.responder.answer
      (∃ sent, past.device.sent = s.device.sent ++ sent ∧
        sent.map (fun f => (f.bytes, f.bits)) = replies.map fun f => (f.bytes, f.bits)) ∧
      ((∃ f, s.device.inbound = before ++ .frame f :: after ∧ stagingSize < f.byteCount ∧
          why = .badFrame (.exceedsBuffer f.byteCount stagingSize) ∧ final = past) ∨
        (∃ f, s.device.inbound = before ++ .frame f :: after ∧ f.byteCount ≤ stagingSize ∧
          0 < s.device.failuresLeft ∧ (s.responder.answer f).isSome ∧
          why = .notSent "mock transmit failure" ∧
          final = { past with
            stats := { past.stats with
              received := past.stats.received + 1
              polls := if f.bits = 7 then past.stats.polls + 1 else past.stats.polls }
            device := { past.device with failuresLeft := s.device.failuresLeft - 1 } }) ∨
        (s.device.inbound = before ∧ after = [] ∧ s.device.disconnectsWhenDry = true ∧
          why = .disconnected ∧
          final = { past with
            device := { past.device with stopRaised := s.device.stopsWhenDry } })) := by
  rcases s.exists_first_not_passes with hpass | ⟨before, cue, after, hin, hpass, hcue⟩
  · have hgone : s.device.disconnectsWhenDry = true := by
      rcases hdoom with ⟨f, hf, hbig⟩ | ⟨hsend, f, hf, hr⟩ | hgone
      · exact absurd (hpass _ hf).1 (not_le.mpr hbig)
      · rw [(hpass _ hf).2 hsend] at hr
        cases hr
      · exact hgone
    exact ⟨s.device.inbound, [], .disconnected, _, hpass,
      Session.endsAfter_gone name hdown hpass hgone, ⟨_, rfl, map_outgoing _ _⟩,
      .inr (.inr ⟨rfl, rfl, hgone, rfl, rfl⟩)⟩
  · cases cue with
    | silence => exact absurd trivial hcue
    | frame f =>
      rcases Nat.lt_or_ge stagingSize f.byteCount with hbig | hfit
      · exact ⟨before, after, _, _, hpass, Session.endsAfter_oversized name hin hdown hpass hbig,
          ⟨_, rfl, map_outgoing _ _⟩, .inl ⟨f, hin, hbig, rfl, rfl⟩⟩
      · have hfails : 0 < s.device.failuresLeft ∧ s.responder.answer f ≠ none := by
          by_contra h
          exact hcue ⟨hfit, fun hsend => by_contra fun hr => h ⟨hsend, hr⟩⟩
        obtain ⟨hsend, hne⟩ := hfails
        obtain ⟨reply, hr⟩ := Option.ne_none_iff_exists'.mp hne
        have hends := Session.endsAfter_unsent name hin hdown hpass hfit hr hsend
        rw [Stats.receive_eq] at hends
        exact ⟨before, after, _, _, hpass, hends, ⟨_, rfl, map_outgoing _ _⟩,
          .inr (.inl ⟨f, hin, hfit, hsend, by rw [hr]; rfl, rfl, rfl⟩)⟩

/-- A frame that needs no answer passes although the next send fails; the request behind it does
not. -/
theorem run_fails_script_of_lost_answer :
    let s : Session Script :=
      { Tag.ofConfig default default with
        stats := .zero
        device :=
          { inbound := [.frame (.ofBytes [0x50, 0x00, 0x57, 0xcd]), .frame Command.reqa.encode,
              .frame Command.reqa.encode]
            failuresLeft := 1 } }
    s.device.stopRaised = false ∧ 0 < s.device.failuresLeft ∧
      .frame Command.reqa.encode ∈ s.device.inbound ∧
      (s.responder.answer Command.reqa.encode).isSome ∧
      (s.run (Script.transport Script.ownedName) Script.stopRaised 2).ending
        = .failed (.fault (.notSent "mock transmit failure")) ∧
      ∃ rounds why final, s.EndsAfter (Script.transport Script.ownedName) Script.stopRaised rounds
        (.failed (.fault why)) final := by
  intro s
  have hmem : .frame Command.reqa.encode ∈ s.device.inbound := by simp [s]
  obtain ⟨before, _, why, final, -, hends, -⟩ :=
    run_fails_script Script.ownedName s rfl (.inr (.inl ⟨Nat.one_pos, _, hmem, rfl⟩))
  exact ⟨rfl, Nat.one_pos, hmem, rfl, by decide +kernel, before.length + 1, why, final, hends⟩

end TagEmulation
