import TagEmulation.Proofs.Script.Course
import TagEmulation.Proofs.Session.Accounts
import TagEmulation.Proofs.Session.Lockstep
import TagEmulation.Proofs.Session.Quiet

/-!
# Proofs/Script/Transcript — the log of a session is a transcript of the wire

A frame received and the answer to it, if one went out, are a `Turn`, and a turn is told in at most
three lines (`Turn.lines`).  On any device the debug records of a round are the lines of its turn
(`Round.debugLines_events`).  With a scripted reader the turns are what went over the wire, so
`Session.Tells` ties cues taken, frames sent, counters and log together: an exchange tells of its
turn (`Session.tells_after`), and whatever is done with the session tells of all of them in order
(`Session.tells_afterCalls`).  `log_is_transcript` reads this off the text of the log alone.
-/

namespace TagEmulation

variable {σ : Type}

/-! ## Lines -/

/-- The debug records of a log, as they read. -/
def debugLines (log : List Event) : List String :=
  (log.filter fun e => e.level = .debug).map Event.message

/-- The lines that start with a tag. -/
def startingWith (tag : String) (lines : List String) : List String :=
  lines.filter fun line => tag.toList <+: line.toList

/-- The line that opens a round of polling. -/
def roundLine : String := "new anti-collision round"

/-- The line of a frame received. -/
def heardLine (f : Frame) : String := "R: " ++ Event.plainText f

/-- The line of a frame sent. -/
def saidLine (f : Frame) : String := "T: " ++ Event.plainText f

/-- A frame received, and the answer to it if one was sent. -/
structure Turn where
  received : Frame
  sent : Option Frame
  deriving DecidableEq

namespace Turn

/-- The lines of a turn up to its frame. -/
def opening (t : Turn) : List String :=
  (if t.received.bits = 7 then [roundLine] else []) ++ [heardLine t.received]

/-- The lines of a turn. -/
def lines (t : Turn) : List String := t.opening ++ t.sent.toList.map saidLine

end Turn

/-- What was received and sent in a round. -/
def Round.turn? : Round → Option Turn
  | .silent _ => none
  | .ignored heard => some ⟨heard.frame, none⟩
  | .answered heard reply => some ⟨heard.frame, some reply⟩
  | .unsent heard _ _ => some ⟨heard.frame, none⟩

/-- The frames of some cues that a session has room for. -/
def framesIn (cues : List Cue) : List Frame :=
  (cues.filterMap Cue.frame?).filter fun f => f.byteCount ≤ stagingSize

/-- Nothing is put into the script or taken out of it, and none of the frames sent is taken back. -/
def Call.LeavesWire : Call Script → Prop
  | .step _ => True
  | .run _ _ => True
  | .change f => ∀ d, (f d).inbound = d.inbound ∧ (f d).sent = d.sent

/-! ## Which line is which -/

/-- What is not among the first entries is found behind them. -/
theorem exists_eq_append_of_notMem {α : Type} {xs ys before after : List α} {x : α}
    (h : xs ++ ys = before ++ x :: after) (hx : x ∉ xs) :
    ∃ between, before = xs ++ between ∧ ys = between ++ x :: after := by
  obtain ⟨between, hbefore, hys⟩ | ⟨rest, hxs, hrest⟩ := List.append_eq_append_iff.mp h
  · exact ⟨between, hbefore, hys⟩
  · cases rest with
    | nil => exact ⟨[], by rw [List.append_nil, hxs, List.append_nil], hrest.symm⟩
    | cons y rest =>
      obtain ⟨rfl, -⟩ := List.cons.inj hrest
      exact absurd (hxs ▸ List.mem_append_right before List.mem_cons_self) hx

theorem startingWith_append (tag : String) (lines lines' : List String) :
    startingWith tag (lines ++ lines') = startingWith tag lines ++ startingWith tag lines' :=
  List.filter_append ..

/-- Of tags of one length, a line starts with its own alone. -/
theorem prefix_append_iff {tag tag' : String} (h : tag.length = tag'.length) (rest : String) :
    tag.toList <+: (tag' ++ rest).toList ↔ tag = tag' := by
  have hlength : tag.toList.length = tag'.toList.length := by
    rw [String.length_toList, String.length_toList, h]
  rw [String.toList_append, List.prefix_iff_eq_take, hlength, List.take_left, String.toList_inj]

theorem heard_prefix_heardLine (f : Frame) : "R: ".toList <+: (heardLine f).toList :=
  (prefix_append_iff rfl _).mpr rfl

theorem said_prefix_saidLine (f : Frame) : "T: ".toList <+: (saidLine f).toList :=
  (prefix_append_iff rfl _).mpr rfl

theorem not_said_prefix_heardLine (f : Frame) : ¬ "T: ".toList <+: (heardLine f).toList :=
  (prefix_append_iff (by decide) _).not.mpr (by decide)

theorem not_heard_prefix_saidLine (f : Frame) : ¬ "R: ".toList <+: (saidLine f).toList :=
  (prefix_append_iff (by decide) _).not.mpr (by decide)

theorem not_prefix_roundLine :
    ¬ "R: ".toList <+: roundLine.toList ∧ ¬ "T: ".toList <+: roundLine.toList := by
  decide

theorem heardLine_ne_roundLine (f : Frame) : heardLine f ≠ roundLine := fun h =>
  not_prefix_roundLine.1 (h ▸ heard_prefix_heardLine f)

theorem saidLine_ne_roundLine (f : Frame) : saidLine f ≠ roundLine := fun h =>
  not_prefix_roundLine.2 (h ▸ said_prefix_saidLine f)

namespace Turn

theorem heard_opening (t : Turn) : startingWith "R: " t.opening = [heardLine t.received] := by
  have hround : startingWith "R: " (if t.received.bits = 7 then [roundLine] else []) = [] := by
    split_ifs
    · exact List.filter_cons_of_neg (by simpa using not_prefix_roundLine.1)
    · rfl
  have hheard : startingWith "R: " [heardLine t.received] = [heardLine t.received] :=
    List.filter_cons_of_pos (by simpa using heard_prefix_heardLine t.received)
  rw [opening, startingWith_append, hround, hheard, List.nil_append]

/-- No line of a turn up to its frame tells of an answer. -/
theorem not_said_prefix_of_mem_opening {t : Turn} {line : String} (h : line ∈ t.opening) :
    ¬ "T: ".toList <+: line.toList := by
  rw [opening, List.mem_append, List.mem_singleton] at h
  rcases h with h | rfl
  · split_ifs at h
    · obtain rfl := List.mem_singleton.mp h
      exact not_prefix_roundLine.2
    · cases h
  · exact not_said_prefix_heardLine _

theorem said_lines (t : Turn) : startingWith "T: " t.lines = t.sent.toList.map saidLine := by
  have hopening : startingWith "T: " t.opening = [] :=
    List.filter_eq_nil_iff.mpr fun line hline => by
      simpa using not_said_prefix_of_mem_opening hline
  have hsaid : startingWith "T: " (t.sent.toList.map saidLine) = t.sent.toList.map saidLine :=
    List.filter_eq_self.mpr fun line hline => by
      obtain ⟨reply, -, rfl⟩ := List.mem_map.mp hline
      simpa using said_prefix_saidLine reply
  rw [lines, startingWith_append, hopening, hsaid, List.nil_append]

theorem heard_lines (t : Turn) : startingWith "R: " t.lines = [heardLine t.received] := by
  have hsaid : startingWith "R: " (t.sent.toList.map saidLine) = [] :=
    List.filter_eq_nil_iff.mpr fun line hline => by
      obtain ⟨reply, -, rfl⟩ := List.mem_map.mp hline
      simpa using not_heard_prefix_saidLine reply
  rw [lines, startingWith_append, heard_opening, hsaid, List.append_nil]

theorem count_roundLine (t : Turn) :
    t.lines.count roundLine = if t.received.bits = 7 then 1 else 0 := by
  have hheard : [heardLine t.received].count roundLine = 0 :=
    List.count_eq_zero.mpr fun h => heardLine_ne_roundLine _ (List.mem_singleton.mp h).symm
  have hsaid : (t.sent.toList.map saidLine).count roundLine = 0 :=
    List.count_eq_zero.mpr fun h => by
      obtain ⟨reply, -, hreply⟩ := List.mem_map.mp h
      exact saidLine_ne_roundLine reply hreply
  rw [lines, opening, List.count_append, List.count_append, hheard, hsaid]
  split_ifs <;> rfl

/-! ## The lines of some turns -/

variable (turns : List Turn)

theorem said_lines_flatMap :
    startingWith "T: " (turns.flatMap lines) = (turns.filterMap sent).map saidLine := by
  induction turns with
  | nil => rfl
  | cons t turns ih =>
    rw [List.flatMap_cons, startingWith_append, said_lines, ih, List.filterMap_cons]
    cases t.sent <;> rfl

theorem heard_lines_flatMap :
    startingWith "R: " (turns.flatMap lines) = (turns.map received).map heardLine := by
  induction turns with
  | nil => rfl
  | cons t turns ih => rw [List.flatMap_cons, startingWith_append, heard_lines, ih]; rfl

theorem count_roundLine_flatMap :
    (turns.flatMap lines).count roundLine = turns.countP fun t => t.received.bits = 7 := by
  induction turns with
  | nil => rfl
  | cons t turns ih =>
    rw [List.flatMap_cons, List.count_append, count_roundLine, ih, List.countP_cons, Nat.add_comm]
    simp only [decide_eq_true_eq]

/-- **The line of an answer stands right behind the line of its frame.** -/
theorem exists_turn_of_said {turns : List Turn} {earlier later : List String} {line : String}
    (hlines : turns.flatMap lines = earlier ++ line :: later)
    (hline : "T: ".toList <+: line.toList) :
    ∃ before t after reply, turns = before ++ t :: after ∧ t.sent = some reply ∧
      line = saidLine reply ∧ earlier = before.flatMap lines ++ t.opening := by
  induction turns generalizing earlier with
  | nil => cases earlier <;> cases hlines
  | cons t turns ih =>
    have hopening : line ∉ t.opening := fun h => not_said_prefix_of_mem_opening h hline
    -- unless the line is that of this turn's own answer, it tells of a later turn
    have hlater {rest : List String} (h : turns.flatMap lines = rest ++ line :: later) :
        ∃ before t' after reply, t :: turns = before ++ t' :: after ∧ t'.sent = some reply ∧
          line = saidLine reply ∧ t.lines ++ rest = before.flatMap lines ++ t'.opening := by
      obtain ⟨before, t', after, reply, rfl, hsent, htext, rfl⟩ := ih h
      exact ⟨t :: before, t', after, reply, rfl, hsent, htext, (List.append_assoc ..).symm⟩
    rw [List.flatMap_cons, lines, List.append_assoc] at hlines
    obtain ⟨rest, rfl, hrest⟩ := exists_eq_append_of_notMem hlines hopening
    cases hsent : t.sent with
    | none =>
      rw [hsent] at hrest
      have h := hlater hrest
      rwa [lines, hsent, Option.toList_none, List.map_nil, List.append_nil] at h
    | some reply =>
      rw [hsent] at hrest
      cases rest with
      | nil =>
        obtain ⟨rfl, -⟩ := List.cons.inj hrest
        exact ⟨[], t, turns, reply, rfl, hsent, rfl, List.append_nil _⟩
      | cons _ rest =>
        obtain ⟨rfl, hbehind⟩ := List.cons.inj hrest
        have h := hlater hbehind
        rwa [lines, hsent, List.append_assoc] at h

end Turn

/-! ## The log of a round -/

theorem debugLines_append (log log' : List Event) :
    debugLines (log ++ log') = debugLines log ++ debugLines log' := by
  rw [debugLines, List.filter_append, List.map_append]
  rfl

/-- A log without debug records has no such lines. -/
theorem debugLines_eq_nil {log : List Event} (h : withoutDebug log = log) :
    debugLines log = [] := by
  rw [debugLines, List.filter_eq_nil_iff.mpr ?_, List.map_nil]
  intro e he hdebug
  rw [← h] at he
  exact absurd (of_decide_eq_true hdebug) (of_decide_eq_true (List.mem_filter.mp he).2)

namespace Round

theorem debugLines_heardEvents (f : Frame) (sent : Option Frame) :
    debugLines (heardEvents false f) = (Turn.mk f sent).opening := by
  unfold heardEvents Turn.opening
  simp only [FrameKind.ofBits_eq_request_iff, Bool.false_eq_true, if_false]
  split_ifs <;> rfl

theorem debugLines_inboundEvents (r : Responder) (heard : Heard) (sent : Option Frame) :
    debugLines (inboundEvents r false heard) = (Turn.mk heard.frame sent).opening := by
  rw [inboundEvents, debugLines_append, debugLines_append,
    debugLines_eq_nil (withoutDebug_parityEvents heard), debugLines_heardEvents heard.frame sent,
    debugLines_eq_nil (withoutDebug_objected _), List.nil_append, List.append_nil]

/-- **The debug records of a round are the lines of its turn**, with any device. -/
theorem debugLines_events (r : Responder) (round : Round) :
    debugLines (round.events r false) = round.turn?.toList.flatMap Turn.lines := by
  have hone (t : Turn) : [t].flatMap Turn.lines = t.lines := List.flatMap_singleton ..
  cases round with
  | silent why => rfl
  | ignored heard =>
    rw [events, debugLines_append, debugLines_inboundEvents r heard none]
    exact (hone _).symm
  | answered heard reply =>
    rw [events, debugLines_append, debugLines_inboundEvents r heard (some reply)]
    exact (hone _).symm
  | unsent heard reply why =>
    rw [events, debugLines_inboundEvents r heard none]
    exact ((hone _).trans (List.append_nil _)).symm

/-- Every turn is counted, and every request among them. -/
theorem counters_count (round : Round) (stats : Stats) :
    (round.count stats).received = stats.received + .ofNat round.turn?.toList.length ∧
      (round.count stats).polls
        = stats.polls + .ofNat (round.turn?.toList.countP fun t => t.received.bits = 7) := by
  cases round with
  | silent why => exact ⟨(UInt64.add_zero _).symm, (UInt64.add_zero _).symm⟩
  | ignored heard | answered heard _ | unsent heard _ _ =>
    exact ⟨rfl, (stats.polls_singleton heard.frame).symm⟩

end Round

/-! ## What a script says of its rounds -/

theorem framesIn_append (cues cues' : List Cue) :
    framesIn (cues ++ cues') = framesIn cues ++ framesIn cues' := by
  rw [framesIn, List.filterMap_append, List.filter_append]
  rfl

/-- Frames read the same as they are heard, … -/
theorem map_heardLine_heard (c : Config) (frames : List Frame) :
    (frames.map fun f => (c.heard f).frame).map heardLine = frames.map heardLine := by
  refine List.map_map.trans (List.map_congr_left fun f _ => ?_)
  rw [Function.comp_apply, heardLine, heardLine, Event.plainText, Event.plainText, c.heard_bytes,
    c.heard_bits]

/-- … and as they go out. -/
theorem map_saidLine_outgoing (c : Config) (replies : List Frame) :
    (replies.map c.outgoing).map saidLine = replies.map saidLine := by
  refine List.map_map.trans (List.map_congr_left fun f _ => ?_)
  rw [Function.comp_apply, saidLine, saidLine, Event.plainText, Event.plainText, c.outgoing_bytes,
    c.outgoing_bits]

/-- These turns have led from one script to the other: their frames are those of the cues taken, as
they are heard, their answers are the frames sent since, and each answers its frame. -/
structure Script.Turned (r : Responder) (c : Config) (s s' : Script) (taken : List Cue)
    (turns : List Turn) : Prop where
  inbound : s.inbound = taken ++ s'.inbound
  received : turns.map Turn.received = (framesIn taken).map fun f => (c.heard f).frame
  sent : s'.sent = s.sent ++ (turns.filterMap Turn.sent).map c.outgoing
  answers : ∀ t ∈ turns, ∀ reply, t.sent = some reply → r.answer t.received = some reply

namespace Script.Turned

variable {r : Responder} {c : Config} {s s' s'' : Script} {taken taken' : List Cue}
  {turns turns' : List Turn}

/-- As long as no answer goes out, the frames sent stay as they are. -/
theorem of_unsent (hinbound : s.inbound = taken ++ s'.inbound) (hsent : s'.sent = s.sent)
    (hreceived : turns.map Turn.received = (framesIn taken).map fun f => (c.heard f).frame)
    (hunsent : ∀ t ∈ turns, t.sent = none) : Turned r c s s' taken turns where
  inbound := hinbound
  received := hreceived
  sent := by
    rw [hsent, List.filterMap_eq_nil_iff.mpr hunsent, List.map_nil, List.append_nil]
  answers t ht reply hreply := by
    rw [hunsent t ht] at hreply
    cases hreply

theorem trans (h : Turned r c s s' taken turns) (h' : Turned r c s' s'' taken' turns') :
    Turned r c s s'' (taken ++ taken') (turns ++ turns') where
  inbound := by rw [h.inbound, h'.inbound, List.append_assoc]
  received := by
    rw [List.map_append, h.received, h'.received, framesIn_append, List.map_append]
  sent := by
    rw [h'.sent, h.sent, List.filterMap_append, List.map_append, List.append_assoc]
  answers t ht := by
    rcases List.mem_append.mp ht with ht | ht
    · exact h.answers t ht
    · exact h'.answers t ht

end Script.Turned

/-- **A round with a script is the turn that its next cue brings.** -/
theorem Script.exists_turned_play (r : Responder) (c : Config) (s : Script) :
    ∃ taken, Turned r c s (s.play r c).2 taken (s.play r c).1.turn?.toList := by
  match hin : s.inbound with
  | [] =>
    rw [play_dry hin]
    exact ⟨[], .of_unsent rfl rfl rfl (by simp [Round.turn?])⟩
  | .silence :: rest =>
    rw [play_silence hin]
    exact ⟨[.silence], .of_unsent hin rfl rfl (by simp [Round.turn?])⟩
  | .frame f :: rest =>
    rcases Nat.lt_or_ge stagingSize f.byteCount with hbig | hfit
    · have hframes : framesIn [.frame f] = [] :=
        List.filter_cons_of_neg (by simpa using hbig)
      rw [play_oversized hin hbig]
      exact ⟨[.frame f], .of_unsent hin rfl (by rw [hframes]; rfl) (by simp [Round.turn?])⟩
    · have hframes : framesIn [.frame f] = [f] := List.filter_cons_of_pos (by simpa using hfit)
      cases hr : r.answer f with
      | none =>
        rw [play_ignored hin hfit hr]
        exact ⟨[.frame f], .of_unsent hin rfl (by rw [hframes]; rfl) (by simp [Round.turn?])⟩
      | some reply =>
        rcases Nat.eq_zero_or_pos s.failuresLeft with hsend | hsend
        · rw [play_answered hin hfit hr hsend]
          exact ⟨[.frame f], hin, by rw [hframes]; rfl, rfl, by simp [Round.turn?, hr]⟩
        · rw [play_unsent hin hfit hr hsend]
          exact ⟨[.frame f], .of_unsent hin rfl (by rw [hframes]; rfl) (by simp [Round.turn?])⟩

/-! ## What a session tells -/

namespace Session

/-- These turns have led from one session to the other; they are counted, and the log tells of
them. -/
structure Tells (s s' : Session Script) (log : List Event) (taken : List Cue) (turns : List Turn) :
    Prop where
  tag : s'.toTag = s.toTag
  wire : Script.Turned s.responder s.config s.device s'.device taken turns
  received : s'.stats.received = s.stats.received + .ofNat turns.length
  polls : s'.stats.polls = s.stats.polls + .ofNat (turns.countP fun t => t.received.bits = 7)
  lines : debugLines log = turns.flatMap Turn.lines

/-- Some turns have. -/
def TellsAll (s s' : Session Script) (log : List Event) : Prop :=
  ∃ taken turns, s.Tells s' log taken turns

namespace TellsAll

variable {s s' s'' : Session Script} {log log' : List Event}

/-- As long as there are no turns, there are no lines. -/
theorem of_silent (htag : s'.toTag = s.toTag) (hstats : s'.stats = s.stats)
    (hinbound : s'.device.inbound = s.device.inbound) (hsent : s'.device.sent = s.device.sent)
    (hlog : withoutDebug log = log) : s.TellsAll s' log := by
  refine ⟨[], [], htag, .of_unsent hinbound.symm hsent rfl (by simp), ?_, ?_, debugLines_eq_nil hlog⟩
  · rw [hstats]
    exact (UInt64.add_zero _).symm
  · rw [hstats]
    exact (UInt64.add_zero _).symm

theorem trans (h : s.TellsAll s' log) (h' : s'.TellsAll s'' log') :
    s.TellsAll s'' (log ++ log') := by
  obtain ⟨taken, turns, h⟩ := h
  obtain ⟨taken', turns', h'⟩ := h'
  have hwire := h'.wire
  rw [show s'.responder = s.responder from congrArg Tag.responder h.tag,
    show s'.config = s.config from congrArg Tag.config h.tag] at hwire
  refine ⟨taken ++ taken', turns ++ turns', h'.tag.trans h.tag, h.wire.trans hwire, ?_, ?_, ?_⟩
  · rw [h'.received, h.received, List.length_append, UInt64.ofNat_add, UInt64.add_assoc]
  · rw [h'.polls, h.polls, List.countP_append, UInt64.ofNat_add, UInt64.add_assoc]
  · rw [debugLines_append, h.lines, h'.lines, List.flatMap_append]

end TellsAll

variable (name : String)

/-- **An exchange tells of its turn.** -/
theorem tells_after (s : Session Script) (hquiet : s.config.quiet = false) (staging : Staging) :
    let x := exchange (Script.transport name) s.responder s.config staging s.device
    s.TellsAll (s.after x) (x.round.events s.responder s.config.quiet) := by
  intro x
  obtain ⟨left, hx⟩ := Script.exchange_eq_play name s.responder s.config staging s.device
  obtain ⟨taken, hturned⟩ := s.device.exists_turned_play s.responder s.config
  obtain ⟨hreceived, hpolls⟩ := x.round.counters_count s.stats
  have hround : x.round = (s.device.play s.responder s.config).1 := congrArg Exchange.round hx
  have hdevice : x.device = (s.device.play s.responder s.config).2 := congrArg Exchange.device hx
  rw [← hround, ← hdevice] at hturned
  rw [hquiet]
  exact ⟨taken, _, rfl, hturned, hreceived, hpolls, x.round.debugLines_events s.responder⟩

/-- So does a run of each of its rounds. -/
theorem tells_poll (stopRaised : Script → Bool) (n : Nat) (s : Session Script)
    (hquiet : s.config.quiet = false) (staging : Staging) :
    let run := s.poll (Script.transport name) stopRaised n staging
    s.TellsAll run.session run.events := by
  refine poll_induct (Script.transport name) stopRaised
    (motive := fun s _ run => s.config.quiet = false → s.TellsAll run.session run.events)
    ?_ ?_ ?_ ?_ n s staging hquiet
  · exact fun s _ _ => .of_silent rfl rfl rfl rfl rfl
  · exact fun s _ _ => .of_silent rfl rfl rfl rfl rfl
  · rintro s staging x why - rfl - hquiet
    exact (tells_after name s hquiet staging).trans
      (.of_silent rfl rfl rfl rfl (withoutDebug_endEvents why))
  · rintro s staging x xs run - rfl - ih hquiet
    exact (tells_after name s hquiet staging).trans (ih hquiet)

theorem tells_call (s : Session Script) (hquiet : s.config.quiet = false) {call : Call Script}
    (hcall : call.LeavesWire) :
    let moment := s.call (Script.transport name) call
    s.TellsAll moment.session moment.events := by
  cases call with
  | step staging => exact tells_after name s hquiet staging
  | run stopRaised rounds =>
    have hstarted : s.TellsAll s [.started (Script.transport name).name] :=
      .of_silent rfl rfl rfl rfl rfl
    exact hstarted.trans (tells_poll name stopRaised rounds s hquiet Staging.zeroed)
  | change f =>
    obtain ⟨hinbound, hsent⟩ := hcall s.device
    exact .of_silent rfl rfl hinbound hsent rfl

/-- **Whatever is done with a session, its log tells of every turn.** -/
theorem tells_afterCalls (calls : List (Call Script)) (hcalls : ∀ call ∈ calls, call.LeavesWire) :
    ∀ s : Session Script, s.config.quiet = false →
      s.TellsAll (s.afterCalls (Script.transport name) calls)
        ((s.moments (Script.transport name) calls).flatMap Moment.events) := by
  induction calls with
  | nil => exact fun s _ => .of_silent rfl rfl rfl rfl rfl
  | cons call calls ih =>
    intro s hquiet
    obtain ⟨hcall, hcalls⟩ := List.forall_mem_cons.mp hcalls
    have hfirst := tells_call name s hquiet hcall
    have hstill : (s.call (Script.transport name) call).session.config.quiet = false := by
      obtain ⟨_, _, h⟩ := hfirst
      exact (congrArg (·.config.quiet) h.tag).trans hquiet
    have hrest := ih hcalls _ hstill
    rw [moments, List.flatMap_cons, afterCalls, List.foldl_cons, ← session_call]
    exact hfirst.trans hrest

/-! ## What a log gives away -/

namespace Tells

variable {s s' : Session Script} {log : List Event} {taken : List Cue} {turns : List Turn}

theorem said_lines (h : s.Tells s' log taken turns) :
    startingWith "T: " (debugLines log)
      = ((turns.filterMap Turn.sent).map s.config.outgoing).map saidLine := by
  rw [h.lines, Turn.said_lines_flatMap, map_saidLine_outgoing]

theorem heard_lines (h : s.Tells s' log taken turns) :
    startingWith "R: " (debugLines log) = (framesIn taken).map heardLine := by
  rw [h.lines, Turn.heard_lines_flatMap, h.wire.received, map_heardLine_heard]

theorem length_turns (h : s.Tells s' log taken turns) :
    turns.length = (framesIn taken).length := by
  have hlength := congrArg List.length h.wire.received
  rwa [List.length_map, List.length_map] at hlength

/-- **Each line of an answer stands right behind the line of the frame it answers.** -/
theorem exists_frame_of_said (h : s.Tells s' log taken turns) {earlier later : List String}
    {line : String} (hlines : debugLines log = earlier ++ line :: later)
    (hline : "T: ".toList <+: line.toList) :
    ∃ before f after reply, framesIn taken = before ++ f :: after ∧
      s.responder.answer f = some reply ∧ line = saidLine reply ∧
      earlier.getLast? = some (heardLine f) ∧
      startingWith "R: " earlier = (before ++ [f]).map heardLine := by
  rw [h.lines] at hlines
  obtain ⟨before, t, after, reply, rfl, hsent, htext, rfl⟩ := Turn.exists_turn_of_said hlines hline
  have hanswer := h.wire.answers t (by simp) reply hsent
  have hreceived := h.wire.received
  rw [List.map_append, List.map_cons, eq_comm, List.map_eq_append_iff] at hreceived
  obtain ⟨framesBefore, rest, hframes, hbefore, hrest⟩ := hreceived
  obtain ⟨f, framesAfter, rfl, hf, -⟩ := List.map_eq_cons_iff.mp hrest
  have hline : heardLine t.received = heardLine f := by
    have hone := map_heardLine_heard s.config [f]
    rw [List.map_singleton, hf] at hone
    exact (List.cons.inj hone).1
  refine ⟨framesBefore, f, framesAfter, reply, hframes, ?_, htext, ?_, ?_⟩
  · rwa [← hf, Responder.answer_heard] at hanswer
  · rw [Turn.opening, ← List.append_assoc, List.getLast?_concat, hline]
  · rw [startingWith_append, Turn.heard_lines_flatMap, Turn.heard_opening, hline, List.map_append,
      ← hbefore, map_heardLine_heard, List.map_singleton]

end Tells

end Session

/-- **The log of a session is a transcript of the wire**, unless the session is quiet.  Bring any
tag up with a scripted reader, and let it step and run in any order; the script and the frames sent
are its own meanwhile.  The lines of answers tell of the frames sent, in order, and of no others;
the lines of frames tell of all those counted, with or without an answer; and there is one line for
each round of polling counted.  Right in front of an answer stands the line of the frame it
answers. -/
theorem log_is_transcript (name : String) (identity : Identity) (config : Config)
    (hquiet : config.quiet = false) (device : Script) {s₀ : Session Script}
    (hup : ((Tag.ofConfig identity config).bringUp (Script.transport name) device).outcome
      = .ok s₀)
    (calls : List (Call Script)) (hcalls : ∀ call ∈ calls, call.LeavesWire) :
    let T := Script.transport name
    let t := Tag.ofConfig identity config
    let s := s₀.afterCalls T calls
    let lines := debugLines
      ((t.bringUp T device).events ++ (s₀.moments T calls).flatMap Moment.events)
    ∃ taken sent, s₀.device.inbound = taken ++ s.device.inbound ∧
      s.device.sent = s₀.device.sent ++ sent ∧
      startingWith "T: " lines = sent.map saidLine ∧
      startingWith "R: " lines = (framesIn taken).map heardLine ∧
      s.stats.received = s₀.stats.received + .ofNat (framesIn taken).length ∧
      s.stats.polls = s₀.stats.polls + .ofNat (lines.count roundLine) ∧
      ∀ earlier line later, lines = earlier ++ line :: later → "T: ".toList <+: line.toList →
        ∃ before f after reply, framesIn taken = before ++ f :: after ∧
          t.responder.answer f = some reply ∧ line = saidLine reply ∧
          earlier.getLast? = some (heardLine f) ∧
          startingWith "R: " earlier = (before ++ [f]).map heardLine := by
  intro T t s lines
  obtain ⟨htag, -⟩ := Session.toTag_of_bringUp hup
  obtain ⟨taken, turns, h⟩ := Session.tells_afterCalls name calls hcalls s₀
    ((congrArg (·.config.quiet) htag).trans hquiet)
  have hlines : lines = debugLines ((s₀.moments T calls).flatMap Moment.events) := by
    change debugLines (_ ++ _) = _
    rw [debugLines_append, debugLines_eq_nil (t.withoutDebug_bringUp T device), List.nil_append]
  rw [hlines]
  refine ⟨taken, _, h.wire.inbound, h.wire.sent, h.said_lines, h.heard_lines, ?_, ?_, ?_⟩
  · rw [← h.length_turns]
    exact h.received
  · rw [h.lines, Turn.count_roundLine_flatMap]
    exact h.polls
  · intro earlier line later hsplit hline
    rw [← show s₀.responder = t.responder from congrArg Tag.responder htag]
    exact h.exists_frame_of_said hsplit hline

/-- The answer to the first request is lost in a step; with the stop flag raised meanwhile, a run
hears nothing, and the next one hears a silence, a frame that has no answer, and ANTICOLLISION. -/
theorem log_is_transcript_of_lost_answer :
    let config : Config := { (default : Config) with hardwareParity := false }
    let t := Tag.ofConfig default config
    let inbound : List Cue :=
      [.frame Command.reqa.encode, .silence, .frame (.ofBytes [0x50, 0x00, 0x57, 0xcd]),
        .frame (.ofBytes [0x93, 0x20])]
    let device : Script := { inbound := .frame Command.wupa.encode :: inbound, failuresLeft := 1 }
    let s₀ : Session Script :=
      { t with
        stats := .zero
        device := { device with
          inbound
          options := [(.handleCrc, false), (.handleParity, false)]
          identities := [default] } }
    let calls : List (Call Script) :=
      [.step Staging.zeroed, .change fun d => { d with stopRaised := true },
        .run Script.stopRaised 5, .change fun d => { d with stopRaised := false },
        .run Script.stopRaised 5]
    let opening := t.bringUp (Script.transport Script.ownedName) device
    let moments := s₀.moments (Script.transport Script.ownedName) calls
    let lines := debugLines (opening.events ++ moments.flatMap Moment.events)
    opening.outcome = .ok s₀ ∧ (∀ call ∈ calls, call.LeavesWire) ∧
      lines = ["new anti-collision round", "R: 26", "R: 50  00  57  cd  ", "R: 93  20  ",
        "T: de  ad  be  af  62  "] ∧
      (s₀.afterCalls (Script.transport Script.ownedName) calls).stats = ⟨3, 1, 1, 1⟩ ∧
      ∃ sent, (s₀.afterCalls (Script.transport Script.ownedName) calls).device.sent
          = s₀.device.sent ++ sent ∧ startingWith "T: " lines = sent.map saidLine := by
  intro config t inbound device s₀ calls opening moments lines
  have hup : opening.outcome = .ok s₀ := by decide +kernel
  have hcalls : ∀ call ∈ calls, call.LeavesWire := by
    simp [calls, Call.LeavesWire]
  obtain ⟨_, sent, -, hsent, hsaid, -⟩ :=
    log_is_transcript Script.ownedName default config rfl device hup calls hcalls
  exact ⟨hup, hcalls, by decide +kernel, by decide +kernel, sent, hsent, hsaid⟩

end TagEmulation
