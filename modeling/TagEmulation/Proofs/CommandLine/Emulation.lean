import TagEmulation.Proofs.CommandLine.Arguments
import TagEmulation.Proofs.Responder.Answers
import TagEmulation.Proofs.Script.CourseLog
import TagEmulation.Proofs.Script.Opening

/-!
# Proofs/CommandLine/Emulation — the session that the options ask for

The tag comes up with the first frame of the reader (`Options.bringUp_tag`).  Whatever UID it has,
it answers both selections and is stopped by the flag (`Options.playOut_session`), so that an
emulation is known in full (`Options.emulate_eq`).  Whether it is quiet only shows in the debug
records (`emulate_hushed`).
-/

namespace TagEmulation.CommandLine

/-! ## One selection -/

/-- What a tag owes in a selection. -/
def selectionReplies (i : Identity) : List Frame :=
  (Command.selection i.uid).map fun c => (i.response c).encode

/-- The frames of one selection, the last of which sends the tag to sleep. -/
def selectionCycle (uid : Uid) : List Frame := selectionFrames uid ++ [haltFrame]

/-- **All frames of a selection are answered**, but for the one that sends the tag to sleep. -/
theorem map_answer_selectionCycle (r : Responder) :
    (selectionCycle r.identity.uid).map r.answer
      = (selectionReplies r.identity).map some ++ [none] := by
  have hhalt : r.answer haltFrame = none :=
    r.answer_of_other (by decide) (by decide) (by decide)
  rw [selectionCycle, List.map_append, r.map_answer_selectionFrames, List.map_singleton, hhalt]
  rfl

theorem filterMap_answer_selectionCycle (r : Responder) :
    (selectionCycle r.identity.uid).filterMap r.answer = selectionReplies r.identity := by
  rw [← Function.id_comp r.answer, ← List.filterMap_map, map_answer_selectionCycle]
  rfl

/-- A selection is four frames, three of them answered, and one round of polling. -/
theorem tally_selectionCycle (s : Stats) (r : Responder) :
    s.tally r (selectionCycle r.identity.uid)
      = ⟨s.received + 4, s.answered + 3, s.ignored + 1, s.polls + 1⟩ := by
  have hcount (p : Option Frame → Bool) :
      (selectionCycle r.identity.uid).countP (fun f => p (r.answer f))
        = ((selectionReplies r.identity).map some ++ [none]).countP p := by
    rw [← map_answer_selectionCycle, List.countP_map]
    rfl
  rw [Stats.tally, hcount Option.isSome, hcount Option.isNone]
  rfl

/-- Whatever the reader does in a selection, it ends no run. -/
theorem passes_of_mem_selectionCues {uid : Uid} {r : Responder} {cue : Cue}
    (h : cue ∈ selectionCues uid) : cue.Passes r 0 := by
  have hsent (f : Frame) (h : 0 < 0) : r.answer f = none := absurd h (lt_irrefl 0)
  rw [selectionCues, List.mem_append, List.mem_map, List.mem_pair] at h
  obtain ⟨f, hf, rfl⟩ | rfl | rfl := h
  · obtain ⟨c, -, rfl⟩ := List.mem_map.mp hf
    have hnine : c.encode.byteCount ≤ 9 := by cases c <;> exact Nat.le_of_ble_eq_true rfl
    exact ⟨hnine.trans (by decide), hsent _⟩
  · exact ⟨by decide, hsent _⟩
  · trivial

/-! ## The session that the options ask for -/

/-- What the reader does once the tag is up. -/
def readerCues (uid : Uid) : List Cue := selectionCues uid ++ selectionCues uid

/-- What is counted in the end. -/
def finalStats : Stats := ⟨8, 6, 2, 2⟩

namespace Options

variable (o : Options)

/-- The tag that the options ask for. -/
def tag : Tag :=
  .ofConfig { (default : Identity) with uid := o.uid } { (default : Config) with quiet := o.quiet }

/-- The session that the tag comes up with. -/
def session : Session Script :=
  { o.tag with
    stats := .zero
    device := { reader o.uid with
      inbound := readerCues o.uid
      identities := [o.tag.identity]
      options := [(.handleCrc, false), (.handleParity, true)] } }

/-- What is logged before the reader selects the tag. -/
def opening : List Event :=
  [.firstCommand Script.ownedName Command.wupa.encode, .broughtUp o.uid true,
    .started Script.ownedName]

/-- What is logged of the selections. -/
def course : List Event := Cue.log o.tag.responder o.tag.config (readerCues o.uid)

/-- All there is to log. -/
def log : List Event := o.opening ++ o.course ++ [.stopped finalStats]

theorem build_setup : o.setup.build = .ok (o.tag, reader o.uid) := rfl

/-- The tag comes up with the WUPA of the reader. -/
theorem bringUp_tag :
    o.tag.bringUp device (reader o.uid)
      = ⟨.ok o.session, o.session.device,
          [.firstCommand Script.ownedName Command.wupa.encode, .broughtUp o.uid true]⟩ := by
  have hdefault : (default : Identity).fitsLevelOne := by decide
  have hfits : o.tag.identity.misfitEvents = [] := if_pos hdefault
  have hup := Tag.bringUp_of_fitting Script.ownedName o.tag (d := reader o.uid) rfl (by decide)
  rw [hfits] at hup
  exact hup

/-- The answers to both selections. -/
theorem answers_readerCues :
    ((readerCues o.uid).filterMap Cue.frame?).filterMap o.tag.responder.answer
      = selectionReplies o.tag.identity ++ selectionReplies o.tag.identity := by
  have hcycle := filterMap_answer_selectionCycle o.tag.responder
  exact (List.filterMap_append ..).trans (congrArg₂ (· ++ ·) hcycle hcycle)

theorem stats_past_session : (o.session.past (readerCues o.uid) []).stats = finalStats := by
  let r := o.tag.responder
  have hcycle (s : Stats) : s.tally r (selectionCycle o.uid)
      = ⟨s.received + 4, s.answered + 3, s.ignored + 1, s.polls + 1⟩ := tally_selectionCycle s r
  calc
    (o.session.past (readerCues o.uid) []).stats
      = Stats.zero.tally r (selectionCycle o.uid ++ selectionCycle o.uid) := rfl
    _ = (Stats.zero.tally r (selectionCycle o.uid)).tally r (selectionCycle o.uid) :=
      (Stats.tally_tally ..).symm
    _ = (⟨4, 3, 1, 1⟩ : Stats).tally r (selectionCycle o.uid) := by
      rw [hcycle .zero]
      rfl
    _ = finalStats := hcycle _

/-- **The tag answers both selections**, and is stopped by the flag. -/
theorem playOut_session :
    ∃ final, o.session.playOut device
      = ⟨.stopped finalStats, final,
          .started Script.ownedName :: o.course ++ [.stopped finalStats]⟩ := by
  have hpass : ∀ cue ∈ o.session.device.inbound, cue.Passes o.session.responder 0 :=
    fun cue hcue =>
      (List.mem_append.mp hcue).elim passes_of_mem_selectionCues passes_of_mem_selectionCues
  have hrun := Session.playOut_past (s := o.session) Script.ownedName rfl hpass rfl rfl
  rw [← o.stats_past_session]
  exact ⟨_, hrun⟩

end Options

/-! ## What becomes of it -/

theorem finish_of_stopped {s final : Session Script} {stats : Stats} {events : List Event}
    (hrun : s.playOut device = ⟨.stopped stats, final, events⟩) (said : List String)
    (log : List Event) :
    finish said log s = ⟨said ++ [summary stats], log ++ events, none⟩ := by
  simp only [finish, hrun]

theorem emulate_of_bringUp {o : Options} {t : Tag} {d d' : Script} {s : Session Script}
    {log : List Event} (hbuild : o.setup.build = .ok (t, d))
    (hup : t.bringUp device d = ⟨.ok s, d', log⟩) :
    emulate o = finish (announcement o.uid ++ [arrival]) log s := by
  unfold emulate
  rw [hbuild]
  simp only [hup]

namespace Options

/-- **An emulation is known in full**: it does not fail, and the options only say for whom it is. -/
theorem emulate_eq (o : Options) :
    emulate o = ⟨announcement o.uid ++ [arrival] ++ [summary finalStats], o.log, none⟩ := by
  obtain ⟨final, hrun⟩ := o.playOut_session
  have hlog : o.log
      = [.firstCommand Script.ownedName Command.wupa.encode, .broughtUp o.uid true] ++
          (.started Script.ownedName :: o.course ++ [.stopped finalStats]) := rfl
  rw [emulate_of_bringUp o.build_setup o.bringUp_tag, finish_of_stopped hrun, ← hlog]

theorem log_hushed (o : Options) : o.hushed.log = withoutDebug o.log := by
  have hcourse : withoutDebug o.course = o.hushed.course := Cue.withoutDebug_log ..
  rw [log, log, withoutDebug_append, withoutDebug_append, hcourse]
  rfl

end Options

/-- **A quiet emulation differs in its debug records only.** -/
theorem emulate_hushed (o : Options) :
    emulate o.hushed = { emulate o with log := withoutDebug (emulate o).log } := by
  rw [Options.emulate_eq, Options.emulate_eq, o.log_hushed]
  rfl

end TagEmulation.CommandLine
