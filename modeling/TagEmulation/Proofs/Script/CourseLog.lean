import TagEmulation.Proofs.Script.Transcript

/-!
# Proofs/Script/CourseLog — what is logged of cues that pass

A run that gets past some cues logs what comes of each (`Cue.log`).  The lines of answers in it tell
of every answer (`Cue.said_lines_log`), and a quiet session logs the same but for the debug records
(`Cue.withoutDebug_log`).  As long as parity is left to the device, nothing in it matters more than
these (`Cue.level_of_mem_log`).
-/

namespace TagEmulation

/-! ## Levels of a round -/

namespace Round

variable {r : Responder} {quiet : Bool} {heard : Heard} {e : Event}

theorem level_of_mem_heardEvents {f : Frame} (he : e ∈ heardEvents quiet f) : e.level = .debug := by
  unfold heardEvents at he
  split_ifs at he
  · cases he
  · rcases List.mem_pair.mp he with rfl | rfl <;> rfl
  · exact List.mem_singleton.mp he ▸ rfl

theorem level_of_mem_saidEvents {reply : Frame} (he : e ∈ saidEvents quiet reply) :
    e.level = .debug := by
  unfold saidEvents at he
  split_ifs at he
  · cases he
  · exact List.mem_singleton.mp he ▸ rfl

/-- A frame without parity bits to be judged is for debugging, and what a strict tag has against it
is of less interest yet. -/
theorem level_of_mem_inboundEvents (hparity : heard.wrongParity = none)
    (he : e ∈ inboundEvents r quiet heard) : e.level = .debug ∨ e.level = .trace := by
  have hverdict : parityEvents heard = [] := by rw [parityEvents, hparity]
  rw [inboundEvents, hverdict, List.nil_append, List.mem_append] at he
  rcases he with he | he
  · exact .inl (level_of_mem_heardEvents he)
  · obtain ⟨fault, -, rfl⟩ := List.mem_map.mp (Option.toList_map .. ▸ he)
    exact .inr rfl

theorem level_of_mem_events {round : Round}
    (hparity : ∀ heard, round.heard? = some heard → heard.wrongParity = none)
    (he : e ∈ round.events r quiet) : e.level = .debug ∨ e.level = .trace := by
  cases round with
  | silent why => cases he
  | ignored heard =>
    rcases List.mem_append.mp he with he | he
    · exact level_of_mem_inboundEvents (hparity heard rfl) he
    · exact .inr (List.mem_singleton.mp he ▸ rfl)
  | answered heard reply =>
    rcases List.mem_append.mp he with he | he
    · exact level_of_mem_inboundEvents (hparity heard rfl) he
    · exact .inl (level_of_mem_saidEvents he)
  | unsent heard reply why => exact level_of_mem_inboundEvents (hparity heard rfl) he

end Round

/-! ## The log of some cues -/

namespace Cue

variable (r : Responder) (c : Config) (cues : List Cue)

/-- **The lines of answers tell of every answer**, in order. -/
theorem said_lines_log (hquiet : c.quiet = false) :
    startingWith "T: " (debugLines (log r c cues))
      = ((cues.filterMap frame?).filterMap r.answer).map saidLine := by
  induction cues with
  | nil => rfl
  | cons cue cues ih =>
    rw [log_cons, hquiet, debugLines_append, startingWith_append, ih, Round.debugLines_events,
      Turn.said_lines_flatMap]
    cases cue with
    | silence => rfl
    | frame f =>
      have hframe : (Cue.frame f :: cues).filterMap frame? = f :: cues.filterMap frame? := rfl
      rw [hframe, List.filterMap_cons, round]
      cases r.answer f <;> rfl

/-- **A quiet session logs the same but for the debug records.** -/
theorem withoutDebug_log :
    withoutDebug (log r c cues) = log r { c with quiet := true } cues := by
  rw [log, log, withoutDebug, List.filter_flatMap]
  exact List.flatMap_congr fun cue _ => withoutDebug_events r c.quiet (cue.round r c)

variable {r c cues}

theorem level_of_mem_log (hparity : c.hardwareParity = true) {e : Event} (he : e ∈ log r c cues) :
    e.level = .debug ∨ e.level = .trace := by
  obtain ⟨cue, -, he⟩ := List.mem_flatMap.mp he
  have hplain (f : Frame) : (c.heard f).wrongParity = none := by rw [Config.heard, if_pos hparity]
  refine Round.level_of_mem_events (fun heard hheard => ?_) he
  cases cue with
  | silence => cases hheard
  | frame f =>
    rw [round] at hheard
    split at hheard <;> exact Option.some.inj hheard ▸ hplain f

end Cue

end TagEmulation
