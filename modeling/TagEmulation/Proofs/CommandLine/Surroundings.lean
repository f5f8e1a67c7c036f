import TagEmulation.CommandLine
import TagEmulation.Proofs.Session.Quiet
import TagEmulation.Proofs.Text.OneLine

/-!
# Proofs/CommandLine/Surroundings — what a call takes for granted of its surroundings

The log and the wording of errors are not the program's own.  It takes for granted that the log
knows the two settings it has for it (`LogsByLevel`), and that an error is told with what failed
first and then its cause (`TellsCauses`).  The usual surroundings are of this kind, whatever the
program is called.  What a quiet call shows then differs in its debug records only, even if
something else is asked of the log (`LogsByLevel.filter_withoutDebug`).
-/

namespace TagEmulation.CommandLine.Surroundings

/-- The log knows the settings that the program has for it: under each of them just those events
pass that are of its level or matter more. -/
structure LogsByLevel (s : Surroundings) : Prop where
  info : ∀ e, s.lets "info" e ↔ e.level = .warn ∨ e.level = .info
  debug : ∀ e, s.lets "debug" e ↔ e.level = .warn ∨ e.level = .info ∨ e.level = .debug

/-- An error is told with what failed first.  A cause of one line follows under a head of its
own. -/
structure TellsCauses (s : Surroundings) : Prop where
  what : ∀ error, error.what.toList <+: (s.describe error).toList
  cause : ∀ what cause, OneLine cause →
    (what ++ "\n\nCaused by:\n    " ++ cause).toList <+: (s.describe ⟨what, some cause⟩).toList

section Usual

variable (calledAs : Option String)

theorem usual_logsByLevel : { usual with calledAs }.LogsByLevel where
  info e := by cases h : e.level <;> simp [usual, h]
  debug e := by cases h : e.level <;> simp [usual, h]

theorem usual_tellsCauses : { usual with calledAs }.TellsCauses where
  what error := by
    match error with
    | ⟨what, none⟩ => exact List.prefix_rfl
    | ⟨what, some cause⟩ =>
      change what.toList <+: (what ++ "\n\nCaused by:\n    " ++ cause).toList
      rw [String.append_assoc, String.toList_append]
      exact List.prefix_append ..
  cause what cause _ := List.prefix_rfl

end Usual

variable {s : Surroundings} {e : Event}

/-- With nothing asked of the log, the program asks for debug records, unless it is quiet. -/
theorem LogsByLevel.shows_debug (hlog : s.LogsByLevel) (hsetting : s.logSetting = none)
    (h : e.level = .debug) : s.shows false e := by
  rw [shows, hsetting]
  exact (hlog.debug e).mpr (.inr (.inr h))

/-- What is shown besides debug records does not depend on quiet. -/
theorem LogsByLevel.shows_of_ne_debug (hlog : s.LogsByLevel) (quiet : Bool)
    (h : e.level ≠ .debug) : s.shows true e = s.shows quiet e := by
  rw [shows, shows]
  cases s.logSetting with
  | some setting => rfl
  | none =>
    cases quiet with
    | true => rfl
    | false =>
      have hsame : s.lets "info" e ↔ s.lets "debug" e := by
        rw [hlog.info, hlog.debug]
        simp [h]
      exact Bool.eq_iff_iff.mpr hsame

/-- **To be quiet is to leave the debug records out**, of what is shown as of all there is. -/
theorem LogsByLevel.filter_withoutDebug (hlog : s.LogsByLevel) (quiet : Bool) (log : List Event) :
    (withoutDebug log).filter (s.shows true) = withoutDebug (log.filter (s.shows quiet)) := by
  rw [withoutDebug, withoutDebug, List.filter_filter, List.filter_filter]
  refine List.filter_congr fun e _ => ?_
  by_cases h : e.level = .debug
  · simp [h]
  · simp [h, hlog.shows_of_ne_debug quiet h]

end TagEmulation.CommandLine.Surroundings
