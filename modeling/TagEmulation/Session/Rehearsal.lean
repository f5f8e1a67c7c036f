import TagEmulation.Session.Run
import TagEmulation.Transport.Script

/-!
# Session/Rehearsal — sessions with a scripted reader

A script drives a whole session: its first frame is the command that brings the tag up, and one
round takes each further cue.  One round more finds the script dry.
-/

namespace TagEmulation

/-- The frames of a reader that selects the tag with this UID. -/
def selectionFrames (uid : Uid) : List Frame := (Command.selection uid).map Command.encode

namespace Script

/-- The script that wakes a tag up and then brings the given frames. -/
def rehearsal (frames : List Frame) : Script := ofFrames (Command.wupa.encode :: frames)

/-- The rounds in which a session uses up a script: one per cue, and one to find it dry. -/
def roundsToDry (s : Script) : Nat := s.inbound.length + 1

end Script

/-- Runs a session until its script is used up. -/
def Session.playOut (T : Transport Script) (s : Session Script) : Run Script :=
  s.run T Script.stopRaised s.device.roundsToDry

end TagEmulation
