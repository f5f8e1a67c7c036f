import TagEmulation.Responder

/-!
# Session/Event — what a session writes to its log

Everything a session has to report is an `Event` that holds the values the report shows; its level
and its wording are functions of it.  The counters of a session are here too, since the last event
of a session reports them.
-/

namespace TagEmulation

/-! ## Counters -/

/-- The counters of a session, each a 64-bit word. -/
structure Stats where
  /-- Frames received. -/
  received : UInt64
  /-- Answers sent. -/
  answered : UInt64
  /-- Frames left without an answer. -/
  ignored : UInt64
  /-- Requests received, each of which opens a round of polling. -/
  polls : UInt64
  deriving DecidableEq, Repr

namespace Stats

/-- Nothing has happened yet. -/
def zero : Stats := ⟨0, 0, 0, 0⟩

instance : Inhabited Stats := ⟨zero⟩

/-- The counters after a frame of `bits` bits was received. -/
def receive (s : Stats) (bits : Nat) : Stats :=
  { s with
    received := s.received + 1
    polls := if FrameKind.ofBits bits = .request then s.polls + 1 else s.polls }

/-- The counters after an answer was sent. -/
def answer (s : Stats) : Stats := { s with answered := s.answered + 1 }

/-- The counters after a frame was left without an answer. -/
def ignore (s : Stats) : Stats := { s with ignored := s.ignored + 1 }

/-- The counters as a log shows them. -/
def text (s : Stats) : String :=
  "SessionStats \x7b frames_received: " ++ toString s.received.toNat ++
    ", replies_sent: " ++ toString s.answered.toNat ++
    ", frames_ignored: " ++ toString s.ignored.toNat ++
    ", polling_rounds: " ++ toString s.polls.toNat ++ " \x7d"

end Stats

/-! ## Levels -/

/-- How much an event matters. -/
inductive Level where
  | warn
  | info
  | debug
  | trace
  deriving DecidableEq, Repr

/-- The level as a log shows it. -/
def Level.text : Level → String
  | .warn => "WARN"
  | .info => "INFO"
  | .debug => "DEBUG"
  | .trace => "TRACE"

/-! ## Events -/

/-- Something a session reports. -/
inductive Event where
  /-- ATQA and SAK of the tag do not describe the UID it has. -/
  | misfit (identity : Identity)
  /-- The device with this name became a target and received the first command of a reader. -/
  | firstCommand (device : String) (frame : Frame)
  /-- The tag is up. -/
  | broughtUp (uid : Uid) (hardwareParity : Bool)
  /-- A session polls the device with this name. -/
  | started (device : String)
  /-- The parity bits at these positions are wrong. -/
  | parityWrong (positions : List Nat) (frame : Frame)
  /-- No parity bit is wrong. -/
  | parityRight (frame : Frame)
  /-- A request opens a round of polling. -/
  | newRound
  /-- A frame was received. -/
  | heard (frame : Frame)
  /-- A frame as long as SELECT was turned down. -/
  | objected (fault : Fault)
  /-- An answer was sent. -/
  | said (frame : Frame)
  /-- A frame was left without an answer. -/
  | ignored (bits : Nat) (kind : FrameKind)
  /-- A fault ended the session. -/
  | ended (fault : Fault)
  /-- The stop flag ended the session. -/
  | stopped (stats : Stats)
  deriving DecidableEq

namespace Event

/-- How much an event matters. -/
def level : Event → Level
  | .misfit _ => .warn
  | .firstCommand _ _ => .info
  | .broughtUp _ _ => .info
  | .started _ => .info
  | .parityWrong _ _ => .warn
  | .parityRight _ => .trace
  | .newRound => .debug
  | .heard _ => .debug
  | .objected _ => .trace
  | .said _ => .debug
  | .ignored _ _ => .trace
  | .ended _ => .warn
  | .stopped _ => .info

/-- A list of positions in brackets. -/
def positionsText (positions : List Nat) : String :=
  "[" ++ ", ".intercalate (positions.map toString) ++ "]"

/-- The bytes of a frame without regard to its parity bits. -/
def plainText (f : Frame) : String := Text.ofBits f.bytes f.bits

/-- The wording of an event. -/
def message : Event → String
  | .misfit identity =>
    "ATQA " ++ Hex.ofBytes identity.atqa.bytes ++ " / SAK " ++ Hex.literal8 identity.sak.value ++
      " do not describe a complete single-size UID; " ++
      "initiators may expect cascade levels that are never answered"
  | .firstCommand device frame => device ++ ": received initiator command: " ++ frame.text
  | .broughtUp uid hardwareParity =>
    "emulated tag initialized with UID " ++ uid.toUpperHex ++ " (hardware parity: " ++
      (if hardwareParity then "true" else "false") ++ ")"
  | .started device => device ++ ": emulation started"
  | .parityWrong positions frame =>
    "parity error in byte(s) " ++ positionsText positions ++ ": " ++ frame.text
  | .parityRight frame => "R (parity): " ++ frame.text
  | .newRound => "new anti-collision round"
  | .heard frame => "R: " ++ plainText frame
  | .objected fault => "rejecting SELECT: " ++ fault.message
  | .said frame => "T: " ++ plainText frame
  | .ignored bits kind => "ignoring " ++ toString bits ++ "-bit " ++ kind.text ++ " frame"
  | .ended fault => "emulation session ended: " ++ fault.message
  | .stopped stats => "emulation stopped: " ++ stats.text

end Event

end TagEmulation
