import TagEmulation.Session.Rehearsal
import TagEmulation.Setup

/-!
# CommandLine — a tag with a chosen UID, and a reader that selects it twice

The program emulates a tag on a scripted device.  Its arguments are read one after the other; the
first that is neither an option nor a UID ends the reading.  What becomes of a call (`Call`) depends
on nothing else but the name the program was called by.  How that is shown is a matter of the
`Surroundings` too: which events the log lets pass, and how an error is put into words.  A `Report`
holds all that a call has to show, so that showing it is all that is left to do.
-/

namespace TagEmulation.CommandLine

/-! ## Arguments -/

/-- What the arguments ask for. -/
structure Options where
  quiet : Bool
  uid : Uid
  deriving DecidableEq, Repr

/-- Why nothing is emulated. -/
inductive Refusal where
  /-- Help was asked for. -/
  | help
  /-- An argument as long as a UID is none. -/
  | notUid (argument : String) (cause : Fault)
  /-- An argument is of no use. -/
  | unexpected (argument : String)
  deriving DecidableEq, Repr

/-- The options after one more argument.  A UID takes eight bytes; a later one replaces an earlier
one. -/
def Options.read (o : Options) (argument : String) : Except Refusal Options :=
  if argument = "-h" then .error .help
  else if argument = "-q" then .ok { o with quiet := true }
  else if argument.utf8ByteSize = 8 then
    match Uid.parse argument with
    | .ok uid => .ok { o with uid }
    | .error cause => .error (.notUid argument cause)
  else .error (.unexpected argument)

/-- The options that the arguments ask for, or the first reason to emulate nothing. -/
def Options.ofArguments (arguments : List String) : Except Refusal Options :=
  arguments.foldlM Options.read ⟨false, default⟩

/-! ## The reader -/

/-- The frame that sends a tag to sleep. -/
def haltFrame : Frame := .ofBytes (withCrcA [0x50, 0x00])

/-- One selection of a tag, after which it is sent to sleep and nothing happens for a while. -/
def selectionCues (uid : Uid) : List Cue :=
  (selectionFrames uid).map .frame ++ [.frame haltFrame, .silence]

/-- The reader wakes the tag up and selects it twice.  Then the stop flag is raised. -/
def reader (uid : Uid) : Script :=
  { inbound := .frame Command.wupa.encode :: (selectionCues uid ++ selectionCues uid)
    stopsWhenDry := true }

/-! ## What becomes of a call -/

/-- An error that ends a call: what failed, and the cause if there is one. -/
structure Complaint where
  what : String
  cause : Option String
  deriving DecidableEq, Repr

/-- What becomes of a call: what it says, what it logs, and what it complains of if it fails. -/
structure Call where
  said : List String
  log : List Event
  complaint : Option Complaint

/-- How to call the program, by the name it goes by. -/
def usage (program : String) : List String :=
  ["Usage: " ++ program ++ " [OPTIONS] [UID]",
    "Options:",
    "\t-h\tShow this help message",
    "\t-q\tQuiet mode. Do not log exchanged frames",
    "",
    "\t[UID]\tUID to emulate, 8 hex digits (default DEADBEAF)"]

/-- What becomes of a call that emulates nothing.  The usage is shown on request and for an argument
that is of no use, but not for a bad UID. -/
def Refusal.call (program : String) : Refusal → Call
  | .help => ⟨usage program, [], none⟩
  | .notUid argument cause =>
    ⟨[], [], some ⟨argument ++ " is not a valid UID", some cause.message⟩⟩
  | .unexpected argument => ⟨usage program, [], some ⟨"unexpected argument: " ++ argument, none⟩⟩

/-- What is announced before the reader is there. -/
def announcement (uid : Uid) : List String :=
  ["[+] Emulating UID " ++ uid.toUpperHex ++ " (" ++ Hex.ofBytes uid.checked ++ ")",
    "[+] Waiting for initiator request..."]

/-- What is announced when the reader is there. -/
def arrival : String := "[+] Initiator request received. Emulation running."

/-- What is shown at the end. -/
def summary (s : Stats) : String :=
  "[+] Done: " ++ toString s.received.toNat ++ " frame(s) received, " ++
    toString s.answered.toNat ++ " answered, " ++ toString s.ignored.toNat ++ " ignored, " ++
    toString s.polls.toNat ++ " polling round(s)"

/-- The set-up that the options ask for. -/
def Options.setup (o : Options) : Setup Script :=
  .ofChanges [.device (reader o.uid), .uid o.uid, .quiet o.quiet]

/-- The device of the program. -/
def device : Transport Script := Script.transport Script.ownedName

/-- Runs a session to its end; `said` and `log` come before. -/
def finish (said : List String) (log : List Event) (s : Session Script) : Call :=
  let run := s.playOut device
  match run.ending with
  | .stopped stats => ⟨said ++ [summary stats], log ++ run.events, none⟩
  | .failed why => ⟨said, log ++ run.events, some ⟨why.message, none⟩⟩
  | .polling => ⟨said, log ++ run.events, none⟩

/-- Emulates the tag that the options ask for. -/
def emulate (o : Options) : Call :=
  match o.setup.build with
  | .error fault => ⟨announcement o.uid, [], some ⟨fault.message, none⟩⟩
  | .ok (tag, script) =>
    let up := tag.bringUp device script
    match up.outcome with
    | .error why =>
      ⟨announcement o.uid, up.events,
        some ⟨"could not put device in target mode", some why.message⟩⟩
    | .ok session => finish (announcement o.uid ++ [arrival]) up.events session

/-! ## Surroundings -/

/-- What a call finds around it. -/
structure Surroundings where
  /-- The name the program was called by, if it was told one. -/
  calledAs : Option String
  /-- What is asked of the log from outside, if anything is. -/
  logSetting : Option String
  /-- Whether the log lets an event pass under a setting. -/
  lets : String → Event → Bool
  /-- An error, put into words. -/
  describe : Complaint → String

namespace Surroundings

/-- A call that was told no name, and nothing is asked of the log.  The log knows the two settings
that the program has for it, and an error is followed by its cause. -/
def usual : Surroundings where
  calledAs := none
  logSetting := none
  lets setting e :=
    match e.level with
    | .warn | .info => true
    | .debug => setting == "debug"
    | .trace => false
  describe error :=
    match error.cause with
    | none => error.what
    | some cause => error.what ++ "\n\nCaused by:\n    " ++ cause

variable (s : Surroundings)

/-- The name the program goes by. -/
def program : String := s.calledAs.getD "emulate_uid"

/-- Whether an event is shown.  What is asked of the log from outside decides; if nothing is, the
program asks for all but the finest events, and with little talk only for what matters. -/
def shows (quiet : Bool) (e : Event) : Bool :=
  s.lets (s.logSetting.getD (if quiet then "info" else "debug")) e

end Surroundings

/-! ## The report -/

/-- All that a call has to show. -/
structure Report where
  stdout : List String
  log : List Event
  stderr : List String
  code : UInt32

namespace Surroundings

variable (s : Surroundings)

/-- What is shown of a call.  One that complains has failed. -/
def present (quiet : Bool) (c : Call) : Report where
  stdout := c.said
  log := c.log.filter (s.shows quiet)
  stderr := (c.complaint.map fun error => "Error: " ++ s.describe error).toList
  code := if c.complaint.isSome then 1 else 0

/-- What a call of the program with these arguments shows. -/
def report (arguments : List String) : Report :=
  match Options.ofArguments arguments with
  | .error refusal => s.present false (refusal.call s.program)
  | .ok o => s.present o.quiet (emulate o)

end Surroundings

/-- What a call in the usual surroundings shows. -/
def report (arguments : List String) : Report := Surroundings.usual.report arguments

end TagEmulation.CommandLine
