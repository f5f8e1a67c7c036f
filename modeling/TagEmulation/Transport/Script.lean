import TagEmulation.Frame
import TagEmulation.Transport.Basic

/-!
# Transport/Script — a device that plays the reader from a script

A script is a list of cues: a frame that arrives, or a silence in which a receive times out.  The
device takes one cue per receive and keeps every frame it is given to send.  A script that has run
dry may raise the stop flag, so that a session which polls it comes to an end, and may report that
the reader has gone.  A number of sends can be made to fail.
-/

namespace TagEmulation

/-- What the reader does next. -/
inductive Cue where
  /-- This frame arrives. -/
  | frame (frame : Frame)
  /-- Nothing arrives in time. -/
  | silence
  deriving DecidableEq

/-- The state of a scripted device. -/
structure Script where
  /-- What is still to come. -/
  inbound : List Cue := []
  /-- The frames sent so far, oldest first; with parity bits if they were handed over. -/
  sent : List Frame := []
  /-- The options switched so far, oldest first. -/
  options : List (DeviceOption × Bool) := []
  /-- The identities the device was made a target of, oldest first. -/
  identities : List Identity := []
  /-- How many of the next sends fail. -/
  failuresLeft : Nat := 0
  /-- Once dry, report that the reader has gone. -/
  disconnectsWhenDry : Bool := false
  /-- Once dry, raise the stop flag. -/
  stopsWhenDry : Bool := false
  /-- The stop flag. -/
  stopRaised : Bool := false
  deriving DecidableEq

namespace Script

instance : Inhabited Script := ⟨{}⟩

/-- The script that brings the given frames. -/
def ofFrames (frames : List Frame) : Script := { inbound := frames.map .frame }

/-- The script with one more cue at its end. -/
def push (s : Script) (cue : Cue) : Script := { s with inbound := s.inbound ++ [cue] }

/-- Takes back the frame sent last. -/
def popSent (s : Script) : Option Frame × Script :=
  (s.sent.getLast?, { s with sent := s.sent.dropLast })

/-! ## Receiving -/

/-- Takes the next cue. -/
def next (s : Script) : Except Fault Frame × Script :=
  match s.inbound with
  | .frame f :: rest => (.ok f, { s with inbound := rest })
  | .silence :: rest => (.error .timeout, { s with inbound := rest })
  | [] =>
    (.error (if s.disconnectsWhenDry then .disconnected else .timeout),
      { s with stopRaised := s.stopRaised || s.stopsWhenDry })

/-- Lays a frame over the front of a buffer, which must have room for all of it. -/
def deliver {n : Nat} (f : Frame) (rx : Buffer n) : Except Fault (Buffer n) :=
  if f.byteCount ≤ n then .ok (rx.overwrite f.bytes)
  else .error (.badFrame (.exceedsBuffer f.byteCount n))

/-- Receives the frame of the next cue.  The cue is gone even if its frame does not fit. -/
def receive : Receive Script := fun rx _ s =>
  match s.next with
  | (.error fault, s) => ⟨.error (.fault fault), rx, s⟩
  | (.ok f, s) =>
    match deliver f rx with
    | .error fault => ⟨.error (.fault fault), rx, s⟩
    | .ok rx => ⟨.ok f.bits, rx, s⟩

/-- The parity bits that come with a frame just received: those it carries, right or wrong and as
far as there are slots, or else the right ones. -/
def parityOf {n m : Nat} (f : Frame) (rx : Buffer n) (slots : Buffer m) :
    Except Breach (Buffer m) :=
  match f.parity with
  | some parity => .ok (slots.overwrite parity)
  | none => slots.fillParity (rx.bytes.take (f.bits / 8))

/-- Receives the frame of the next cue with its parity bits. -/
def receiveWithParity : ReceiveWithParity Script := fun rx slots _ s =>
  match s.next with
  | (.error fault, s) => ⟨.error (.fault fault), rx, slots, s⟩
  | (.ok f, s) =>
    match deliver f rx with
    | .error fault => ⟨.error (.fault fault), rx, slots, s⟩
    | .ok rx =>
      match parityOf f rx slots with
      | .error breach => ⟨.error (.breach breach), rx, slots, s⟩
      | .ok slots => ⟨.ok f.bits, rx, slots, s⟩

/-! ## Sending -/

/-- Keeps a frame that is sent, or uses up a failure. -/
def record (f : Frame) (s : Script) : Acknowledgement Script :=
  match s.failuresLeft with
  | n + 1 => ⟨.error (.fault (.notSent "mock transmit failure")), { s with failuresLeft := n }⟩
  | 0 => ⟨.ok (), { s with sent := s.sent ++ [f] }⟩

/-- Keeps a frame if its making succeeded. -/
def recordIf (made : Except Fault Frame) (s : Script) : Acknowledgement Script :=
  match made with
  | .ok f => s.record f
  | .error fault => ⟨.error (.fault fault), s⟩

/-- Sends a frame. -/
def transmit : Transmit Script := fun tx bits s => s.recordIf (Frame.ofBuffer tx bits)

/-- Sends a frame with its parity bits. -/
def transmitWithParity : TransmitWithParity Script := fun tx bits parity s =>
  s.recordIf ((Frame.ofBuffer tx bits).bind (·.withParity parity))

/-! ## The device -/

/-- The scripted device, which goes by the given name in a log. -/
def transport (name : String) : Transport Script where
  receive := receive
  transmit := transmit
  receiveWithParity := receiveWithParity
  transmitWithParity := transmitWithParity
  configure := fun option value s => ⟨.ok (), { s with options := s.options ++ [(option, value)] }⟩
  becomeTarget := fun identity {_} rx timeout s =>
    receive rx timeout { s with identities := s.identities ++ [identity] }
  name := name

/-- The name of a scripted device of one owner. -/
def ownedName : String := "mock"

/-- The name of a scripted device that others look into. -/
def sharedName : String := "shared mock"

end Script

end TagEmulation
