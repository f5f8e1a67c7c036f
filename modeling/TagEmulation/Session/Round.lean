import TagEmulation.Session.Event
import TagEmulation.Transport.Basic

/-!
# Session/Round — one frame heard, and what came of it

A round receives a frame into the staging buffers, asks the responder for an answer and sends it.
`exchange` does this with a device and tells what happened as a `Round`.  All else that a round
means is read off that value: the outcome (`Round.outcome`), the counters (`Round.count`) and the
log (`Round.events`).  So what a session reports cannot differ from what it did.

The log is that of a build with diagnostics: one without them leaves out the record that all parity
bits are right (`Event.parityRight`), and is the same otherwise.
-/

namespace TagEmulation

/-! ## Staging -/

/-- The number of bytes a session has room for in one frame. -/
def stagingSize : Nat := 264

/-- The buffers a session receives into: the bytes of a frame, and a slot for each parity bit. -/
structure Staging where
  data : Buffer stagingSize
  parity : Buffer stagingSize
  deriving DecidableEq

/-- Buffers of zeros. -/
def Staging.zeroed : Staging := ⟨Buffer.zeroed stagingSize, Buffer.zeroed stagingSize⟩

instance : Inhabited Staging := ⟨Staging.zeroed⟩

/-! ## Receiving -/

/-- A frame received.  If the session is in charge of parity, the frame carries its parity bits and
the positions of the wrong ones are known. -/
structure Heard where
  frame : Frame
  wrongParity : Option (List Nat)
  deriving DecidableEq

/-- What receiving a frame leaves. -/
structure Hearing (σ : Type) where
  outcome : Except Failure Heard
  staging : Staging
  device : σ

/-- The frame in a buffer whose parity the device has checked. -/
def heardPlain (data : List UInt8) (bits : Nat) : Except Failure Heard :=
  (orFault (Frame.ofBuffer data bits)).map fun f => ⟨f, none⟩

/-- The frame in a buffer with its parity bits, and the positions of the wrong ones. -/
def heardWithParity (data parity : List UInt8) (bits : Nat) : Except Failure Heard :=
  (orFault ((Frame.ofBuffer data bits).bind (·.withParity (parity.take (bits / 8))))).bind fun f =>
    (orBreach (parityMismatches f.bytes bits (parity.take (bits / 8)))).map fun wrong =>
      ⟨f, some wrong⟩

variable {σ : Type}

/-- Receives a frame into the staging buffers. -/
def hear (T : Transport σ) (config : Config) (staging : Staging) (device : σ) : Hearing σ :=
  if config.hardwareParity then
    let r := T.receive staging.data (some config.pollMillis) device
    ⟨r.outcome.bind (heardPlain r.rx.bytes), { staging with data := r.rx }, r.device⟩
  else
    let r := T.receiveWithParity staging.data staging.parity (some config.pollMillis) device
    ⟨r.outcome.bind (heardWithParity r.rx.bytes r.parity.bytes), ⟨r.rx, r.parity⟩, r.device⟩

/-- Sends an answer, with its parity bits if the session is in charge of them. -/
def speak (T : Transport σ) (config : Config) (reply : Frame) (device : σ) : Acknowledgement σ :=
  if config.hardwareParity then T.transmit reply.bytes reply.bits device
  else T.transmitWithParity reply.bytes reply.bits reply.rightParity device

/-! ## Rounds -/

/-- What happened in a round. -/
inductive Round where
  /-- No frame was received. -/
  | silent (why : Failure)
  /-- A frame was received that has no answer. -/
  | ignored (heard : Heard)
  /-- A frame was received and answered. -/
  | answered (heard : Heard) (reply : Frame)
  /-- A frame was received, but its answer could not be sent. -/
  | unsent (heard : Heard) (reply : Frame) (why : Failure)
  deriving DecidableEq

/-- What a round leaves. -/
structure Exchange (σ : Type) where
  round : Round
  staging : Staging
  device : σ

/-- Plays one round with a device. -/
def exchange (T : Transport σ) (responder : Responder) (config : Config) (staging : Staging)
    (device : σ) : Exchange σ :=
  let h := hear T config staging device
  match h.outcome with
  | .error why => ⟨.silent why, h.staging, h.device⟩
  | .ok heard =>
    match responder.answer heard.frame with
    | none => ⟨.ignored heard, h.staging, h.device⟩
    | some reply =>
      let sent := speak T config reply h.device
      match sent.outcome with
      | .error why => ⟨.unsent heard reply why, h.staging, sent.device⟩
      | .ok () => ⟨.answered heard reply, h.staging, sent.device⟩

namespace Round

/-- The frame received in a round, if there is one. -/
def heard? : Round → Option Heard
  | .silent _ => none
  | .ignored heard => some heard
  | .answered heard _ => some heard
  | .unsent heard _ _ => some heard

/-- How a round ends: with the kind of the frame received, or with a failure. -/
def outcome : Round → Except Failure FrameKind
  | .silent why => .error why
  | .ignored heard => .ok (FrameKind.ofBits heard.frame.bits)
  | .answered heard _ => .ok (FrameKind.ofBits heard.frame.bits)
  | .unsent _ _ why => .error why

/-- The counters after a round. -/
def count (s : Stats) : Round → Stats
  | .silent _ => s
  | .ignored heard => (s.receive heard.frame.bits).ignore
  | .answered heard _ => (s.receive heard.frame.bits).answer
  | .unsent heard _ _ => s.receive heard.frame.bits

/-! ## The log of a round -/

/-- The verdict on the parity bits, if the session is in charge of them.  That they are right is
only on record in a build with diagnostics. -/
def parityEvents (heard : Heard) : List Event :=
  match heard.wrongParity with
  | none => []
  | some [] => [.parityRight heard.frame]
  | some (i :: is) => [.parityWrong (i :: is) heard.frame]

/-- The frame received, unless the session is quiet. -/
def heardEvents (quiet : Bool) (f : Frame) : List Event :=
  if quiet then []
  else if FrameKind.ofBits f.bits = .request then [.newRound, .heard f]
  else [.heard f]

/-- The answer sent, unless the session is quiet. -/
def saidEvents (quiet : Bool) (reply : Frame) : List Event :=
  if quiet then [] else [.said reply]

/-- All that is reported before an answer is sent. -/
def inboundEvents (responder : Responder) (quiet : Bool) (heard : Heard) : List Event :=
  parityEvents heard ++ heardEvents quiet heard.frame ++
    ((responder.objection? heard.frame).map Event.objected).toList

/-- The log of a round. -/
def events (responder : Responder) (quiet : Bool) : Round → List Event
  | .silent _ => []
  | .ignored heard =>
    inboundEvents responder quiet heard ++
      [.ignored heard.frame.bits (FrameKind.ofBits heard.frame.bits)]
  | .answered heard reply => inboundEvents responder quiet heard ++ saidEvents quiet reply
  | .unsent heard _ _ => inboundEvents responder quiet heard

end Round

end TagEmulation
