import TagEmulation.Response

/-!
# Responder — which answer a frame gets

A tag tells the commands of the selection apart by their number of bits alone, and it has one answer
for each.  A *strict* responder also reads the frames as long as a SELECT: it answers only the one
that is valid throughout and names its own UID.
-/

namespace TagEmulation

/-! ## Kinds of frames -/

/-- What a frame is taken for, by its number of bits. -/
inductive FrameKind where
  /-- A request, which opens a new round of polling. -/
  | request
  /-- As long as ANTICOLLISION. -/
  | anticollision
  /-- As long as SELECT. -/
  | select
  /-- Of any other length: never answered. -/
  | unknown
  deriving DecidableEq, Repr

namespace FrameKind

/-- The kind of a frame of `bits` bits. -/
def ofBits (bits : Nat) : FrameKind :=
  if bits = Command.requestBits then .request
  else if bits = Command.anticollisionBits then .anticollision
  else if bits = Command.selectBits then .select
  else .unknown

/-- The number of bits of the answer to this kind, zero if there is none. -/
def replyBits : FrameKind → Nat
  | .request => Response.atqaBits
  | .anticollision => Response.uidBits
  | .select => Response.sakBits
  | .unknown => 0

/-- The kind as a log shows it. -/
def text : FrameKind → String
  | .request => "REQA/WUPA"
  | .anticollision => "ANTICOLLISION CL1"
  | .select => "SELECT CL1"
  | .unknown => "unknown"

end FrameKind

/-! ## Answers -/

/-- A tag of one identity; a strict one answers only the SELECT that names it. -/
structure Responder where
  identity : Identity
  strict : Bool
  deriving DecidableEq, Repr

namespace Responder

/-- The usual tag, not strict. -/
instance : Inhabited Responder := ⟨⟨default, false⟩⟩

/-- What the tag has to say to a kind of frame. -/
def response? (r : Responder) : FrameKind → Option Response
  | .request => some (.atqa r.identity.atqa)
  | .anticollision => some (.uid r.identity.uid)
  | .select => some (.sak r.identity.sak)
  | .unknown => none

/-- The frame the tag has for a kind of frame. -/
def reply? (r : Responder) (kind : FrameKind) : Option Frame :=
  (r.response? kind).map Response.encode

/-- Whether a frame is a valid SELECT that names this tag. -/
def isSelectedBy (r : Responder) (f : Frame) : Bool :=
  match Command.decodeSelect f with
  | .ok uid => uid == r.identity.uid
  | .error _ => false

/-- The frame the tag answers with, if it answers. -/
def answer (r : Responder) (f : Frame) : Option Frame :=
  if FrameKind.ofBits f.bits = .select ∧ r.strict ∧ !r.isSelectedBy f then none
  else r.reply? (FrameKind.ofBits f.bits)

/-- The fault for which a strict tag turns down a frame as long as SELECT.  A valid SELECT of a
different tag has none. -/
def objection? (r : Responder) (f : Frame) : Option Fault :=
  if FrameKind.ofBits f.bits = .select ∧ r.strict then
    match Command.decodeSelect f with
    | .ok _ => none
    | .error fault => some fault
  else none

end Responder

end TagEmulation
