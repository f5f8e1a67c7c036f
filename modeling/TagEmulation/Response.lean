import TagEmulation.Command

/-!
# Response — what a tag sends during its selection

Each step of the selection has one answer: ATQA to a request, the UID with its block check to
ANTICOLLISION, and SAK with its CRC_A to SELECT.  `Response.decode` reads an answer as the reader
who sent the command would, and checks what it carries.
-/

namespace TagEmulation

/-- An answer of the selection at cascade level 1. -/
inductive Response where
  /-- The answer to a request. -/
  | atqa (value : Atqa)
  /-- The answer to ANTICOLLISION. -/
  | uid (value : Uid)
  /-- The answer to SELECT. -/
  | sak (value : Sak)
  deriving DecidableEq, Repr

namespace Response

/-- The number of bits of an answer to a request. -/
def atqaBits : Nat := 16

/-- The number of bits of an answer to ANTICOLLISION. -/
def uidBits : Nat := 40

/-- The number of bits of an answer to SELECT. -/
def sakBits : Nat := 24

/-- The number of bits of an answer. -/
def bits : Response → Nat
  | .atqa _ => atqaBits
  | .uid _ => uidBits
  | .sak _ => sakBits

/-- The frame of an answer. -/
def encode : Response → Frame
  | .atqa value => .ofBytes value.bytes
  | .uid value => .ofBytes value.checked
  | .sak value => .ofBytes value.checked

/-- An answer has as many bits as its frame. -/
theorem bits_encode (r : Response) : r.encode.bits = r.bits := by
  cases r <;> rfl

/-- An answer to a request. -/
def decodeAtqa (f : Frame) : Except Fault Atqa :=
  match f.requireBits atqaBits, f.bytes with
  | .error fault, _ => .error fault
  | .ok (), [first, second] => .ok ⟨first, second⟩
  | .ok (), bs => .error (.wrongLength 2 bs.length)

/-- An answer to ANTICOLLISION, its block check compared with that of the UID. -/
def decodeUid (f : Frame) : Except Fault Uid :=
  match f.requireBits uidBits, f.bytes with
  | .error fault, _ => .error fault
  | .ok (), [a, b, c, d, check] =>
    let uid : Uid := ⟨a, b, c, d⟩
    if uid.check ≠ check then .error (.wrongBlockCheck uid.check check) else .ok uid
  | .ok (), bs => .error (.wrongLength 5 bs.length)

/-- An answer to SELECT, its CRC_A compared with that of the byte before. -/
def decodeSak (f : Frame) : Except Fault Sak :=
  match f.requireBits sakBits, f.bytes with
  | .error fault, _ => .error fault
  | .ok (), [value, low, high] =>
    if crcA [value] ≠ crcOfBytes low high then
      .error (.wrongCrc (crcA [value]) (crcOfBytes low high))
    else .ok ⟨value⟩
  | .ok (), bs => .error (.wrongLength 3 bs.length)

/-- The answer in a frame, read as the answer to `command`. -/
def decode (command : Command) (f : Frame) : Except Fault Response :=
  match command with
  | .reqa | .wupa => (decodeAtqa f).map .atqa
  | .anticollision => (decodeUid f).map .uid
  | .select _ => (decodeSak f).map .sak

end Response

end TagEmulation
