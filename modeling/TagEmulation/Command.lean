import TagEmulation.Access

/-!
# Command — what a reader sends to select a tag

Three steps lead to a selected tag at cascade level 1: a request (REQA, or WUPA for tags that sleep)
in a short frame of seven bits, ANTICOLLISION in two bytes, and SELECT in nine, which names one tag
by its UID.  `Command.encode` writes a command as a frame.  `Command.decode` reads one back and
checks everything in it, in the order of the checks below; the first that fails is reported.
-/

namespace TagEmulation

/-- A command of the selection at cascade level 1. -/
inductive Command where
  /-- Request: every idle tag answers. -/
  | reqa
  /-- Wake-up: every tag answers, sleeping ones too. -/
  | wupa
  /-- Anti-collision: every tag answers with its UID. -/
  | anticollision
  /-- Selection of the tag with this UID. -/
  | select (uid : Uid)
  deriving DecidableEq, Repr

namespace Command

/-! ## Codes and lengths -/

/-- The code of REQA. -/
def reqaCode : UInt8 := 0x26

/-- The code of WUPA. -/
def wupaCode : UInt8 := 0x52

/-- The code of both commands with a UID at cascade level 1. -/
def levelOneCode : UInt8 := 0x93

/-- The second byte of ANTICOLLISION: two bytes are valid, none of them of the UID. -/
def noUidBits : UInt8 := 0x20

/-- The second byte of SELECT: the whole UID and its block check follow. -/
def allUidBits : UInt8 := 0x70

/-- The number of bits of a short frame. -/
def requestBits : Nat := 7

/-- The number of bits of ANTICOLLISION. -/
def anticollisionBits : Nat := 16

/-- The number of bits of SELECT. -/
def selectBits : Nat := 72

/-- The first byte of a command. -/
def code : Command → UInt8
  | .reqa => reqaCode
  | .wupa => wupaCode
  | .anticollision => levelOneCode
  | .select _ => levelOneCode

/-! ## Encoding -/

/-- The bytes of SELECT: header, UID, block check and CRC_A. -/
def selectBytes (uid : Uid) : List UInt8 := withCrcA ([levelOneCode, allUidBits] ++ uid.checked)

/-- The frame of a command. -/
def encode : Command → Frame
  | .reqa => .short reqaCode
  | .wupa => .short wupaCode
  | .anticollision => .ofBytes [levelOneCode, noUidBits]
  | .select uid => .ofBytes (selectBytes uid)

/-! ## Decoding -/

/-- The request in a short frame.  The bit that the frame does not define is ignored. -/
def decodeRequest (f : Frame) : Except Fault Command :=
  if f.bits ≠ requestBits then .error (.badFrame (.notShort f.bits))
  else
    match f.bytes with
    | [b] =>
      if b &&& 0x7f = reqaCode then .ok .reqa
      else if b &&& 0x7f = wupaCode then .ok .wupa
      else .error (.wrongCommand reqaCode (b &&& 0x7f))
    | bs => .error (.wrongLength 1 bs.length)

/-- Checks that a frame is ANTICOLLISION. -/
def decodeAnticollision (f : Frame) : Except Fault Unit :=
  match f.requireBits anticollisionBits, f.bytes with
  | .error fault, _ => .error fault
  | .ok (), [first, second] =>
    if first ≠ levelOneCode then .error (.wrongCommand levelOneCode first)
    else if second ≠ noUidBits then .error (.wrongCommand noUidBits second)
    else .ok ()
  | .ok (), bs => .error (.wrongLength 2 bs.length)

/-- The UID that a SELECT frame names.  Its header is checked first, then its CRC_A over the seven
bytes before, then the block check of the UID. -/
def decodeSelect (f : Frame) : Except Fault Uid :=
  match f.requireBits selectBits, f.bytes with
  | .error fault, _ => .error fault
  | .ok (), [first, second, a, b, c, d, check, low, high] =>
    let uid : Uid := ⟨a, b, c, d⟩
    let crc := crcA [first, second, a, b, c, d, check]
    if first ≠ levelOneCode then .error (.wrongCommand levelOneCode first)
    else if second ≠ allUidBits then .error (.wrongCommand allUidBits second)
    else if crc ≠ crcOfBytes low high then .error (.wrongCrc crc (crcOfBytes low high))
    else if uid.check ≠ check then .error (.wrongBlockCheck uid.check check)
    else .ok uid
  | .ok (), bs => .error (.wrongLength 9 bs.length)

/-- The command in a frame, told by its number of bits and then checked in full. -/
def decode (f : Frame) : Except Fault Command :=
  if f.bits = requestBits then decodeRequest f
  else if f.bits = anticollisionBits then (decodeAnticollision f).map fun () => .anticollision
  else if f.bits = selectBits then (decodeSelect f).map .select
  else .error (.badFrame (.noSuchCommand f.bits))

/-! ## A whole selection -/

/-- The three commands that select the tag with a given UID. -/
def selection (uid : Uid) : List Command := [.reqa, .anticollision, .select uid]

@[simp] theorem length_selectBytes (uid : Uid) : (selectBytes uid).length = 9 := rfl

end Command

end TagEmulation
