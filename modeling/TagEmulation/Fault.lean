import TagEmulation.Breach
import TagEmulation.Text.Hex

/-!
# Fault — what can go wrong between a tag and its reader

A `Fault` names its cause and carries the values that a report shows; `Fault.message` is the one
place where a report is worded.  Only a timeout is harmless: it says that no frame came in time.
A `Failure` is how an operation on a device ends early, by a fault or by a broken contract.
-/

namespace TagEmulation

/-- Why a frame is not framed as it must be. -/
inductive FrameFlaw where
  /-- No command has this number of bits. -/
  | noSuchCommand (bits : Nat)
  /-- A frame of this number of bits stands where a short frame of seven must. -/
  | notShort (bits : Nat)
  /-- The bytes of the frame do not fit the buffer that receives them. -/
  | exceedsBuffer (frame buffer : Nat)
  /-- A flaw that a device reports in words of its own. -/
  | reported (text : String)
  deriving DecidableEq, Repr

/-- The report of a flaw. -/
def FrameFlaw.message : FrameFlaw → String
  | .noSuchCommand bits => s!"no cascade level 1 command is {bits} bits long"
  | .notShort bits => s!"short frame must be 7 bits, got {bits}"
  | .exceedsBuffer frame buffer => s!"{frame}-byte frame exceeds {buffer}-byte receive buffer"
  | .reported text => text

/-- What went wrong. -/
inductive Fault where
  /-- There is no device to talk to. -/
  | noDevice
  /-- The number of bytes is not the required one. -/
  | wrongLength (expected actual : Nat)
  /-- The bits do not fit the bytes that should hold them. -/
  | tooManyBits (bits capacity : Nat)
  /-- A text is not a list of hexadecimal pairs. -/
  | badHex (flaw : Hex.Flaw)
  /-- The CRC_A sent is not the one of the bytes it guards. -/
  | wrongCrc (expected actual : UInt16)
  /-- The block check sent is not the one of the UID. -/
  | wrongBlockCheck (expected actual : UInt8)
  /-- A byte of the header is not the one of the expected command. -/
  | wrongCommand (expected actual : UInt8)
  /-- The frame is malformed. -/
  | badFrame (flaw : FrameFlaw)
  /-- No frame came in time. -/
  | timeout
  /-- The device went away. -/
  | disconnected
  /-- The device could not send a frame. -/
  | notSent (reason : String)
  deriving DecidableEq, Repr

/-- The report of a fault. -/
def Fault.message : Fault → String
  | .noDevice => "device not found"
  | .wrongLength expected actual => s!"invalid length: expected {expected}, got {actual}"
  | .tooManyBits bits capacity =>
    s!"invalid bit count: {bits} bits do not fit in {capacity} bytes"
  | .badHex flaw => "invalid hex: " ++ flaw.message
  | .wrongCrc expected actual =>
    "crc-a mismatch: expected " ++ Hex.literal16 expected ++ ", got " ++ Hex.literal16 actual
  | .wrongBlockCheck expected actual =>
    "bcc mismatch: expected " ++ Hex.literal8 expected ++ ", got " ++ Hex.literal8 actual
  | .wrongCommand expected actual =>
    "unexpected command: expected " ++ Hex.literal8 expected ++ ", got " ++ Hex.literal8 actual
  | .badFrame flaw => "frame format error: " ++ flaw.message
  | .timeout => "operation timed out"
  | .disconnected => "device disconnected"
  | .notSent reason => "transmit failed: " ++ reason

/-- Whether a fault ends a session.  A timeout does not: the session only polls again. -/
def Fault.isFatal : Fault → Bool
  | .timeout => false
  | _ => true

/-- How an operation on a device ends early. -/
inductive Failure where
  /-- Something went wrong. -/
  | fault (cause : Fault)
  /-- The operation was misused. -/
  | breach (cause : Breach)
  deriving DecidableEq, Repr

/-- The report of a failure. -/
def Failure.message : Failure → String
  | .fault cause => cause.message
  | .breach cause => cause.message

/-- An operation that can only find faults, as one on a device. -/
def orFault {α : Type} (result : Except Fault α) : Except Failure α := result.mapError .fault

/-- An operation that can only be misused, as one on a device. -/
def orBreach {α : Type} (result : Except Breach α) : Except Failure α := result.mapError .breach

variable {ε α β : Type} {result : Except ε α}

theorem map_eq_ok_iff {g : α → β} {b : β} :
    result.map g = .ok b ↔ ∃ a, result = .ok a ∧ g a = b := by
  cases result with
  | ok a => simp [Except.map]
  | error e => simp [Except.map]

theorem bind_eq_ok_iff {g : α → Except ε β} {b : β} :
    result.bind g = .ok b ↔ ∃ a, result = .ok a ∧ g a = .ok b := by
  cases result with
  | ok a => simp [Except.bind]
  | error e => simp [Except.bind]

theorem mapError_eq_ok_iff {ε' : Type} {g : ε → ε'} {a : α} {checked : Except ε α} :
    checked.mapError g = .ok a ↔ checked = .ok a := by
  cases checked with
  | ok b =>
    change (Except.ok b : Except ε' α) = .ok a ↔ _
    rw [Except.ok.injEq, Except.ok.injEq]
  | error e =>
    change (Except.error (g e) : Except ε' α) = .ok a ↔ _
    simp

theorem orFault_eq_ok_iff {checked : Except Fault α} {a : α} :
    orFault checked = .ok a ↔ checked = .ok a := mapError_eq_ok_iff

theorem orBreach_eq_ok_iff {checked : Except Breach α} {a : α} :
    orBreach checked = .ok a ↔ checked = .ok a := mapError_eq_ok_iff

/-- An operation fails if nothing comes out of it. -/
theorem exists_eq_error_iff : (∃ e, result = .error e) ↔ ∀ a, result ≠ .ok a := by
  cases result with
  | ok a => simp
  | error e => simp

end TagEmulation
