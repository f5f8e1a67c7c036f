import TagEmulation.Config
import TagEmulation.Identity
import TagEmulation.Parity

/-!
# Transport/Basic — what a session asks of a radio device

A `Transport σ` is a device whose state is a `σ`: it receives frames into a buffer and sends frames,
each with an exact number of bits.  These two operations a device must bring along.  The others have
a meaning for devices without them: parity bits are computed where the device has already checked
them, parity bits to be sent are left to the device, options are accepted without effect, and a
device that starts as a target just receives.

Every operation hands back its outcome *and* the state and buffers it leaves, so that whatever a
failed operation has changed is not lost.
-/

namespace TagEmulation

/-- Framing work that a device may do instead of the session. -/
inductive DeviceOption where
  /-- The device adds CRC_A when sending and checks it when receiving. -/
  | handleCrc
  /-- The device adds and checks parity bits. -/
  | handleParity
  deriving DecidableEq, Repr

/-- What receiving a frame leaves: the number of bits or a failure, the buffer and the device. -/
structure Reception (σ : Type) (n : Nat) where
  outcome : Except Failure Nat
  rx : Buffer n
  device : σ

/-- What receiving a frame with its parity bits leaves. -/
structure ParityReception (σ : Type) (n m : Nat) where
  outcome : Except Failure Nat
  rx : Buffer n
  parity : Buffer m
  device : σ

/-- What an order to the device leaves. -/
structure Acknowledgement (σ : Type) where
  outcome : Except Failure Unit
  device : σ

/-- Receiving a frame into a buffer, within so many milliseconds if there is a limit. -/
abbrev Receive (σ : Type) := {n : Nat} → Buffer n → Option UInt64 → σ → Reception σ n

/-- Receiving a frame and its parity bits into two buffers. -/
abbrev ReceiveWithParity (σ : Type) :=
  {n m : Nat} → Buffer n → Buffer m → Option UInt64 → σ → ParityReception σ n m

/-- Sending the first bits of some bytes. -/
abbrev Transmit (σ : Type) := List UInt8 → Nat → σ → Acknowledgement σ

/-- Sending the first bits of some bytes with explicit parity bits. -/
abbrev TransmitWithParity (σ : Type) := List UInt8 → Nat → List UInt8 → σ → Acknowledgement σ

/-- Receives a frame that the device has already checked, and fills in the right parity bits of its
whole bytes, as far as the buffer has them. -/
def Receive.thenFillParity {σ : Type} (receive : Receive σ) : ReceiveWithParity σ :=
  fun rx parity timeout device =>
    let r := receive rx timeout device
    match r.outcome with
    | .error failure => ⟨.error failure, r.rx, parity, r.device⟩
    | .ok bits =>
      match parity.fillParity (r.rx.bytes.take (bits / 8)) with
      | .error breach => ⟨.error (.breach breach), r.rx, parity, r.device⟩
      | .ok filled => ⟨.ok bits, r.rx, filled, r.device⟩

/-- A radio device with state `σ`. -/
structure Transport (σ : Type) where
  /-- Receives one frame. -/
  receive : Receive σ
  /-- Sends one frame. -/
  transmit : Transmit σ
  /-- Receives one frame with its parity bits. -/
  receiveWithParity : ReceiveWithParity σ := receive.thenFillParity
  /-- Sends one frame with its parity bits. -/
  transmitWithParity : TransmitWithParity σ := fun tx bits _ device => transmit tx bits device
  /-- Switches an option. -/
  configure : DeviceOption → Bool → σ → Acknowledgement σ := fun _ _ device => ⟨.ok (), device⟩
  /-- Becomes a target of this identity and receives the first command of a reader. -/
  becomeTarget : Identity → Receive σ := fun _ => receive
  /-- The name of the device in a log. -/
  name : String := "unknown device"

end TagEmulation
