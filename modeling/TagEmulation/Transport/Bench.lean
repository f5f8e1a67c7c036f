import TagEmulation.Transport.Basic

/-!
# Transport/Bench — a device whose every answer is laid out beforehand

A bench device is handed the outcome of each receive, of each send and of each switch of an option.
What it reports need not be sensible: it may count more bits than it wrote, or bring parity bits
without a frame.  `Bench.plain` brings along only what a device must, `Bench.full` every operation.
-/

namespace TagEmulation

/-- The outcome of one receive. -/
inductive BenchReading where
  /-- The receive fails. -/
  | fails (fault : Fault)
  /-- These bytes and parity bits are laid over the buffers, and this number of bits is reported. -/
  | delivers (data parity : List UInt8) (bits : Nat)
  deriving DecidableEq, Repr

/-- What the device was given to send. -/
structure BenchSent where
  bytes : List UInt8
  bits : Nat
  parity : Option (List UInt8)
  deriving DecidableEq, Repr

/-- The state of a bench device. -/
structure Bench where
  /-- The receives still to come. -/
  inbound : List BenchReading := []
  /-- The outcomes of the next sends; any further one succeeds. -/
  sends : List (Option Fault) := []
  /-- The outcomes of the next switches of an option; any further one succeeds. -/
  switches : List (Option Fault) := []
  /-- What was sent so far, oldest first. -/
  sent : List BenchSent := []
  /-- The options switched so far, oldest first. -/
  options : List (DeviceOption × Bool) := []
  /-- The identities the device was made a target of, oldest first. -/
  identities : List Identity := []
  /-- The time limits of all receives, oldest first. -/
  timeouts : List (Option UInt64) := []
  /-- Once dry, report that the reader has gone. -/
  disconnectsWhenDry : Bool := false
  /-- Once dry, raise the stop flag. -/
  stopsWhenDry : Bool := false
  /-- The stop flag. -/
  stopRaised : Bool := false
  deriving DecidableEq, Repr

namespace Bench

instance : Inhabited Bench := ⟨{}⟩

/-- The rounds in which a session uses up all readings: one per reading, and one to find none. -/
def roundsToDry (b : Bench) : Nat := b.inbound.length + 1

/-! ## Receiving -/

/-- Takes the next reading: its bytes, its parity bits and its number of bits. -/
def next (timeout : Option UInt64) (b : Bench) :
    Except Fault (List UInt8 × List UInt8 × Nat) × Bench :=
  let b := { b with timeouts := b.timeouts ++ [timeout] }
  match b.inbound with
  | .fails fault :: rest => (.error fault, { b with inbound := rest })
  | .delivers data parity bits :: rest => (.ok (data, parity, bits), { b with inbound := rest })
  | [] =>
    (.error (if b.disconnectsWhenDry then .disconnected else .timeout),
      { b with stopRaised := b.stopRaised || b.stopsWhenDry })

/-- Receives the next reading. -/
def receive : Receive Bench := fun rx timeout b =>
  match b.next timeout with
  | (.error fault, b) => ⟨.error (.fault fault), rx, b⟩
  | (.ok (data, _, bits), b) => ⟨.ok bits, rx.overwrite data, b⟩

/-- Receives the next reading with its parity bits. -/
def receiveWithParity : ReceiveWithParity Bench := fun rx slots timeout b =>
  match b.next timeout with
  | (.error fault, b) => ⟨.error (.fault fault), rx, slots, b⟩
  | (.ok (data, parity, bits), b) => ⟨.ok bits, rx.overwrite data, slots.overwrite parity, b⟩

/-! ## Sending and switching -/

/-- Keeps what is sent, unless this send is to fail. -/
def record (sent : BenchSent) (b : Bench) : Acknowledgement Bench :=
  match b.sends with
  | some fault :: rest => ⟨.error (.fault fault), { b with sends := rest }⟩
  | none :: rest => ⟨.ok (), { b with sends := rest, sent := b.sent ++ [sent] }⟩
  | [] => ⟨.ok (), { b with sent := b.sent ++ [sent] }⟩

/-- Sends a frame. -/
def transmit : Transmit Bench := fun tx bits b => b.record ⟨tx, bits, none⟩

/-- Sends a frame with its parity bits. -/
def transmitWithParity : TransmitWithParity Bench := fun tx bits parity b =>
  b.record ⟨tx, bits, some parity⟩

/-- Switches an option, unless this switch is to fail. -/
def configure (option : DeviceOption) (value : Bool) (b : Bench) : Acknowledgement Bench :=
  match b.switches with
  | some fault :: rest => ⟨.error (.fault fault), { b with switches := rest }⟩
  | none :: rest => ⟨.ok (), { b with switches := rest, options := b.options ++ [(option, value)] }⟩
  | [] => ⟨.ok (), { b with options := b.options ++ [(option, value)] }⟩

/-! ## The devices -/

/-- The bench device with nothing but what a device must bring along. -/
def plain : Transport Bench where
  receive := receive
  transmit := transmit

/-- The bench device with every operation. -/
def full : Transport Bench where
  receive := receive
  transmit := transmit
  receiveWithParity := receiveWithParity
  transmitWithParity := transmitWithParity
  configure := configure
  becomeTarget := fun identity {_} rx timeout b =>
    receive rx timeout { b with identities := b.identities ++ [identity] }
  name := "custom"

end Bench

end TagEmulation
