import TagEmulation.Session.Basic

/-!
# Setup — a tag and its device, put together change by change

A set-up starts from the usual identity and the usual options, without a device.  Every change
writes one or more of its fields, so what counts of many changes is the last one that writes a
field.  A set-up is complete once it has a device.
-/

namespace TagEmulation

/-- A change of a set-up with devices in `δ`. -/
inductive Change (δ : Type) where
  /-- Use this device. -/
  | device (value : δ)
  /-- Use this identity. -/
  | identity (value : Identity)
  /-- Use this UID, and leave ATQA and SAK alone. -/
  | uid (value : Uid)
  /-- Use these options. -/
  | config (value : Config)
  /-- Log no line per frame, or do. -/
  | quiet (value : Bool)
  /-- Leave parity to the device, or do not. -/
  | hardwareParity (value : Bool)
  /-- Answer only a SELECT that names the tag, or any. -/
  | strictSelect (value : Bool)
  /-- Wait this long for a frame. -/
  | pollTime (value : Duration)
  /-- Wait this long for the first command, or without a limit. -/
  | firstTime (value : Option Duration)

/-- A set-up with devices in `δ`. -/
structure Setup (δ : Type) where
  device : Option δ
  identity : Identity
  config : Config

namespace Setup

variable {δ : Type}

/-- The set-up before any change. -/
def usual : Setup δ := ⟨none, default, default⟩

instance : Inhabited (Setup δ) := ⟨usual⟩

/-- The set-up after one more change. -/
def apply (s : Setup δ) : Change δ → Setup δ
  | .device value => { s with device := some value }
  | .identity value => { s with identity := value }
  | .uid value => { s with identity.uid := value }
  | .config value => { s with config := value }
  | .quiet value => { s with config.quiet := value }
  | .hardwareParity value => { s with config.hardwareParity := value }
  | .strictSelect value => { s with config.strictSelect := value }
  | .pollTime value => { s with config.pollMillis := value.millis }
  | .firstTime value => { s with config.firstMillis := value.map Duration.millis }

/-- The set-up after some changes, made in order. -/
def ofChanges (changes : List (Change δ)) : Setup δ := changes.foldl apply usual

/-- The tag of a complete set-up, and its device. -/
def build (s : Setup δ) : Except Fault (Tag × δ) :=
  match s.device with
  | some device => .ok (Tag.ofConfig s.identity s.config, device)
  | none => .error .noDevice

end Setup

end TagEmulation
