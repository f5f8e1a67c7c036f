import TagEmulation.Session.Round

/-!
# Session/Basic — a tag, and the tag brought up on a device

A `Tag` is an identity with its options, ready for a device.  Bringing it up makes the device a
target, waits for the first command of a reader, and then takes CRC_A, and parity unless the device
keeps it, out of the hands of the device.  What results is a `Session`, which plays rounds.
-/

namespace TagEmulation

variable {σ : Type}

/-- A tag that is ready for a device. -/
structure Tag where
  responder : Responder
  config : Config
  deriving DecidableEq, Repr

/-- The tag of this identity; how strict its responder is, the options say. -/
def Tag.ofConfig (identity : Identity) (config : Config) : Tag :=
  ⟨⟨identity, config.strictSelect⟩, config⟩

/-- The identity of a tag. -/
abbrev Tag.identity (t : Tag) : Identity := t.responder.identity

/-- A tag that is up on a device. -/
structure Session (σ : Type) extends Tag where
  stats : Stats
  device : σ
  deriving DecidableEq

/-! ## Bringing a tag up -/

/-- What bringing a tag up leaves: a session or a failure, the device either way, and the log. -/
structure BringUp (σ : Type) where
  outcome : Except Failure (Session σ)
  device : σ
  events : List Event

/-- The warning about an identity that does not fit cascade level 1. -/
def Identity.misfitEvents (i : Identity) : List Event :=
  if i.fitsLevelOne then [] else [.misfit i]

/-- Makes the device a target and receives the first command of a reader. -/
def Tag.firstCommand (T : Transport σ) (t : Tag) (device : σ) : Hearing σ :=
  let r := T.becomeTarget t.identity (Buffer.zeroed stagingSize) t.config.firstMillis device
  ⟨r.outcome.bind (heardPlain r.rx.bytes), { Staging.zeroed with data := r.rx }, r.device⟩

/-- Takes CRC_A out of the hands of the device, and then parity, unless it is to keep that. -/
def Tag.takeOver (T : Transport σ) (t : Tag) (device : σ) : Acknowledgement σ :=
  let crc := T.configure .handleCrc false device
  match crc.outcome with
  | .error why => ⟨.error why, crc.device⟩
  | .ok () => T.configure .handleParity t.config.hardwareParity crc.device

/-- Brings a tag up on a device.  The first command of the reader is neither counted nor
answered. -/
def Tag.bringUp (T : Transport σ) (t : Tag) (device : σ) : BringUp σ :=
  let first := t.firstCommand T device
  match first.outcome with
  | .error why => ⟨.error why, first.device, t.identity.misfitEvents⟩
  | .ok heard =>
    let seen := t.identity.misfitEvents ++ [.firstCommand T.name heard.frame]
    let taken := t.takeOver T first.device
    match taken.outcome with
    | .error why => ⟨.error why, taken.device, seen⟩
    | .ok () =>
      ⟨.ok { t with stats := .zero, device := taken.device }, taken.device,
        seen ++ [.broughtUp t.identity.uid t.config.hardwareParity]⟩

/-! ## Playing a round -/

/-- What a step of a session leaves. -/
structure Step (σ : Type) where
  outcome : Except Failure FrameKind
  session : Session σ
  staging : Staging
  events : List Event

/-- Plays one round, counts it and logs it. -/
def Session.step (T : Transport σ) (s : Session σ) (staging : Staging) : Step σ :=
  let x := exchange T s.responder s.config staging s.device
  { outcome := x.round.outcome
    session := { s with stats := x.round.count s.stats, device := x.device }
    staging := x.staging
    events := x.round.events s.responder s.config.quiet }

end TagEmulation
