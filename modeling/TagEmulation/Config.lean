/-!
# Config — the options of a session

Timeouts are counted in whole milliseconds of 64 bits.  A longer `Duration` is cut down to that
unit, and one that does not fit is taken for the longest there is.
-/

namespace TagEmulation

/-! ## Durations -/

/-- A span of time: whole seconds, and nanoseconds below one second. -/
structure Duration where
  seconds : UInt64
  nanos : Fin 1000000000
  deriving DecidableEq, Repr

/-- The longest time that a timeout can say. -/
def longestMillis : Nat := UInt64.size - 1

/-- The span in whole milliseconds, at most the longest time that a timeout can say. -/
def Duration.millis (d : Duration) : UInt64 :=
  UInt64.ofNat (min (d.seconds.toNat * 1000 + d.nanos.val / 1000000) longestMillis)

/-! ## Options -/

/-- How long a session waits for a frame before it looks at the stop flag again, unless told. -/
def usualPollMillis : UInt64 := 1000

/-- The options of a session. -/
structure Config where
  /-- The device makes and checks parity bits; if not, the session does. -/
  hardwareParity : Bool
  /-- No line per frame is logged. -/
  quiet : Bool
  /-- How long to wait for a frame before the stop flag is looked at again. -/
  pollMillis : UInt64
  /-- How long to wait for the first command of a reader; without a limit if absent. -/
  firstMillis : Option UInt64
  /-- Only a SELECT that names this tag is answered. -/
  strictSelect : Bool
  deriving DecidableEq, Repr

/-- Parity in the device, a log line per frame, one second per poll, no limit on the first command,
and an answer to every SELECT. -/
instance : Inhabited Config where
  default := {
    hardwareParity := true
    quiet := false
    pollMillis := usualPollMillis
    firstMillis := none
    strictSelect := false }

end TagEmulation
