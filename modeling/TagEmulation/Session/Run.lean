import TagEmulation.Session.Basic

/-!
# Session/Run — rounds until the stop flag or a failure

A run looks at the stop flag before every round.  A timeout only brings it back to the flag; any
other failure ends the run.  Nothing bounds a run on a device that never stops, so a run is given a
number of rounds: one that has not come to an end within them is still `polling`.
-/

namespace TagEmulation

variable {σ : Type}

/-- The state of a run. -/
inductive Ending where
  /-- The rounds are used up, and neither the flag nor a failure has ended the run. -/
  | polling
  /-- The flag ended the run with these counters. -/
  | stopped (stats : Stats)
  /-- A failure ended the run. -/
  | failed (why : Failure)
  deriving DecidableEq

/-- What a run leaves. -/
structure Run (σ : Type) where
  ending : Ending
  session : Session σ
  events : List Event

/-- The failure that ends a run, if the outcome of a round is one: any but a timeout. -/
def fatal? {α : Type} : Except Failure α → Option Failure
  | .ok _ => none
  | .error (.fault fault) => if fault.isFatal then some (.fault fault) else none
  | .error (.breach breach) => some (.breach breach)

/-- The report of a failure that ends a run.  A broken contract is left to the caller to report. -/
def Failure.endEvents : Failure → List Event
  | .fault cause => [.ended cause]
  | .breach _ => []

/-- The run with some events before its own. -/
def Run.after (events : List Event) (r : Run σ) : Run σ := { r with events := events ++ r.events }

/-- Polls with the given staging buffers, for at most so many rounds. -/
def Session.poll (T : Transport σ) (stopRaised : σ → Bool) :
    Nat → Session σ → Staging → Run σ
  | rounds, s, staging =>
    if stopRaised s.device then ⟨.stopped s.stats, s, [.stopped s.stats]⟩
    else
      match rounds with
      | 0 => ⟨.polling, s, []⟩
      | n + 1 =>
        let step := s.step T staging
        match fatal? step.outcome with
        | some why => ⟨.failed why, step.session, step.events ++ why.endEvents⟩
        | none => (Session.poll T stopRaised n step.session step.staging).after step.events

/-- Runs a session with buffers of its own, for at most so many rounds. -/
def Session.run (T : Transport σ) (stopRaised : σ → Bool) (rounds : Nat) (s : Session σ) : Run σ :=
  (s.poll T stopRaised rounds Staging.zeroed).after [.started T.name]

end TagEmulation
