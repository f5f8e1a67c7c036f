import TagEmulation.Proofs.Script.Play
import TagEmulation.Proofs.Session.Lockstep

/-!
# Proofs/Script/Buffers — what a frame leaves in the buffers is never read

A session receives one frame after the other into the same buffers and clears them never.  A shorter
frame leaves the end of a longer one in place, and a frame that does not fit leaves all of it.  Yet
`Script.exchange_eq_play` finds a round in the next cue alone, so a step shows the same with any
buffers (`Session.shown_step`), a run is the same run (`Session.poll_staging`), and buffers that are
used again and again do as well as new ones (`buffers_leave_no_trace`).
-/

namespace TagEmulation

variable {σ : Type}

/-- What a step shows to who asked for it: all it leaves but the buffers. -/
def Step.shown (x : Step σ) : Except Failure FrameKind × Session σ × List Event :=
  (x.outcome, x.session, x.events)

/-- The steps of a session, with a change of its device before each.  The buffers of the next step
are what `hand` makes of those that the last one left. -/
def Session.steps (T : Transport σ) (hand : Staging → Staging) :
    List (σ → σ) → Session σ → Staging → List (Step σ)
  | [], _, _ => []
  | change :: changes, s, staging =>
    let step := { s with device := change s.device }.step T staging
    step :: Session.steps T hand changes step.session (hand step.staging)

/-- A tag beside itself, with the same device, and everything looked at. -/
def Tag.besideItself (t : Tag) : Comparison σ := ⟨t, t, Eq, fun _ => true⟩

theorem Comparison.Sessions.eq {t : Tag} {s s' : Session σ} (h : t.besideItself.Sessions s s') :
    s = s' := by
  obtain ⟨hfirst, hsecond, hstats, hdevices⟩ := h
  have htag : s.toTag = s'.toTag := hfirst.trans hsecond.symm
  have hdevice : s.device = s'.device := hdevices
  cases s; cases s'; cases htag; cases hstats; cases hdevice; rfl

theorem Comparison.Runs.eq {t : Tag} {r r' : Run σ} (h : t.besideItself.Runs r r') : r = r' := by
  obtain ⟨hending, hsessions, hevents⟩ := h
  have hsession : r.session = r'.session := hsessions.eq
  have hall : r.events = r'.events := by simpa [Tag.besideItself] using hevents
  cases r; cases r'; cases hending; cases hsession; cases hall; rfl

namespace Session

variable (name : String)

/-- A step shows the same whatever its buffers hold. -/
theorem shown_step (s : Session Script) (staging staging' : Staging) :
    (s.step (Script.transport name) staging).shown
      = (s.step (Script.transport name) staging').shown := by
  obtain ⟨left, hx⟩ := Script.exchange_eq_play name s.responder s.config staging s.device
  obtain ⟨left', hx'⟩ := Script.exchange_eq_play name s.responder s.config staging' s.device
  simp only [Step.shown, step, hx, hx']

/-- A tag on a scripted device goes in lockstep with itself, whatever the buffers. -/
theorem lockstep_besideItself (t : Tag) : t.besideItself.Lockstep (Script.transport name) := by
  rintro d _ rfl staging staging'
  obtain ⟨left, hx⟩ := Script.exchange_eq_play name t.responder t.config staging d
  obtain ⟨left', hx'⟩ := Script.exchange_eq_play name t.responder t.config staging' d
  change t.besideItself.Rounds (exchange _ t.responder t.config staging d).round
      (exchange _ t.responder t.config staging' d).round ∧
    (exchange _ t.responder t.config staging d).device
      = (exchange _ t.responder t.config staging' d).device
  rw [hx, hx']
  exact ⟨⟨rfl, fun _ => rfl, rfl⟩, rfl⟩

/-- A run is the same run whatever its buffers hold at first. -/
theorem poll_staging (stopRaised : Script → Bool) (n : Nat) (s : Session Script)
    (staging staging' : Staging) :
    s.poll (Script.transport name) stopRaised n staging
      = s.poll (Script.transport name) stopRaised n staging' := by
  have hflag : ∀ d d', d = d' → stopRaised d = stopRaised d' := fun _ _ => congrArg stopRaised
  exact ((lockstep_besideItself name s.toTag).polls hflag n
    ⟨rfl, rfl, rfl, rfl⟩ staging staging').eq

/-- Steps show the same however their buffers are made. -/
theorem shown_steps (hand hand' : Staging → Staging) (changes : List (Script → Script)) :
    ∀ (s : Session Script) (staging staging' : Staging),
      (s.steps (Script.transport name) hand changes staging).map Step.shown
        = (s.steps (Script.transport name) hand' changes staging').map Step.shown := by
  induction changes with
  | nil => exact fun _ _ _ => rfl
  | cons change changes ih =>
    intro s staging staging'
    let step := { s with device := change s.device }.step (Script.transport name) staging
    let step' := { s with device := change s.device }.step (Script.transport name) staging'
    have hshown : step.shown = step'.shown := shown_step name _ staging staging'
    have hsession : step.session = step'.session := congrArg (fun shown => shown.2.1) hshown
    change step.shown :: (step.session.steps _ hand changes (hand step.staging)).map Step.shown
      = step'.shown :: (step'.session.steps _ hand' changes (hand' step'.staging)).map Step.shown
    rw [hshown, hsession, ih]

end Session

/-- **No frame leaves a trace in the buffers.**  With a scripted device, a step shows the same with
any two buffers: how it ended, the session it left and its log; and so does a run.  So a session
that is stepped with one pair of buffers, never cleared, shows step for step what it shows with new
ones for every step. -/
theorem buffers_leave_no_trace (name : String) (s : Session Script) :
    let T := Script.transport name
    (∀ staging staging', (s.step T staging).shown = (s.step T staging').shown) ∧
      (∀ stopRaised n staging staging',
        s.poll T stopRaised n staging = s.poll T stopRaised n staging') ∧
      ∀ changes staging, (s.steps T id changes staging).map Step.shown
        = (s.steps T (fun _ => Staging.zeroed) changes Staging.zeroed).map Step.shown :=
  ⟨s.shown_step name, fun stopRaised n => s.poll_staging name stopRaised n,
    fun changes staging => s.shown_steps name _ _ changes staging Staging.zeroed⟩

end TagEmulation
