import Mathlib.Data.List.Forall2
import TagEmulation.Proofs.Session.Calls

/-!
# Proofs/Session/Lockstep — two sessions that are told the same

A `Comparison` sets two tags on two devices side by side.  They go in lockstep if from related
devices each exchange of the one looks like the exchange of the other and leaves related devices;
the buffers the two are given need not agree.  What holds of an exchange holds of a run
(`Comparison.Lockstep.polls`), and of all that can be done with a session one after the other
(`Comparison.Lockstep.moments`).
-/

namespace TagEmulation

variable {σ : Type}

/-! ## What a call shows -/

/-- What a call returns. -/
inductive Returned where
  | step (outcome : Except Failure FrameKind)
  | run (ending : Ending)
  | nothing
  deriving DecidableEq

/-- What there is to see after a call: what it returned, the session it left, and its log. -/
structure Moment (σ : Type) where
  returned : Returned
  session : Session σ
  events : List Event

/-- A call, and what there is to see after it. -/
def Session.call (T : Transport σ) (s : Session σ) : Call σ → Moment σ
  | .step staging =>
    let step := s.step T staging
    ⟨.step step.outcome, step.session, step.events⟩
  | .run stopRaised rounds =>
    let run := s.run T stopRaised rounds
    ⟨.run run.ending, run.session, run.events⟩
  | .change f => ⟨.nothing, { s with device := f s.device }, []⟩

/-- What there is to see after each of some calls. -/
def Session.moments (T : Transport σ) : Session σ → List (Call σ) → List (Moment σ)
  | _, [] => []
  | s, call :: calls =>
    let moment := s.call T call
    moment :: Session.moments T moment.session calls

theorem Session.session_call (T : Transport σ) (s : Session σ) (call : Call σ) :
    (s.call T call).session = s.afterCall T call := by
  cases call <;> rfl

/-- The same call, made on related devices: the buffers of a step are of no account, and stop flags
and changes do not tell related devices apart. -/
inductive Call.Alike (related : σ → σ → Prop) : Call σ → Call σ → Prop
  | step (staging staging' : Staging) : Alike related (.step staging) (.step staging')
  | run {stopRaised stopRaised' : σ → Bool} (rounds : Nat)
      (hflag : ∀ d d', related d d' → stopRaised d = stopRaised' d') :
      Alike related (.run stopRaised rounds) (.run stopRaised' rounds)
  | change {f f' : σ → σ} (hchange : ∀ d d', related d d' → related (f d) (f' d')) :
      Alike related (.change f) (.change f')

/-! ## Side by side -/

/-- Two tags side by side, the devices that count as related, and the events that are looked at. -/
structure Comparison (σ : Type) where
  first : Tag
  second : Tag
  related : σ → σ → Prop
  looksAt : Event → Bool

namespace Comparison

/-- The rounds end alike, count alike, and are told alike as far as is looked at. -/
structure Rounds (C : Comparison σ) (r r' : Round) : Prop where
  outcome : r.outcome = r'.outcome
  count : ∀ s, r.count s = r'.count s
  events : (r.events C.first.responder C.first.config.quiet).filter C.looksAt
    = (r'.events C.second.responder C.second.config.quiet).filter C.looksAt

/-- The two tags are up on related devices, with equal counters. -/
structure Sessions (C : Comparison σ) (s s' : Session σ) : Prop where
  first : s.toTag = C.first
  second : s'.toTag = C.second
  stats : s.stats = s'.stats
  devices : C.related s.device s'.device

/-- The runs end alike and leave sessions side by side. -/
structure Runs (C : Comparison σ) (r r' : Run σ) : Prop where
  ending : r.ending = r'.ending
  sessions : C.Sessions r.session r'.session
  events : r.events.filter C.looksAt = r'.events.filter C.looksAt

/-- After both calls there is the same to see, as far as is looked at. -/
structure Moments (C : Comparison σ) (m m' : Moment σ) : Prop where
  returned : m.returned = m'.returned
  sessions : C.Sessions m.session m'.session
  events : m.events.filter C.looksAt = m'.events.filter C.looksAt

/-- The two tags fail to come up for the same reason, or come up side by side. -/
inductive Openings (C : Comparison σ) :
    Except Failure (Session σ) → Except Failure (Session σ) → Prop
  | failed (why : Failure) : Openings C (.error why) (.error why)
  | up {s s' : Session σ} (hs : C.Sessions s s') : Openings C (.ok s) (.ok s')

/-- From related devices, each exchange of the one looks like the exchange of the other and leaves
related devices, whatever the buffers. -/
def Lockstep (C : Comparison σ) (T : Transport σ) : Prop :=
  ∀ ⦃d d'⦄, C.related d d' → ∀ staging staging',
    let x := exchange T C.first.responder C.first.config staging d
    let x' := exchange T C.second.responder C.second.config staging' d'
    C.Rounds x.round x'.round ∧ C.related x.device x'.device

variable {C : Comparison σ} {T : Transport σ} {s s' : Session σ}

theorem Sessions.after (hs : C.Sessions s s') {x x' : Exchange σ}
    (hround : C.Rounds x.round x'.round)
    (hdevice : C.related x.device x'.device) : C.Sessions (s.after x) (s'.after x') where
  first := hs.first
  second := hs.second
  stats := by
    change x.round.count s.stats = x'.round.count s'.stats
    rw [hs.stats, hround.count]
  devices := hdevice

theorem Runs.after {r r' : Run σ} (h : C.Runs r r') {events events' : List Event}
    (hevents : events.filter C.looksAt = events'.filter C.looksAt) :
    C.Runs (r.after events) (r'.after events') where
  ending := h.ending
  sessions := h.sessions
  events := by
    change (events ++ r.events).filter _ = (events' ++ r'.events).filter _
    rw [List.filter_append, List.filter_append, hevents, h.events]

/-- Where the stop flag is raised, both runs stop. -/
theorem polls_of_raised (hs : C.Sessions s s') {stopRaised stopRaised' : σ → Bool}
    (h : stopRaised s.device = true) (h' : stopRaised' s'.device = true) {n : Nat}
    {staging staging' : Staging} :
    C.Runs (s.poll T stopRaised n staging) (s'.poll T stopRaised' n staging') := by
  rw [Session.poll_of_raised h, Session.poll_of_raised h', hs.stats]
  exact ⟨rfl, hs, rfl⟩

namespace Lockstep

/-- The next exchange of sessions side by side. -/
theorem next (h : C.Lockstep T) (hs : C.Sessions s s') (staging staging' : Staging) :
    let x := exchange T s.responder s.config staging s.device
    let x' := exchange T s'.responder s'.config staging' s'.device
    x.round.outcome = x'.round.outcome ∧
      (x.round.events s.responder s.config.quiet).filter C.looksAt
        = (x'.round.events s'.responder s'.config.quiet).filter C.looksAt ∧
      C.Sessions (s.after x) (s'.after x') := by
  obtain ⟨hround, hdevice⟩ := h hs.devices staging staging'
  have hevents := hround.events
  rw [← hs.first, ← hs.second] at hround hdevice hevents
  exact ⟨hround.outcome, hevents, hs.after hround hdevice⟩

/-- **Sessions side by side run alike**, under stop flags that do not tell their devices apart. -/
theorem polls (h : C.Lockstep T) {stopRaised stopRaised' : σ → Bool}
    (hflag : ∀ d d', C.related d d' → stopRaised d = stopRaised' d') (n : Nat) :
    ∀ {s s' : Session σ}, C.Sessions s s' → ∀ staging staging',
      C.Runs (s.poll T stopRaised n staging) (s'.poll T stopRaised' n staging') := by
  induction n with
  | zero =>
    intro s s' hs staging staging'
    have hflags := hflag _ _ hs.devices
    cases hraised : stopRaised s.device with
    | true => exact polls_of_raised hs hraised (hflags ▸ hraised)
    | false =>
      rw [Session.poll_zero_of_down hraised, Session.poll_zero_of_down (hflags ▸ hraised)]
      exact ⟨rfl, hs, rfl⟩
  | succ n ih =>
    intro s s' hs staging staging'
    have hflags := hflag _ _ hs.devices
    cases hraised : stopRaised s.device with
    | true => exact polls_of_raised hs hraised (hflags ▸ hraised)
    | false =>
      have hdown : stopRaised' s'.device = false := hflags ▸ hraised
      obtain ⟨houtcome, hevents, hafter⟩ := h.next hs staging staging'
      cases hf : fatal? (exchange T s.responder s.config staging s.device).round.outcome with
      | some why =>
        have hf' := (congrArg fatal? houtcome).symm.trans hf
        rw [Session.poll_succ_of_fatal hraised rfl hf, Session.poll_succ_of_fatal hdown rfl hf']
        refine ⟨rfl, hafter, ?_⟩
        rw [List.filter_append, List.filter_append, hevents]
      | none =>
        have hf' := (congrArg fatal? houtcome).symm.trans hf
        rw [Session.poll_succ_of_harmless hraised rfl hf,
          Session.poll_succ_of_harmless hdown rfl hf']
        exact (ih hafter _ _).after hevents

/-- A call of sessions side by side. -/
theorem call (h : C.Lockstep T) (hs : C.Sessions s s') {call call' : Call σ}
    (hcall : call.Alike C.related call') : C.Moments (s.call T call) (s'.call T call') := by
  cases hcall with
  | step staging staging' =>
    obtain ⟨houtcome, hevents, hafter⟩ := h.next hs staging staging'
    exact ⟨congrArg Returned.step houtcome, hafter, hevents⟩
  | run rounds hflag =>
    have hstarted : [Event.started T.name].filter C.looksAt = [.started T.name].filter C.looksAt :=
      rfl
    have hruns := (h.polls hflag rounds hs Staging.zeroed Staging.zeroed).after hstarted
    exact ⟨congrArg Returned.run hruns.ending, hruns.sessions, hruns.events⟩
  | change hchange =>
    exact ⟨rfl, ⟨hs.first, hs.second, hs.stats, hchange _ _ hs.devices⟩, rfl⟩

/-- **Whatever is done with sessions side by side, there is the same to see** after each call. -/
theorem moments (h : C.Lockstep T) {calls calls' : List (Call σ)}
    (hcalls : List.Forall₂ (Call.Alike C.related) calls calls') :
    ∀ {s s' : Session σ}, C.Sessions s s' →
      List.Forall₂ C.Moments (s.moments T calls) (s'.moments T calls') := by
  induction hcalls with
  | nil => exact fun _ => .nil
  | cons hcall _ ih =>
    intro s s' hs
    have hmoment := h.call hs hcall
    exact .cons hmoment (ih hmoment.sessions)

end Lockstep

end Comparison

end TagEmulation
