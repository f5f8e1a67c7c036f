import TagEmulation.Proofs.Session.Lockstep

/-!
# Proofs/Session/Quiet — a quiet session differs in its debug records only

Whether a session is quiet is asked in the middle of its rounds, between what it does to the device
and what it counts.  `hushed` makes quiet whatever a session leaves: the session itself, and the log
by taking the debug records out.  It goes through everything that a tag does, on any device: a round
is the same round (`exchange_hushed`), and so are a step (`Session.step_hushed`), a run
(`Session.poll_hushed`) and a bring-up (`Tag.bringUp_hushed`).
-/

namespace TagEmulation

variable {σ : Type}

/-! ## Hushing -/

/-- The log without its debug records. -/
def withoutDebug (log : List Event) : List Event := log.filter fun e => e.level ≠ .debug

/-- The tag, quiet. -/
def Tag.hushed (t : Tag) : Tag := { t with config.quiet := true }

/-- The session, quiet from here on. -/
def Session.hushed (s : Session σ) : Session σ := { s with config.quiet := true }

/-- The step as a quiet session takes it: it leaves a quiet session, and no debug records. -/
def Step.hushed (x : Step σ) : Step σ :=
  { x with session := x.session.hushed, events := withoutDebug x.events }

/-- The run of a quiet session. -/
def Run.hushed (r : Run σ) : Run σ :=
  { r with session := r.session.hushed, events := withoutDebug r.events }

/-- What there is to see after a call of a quiet session. -/
def Moment.hushed (m : Moment σ) : Moment σ :=
  { m with session := m.session.hushed, events := withoutDebug m.events }

/-- The bring-up of a quiet tag. -/
def BringUp.hushed (b : BringUp σ) : BringUp σ :=
  { b with outcome := b.outcome.map Session.hushed, events := withoutDebug b.events }

/-! ## The log of a round -/

theorem withoutDebug_append (log log' : List Event) :
    withoutDebug (log ++ log') = withoutDebug log ++ withoutDebug log' :=
  List.filter_append ..

theorem withoutDebug_parityEvents (heard : Heard) :
    withoutDebug (Round.parityEvents heard) = Round.parityEvents heard := by
  unfold Round.parityEvents
  split <;> rfl

/-- All that is said of a frame received is for debugging, … -/
theorem withoutDebug_heardEvents (quiet : Bool) (f : Frame) :
    withoutDebug (Round.heardEvents quiet f) = [] := by
  unfold Round.heardEvents
  split_ifs <;> rfl

/-- … and so is what is said of an answer. -/
theorem withoutDebug_saidEvents (quiet : Bool) (reply : Frame) :
    withoutDebug (Round.saidEvents quiet reply) = [] := by
  unfold Round.saidEvents
  split_ifs <;> rfl

/-- A frame is turned down aloud, quiet or not. -/
theorem withoutDebug_objected (fault? : Option Fault) :
    withoutDebug (fault?.map Event.objected).toList = (fault?.map Event.objected).toList := by
  cases fault? <;> rfl

theorem withoutDebug_inboundEvents (r : Responder) (quiet : Bool) (heard : Heard) :
    withoutDebug (Round.inboundEvents r quiet heard) = Round.inboundEvents r true heard := by
  have hsilent : Round.heardEvents true heard.frame = [] := rfl
  rw [Round.inboundEvents, Round.inboundEvents, withoutDebug_append, withoutDebug_append,
    withoutDebug_parityEvents, withoutDebug_heardEvents, withoutDebug_objected, hsilent]

/-- **Without its debug records, the log of a round is that of a quiet session.** -/
theorem withoutDebug_events (r : Responder) (quiet : Bool) (round : Round) :
    withoutDebug (round.events r quiet) = round.events r true := by
  have hunsaid (reply : Frame) : Round.saidEvents true reply = [] := rfl
  cases round with
  | silent why => rfl
  | ignored heard =>
    rw [Round.events, Round.events, withoutDebug_append, withoutDebug_inboundEvents]
    rfl
  | answered heard reply =>
    rw [Round.events, Round.events, withoutDebug_append, withoutDebug_inboundEvents,
      withoutDebug_saidEvents, hunsaid]
  | unsent heard reply why => exact withoutDebug_inboundEvents r quiet heard

theorem withoutDebug_endEvents (why : Failure) : withoutDebug why.endEvents = why.endEvents := by
  cases why <;> rfl

/-! ## Rounds and runs -/

/-- No device is told whether the session is quiet. -/
theorem exchange_hushed (T : Transport σ) (s : Session σ) (staging : Staging) :
    exchange T s.hushed.responder s.hushed.config staging s.hushed.device
      = exchange T s.responder s.config staging s.device := rfl

theorem Run.hushed_after (r : Run σ) (events : List Event) :
    (r.after events).hushed = r.hushed.after (withoutDebug events) := by
  simp only [Run.hushed, Run.after, withoutDebug_append]

namespace Session

variable (T : Transport σ)

/-- **A quiet session takes the same step**, and leaves the same buffers. -/
theorem step_hushed (s : Session σ) (staging : Staging) :
    s.hushed.step T staging = (s.step T staging).hushed := by
  simp only [step, exchange_hushed, Step.hushed, withoutDebug_events]
  rfl

/-- **A quiet session runs the same way.** -/
theorem poll_hushed (stopRaised : σ → Bool) (n : Nat) :
    ∀ (s : Session σ) (staging : Staging),
      s.hushed.poll T stopRaised n staging = (s.poll T stopRaised n staging).hushed := by
  -- the flag is read off the device, which hushing leaves alone
  induction n with
  | zero =>
    intro s staging
    cases h : stopRaised s.device with
    | true => rw [poll_of_raised h, poll_of_raised (s := s.hushed) h]; rfl
    | false => rw [poll_zero_of_down h, poll_zero_of_down (s := s.hushed) h]; rfl
  | succ n ih =>
    intro s staging
    cases h : stopRaised s.device with
    | true => rw [poll_of_raised h, poll_of_raised (s := s.hushed) h]; rfl
    | false =>
      have hx := exchange_hushed T s staging
      cases hf : fatal? (exchange T s.responder s.config staging s.device).round.outcome with
      | some why =>
        rw [poll_succ_of_fatal h rfl hf, poll_succ_of_fatal (s := s.hushed) h hx hf, Run.hushed,
          withoutDebug_append, withoutDebug_events, withoutDebug_endEvents]
        rfl
      | none =>
        rw [poll_succ_of_harmless h rfl hf, poll_succ_of_harmless (s := s.hushed) h hx hf,
          Run.hushed_after, withoutDebug_events, ← ih]
        rfl

theorem call_hushed (s : Session σ) (call : Call σ) :
    s.hushed.call T call = (s.call T call).hushed := by
  cases call with
  | step staging =>
    simp only [Session.call, step_hushed]
    rfl
  | run stopRaised rounds =>
    simp only [Session.call, run, poll_hushed]
    rfl
  | change f => rfl

/-- **Whatever is done with a quiet session**, there is the same to see but for debug records. -/
theorem moments_hushed (calls : List (Call σ)) :
    ∀ s : Session σ, s.hushed.moments T calls = (s.moments T calls).map Moment.hushed := by
  induction calls with
  | nil => exact fun _ => rfl
  | cons call calls ih =>
    intro s
    rw [moments, moments, List.map_cons, call_hushed, ← ih]
    rfl

end Session

/-! ## Bringing up -/

/-- All there is to log while a tag comes up. -/
theorem Tag.mem_events_bringUp {T : Transport σ} {t : Tag} {d : σ} {e : Event}
    (he : e ∈ (t.bringUp T d).events) :
    e = .misfit t.identity ∨ (∃ f, e = .firstCommand T.name f) ∨
      e = .broughtUp t.identity.uid t.config.hardwareParity := by
  have hmisfit (h : e ∈ t.identity.misfitEvents) : e = .misfit t.identity := by
    unfold Identity.misfitEvents at h
    split_ifs at h
    · cases h
    · exact List.mem_singleton.mp h
  cases hfirst : (t.firstCommand T d).outcome with
  | error why =>
    simp only [bringUp, hfirst] at he
    exact .inl (hmisfit he)
  | ok heard =>
    cases htaken : (t.takeOver T (t.firstCommand T d).device).outcome with
    | error why =>
      simp only [bringUp, hfirst, htaken, List.mem_append, List.mem_singleton] at he
      exact he.imp hmisfit fun he => .inl ⟨heard.frame, he⟩
    | ok done =>
      simp only [bringUp, hfirst, htaken, List.mem_append, List.mem_singleton] at he
      obtain (he | he) | he := he
      · exact .inl (hmisfit he)
      · exact .inr (.inl ⟨heard.frame, he⟩)
      · exact .inr (.inr he)

/-- A tag comes up without debug records, quiet or not. -/
theorem Tag.withoutDebug_bringUp (T : Transport σ) (t : Tag) (d : σ) :
    withoutDebug (t.bringUp T d).events = (t.bringUp T d).events := by
  refine List.filter_eq_self.mpr fun e he => ?_
  obtain rfl | ⟨f, rfl⟩ | rfl := mem_events_bringUp he
  all_goals rfl

/-- **A quiet tag comes up the same way**, or fails to for the same reason. -/
theorem Tag.bringUp_hushed (T : Transport σ) (t : Tag) (d : σ) :
    t.hushed.bringUp T d = (t.bringUp T d).hushed := by
  have hfirst : t.hushed.firstCommand T d = t.firstCommand T d := rfl
  have htaken (d' : σ) : t.hushed.takeOver T d' = t.takeOver T d' := rfl
  rw [BringUp.hushed, t.withoutDebug_bringUp, bringUp, bringUp, hfirst]
  cases (t.firstCommand T d).outcome with
  | error why => rfl
  | ok heard =>
    simp only [htaken]
    cases (t.takeOver T (t.firstCommand T d).device).outcome <;> rfl

/-- What there is to see of a tag: how it comes up on a device, and each call from then on. -/
def Tag.life (T : Transport σ) (t : Tag) (d : σ) (calls : List (Call σ)) :
    BringUp σ × List (Moment σ) :=
  let opening := t.bringUp T d
  (opening, match opening.outcome with
    | .error _ => []
    | .ok s => s.moments T calls)

/-- **Being quiet takes the debug records out of the log, and changes nothing else.**  On any device
in any state, bring a tag up and make any calls, with the tag quiet and with the tag not: both come
up or fail alike, each call returns the same and leaves the same counters and the same device, and
the log of the quiet one is the log of the other without its debug records.  Sessions in the same
state go on alike as well, and a step of theirs leaves the same in the buffers. -/
theorem quiet_takes_out_debug_records (T : Transport σ) :
    (∀ (t : Tag) d calls, t.hushed.life T d calls
        = ((t.life T d calls).1.hushed, (t.life T d calls).2.map Moment.hushed)) ∧
      (∀ (s : Session σ) calls, s.hushed.moments T calls = (s.moments T calls).map Moment.hushed) ∧
      ∀ (s : Session σ) staging, s.hushed.step T staging = (s.step T staging).hushed := by
  refine ⟨fun t d calls => ?_, fun s calls => s.moments_hushed T calls, fun s => s.step_hushed T⟩
  rw [Tag.life, Tag.life, t.bringUp_hushed]
  cases h : (t.bringUp T d).outcome with
  | error why => simp only [BringUp.hushed, h, Except.map, List.map_nil]
  | ok s => simp only [BringUp.hushed, h, Except.map, Session.moments_hushed]

end TagEmulation
