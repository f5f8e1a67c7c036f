import Mathlib.Order.Nat
import TagEmulation.Proofs.Session.Exchanges
import TagEmulation.Proofs.Session.Tap

/-!
# Proofs/Session/Calls — whatever is done with a session, on record

A session that is up can step, run, or have its device changed under it, time and again (`Call`).
With a tap on its device all that goes the same way (`untapped_afterCalls`), and whatever was done,
a row of rounds has led there with its record on the tap (`Session.LeadsTo`).  So a fact about all
that can be done with a session is a fact about rounds and their record; this also holds from any
moment on, be it in the middle of a run (`leads_of_upTo`).
-/

namespace TagEmulation

variable {σ : Type}

/-! ## What is done with a session -/

/-- What can happen to a session that is up. -/
inductive Call (σ : Type) where
  /-- It steps, with these buffers. -/
  | step (staging : Staging)
  /-- It runs under this stop flag, for at most so many rounds. -/
  | run (stopRaised : σ → Bool) (rounds : Nat)
  /-- Something changes its device meanwhile, as who raises or lowers the stop flag. -/
  | change (f : σ → σ)

/-- The session after a call. -/
def Session.afterCall (T : Transport σ) (s : Session σ) : Call σ → Session σ
  | .step staging => (s.step T staging).session
  | .run stopRaised rounds => (s.run T stopRaised rounds).session
  | .change f => { s with device := f s.device }

/-- The session after some calls. -/
def Session.afterCalls (T : Transport σ) (s : Session σ) (calls : List (Call σ)) : Session σ :=
  calls.foldl (afterCall T) s

/-- The first calls are the ones made up to some moment of the others, between two calls or during
a run. -/
inductive Call.UpTo : List (Call σ) → List (Call σ) → Prop
  | between (earlier later : List (Call σ)) : UpTo earlier (earlier ++ later)
  | during (earlier later : List (Call σ)) (stopRaised : σ → Bool) {n m : Nat} (h : n ≤ m) :
      UpTo (earlier ++ [.run stopRaised n]) (earlier ++ .run stopRaised m :: later)

/-! ## Tapping a session -/

/-- The session with a tap on its device. -/
def Session.tapped (s : Session σ) : Session (σ × List Order) :=
  { s with device := (s.device, []) }

/-- The session without the tap. -/
def Session.untapped (s : Session (σ × List Order)) : Session σ := { s with device := s.device.1 }

/-- The call, which does not look at the tap. -/
def Call.tapped : Call σ → Call (σ × List Order)
  | .step staging => .step staging
  | .run stopRaised rounds => .run (fun d => stopRaised d.1) rounds
  | .change f => .change fun d => (f d.1, d.2)

namespace Session

variable {T : Transport σ}

/-- A run does not notice the tap. -/
theorem untapped_poll (T : Transport σ) (stopRaised : σ → Bool) (n : Nat) :
    ∀ (s : Session (σ × List Order)) (staging : Staging),
      (s.poll T.tapped (fun d => stopRaised d.1) n staging).session.untapped
        = (s.untapped.poll T stopRaised n staging).session := by
  -- the flag is read off the device itself, so with and without the tap it is the same one
  induction n with
  | zero =>
    intro s staging
    cases h : stopRaised s.device.1 with
    | true => rw [poll_of_raised h, poll_of_raised h]
    | false => rw [poll_zero_of_down h, poll_zero_of_down h]
  | succ n ih =>
    intro s staging
    cases h : stopRaised s.device.1 with
    | true => rw [poll_of_raised h, poll_of_raised h]
    | false =>
      obtain ⟨orders, -, hx⟩ :=
        exchange_tapped T s.responder s.config staging s.device.1 s.device.2
      cases hf : fatal? (exchange T s.responder s.config staging s.device.1).round.outcome with
      | some why =>
        rw [poll_succ_of_fatal h hx hf, poll_succ_of_fatal (s := s.untapped) h rfl hf]
        rfl
      | none =>
        rw [poll_succ_of_harmless h hx hf, poll_succ_of_harmless (s := s.untapped) h rfl hf]
        exact ih _ _

/-- Nor does any call. -/
theorem untapped_afterCall (s : Session (σ × List Order)) (call : Call σ) :
    (s.afterCall T.tapped call.tapped).untapped = s.untapped.afterCall T call := by
  cases call with
  | step staging =>
    obtain ⟨orders, -, hx⟩ := exchange_tapped T s.responder s.config staging s.device.1 s.device.2
    change (s.after (exchange T.tapped s.responder s.config staging s.device)).untapped = _
    rw [hx]
    rfl
  | run stopRaised rounds => exact untapped_poll T stopRaised rounds s Staging.zeroed
  | change f => rfl

/-- **A session does not notice that its device is tapped.** -/
theorem untapped_afterCalls (s : Session (σ × List Order)) (calls : List (Call σ)) :
    (s.afterCalls T.tapped (calls.map Call.tapped)).untapped = s.untapped.afterCalls T calls := by
  induction calls generalizing s with
  | nil => rfl
  | cons call calls ih =>
    change ((s.afterCall T.tapped call.tapped).afterCalls T.tapped _).untapped = _
    rw [ih, untapped_afterCall]
    rfl

/-! ## Steps on record -/

/-- These rounds have led from one tapped session to the other, and these orders are their
record. -/
structure LeadsTo (s s' : Session (σ × List Order)) (rounds : List Round) (orders : List Order) :
    Prop where
  tag : s'.toTag = s.toTag
  stats : s'.stats = rounds.foldl Round.count s.stats
  record : Record s.responder rounds orders
  device : s'.device.2 = s.device.2 ++ orders

namespace LeadsTo

variable {s s' s'' : Session (σ × List Order)} {rounds rounds' : List Round}
  {orders orders' : List Order}

theorem refl (s : Session (σ × List Order)) : s.LeadsTo s [] [] where
  tag := rfl
  stats := rfl
  record := .nil
  device := (List.append_nil _).symm

theorem trans (h : s.LeadsTo s' rounds orders) (h' : s'.LeadsTo s'' rounds' orders') :
    s.LeadsTo s'' (rounds ++ rounds') (orders ++ orders') where
  tag := h'.tag.trans h.tag
  stats := by rw [h'.stats, h.stats, List.foldl_append]
  record := by
    have hrecord := h'.record
    rw [h.tag] at hrecord
    exact h.record.append hrecord
  device := by rw [h'.device, h.device, List.append_assoc]

end LeadsTo

/-- Rounds lead from one tapped session to the other. -/
def Leads (s s' : Session (σ × List Order)) : Prop := ∃ rounds orders, s.LeadsTo s' rounds orders

theorem Leads.refl (s : Session (σ × List Order)) : s.Leads s := ⟨[], [], .refl s⟩

theorem Leads.trans {s s' s'' : Session (σ × List Order)} (h : s.Leads s') (h' : s'.Leads s'') :
    s.Leads s'' := by
  obtain ⟨rounds, orders, hrounds⟩ := h
  obtain ⟨rounds', orders', hrounds'⟩ := h'
  exact ⟨_, _, hrounds.trans hrounds'⟩

variable (T : Transport σ) (s : Session (σ × List Order))

theorem leads_after (staging : Staging) :
    s.Leads (s.after (exchange T.tapped s.responder s.config staging s.device)) := by
  obtain ⟨orders, hshows, hx⟩ :=
    exchange_tapped T s.responder s.config staging s.device.1 s.device.2
  rw [hx]
  exact ⟨[_], orders, rfl, rfl, .singleton hshows, rfl⟩

theorem leads_poll (stopRaised : σ × List Order → Bool) (n : Nat) (staging : Staging) :
    s.Leads (s.poll T.tapped stopRaised n staging).session := by
  refine poll_induct T.tapped stopRaised (motive := fun s _ run => s.Leads run.session)
    ?_ ?_ ?_ ?_ n s staging
  · exact fun s _ => .refl s
  · exact fun s _ => .refl s
  · rintro s staging x why - rfl -
    exact leads_after T s staging
  · rintro s staging x xs run - rfl - ih
    exact (leads_after T s staging).trans ih

/-- A run that is given more rounds goes on from where it was. -/
theorem leads_poll_of_le (stopRaised : σ × List Order → Bool) {n m : Nat} (hle : n ≤ m)
    (staging : Staging) :
    (s.poll T.tapped stopRaised n staging).session.Leads
      (s.poll T.tapped stopRaised m staging).session := by
  induction n generalizing m s staging with
  | zero =>
    cases h : stopRaised s.device with
    | true => rw [poll_of_raised h, poll_of_raised h]; exact .refl s
    | false =>
      rw [poll_zero_of_down h]
      exact leads_poll T s stopRaised m staging
  | succ n ih =>
    obtain ⟨m, rfl⟩ := Nat.exists_eq_add_one_of_ne_zero (Nat.ne_zero_of_lt hle)
    cases h : stopRaised s.device with
    | true => rw [poll_of_raised h, poll_of_raised h]; exact .refl s
    | false =>
      cases hf : fatal? (exchange T.tapped s.responder s.config staging s.device).round.outcome with
      | some why =>
        rw [poll_succ_of_fatal h rfl hf, poll_succ_of_fatal h rfl hf]
        exact .refl _
      | none =>
        rw [poll_succ_of_harmless h rfl hf, poll_succ_of_harmless h rfl hf]
        exact ih _ (Nat.le_of_succ_le_succ hle) _

theorem leads_afterCall (call : Call σ) : s.Leads (s.afterCall T.tapped call.tapped) := by
  cases call with
  | step staging => exact leads_after T s staging
  | run stopRaised rounds => exact leads_poll T s _ rounds Staging.zeroed
  | change f => exact ⟨[], [], rfl, rfl, .nil, (List.append_nil _).symm⟩

theorem leads_afterCalls (calls : List (Call σ)) :
    s.Leads (s.afterCalls T.tapped (calls.map Call.tapped)) := by
  induction calls generalizing s with
  | nil => exact .refl s
  | cons call calls ih => exact (leads_afterCall T s call).trans (ih _)

/-- From any moment of some calls, rounds lead to their end. -/
theorem leads_of_upTo {part calls : List (Call σ)} (h : Call.UpTo part calls) :
    (s.afterCalls T.tapped (part.map Call.tapped)).Leads
      (s.afterCalls T.tapped (calls.map Call.tapped)) := by
  cases h with
  | between earlier later =>
    rw [List.map_append, afterCalls, afterCalls, List.foldl_append]
    exact leads_afterCalls T _ later
  | during earlier later stopRaised hle =>
    rw [List.map_append, List.map_append, afterCalls, afterCalls, List.foldl_append,
      List.foldl_append]
    exact (leads_poll_of_le T _ (fun d => stopRaised d.1) hle Staging.zeroed).trans
      (leads_afterCalls T _ later)

end Session

end TagEmulation
