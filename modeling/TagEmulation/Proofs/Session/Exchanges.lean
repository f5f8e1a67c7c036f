import TagEmulation.Session.Run

/-!
# Proofs/Session/Exchanges — a run is the list of its exchanges

A run only shows how it ended and what it left.  `Session.exchanges` keeps every exchange on the
way, and each view of the run is read off that list: the session is the fold of the exchanges
(`poll_session`), the counters are a sum over them (`balance_foldl_after`), and the run fails
exactly when its last exchange does (`poll_ending_of_fatal`, `exists_fatal_of_poll_failed`).
-/

namespace TagEmulation

variable {σ : Type}

/-! ## Failures that end a run -/

/-- A timeout ends no run. -/
theorem ne_timeout_of_fatal {α : Type} {outcome : Except Failure α} {why : Failure}
    (h : fatal? outcome = some why) : why ≠ .fault .timeout := by
  rintro rfl
  match outcome with
  | .ok _ => cases h
  | .error (.breach _) => cases h
  | .error (.fault fault) =>
    rw [fatal?] at h
    cases fault <;> cases h

/-- Every other failure does. -/
theorem fatal_of_ne_timeout {α : Type} {why : Failure} (h : why ≠ .fault .timeout) :
    fatal? (.error why : Except Failure α) = some why := by
  match why with
  | .breach _ => rfl
  | .fault fault =>
    rw [fatal?]
    cases fault with
    | timeout => exact absurd rfl h
    | _ => rfl

/-! ## Counters -/

/-- A request is a frame of seven bits. -/
theorem FrameKind.ofBits_eq_request_iff {bits : Nat} : ofBits bits = .request ↔ bits = 7 := by
  unfold ofBits
  split
  · simpa
  · rename_i h
    refine ⟨fun hreq => ?_, fun hbits => absurd hbits h⟩
    split at hreq
    · cases hreq
    · split at hreq <;> cases hreq

/-- What hearing a frame counts, said by its number of bits. -/
theorem Stats.receive_eq (s : Stats) (bits : Nat) :
    s.receive bits = { s with
      received := s.received + 1
      polls := if bits = 7 then s.polls + 1 else s.polls } := by
  simp only [receive, FrameKind.ofBits_eq_request_iff]

/-- Whether an answer could not be sent. -/
def Round.isUnsent : Round → Bool
  | .unsent _ _ _ => true
  | _ => false

/-- The frames received that were neither answered nor left without an answer. -/
def Stats.balance (s : Stats) : UInt64 := s.received - s.answered - s.ignored

/-- **Only an answer that could not be sent tips the balance.** -/
theorem Stats.balance_count (s : Stats) (r : Round) :
    (r.count s).balance = s.balance + if r.isUnsent then 1 else 0 := by
  cases r <;> simp only [Round.count, Round.isUnsent, balance, receive, answer, ignore,
    Bool.false_eq_true, if_false, if_true] <;> grind

namespace Session

/-! ## Exchanges -/

/-- The session after an exchange: counted, and with the device it left. -/
def after (s : Session σ) (x : Exchange σ) : Session σ :=
  { s with stats := x.round.count s.stats, device := x.device }

/-- The exchanges of a run, in order. -/
def exchanges (T : Transport σ) (stopRaised : σ → Bool) :
    Nat → Session σ → Staging → List (Exchange σ)
  | 0, _, _ => []
  | n + 1, s, staging =>
    if stopRaised s.device then []
    else
      let x := exchange T s.responder s.config staging s.device
      match fatal? x.round.outcome with
      | some _ => [x]
      | none => x :: exchanges T stopRaised n (s.after x) x.staging

variable {T : Transport σ} {stopRaised : σ → Bool} {n : Nat} {s : Session σ} {staging : Staging}
  {x : Exchange σ} {why : Failure}

/-- A run comes to an end in exactly so many rounds, in this way, and leaves this session. -/
structure EndsAfter (T : Transport σ) (stopRaised : σ → Bool) (s : Session σ) (rounds : Nat)
    (ending : Ending) (final : Session σ) : Prop where
  polling : ∀ n < rounds, (s.run T stopRaised n).ending = .polling
  ends : ∀ n ≥ rounds,
    (s.run T stopRaised n).ending = ending ∧ (s.run T stopRaised n).session = final

/-! ## One round of a run -/

theorem poll_of_raised (h : stopRaised s.device = true) :
    s.poll T stopRaised n staging = ⟨.stopped s.stats, s, [.stopped s.stats]⟩ := by
  cases n <;> rw [poll, if_pos h]

theorem poll_zero_of_down (h : stopRaised s.device = false) :
    s.poll T stopRaised 0 staging = ⟨.polling, s, []⟩ := by
  rw [poll, if_neg (by simp [h])]

theorem poll_succ_of_fatal (h : stopRaised s.device = false)
    (hx : exchange T s.responder s.config staging s.device = x)
    (hf : fatal? x.round.outcome = some why) :
    s.poll T stopRaised (n + 1) staging
      = ⟨.failed why, s.after x,
          x.round.events s.responder s.config.quiet ++ why.endEvents⟩ := by
  subst hx
  rw [poll, if_neg (by simp [h])]
  simp only [step, hf]
  rfl

theorem poll_succ_of_harmless (h : stopRaised s.device = false)
    (hx : exchange T s.responder s.config staging s.device = x)
    (hf : fatal? x.round.outcome = none) :
    s.poll T stopRaised (n + 1) staging
      = ((s.after x).poll T stopRaised n x.staging).after
          (x.round.events s.responder s.config.quiet) := by
  subst hx
  rw [poll, if_neg (by simp [h])]
  simp only [step, hf]
  rfl

theorem exchanges_of_raised (h : stopRaised s.device = true) :
    s.exchanges T stopRaised n staging = [] := by
  cases n with
  | zero => rfl
  | succ n => rw [exchanges, if_pos h]

theorem exchanges_succ_of_fatal (h : stopRaised s.device = false)
    (hx : exchange T s.responder s.config staging s.device = x)
    (hf : fatal? x.round.outcome = some why) :
    s.exchanges T stopRaised (n + 1) staging = [x] := by
  subst hx
  rw [exchanges, if_neg (by simp [h])]
  simp only [hf]

theorem exchanges_succ_of_harmless (h : stopRaised s.device = false)
    (hx : exchange T s.responder s.config staging s.device = x)
    (hf : fatal? x.round.outcome = none) :
    s.exchanges T stopRaised (n + 1) staging
      = x :: (s.after x).exchanges T stopRaised n x.staging := by
  subst hx
  rw [exchanges, if_neg (by simp [h])]
  simp only [hf]

/-- **Induction along a run**: the flag is raised, the rounds are used up, an exchange ends the
run, or the run goes on after it. -/
theorem poll_induct (T : Transport σ) (stopRaised : σ → Bool)
    {motive : Session σ → List (Exchange σ) → Run σ → Prop}
    (raised : ∀ s, stopRaised s.device = true →
      motive s [] ⟨.stopped s.stats, s, [.stopped s.stats]⟩)
    (spent : ∀ s, stopRaised s.device = false → motive s [] ⟨.polling, s, []⟩)
    (fatal : ∀ s staging x why, stopRaised s.device = false →
      exchange T s.responder s.config staging s.device = x → fatal? x.round.outcome = some why →
      motive s [x] ⟨.failed why, s.after x,
        x.round.events s.responder s.config.quiet ++ why.endEvents⟩)
    (harmless : ∀ s staging x xs run, stopRaised s.device = false →
      exchange T s.responder s.config staging s.device = x → fatal? x.round.outcome = none →
      motive (s.after x) xs run →
      motive s (x :: xs) (run.after (x.round.events s.responder s.config.quiet))) :
    ∀ (n : Nat) (s : Session σ) (staging : Staging),
      motive s (s.exchanges T stopRaised n staging) (s.poll T stopRaised n staging) := by
  intro n
  induction n with
  | zero =>
    intro s staging
    cases h : stopRaised s.device with
    | true => rw [exchanges_of_raised h, poll_of_raised h]; exact raised s h
    | false => rw [poll_zero_of_down h]; exact spent s h
  | succ n ih =>
    intro s staging
    cases h : stopRaised s.device with
    | true => rw [exchanges_of_raised h, poll_of_raised h]; exact raised s h
    | false =>
      cases hf : fatal? (exchange T s.responder s.config staging s.device).round.outcome with
      | some why =>
        rw [exchanges_succ_of_fatal h rfl hf, poll_succ_of_fatal h rfl hf]
        exact fatal s staging _ why h rfl hf
      | none =>
        rw [exchanges_succ_of_harmless h rfl hf, poll_succ_of_harmless h rfl hf]
        exact harmless s staging _ _ _ h rfl hf (ih _ _)

/-! ## The run, read off its exchanges -/

/-- The session a run leaves is the fold of its exchanges. -/
theorem poll_session (T : Transport σ) (stopRaised : σ → Bool) (n : Nat) (s : Session σ)
    (staging : Staging) :
    (s.poll T stopRaised n staging).session
      = (s.exchanges T stopRaised n staging).foldl after s := by
  refine poll_induct T stopRaised (motive := fun s xs run => run.session = xs.foldl after s)
    (fun _ _ => rfl) (fun _ _ => rfl) (fun _ _ _ _ _ _ _ => rfl) ?_ n s staging
  intro s _ x xs run _ _ _ ih
  exact ih

/-- **A failing exchange is the last one**, and the run fails as it does. -/
theorem poll_ending_of_fatal {before after : List (Exchange σ)}
    (hxs : s.exchanges T stopRaised n staging = before ++ x :: after)
    (hf : fatal? x.round.outcome = some why) :
    after = [] ∧ (s.poll T stopRaised n staging).ending = .failed why := by
  refine poll_induct T stopRaised
    (motive := fun _ xs run => ∀ before, xs = before ++ x :: after →
      after = [] ∧ run.ending = .failed why) ?_ ?_ ?_ ?_ n s staging before hxs
  · intro _ _ before h
    simp at h
  · intro _ _ before h
    simp at h
  · intro _ _ y why' _ _ hy before h
    cases before with
    | nil =>
      obtain ⟨rfl, rfl⟩ := List.cons.inj h
      rw [hf] at hy
      cases hy
      exact ⟨rfl, rfl⟩
    | cons z before => simp at h
  · intro _ _ y ys run _ _ hy ih before h
    cases before with
    | nil =>
      obtain ⟨rfl, -⟩ := List.cons.inj h
      rw [hf] at hy
      cases hy
    | cons z before => exact ih before (List.cons.inj h).2

/-- A run only fails as one of its exchanges does. -/
theorem exists_fatal_of_poll_failed (h : (s.poll T stopRaised n staging).ending = .failed why) :
    ∃ x ∈ s.exchanges T stopRaised n staging, fatal? x.round.outcome = some why := by
  refine poll_induct T stopRaised
    (motive := fun _ xs run => run.ending = .failed why →
      ∃ x ∈ xs, fatal? x.round.outcome = some why) ?_ ?_ ?_ ?_ n s staging h
  · intro _ _ h; cases h
  · intro _ _ h; cases h
  · intro _ _ x why' _ _ hx h
    cases h
    exact ⟨x, List.mem_singleton.mpr rfl, hx⟩
  · intro _ _ y ys run _ _ _ ih h
    obtain ⟨x, hx, hf⟩ := ih h
    exact ⟨x, List.mem_cons_of_mem y hx, hf⟩

/-- A run that the flag stops has no failing exchange, and reports the counters it leaves. -/
theorem harmless_of_poll_stopped {stats : Stats}
    (h : (s.poll T stopRaised n staging).ending = .stopped stats) :
    (∀ x ∈ s.exchanges T stopRaised n staging, fatal? x.round.outcome = none) ∧
      (s.poll T stopRaised n staging).session.stats = stats := by
  refine poll_induct T stopRaised
    (motive := fun _ xs run => run.ending = .stopped stats →
      (∀ x ∈ xs, fatal? x.round.outcome = none) ∧ run.session.stats = stats)
    ?_ ?_ ?_ ?_ n s staging h
  · intro s _ h
    cases h
    exact ⟨by simp, rfl⟩
  · intro _ _ h; cases h
  · intro _ _ _ _ _ _ _ h; cases h
  · intro _ _ y ys run _ _ hy ih h
    obtain ⟨hys, hstats⟩ := ih h
    exact ⟨List.forall_mem_cons.mpr ⟨hy, hys⟩, hstats⟩

/-- The balance of the counters rises by one for each answer that could not be sent. -/
theorem balance_foldl_after (xs : List (Exchange σ)) (s : Session σ) :
    (xs.foldl after s).stats.balance
      = s.stats.balance + .ofNat (xs.countP fun x => x.round.isUnsent) := by
  induction xs generalizing s with
  | nil => simp
  | cons x xs ih =>
    have hx : (s.after x).stats.balance = s.stats.balance + if x.round.isUnsent then 1 else 0 :=
      Stats.balance_count s.stats x.round
    have hone : (if x.round.isUnsent then 1 else 0 : UInt64)
        = .ofNat (if x.round.isUnsent then 1 else 0) := by split <;> rfl
    rw [List.foldl_cons, ih, hx, hone, List.countP_cons, UInt64.ofNat_add, UInt64.add_assoc,
      UInt64.add_comm (.ofNat (ite _ _ _))]

end Session

end TagEmulation
