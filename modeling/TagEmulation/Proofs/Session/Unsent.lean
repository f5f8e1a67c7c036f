import Mathlib.Order.Nat
import TagEmulation.Proofs.Session.Exchanges
import TagEmulation.Transport.Bench

/-!
# Proofs/Session/Unsent — what a run does about an answer that could not be sent

A run tells failures apart by their value alone, not by what was being done.  So an answer that
could not be sent ends the run, and nothing more is asked of the device, unless sending timed out:
then the run polls on as after a silence (`unsent_ends_run_iff`), and the frame is counted as
received but neither as answered nor as ignored.
-/

namespace TagEmulation

variable {σ : Type} {T : Transport σ} {stopRaised : σ → Bool} {n : Nat} {s : Session σ}
  {staging : Staging}

namespace Session

/-- An answer that could not be sent ends the run there, unless sending timed out. -/
theorem poll_unsent {before after : List (Exchange σ)} {x : Exchange σ} {heard : Heard}
    {reply : Frame} {why : Failure}
    (hxs : s.exchanges T stopRaised n staging = before ++ x :: after)
    (hx : x.round = .unsent heard reply why) :
    (after = [] ∧ (s.poll T stopRaised n staging).ending = .failed why ∧
        (s.poll T stopRaised n staging).session.device = x.device)
      ↔ why ≠ .fault .timeout := by
  constructor
  · rintro ⟨-, hfailed, -⟩
    obtain ⟨y, -, hy⟩ := exists_fatal_of_poll_failed hfailed
    exact ne_timeout_of_fatal hy
  · intro hwhy
    have hfatal : fatal? x.round.outcome = some why := by
      rw [hx]
      exact fatal_of_ne_timeout hwhy
    obtain ⟨rfl, hending⟩ := poll_ending_of_fatal hxs hfatal
    refine ⟨rfl, hending, ?_⟩
    rw [poll_session, hxs, List.foldl_append]
    rfl

/-- In a run that the flag stops, an answer can only have failed to be sent in time. -/
theorem timeout_of_poll_stopped {stats : Stats}
    (h : (s.poll T stopRaised n staging).ending = .stopped stats) {x : Exchange σ}
    (hx : x ∈ s.exchanges T stopRaised n staging) {heard : Heard} {reply : Frame} {why : Failure}
    (hround : x.round = .unsent heard reply why) : why = .fault .timeout := by
  by_contra hwhy
  have hharmless := (harmless_of_poll_stopped h).1 x hx
  rw [hround] at hharmless
  exact absurd ((fatal_of_ne_timeout hwhy).symm.trans hharmless) nofun

/-- What a stopped run received is what it answered, what it ignored and what it could not
answer. -/
theorem received_of_poll_stopped {stats : Stats}
    (h : (s.poll T stopRaised n staging).ending = .stopped stats) :
    stats.received - s.stats.received
      = (stats.answered - s.stats.answered) + (stats.ignored - s.stats.ignored)
        + .ofNat ((s.exchanges T stopRaised n staging).countP fun x => x.round.isUnsent) := by
  obtain ⟨-, hstats⟩ := harmless_of_poll_stopped h
  have hbalance := balance_foldl_after (s.exchanges T stopRaised n staging) s
  rw [← poll_session, hstats, Stats.balance, Stats.balance] at hbalance
  grind

end Session

/-- Adding a number of 64 bits changes a counter unless it is zero. -/
theorem add_ofNat_eq_self_iff {a : UInt64} {k : Nat} (hk : k < UInt64.size) :
    a + .ofNat k = a ↔ k = 0 := by
  constructor
  · intro h
    have hzero : UInt64.ofNat k = 0 := by grind
    have := congrArg UInt64.toNat hzero
    rw [UInt64.toNat_ofNat_of_lt' hk] at this
    exact this
  · rintro rfl
    exact UInt64.add_zero a

open Session in
/-- **An answer that could not be sent ends the run exactly if sending did not time out**; then
nothing more is asked of the device.  So the counters of a stopped run balance exactly if no send
timed out in it. -/
theorem unsent_ends_run_iff (T : Transport σ) (stopRaised : σ → Bool) (n : Nat) (s : Session σ) :
    let run := s.run T stopRaised n
    let played := s.exchanges T stopRaised n Staging.zeroed
    (∀ before x after heard reply why, played = before ++ x :: after →
        x.round = .unsent heard reply why →
        ((after = [] ∧ run.ending = .failed why ∧ run.session.device = x.device)
          ↔ why ≠ .fault .timeout)) ∧
      ∀ stats, run.ending = .stopped stats →
        (∀ x ∈ played, ∀ heard reply why, x.round = .unsent heard reply why →
          why = .fault .timeout) ∧
        (stats.received - s.stats.received
          = (stats.answered - s.stats.answered) + (stats.ignored - s.stats.ignored)
            + .ofNat (played.countP fun x => x.round.isUnsent)) ∧
        (played.length < UInt64.size →
          (stats.received - s.stats.received
              = (stats.answered - s.stats.answered) + (stats.ignored - s.stats.ignored)
            ↔ ∀ x ∈ played, ¬ x.round.isUnsent)) := by
  intro run played
  refine ⟨fun before x after heard reply why hxs hx => poll_unsent hxs hx, ?_⟩
  intro stats hstopped
  have hcount : stats.received - s.stats.received = _ := received_of_poll_stopped hstopped
  refine ⟨fun x hx _ _ _ hround => timeout_of_poll_stopped hstopped hx hround, hcount, ?_⟩
  intro hlen
  have hk : played.countP (fun x => x.round.isUnsent) < UInt64.size :=
    List.countP_le_length.trans_lt hlen
  rw [hcount, add_ofNat_eq_self_iff hk, List.countP_eq_zero]

/-- A reader asks once, sending the answer times out, and the run goes on until the flag stops it:
one frame was received, and none was answered or ignored. -/
theorem timed_out_answer_does_not_end_run :
    let device : Bench :=
      { inbound := [.delivers [0x26] [] 7], sends := [some .timeout], stopsWhenDry := true }
    let s : Session Bench := { Tag.ofConfig default default with stats := .zero, device }
    (s.exchanges Bench.full Bench.stopRaised 2 Staging.zeroed).map (·.round.isUnsent)
        = [true, false] ∧
      (s.run Bench.full Bench.stopRaised 2).ending
        = .stopped { received := 1, answered := 0, ignored := 0, polls := 1 } := by
  decide +kernel

end TagEmulation
