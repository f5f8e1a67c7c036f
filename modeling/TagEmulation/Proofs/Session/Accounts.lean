import Mathlib.Order.Nat
import TagEmulation.Proofs.Responder.Answers
import TagEmulation.Proofs.Session.BringUp

/-!
# Proofs/Session/Accounts — the counters of a session agree with its device

A session counts by what it makes of its rounds, and its device sees orders.  Round by round the two
agree (`Round.Shows.count_eq_raise`), so after any number of rounds the counters are counts over the
record (`Record.foldl_count`).  Every frame on record is answered, ignored, or its answer is lost
(`Record.length_framesOf`).  That holds of all a session can do after it came up
(`counters_agree_with_device`).
-/

namespace TagEmulation

variable {σ : Type}

/-! ## Counting what is on record -/

/-- The numbers of bits of the frames that were received, in order. -/
def framesOf (orders : List Order) : List Nat := orders.filterMap Order.frameBits?

theorem framesOf_append (orders orders' : List Order) :
    framesOf (orders ++ orders') = framesOf orders ++ framesOf orders' :=
  List.filterMap_append

/-- Whether a frame was left without an answer. -/
def Round.isIgnored : Round → Bool
  | .ignored _ => true
  | _ => false

/-- Whether a frame was answered. -/
def Round.isAnswered : Round → Bool
  | .answered _ _ => true
  | _ => false

/-- The counters, each raised by a number. -/
def Stats.raise (s : Stats) (received answered ignored polls : Nat) : Stats where
  received := s.received + .ofNat received
  answered := s.answered + .ofNat answered
  ignored := s.ignored + .ofNat ignored
  polls := s.polls + .ofNat polls

/-- No counter is above the one of the other. -/
instance : LE Stats where
  le s t := s.received ≤ t.received ∧ s.answered ≤ t.answered ∧ s.ignored ≤ t.ignored ∧
    s.polls ≤ t.polls

namespace Stats

@[simp] theorem raise_none (s : Stats) : s.raise 0 0 0 0 = s := by
  simp [raise]

theorem raise_raise (s : Stats) (a b c d a' b' c' d' : Nat) :
    (s.raise a b c d).raise a' b' c' d' = s.raise (a + a') (b + b') (c + c') (d + d') := by
  simp only [raise, UInt64.ofNat_add, UInt64.add_assoc]

theorem receive_eq_raise (s : Stats) (bits : Nat) :
    s.receive bits = s.raise 1 0 0 ([bits].count 7) := by
  rw [receive_eq, List.count_singleton]
  by_cases h : bits = 7 <;> simp [raise, h]

theorem answer_eq_raise (s : Stats) : s.answer = s.raise 0 1 0 0 := by
  simp [answer, raise]

theorem ignore_eq_raise (s : Stats) : s.ignore = s.raise 0 0 1 0 := by
  simp [ignore, raise]

end Stats

namespace Round.Shows

variable {r : Responder} {round : Round} {orders : List Order}

/-- The frame received in a round is the one on record. -/
theorem framesOf_eq (h : round.Shows r orders) :
    framesOf orders = (round.heard?.map (·.frame.bits)).toList := by
  cases h with
  | silent hyields | ignored hyields | answered hyields | unsent hyields =>
    rw [framesOf, List.filterMap_cons, Order.frameBits?_of_yields hyields]
    rfl

theorem countP_isSent (h : round.Shows r orders) :
    orders.countP Order.isSent = if round.isAnswered then 1 else 0 := by
  cases h with
  | silent hyields | ignored hyields | answered hyields | unsent hyields =>
    rw [List.countP_cons, Order.isSent_of_yields hyields]
    rfl

theorem countP_isLost (h : round.Shows r orders) :
    orders.countP Order.isLost = if round.isUnsent then 1 else 0 := by
  cases h with
  | silent hyields | ignored hyields | answered hyields | unsent hyields =>
    rw [List.countP_cons, Order.isLost_of_yields hyields]
    rfl

/-- **A round counts what its orders show.** -/
theorem count_eq_raise (h : round.Shows r orders) (s : Stats) :
    round.count s = s.raise (framesOf orders).length (orders.countP Order.isSent)
      (if round.isIgnored then 1 else 0) ((framesOf orders).count 7) := by
  rw [h.framesOf_eq, h.countP_isSent]
  cases round with
  | silent why => exact (Stats.raise_none s).symm
  | ignored heard =>
    rw [Round.count, Stats.receive_eq_raise, Stats.ignore_eq_raise, Stats.raise_raise]
    rfl
  | answered heard reply =>
    rw [Round.count, Stats.receive_eq_raise, Stats.answer_eq_raise, Stats.raise_raise]
    rfl
  | unsent heard reply why => exact Stats.receive_eq_raise s _

/-- A frame received is answered, ignored, or its answer is lost. -/
theorem length_framesOf (h : round.Shows r orders) :
    (framesOf orders).length = orders.countP Order.isSent + (if round.isIgnored then 1 else 0)
      + orders.countP Order.isLost := by
  rw [h.framesOf_eq, h.countP_isSent, h.countP_isLost]
  cases round <;> rfl

/-- A tag that is not strict ignores the frames as long as no command. -/
theorem countP_foreign (h : round.Shows r orders) (hlenient : r.strict = false) :
    (framesOf orders).countP (· ∉ [7, 16, 72]) = if round.isIgnored then 1 else 0 := by
  rw [h.framesOf_eq]
  cases h with
  | silent => rfl
  | ignored hyields hr =>
    have hforeign := (Responder.answer_eq_none_iff_of_lenient hlenient).mp hr
    exact List.countP_singleton.trans (if_pos (decide_eq_true hforeign))
  | answered hyields hr | unsent hyields hr =>
    have hforeign := (Responder.answer_eq_none_iff_of_lenient hlenient).not.mp (by rw [hr]; nofun)
    exact List.countP_singleton.trans (if_neg (by simpa using hforeign))

end Round.Shows

namespace Record

variable {r : Responder} {rounds : List Round} {orders : List Order}

/-- **The counters after some rounds are counts over their record.** -/
theorem foldl_count (h : Record r rounds orders) (s : Stats) :
    rounds.foldl Round.count s
      = s.raise (framesOf orders).length (orders.countP Order.isSent)
          (rounds.countP Round.isIgnored) ((framesOf orders).count 7) := by
  induction h generalizing s with
  | nil => exact (Stats.raise_none s).symm
  | cons hshows _ ih =>
    rw [List.foldl_cons, ih, hshows.count_eq_raise, Stats.raise_raise, framesOf_append,
      List.length_append, List.countP_append, List.count_append, List.countP_cons,
      Nat.add_comm (List.countP Round.isIgnored _)]

theorem length_framesOf (h : Record r rounds orders) :
    (framesOf orders).length = orders.countP Order.isSent + rounds.countP Round.isIgnored
      + orders.countP Order.isLost := by
  induction h with
  | nil => rfl
  | cons hshows _ ih =>
    rw [framesOf_append, List.length_append, List.countP_append, List.countP_append,
      List.countP_cons, ih, hshows.length_framesOf]
    omega

theorem countP_isLost (h : Record r rounds orders) :
    orders.countP Order.isLost = rounds.countP Round.isUnsent := by
  induction h with
  | nil => rfl
  | cons hshows _ ih =>
    rw [List.countP_append, List.countP_cons, ih, hshows.countP_isLost, Nat.add_comm]

theorem countP_foreign (h : Record r rounds orders) (hlenient : r.strict = false) :
    (framesOf orders).countP (· ∉ [7, 16, 72]) = rounds.countP Round.isIgnored := by
  induction h with
  | nil => rfl
  | cons hshows _ ih =>
    rw [framesOf_append, List.countP_append, List.countP_cons, ih, hshows.countP_foreign hlenient,
      Nat.add_comm]

end Record

/-! ## The counters -/

namespace Session

/-- A tag that has come up is the tag it was, and has counted nothing. -/
theorem toTag_of_bringUp {T : Transport σ} {t : Tag} {device : σ} {s : Session σ}
    (h : (t.bringUp T device).outcome = .ok s) : s.toTag = t ∧ s.stats = .zero := by
  obtain ⟨rfl, -⟩ := Tag.outcome_bringUp_eq_ok_iff.mp h
  exact ⟨rfl, rfl⟩

namespace LeadsTo

variable {s s' s'' : Session (σ × List Order)} {rounds rounds' : List Round}
  {orders orders' : List Order}

/-- The counters start at zero, and do not overflow. -/
theorem toNat_stats (h : s.LeadsTo s' rounds orders) (hzero : s.stats = .zero)
    (hfew : (framesOf orders).length < UInt64.size) :
    s'.stats.received.toNat = (framesOf orders).length ∧
      s'.stats.answered.toNat = orders.countP Order.isSent ∧
      s'.stats.ignored.toNat = rounds.countP Round.isIgnored ∧
      s'.stats.polls.toNat = (framesOf orders).count 7 := by
  have hraised := h.stats
  rw [hzero, h.record.foldl_count] at hraised
  -- no counter is raised by more than the number of frames, so it is enough that this one fits
  have hlength := h.record.length_framesOf
  have hcount : (framesOf orders).count 7 ≤ (framesOf orders).length := List.count_le_length
  have htoNat {k : Nat} (hk : k ≤ (framesOf orders).length) : (0 + UInt64.ofNat k).toNat = k := by
    rw [UInt64.zero_add, UInt64.toNat_ofNat_of_lt' (hk.trans_lt hfew)]
  rw [hraised]
  exact ⟨htoNat le_rfl, htoNat (by omega), htoNat (by omega), htoNat hcount⟩

/-- **No counter shrinks.** -/
theorem stats_le (h : s.LeadsTo s' rounds orders) (hzero : s.stats = .zero)
    (h' : s'.LeadsTo s'' rounds' orders')
    (hfew : (framesOf (orders ++ orders')).length < UInt64.size) : s'.stats ≤ s''.stats := by
  have hframes := framesOf_append orders orders'
  have hlength : (framesOf orders).length ≤ (framesOf (orders ++ orders')).length := by
    rw [hframes, List.length_append]
    exact Nat.le_add_right ..
  obtain ⟨hreceived, hanswered, hignored, hpolls⟩ := h.toNat_stats hzero (hlength.trans_lt hfew)
  obtain ⟨hreceived', hanswered', hignored', hpolls'⟩ := (h.trans h').toNat_stats hzero hfew
  refine ⟨?_, ?_, ?_, ?_⟩ <;> rw [UInt64.le_iff_toNat_le]
  · rw [hreceived, hreceived']
    exact hlength
  · rw [hanswered, hanswered', List.countP_append]
    exact Nat.le_add_right ..
  · rw [hignored, hignored', List.countP_append]
    exact Nat.le_add_right ..
  · rw [hpolls, hpolls', hframes, List.count_append]
    exact Nat.le_add_right ..

end LeadsTo

end Session

open Session in
/-- **The counters of a session are counts over what its device has seen.**  Once a tag is up, its
identity, its options and its answers never change, whatever is done with it.  The frames it counts
are those its device received, and each of them is answered, ignored, or its answer was lost; as
long as the counters do not overflow, none ever shrinks. -/
theorem counters_agree_with_device (T : Transport σ) (identity : Identity) (config : Config)
    (device : σ) {s₀ : Session σ}
    (hup : ((Tag.ofConfig identity config).bringUp T device).outcome = .ok s₀)
    (calls : List (Call σ)) :
    let s := s₀.afterCalls T calls
    let tapped := s₀.tapped.afterCalls T.tapped (calls.map Call.tapped)
    let orders := tapped.device.2
    let frames := framesOf orders
    tapped.untapped = s ∧
      s.responder = ⟨identity, config.strictSelect⟩ ∧ s.config = config ∧
      (∃ rounds, Record s.responder rounds orders ∧
        orders.countP Order.isLost = rounds.countP Round.isUnsent) ∧
      (frames.length < UInt64.size →
        s.stats.received.toNat = frames.length ∧
        s.stats.received.toNat
          = s.stats.answered.toNat + s.stats.ignored.toNat + orders.countP Order.isLost ∧
        s.stats.polls.toNat = frames.count 7 ∧ s.stats.polls ≤ s.stats.received ∧
        s.stats.answered.toNat = orders.countP Order.isSent ∧
        (config.strictSelect = false →
          s.stats.ignored.toNat = frames.countP (· ∉ [7, 16, 72])) ∧
        ∀ part, Call.UpTo part calls → (s₀.afterCalls T part).stats ≤ s.stats) := by
  intro s tapped orders frames
  obtain ⟨htag, hzero⟩ := toTag_of_bringUp hup
  have huntapped (part : List (Call σ)) :
      (s₀.tapped.afterCalls T.tapped (part.map Call.tapped)).untapped = s₀.afterCalls T part :=
    untapped_afterCalls s₀.tapped part
  obtain ⟨rounds, orders', hleads⟩ := leads_afterCalls T s₀.tapped calls
  obtain rfl : orders = orders' := hleads.device
  have hs : s.toTag = Tag.ofConfig identity config :=
    (congrArg Session.toTag (huntapped calls)).symm.trans (hleads.tag.trans htag)
  have hstats : s.stats = tapped.stats := (congrArg Session.stats (huntapped calls)).symm
  have hresponder : s.responder = ⟨identity, config.strictSelect⟩ := congrArg Tag.responder hs
  have hsame : s₀.responder = s.responder := congrArg Tag.responder (htag.trans hs.symm)
  have hrecord : Record s.responder rounds orders := hsame ▸ hleads.record
  refine ⟨huntapped calls, hresponder, congrArg Tag.config hs,
    ⟨rounds, hrecord, hrecord.countP_isLost⟩, fun hfew => ?_⟩
  obtain ⟨hreceived, hanswered, hignored, hpolls⟩ := hleads.toNat_stats hzero hfew
  rw [hstats]
  refine ⟨hreceived, ?_, hpolls, ?_, hanswered, fun hlenient => ?_, fun part hpart => ?_⟩
  · rw [hreceived, hanswered, hignored]
    exact hrecord.length_framesOf
  · rw [UInt64.le_iff_toNat_le, hpolls, hreceived]
    exact List.count_le_length
  · rw [hignored]
    exact (hrecord.countP_foreign (by rw [hresponder]; exact hlenient)).symm
  · obtain ⟨first, ordersFirst, hfirst⟩ := leads_afterCalls T s₀.tapped part
    obtain ⟨rest, ordersRest, hrest⟩ := leads_of_upTo T s₀.tapped hpart
    have horders : orders = ordersFirst ++ ordersRest := (hfirst.trans hrest).device
    rw [← huntapped part]
    exact hfirst.stats_le hzero hrest (by rw [← horders]; exact hfew)

/-- Two requests and a frame as long as no command: the answer to the first request is lost in a
step, and a run, once the flag is down, hears the others and fails at bits that do not fit. -/
theorem counters_agree_with_device_of_lost_answer :
    let inbound : List BenchReading :=
      [.delivers [0x26] [] 7, .delivers [0x50, 0x00] [] 12, .fails .timeout,
        .delivers [0x26] [] 7, .delivers [0xff] [] 2113]
    let device : Bench :=
      { inbound := .delivers [0x52] [] 7 :: inbound, sends := [some .disconnected] }
    let s₀ : Session Bench :=
      { Tag.ofConfig default default with
        stats := .zero
        device := { device with
          inbound
          options := [(.handleCrc, false), (.handleParity, true)]
          identities := [default]
          timeouts := [none] } }
    let calls : List (Call Bench) :=
      [.step Staging.zeroed, .change fun b => { b with stopRaised := true },
        .run Bench.stopRaised 5, .change fun b => { b with stopRaised := false },
        .run Bench.stopRaised 5]
    let s := s₀.afterCalls Bench.full calls
    let orders := (s₀.tapped.afterCalls Bench.full.tapped (calls.map Call.tapped)).device.2
    ((Tag.ofConfig default default).bringUp Bench.full device).outcome = .ok s₀ ∧
      framesOf orders = [7, 12, 7] ∧ (framesOf orders).length < UInt64.size ∧
      s.stats = ⟨3, 1, 1, 2⟩ ∧ orders.countP Order.isLost = 1 ∧
      ∀ part, Call.UpTo part calls → (s₀.afterCalls Bench.full part).stats ≤ s.stats := by
  intro inbound device s₀ calls
  have hup : ((Tag.ofConfig default default).bringUp Bench.full device).outcome = .ok s₀ := by
    decide +kernel
  have hframes : framesOf (s₀.tapped.afterCalls Bench.full.tapped
      (calls.map Call.tapped)).device.2 = [7, 12, 7] := by decide +kernel
  have hfew := (congrArg List.length hframes).trans_lt (show 3 < UInt64.size by decide +kernel)
  obtain ⟨-, -, -, -, h⟩ := counters_agree_with_device Bench.full default default device hup calls
  obtain ⟨-, -, -, -, -, -, hgrows⟩ := h hfew
  exact ⟨hup, hframes, hfew, by decide +kernel, by decide +kernel, hgrows⟩

end TagEmulation
