import TagEmulation.Proofs.Script.Arrival

/-!
# Proofs/Script/Play — a round with a script, without the buffers

`Script.play` tells from the next cue alone what a round comes to and what it leaves of the script.
`exchange_eq_play` says that a round played through the staging buffers is that one, whatever the
buffers hold.
-/

namespace TagEmulation

/-! ## Parity bits do not matter to an answer -/

theorem Frame.requireBits_congr {f g : Frame} (hbytes : f.bytes = g.bytes) (hbits : f.bits = g.bits)
    (bits : Nat) : f.requireBits bits = g.requireBits bits := by
  rw [requireBits, requireBits, byteCount, byteCount, hbytes, hbits]

theorem Command.decodeSelect_congr {f g : Frame} (hbytes : f.bytes = g.bytes)
    (hbits : f.bits = g.bits) : decodeSelect f = decodeSelect g := by
  rw [decodeSelect, decodeSelect, Frame.requireBits_congr hbytes hbits, hbytes]

/-- What a tag answers depends on the bytes and bits of a frame only. -/
theorem Responder.answer_congr (r : Responder) {f g : Frame} (hbytes : f.bytes = g.bytes)
    (hbits : f.bits = g.bits) : r.answer f = r.answer g := by
  rw [answer, answer, isSelectedBy, isSelectedBy, Command.decodeSelect_congr hbytes hbits, hbits]

@[simp] theorem Responder.answer_heard (r : Responder) (c : Config) (f : Frame) :
    r.answer (c.heard f).frame = r.answer f :=
  r.answer_congr (c.heard_bytes f) (c.heard_bits f)

namespace Script

/-- The failure of a scripted send. -/
def sendFault : Fault := .notSent "mock transmit failure"

/-- What a round comes to with the next cue, and the script it leaves. -/
def play (r : Responder) (c : Config) (s : Script) : Round × Script :=
  match s.inbound with
  | [] =>
    (.silent (.fault (if s.disconnectsWhenDry then .disconnected else .timeout)),
      { s with stopRaised := s.stopRaised || s.stopsWhenDry })
  | .silence :: rest => (.silent (.fault .timeout), { s with inbound := rest })
  | .frame f :: rest =>
    if f.byteCount ≤ stagingSize then
      match r.answer f with
      | none => (.ignored (c.heard f), { s with inbound := rest })
      | some reply =>
        match s.failuresLeft with
        | n + 1 =>
          (.unsent (c.heard f) reply (.fault sendFault),
            { s with inbound := rest, failuresLeft := n })
        | 0 =>
          (.answered (c.heard f) reply,
            { s with inbound := rest, sent := s.sent ++ [c.outgoing reply] })
    else
      (.silent (.fault (.badFrame (.exceedsBuffer f.byteCount stagingSize))),
        { s with inbound := rest })

variable {r : Responder} {c : Config} {s : Script} {f reply : Frame} {rest : List Cue}

/-! ## Cue by cue -/

theorem play_dry (hin : s.inbound = []) :
    s.play r c = (.silent (.fault (if s.disconnectsWhenDry then .disconnected else .timeout)),
      { s with stopRaised := s.stopRaised || s.stopsWhenDry }) := by
  simp only [play, hin]

theorem play_silence (hin : s.inbound = .silence :: rest) :
    s.play r c = (.silent (.fault .timeout), { s with inbound := rest }) := by
  simp only [play, hin]

theorem play_oversized (hin : s.inbound = .frame f :: rest) (hbig : stagingSize < f.byteCount) :
    s.play r c = (.silent (.fault (.badFrame (.exceedsBuffer f.byteCount stagingSize))),
      { s with inbound := rest }) := by
  simp only [play, hin, if_neg (not_le.mpr hbig)]

theorem play_ignored (hin : s.inbound = .frame f :: rest) (hfit : f.byteCount ≤ stagingSize)
    (hr : r.answer f = none) :
    s.play r c = (.ignored (c.heard f), { s with inbound := rest }) := by
  simp only [play, hin, if_pos hfit, hr]

theorem play_answered (hin : s.inbound = .frame f :: rest) (hfit : f.byteCount ≤ stagingSize)
    (hr : r.answer f = some reply) (hsend : s.failuresLeft = 0) :
    s.play r c = (.answered (c.heard f) reply,
      { s with inbound := rest, sent := s.sent ++ [c.outgoing reply] }) := by
  simp only [play, hin, if_pos hfit, hr, hsend]

theorem play_unsent (hin : s.inbound = .frame f :: rest) (hfit : f.byteCount ≤ stagingSize)
    (hr : r.answer f = some reply) (hsend : 0 < s.failuresLeft) :
    s.play r c = (.unsent (c.heard f) reply (.fault sendFault),
      { s with inbound := rest, failuresLeft := s.failuresLeft - 1 }) := by
  obtain ⟨n, hn⟩ := Nat.exists_eq_add_one_of_ne_zero hsend.ne'
  simp only [play, hin, if_pos hfit, hr, hn, Nat.add_sub_cancel]

/-! ## The round through the buffers -/

theorem record_of_failing (hsend : 0 < s.failuresLeft) :
    s.record f
      = ⟨.error (.fault sendFault), { s with failuresLeft := s.failuresLeft - 1 }⟩ := by
  obtain ⟨n, hn⟩ := Nat.exists_eq_add_one_of_ne_zero hsend.ne'
  simp only [record, hn, sendFault, Nat.add_sub_cancel]

theorem record_of_sending (hsend : s.failuresLeft = 0) :
    s.record f = ⟨.ok (), { s with sent := s.sent ++ [f] }⟩ := by
  simp only [record, hsend]

/-- **A round with a script is decided by its next cue alone**, whatever the buffers hold. -/
theorem exchange_eq_play (name : String) (r : Responder) (c : Config) (staging : Staging)
    (s : Script) :
    ∃ staging', exchange (transport name) r c staging s
      = ⟨(s.play r c).1, staging', (s.play r c).2⟩ := by
  match hin : s.inbound with
  | [] => exact ⟨staging, by rw [play_dry hin, exchange, hear_fault name c (next_dry hin)]⟩
  | .silence :: rest =>
    exact ⟨staging, by rw [play_silence hin, exchange, hear_fault name c (next_silence hin)]⟩
  | .frame f :: rest =>
    rcases Nat.lt_or_ge stagingSize f.byteCount with hbig | hfit
    · refine ⟨staging, ?_⟩
      rw [play_oversized hin hbig, exchange, hear_oversized name c hin hbig]
    · obtain ⟨staging', hheard⟩ := hear_frame name c hin hfit staging
      refine ⟨staging', ?_⟩
      rw [exchange, hheard]
      simp only [Responder.answer_heard]
      cases hr : r.answer f with
      | none => rw [play_ignored hin hfit hr]
      | some reply =>
        let s' : Script := { s with inbound := rest }
        rcases Nat.eq_zero_or_pos s.failuresLeft with hsend | hsend
        · have hspeak := (speak_eq name c reply).trans (record_of_sending (s := s') hsend)
          rw [play_answered hin hfit hr hsend]
          simp only [hspeak, s']
        · have hspeak := (speak_eq name c reply).trans (record_of_failing (s := s') hsend)
          rw [play_unsent hin hfit hr hsend]
          simp only [hspeak, s']

end Script

end TagEmulation
