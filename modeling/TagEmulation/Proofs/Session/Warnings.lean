import TagEmulation.Proofs.Session.Quiet
import TagEmulation.Proofs.Text.Marks
import TagEmulation.Transport.Bench

/-!
# Proofs/Session/Warnings — a parity warning names the bytes it marks

A session that is in charge of parity holds the parity bits of every frame it hears against the
bytes, and logs a verdict.  The wrong ones are shown twice, by their positions and as marks in the
text of the frame; the two are found apart, but alike (`Frame.MarkedAt`).  What a session hears is
marked so (`marked_of_hear`), and its log holds no other verdict (`Tag.allMarked_lifeLog`): who
reads the marks of a warning reads its positions (`parity_warnings_name_the_marked_bytes`).
-/

namespace TagEmulation

variable {σ : Type} {T : Transport σ}

/-! ## Verdicts -/

/-- The frame carries parity bits, those at these positions are wrong, and its text has its marks
there. -/
structure Frame.MarkedAt (f : Frame) (positions : List Nat) : Prop where
  mismatches : ∃ parity ∈ f.parity, parityMismatches f.bytes f.bits parity = .ok positions
  marks : Text.Marks f.text positions

/-- If the parity bits were checked, the frame is marked at the positions found. -/
def Heard.Marked (heard : Heard) : Prop := ∀ wrong ∈ heard.wrongParity, heard.frame.MarkedAt wrong

/-- If the event is a verdict on parity bits, its frame is marked as the verdict says. -/
def Event.Marked : Event → Prop
  | .parityWrong positions frame => positions ≠ [] ∧ frame.MarkedAt positions
  | .parityRight frame => frame.MarkedAt []
  | _ => True

/-- Whether the event is a verdict on parity bits. -/
def Event.isVerdict : Event → Bool
  | .parityWrong _ _ | .parityRight _ => true
  | _ => false

/-- The verdict on a frame whose parity bits are wrong at these positions. -/
def Event.verdict (positions : List Nat) (f : Frame) : Event :=
  if positions = [] then .parityRight f else .parityWrong positions f

/-- A frame that carries parity bits has its marks where they are wrong. -/
theorem Frame.markedAt_of_parityMismatches {f : Frame} {parity : List UInt8} {positions : List Nat}
    (hparity : f.parity = some parity)
    (h : parityMismatches f.bytes f.bits parity = .ok positions) : f.MarkedAt positions where
  mismatches := ⟨parity, hparity, h⟩
  marks := by
    rw [text, hparity]
    exact Text.marks_of_parityMismatches h

/-! ## What is heard -/

theorem Frame.bits_of_ofBuffer {data : List UInt8} {bits : Nat} {f : Frame}
    (h : ofBuffer data bits = .ok f) : f.bits = bits := by
  rcases Nat.lt_or_ge (8 * data.length) bits with hlong | hfits
  · rw [ofBuffer_of_lt hlong] at h
    cases h
  · obtain ⟨g, hg, hbits⟩ := exists_ofBuffer hfits
    obtain rfl : g = f := Except.ok.inj (hg.symm.trans h)
    exact hbits

/-- The parity bits that a frame is made to carry are those it is checked against. -/
theorem exists_markedAt_of_heardWithParity {data parity : List UInt8} {bits : Nat} {heard : Heard}
    (h : heardWithParity data parity bits = .ok heard) :
    ∃ wrong, heard.wrongParity = some wrong ∧ heard.frame.MarkedAt wrong := by
  obtain ⟨f, hf, hchecked⟩ := bind_eq_ok_iff.mp h
  obtain ⟨wrong, hwrong, rfl⟩ := map_eq_ok_iff.mp hchecked
  obtain ⟨bare, hbare, hcarried⟩ := bind_eq_ok_iff.mp (orFault_eq_ok_iff.mp hf)
  obtain rfl : bare.bits = bits := Frame.bits_of_ofBuffer hbare
  rw [Frame.withParity] at hcarried
  split_ifs at hcarried with hslots
  cases hcarried
  exact ⟨wrong, rfl, Frame.markedAt_of_parityMismatches rfl (orBreach_eq_ok_iff.mp hwrong)⟩

/-- A session that is in charge of parity checks every frame it hears. -/
theorem exists_markedAt_of_hear {c : Config} {staging : Staging} {d : σ} {heard : Heard}
    (hc : c.hardwareParity = false) (h : (hear T c staging d).outcome = .ok heard) :
    ∃ wrong, heard.wrongParity = some wrong ∧ heard.frame.MarkedAt wrong := by
  simp only [hear, hc, Bool.false_eq_true, if_false] at h
  obtain ⟨bits, -, hheard⟩ := bind_eq_ok_iff.mp h
  exact exists_markedAt_of_heardWithParity hheard

/-- **Whatever a session hears is marked where its parity bits are wrong**, if it checks them. -/
theorem marked_of_hear {c : Config} {staging : Staging} {d : σ} {heard : Heard}
    (h : (hear T c staging d).outcome = .ok heard) : heard.Marked := by
  cases hc : c.hardwareParity with
  | true =>
    simp only [hear, hc, if_true] at h
    obtain ⟨bits, -, hplain⟩ := bind_eq_ok_iff.mp h
    obtain ⟨f, -, rfl⟩ := map_eq_ok_iff.mp hplain
    intro positions hpositions
    cases hpositions
  | false =>
    obtain ⟨wrong, hwrong, hmarked⟩ := exists_markedAt_of_hear hc h
    intro positions hpositions
    obtain rfl : wrong = positions := Option.mem_unique hwrong hpositions
    exact hmarked

/-- A round tells of the frame that was heard in it, and of no other. -/
theorem heard?_exchange (r : Responder) (c : Config) (staging : Staging) (d : σ) :
    (exchange T r c staging d).round.heard? = (hear T c staging d).outcome.toOption := by
  match hhear : hear T c staging d with
  | ⟨.error why, staging', d'⟩ => rw [exchange_silent hhear]; rfl
  | ⟨.ok heard, staging', d'⟩ =>
    cases hr : r.answer heard.frame with
    | none => rw [exchange_ignored hhear hr]; rfl
    | some reply =>
      match hsent : speak T c reply d' with
      | ⟨.error why, d''⟩ => rw [exchange_unsent hhear hr hsent]; rfl
      | ⟨.ok (), d''⟩ => rw [exchange_answered hhear hr hsent]; rfl

/-! ## What is logged -/

theorem Event.marked_verdict {positions : List Nat} {f : Frame} (h : f.MarkedAt positions) :
    (verdict positions f).Marked := by
  rw [verdict]
  split_ifs with hnone
  · rwa [hnone] at h
  · exact ⟨hnone, h⟩

/-- What is no verdict makes no claim. -/
theorem Event.marked_of_not_isVerdict {e : Event} (h : e.isVerdict = false) : e.Marked := by
  cases e with
  | parityWrong | parityRight => cases h
  | _ => trivial

theorem Round.parityEvents_eq (heard : Heard) :
    parityEvents heard = (heard.wrongParity.map (Event.verdict · heard.frame)).toList := by
  unfold parityEvents
  split <;> rename_i h <;> rw [h] <;> rfl

theorem Round.filter_isVerdict_inboundEvents (r : Responder) (quiet : Bool) (heard : Heard) :
    (inboundEvents r quiet heard).filter Event.isVerdict = parityEvents heard := by
  have hverdict : (parityEvents heard).filter Event.isVerdict = parityEvents heard := by
    unfold parityEvents
    split <;> rfl
  have hheard : (heardEvents quiet heard.frame).filter Event.isVerdict = [] := by
    unfold heardEvents
    split_ifs <;> rfl
  have hobjected : (((r.objection? heard.frame).map Event.objected).toList).filter Event.isVerdict
      = [] := by
    cases r.objection? heard.frame <;> rfl
  rw [inboundEvents, List.filter_append, List.filter_append, hverdict, hheard, hobjected,
    List.append_nil, List.append_nil]

/-- **A round has one verdict for the log**, on the frame heard in it if that was checked. -/
theorem Round.filter_isVerdict_events (r : Responder) (quiet : Bool) (round : Round) :
    (round.events r quiet).filter Event.isVerdict = round.heard?.elim [] parityEvents := by
  cases round with
  | silent why => rfl
  | ignored heard =>
    rw [events, List.filter_append, filter_isVerdict_inboundEvents]
    exact List.append_nil _
  | answered heard reply =>
    have hsaid : (saidEvents quiet reply).filter Event.isVerdict = [] := by
      unfold saidEvents
      split_ifs <;> rfl
    rw [events, List.filter_append, filter_isVerdict_inboundEvents, hsaid]
    exact List.append_nil _
  | unsent heard reply why => exact filter_isVerdict_inboundEvents r quiet heard

/-- Every verdict in the log says how its frame is marked. -/
def AllMarked (log : List Event) : Prop := ∀ e ∈ log, e.Marked

theorem AllMarked.append {log log' : List Event} (h : AllMarked log) (h' : AllMarked log') :
    AllMarked (log ++ log') := List.forall_mem_append.mpr ⟨h, h'⟩

/-- It is enough to look at the verdicts. -/
theorem AllMarked.of_filter {log : List Event} (h : AllMarked (log.filter Event.isVerdict)) :
    AllMarked log := by
  intro e he
  cases hverdict : e.isVerdict with
  | true => exact h e (List.mem_filter.mpr ⟨he, hverdict⟩)
  | false => exact Event.marked_of_not_isVerdict hverdict

/-- The verdicts of a round on any device are right. -/
theorem allMarked_exchange (r : Responder) (c : Config) (quiet : Bool) (staging : Staging) (d : σ) :
    AllMarked ((exchange T r c staging d).round.events r quiet) := by
  refine .of_filter ?_
  rw [Round.filter_isVerdict_events, heard?_exchange]
  cases hheard : (hear T c staging d).outcome with
  | error why => exact List.forall_mem_nil _
  | ok heard =>
    have hmarked := marked_of_hear hheard
    rw [Except.toOption, Option.elim_some, Round.parityEvents_eq]
    intro e he
    obtain ⟨wrong, hwrong, rfl⟩ := Option.map_eq_some_iff.mp (Option.mem_toList.mp he)
    exact Event.marked_verdict (hmarked wrong hwrong)

theorem Session.allMarked_poll (stopRaised : σ → Bool) (n : Nat) (s : Session σ)
    (staging : Staging) : AllMarked (s.poll T stopRaised n staging).events := by
  -- the flag and a failure log no verdict of their own, so those of the rounds are all there are
  refine poll_induct T stopRaised (motive := fun _ _ run => AllMarked run.events)
    ?_ ?_ ?_ ?_ n s staging
  · exact fun s _ => .of_filter (List.forall_mem_nil _)
  · exact fun s _ => List.forall_mem_nil _
  · rintro s staging x why - rfl -
    refine (allMarked_exchange _ _ _ _ _).append (.of_filter ?_)
    cases why <;> exact List.forall_mem_nil _
  · rintro s staging x xs run - rfl - ih
    exact (allMarked_exchange _ _ _ _ _).append ih

theorem Session.allMarked_call (s : Session σ) (call : Call σ) :
    AllMarked (s.call T call).events := by
  cases call with
  | step staging => exact allMarked_exchange _ _ _ _ _
  | run stopRaised rounds =>
    have hstarted : AllMarked [.started T.name] := .of_filter (List.forall_mem_nil _)
    exact hstarted.append (s.allMarked_poll stopRaised rounds Staging.zeroed)
  | change f => exact List.forall_mem_nil _

/-- So are those of whatever is done with a session, call after call. -/
theorem Session.allMarked_moments (calls : List (Call σ)) :
    ∀ s : Session σ, AllMarked ((s.moments T calls).flatMap Moment.events) := by
  induction calls with
  | nil => exact fun _ => List.forall_mem_nil _
  | cons call calls ih =>
    intro s
    rw [moments, List.flatMap_cons]
    exact (s.allMarked_call call).append (ih _)

/-- No verdict is given while a tag comes up. -/
theorem Tag.allMarked_bringUp (t : Tag) (d : σ) : AllMarked (t.bringUp T d).events := by
  intro e he
  obtain rfl | ⟨f, rfl⟩ | rfl := mem_events_bringUp he
  all_goals exact Event.marked_of_not_isVerdict rfl

/-- All that a tag logs: while it comes up, and with each call from then on. -/
def Tag.lifeLog (T : Transport σ) (t : Tag) (d : σ) (calls : List (Call σ)) : List Event :=
  (t.life T d calls).1.events ++ (t.life T d calls).2.flatMap Moment.events

/-- **Whatever is done with a tag, every verdict in its log is right.** -/
theorem Tag.allMarked_lifeLog (t : Tag) (d : σ) (calls : List (Call σ)) :
    AllMarked (t.lifeLog T d calls) := by
  refine (t.allMarked_bringUp d).append ?_
  rw [life]
  cases (t.bringUp T d).outcome with
  | error why => exact List.forall_mem_nil _
  | ok s => exact s.allMarked_moments calls

/-- **Who reads the marks of a parity warning reads its positions.**  A text with marks is the plain
text once its marks are blanks, and it has them behind the digits of each whole byte whose parity
bit is wrong or missing; if none is missing, the check of the parity bits finds the same bytes.  A
session that is in charge of parity gives one verdict on each frame it hears: a warning with the
positions at which the frame is marked, if there are any.  And whatever device a tag comes up on and
whatever is done with it, no warning in its log has other positions than those marked in the frame
that it shows. -/
theorem parity_warnings_name_the_marked_bytes :
    (∀ data bits parity,
      (Text.ofBitsParity data bits parity).toList.map Text.unmarked
          = (Text.ofBits data bits).toList ∧
        (∀ k, (Text.ofBitsParity data bits parity).toList[k]? = some '!'
          ↔ ∃ i, k = 4 * i + 2 ∧ WrongAt data bits parity i) ∧
        (bits ≤ 8 * data.length → bits / 8 ≤ parity.length →
          ∃ wrong, parityMismatches data bits parity = .ok wrong ∧
            (∀ i, i ∈ wrong ↔ WrongAt data bits parity i) ∧
            Text.Marks (Text.ofBitsParity data bits parity) wrong)) ∧
    ∀ {σ : Type} (T : Transport σ),
      (∀ (s : Session σ) staging heard, s.config.hardwareParity = false →
        (hear T s.config staging s.device).outcome = .ok heard →
        ∃ positions, heard.frame.MarkedAt positions ∧
          (s.step T staging).events.filter Event.isVerdict
            = [.verdict positions heard.frame]) ∧
      ∀ (t : Tag) d calls, ∀ e ∈ t.lifeLog T d calls, ∀ positions f,
        e = .parityWrong positions f →
          positions ≠ [] ∧ f.MarkedAt positions ∧
            e.message
              = "parity error in byte(s) " ++ Event.positionsText positions ++ ": " ++ f.text := by
  refine ⟨fun data bits parity => ⟨Text.map_unmarked_ofBitsParity data bits parity,
    Text.mark_ofBitsParity_iff data bits parity, fun hbits hslots => ?_⟩,
    fun T => ⟨fun s staging heard hc hheard => ?_, ?_⟩⟩
  · obtain ⟨wrong, hwrong⟩ := exists_parityMismatches hbits hslots
    exact ⟨wrong, hwrong, (of_parityMismatches hwrong).2, Text.marks_of_parityMismatches hwrong⟩
  · obtain ⟨positions, hpositions, hmarked⟩ := exists_markedAt_of_hear hc hheard
    refine ⟨positions, hmarked, (Round.filter_isVerdict_events ..).trans ?_⟩
    rw [heard?_exchange, hheard, Except.toOption, Option.elim_some, Round.parityEvents_eq,
      hpositions]
    rfl
  · rintro t d calls e he positions f rfl
    obtain ⟨hsome, hmarked⟩ := t.allMarked_lifeLog d calls _ he
    exact ⟨hsome, hmarked, rfl⟩

/-- A tag is woken up, and the next frame it hears has a wrong parity bit behind its second byte. -/
theorem parity_warnings_name_the_marked_bytes_of_two_frames :
    let data : List UInt8 := [0x93, 0x20]
    let parity : List UInt8 := [1, 1]
    let t := Tag.ofConfig default { (default : Config) with hardwareParity := false }
    let d : Bench := { inbound := [.delivers [0x52] [] 7, .delivers data parity 16] }
    let up : Session Bench := { t with stats := .zero, device := { inbound := d.inbound.tail } }
    let f : Frame := ⟨data, 16, some parity, rfl, by rintro p ⟨⟩; decide⟩
    (∃ wrong, parityMismatches data 16 parity = .ok wrong ∧ wrong = [1] ∧
        (∀ i, i ∈ wrong ↔ WrongAt data 16 parity i) ∧
        Text.Marks (Text.ofBitsParity data 16 parity) wrong) ∧
      (∃ positions, f.MarkedAt positions ∧
        (up.step Bench.full .zeroed).events.filter Event.isVerdict = [.verdict positions f]) ∧
      Event.parityWrong [1] f ∈ t.lifeLog Bench.full d [.step .zeroed] ∧
      (Event.parityWrong [1] f).message = "parity error in byte(s) [1]: 93  20! " ∧
      f.MarkedAt [1] := by
  intro data parity t d up f
  obtain ⟨htexts, hsessions⟩ := parity_warnings_name_the_marked_bytes
  obtain ⟨-, -, hchecked⟩ := htexts data 16 parity
  obtain ⟨wrong, hwrong, hmem, hmarks⟩ := hchecked (by decide) (by decide)
  have hone : parityMismatches data 16 parity = .ok [1] := by decide
  obtain ⟨hstep, hlife⟩ := hsessions Bench.full
  have hheard : (hear Bench.full up.config .zeroed up.device).outcome = .ok ⟨f, some [1]⟩ := by
    decide +kernel
  have hlogged : Event.parityWrong [1] f ∈ t.lifeLog Bench.full d [.step .zeroed] := by
    decide +kernel
  obtain ⟨-, hmarked, hmessage⟩ := hlife t d [.step .zeroed] _ hlogged [1] f rfl
  have hline : "parity error in byte(s) " ++ Event.positionsText [1] ++ ": " ++ f.text
      = "parity error in byte(s) [1]: 93  20! " := by decide +kernel
  exact ⟨⟨wrong, hwrong, Except.ok.inj (hwrong.symm.trans hone), hmem, hmarks⟩,
    hstep up .zeroed _ rfl hheard, hlogged, hmessage.trans hline, hmarked⟩

end TagEmulation
