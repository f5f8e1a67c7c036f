import TagEmulation.Proofs.Frame.Text
import TagEmulation.Proofs.Script.Beside
import TagEmulation.Proofs.Script.Ledger

/-!
# Proofs/Session/Handouts — every frame that is handed out was made

Commands and answers are written into frames, a scripted device keeps what it is given to send as
frames, and a session cuts the frames it hears out of its buffers.  Each of these frames is made by
a chain of calls that can be named (`Command.making`, `Response.making`, `Act.making?`,
`Config.cutting`).  So what each of them stores fits (`Making.fits_of_draft`), and whoever takes a
frame apart by its number of bits finds the bytes and the parity bits there.
-/

namespace TagEmulation

/-! ## Commands and answers -/

/-- How the frame of a command is made. -/
def Command.making : Command → Making
  | .reqa => .short reqaCode
  | .wupa => .short wupaCode
  | .anticollision => .ofBytes [levelOneCode, noUidBits]
  | .select uid => .ofBytes (selectBytes uid)

theorem Command.frame_making (c : Command) : c.making.frame = .ok c.encode := by
  cases c <;> rfl

/-- How the frame of an answer is made. -/
def Response.making : Response → Making
  | .atqa value => .ofBytes value.bytes
  | .uid value => .ofBytes value.checked
  | .sak value => .ofBytes value.checked

theorem Response.frame_making (r : Response) : r.making.frame = .ok r.encode := by
  cases r <;> rfl

/-! ## Frames kept by a scripted device -/

/-- How the frame of a send is made. -/
def Act.making? : Act → Option Making
  | .transmit tx bits => some (.cutOut tx bits none)
  | .transmitWithParity tx bits parity => some (.cutOut tx bits (some parity))
  | _ => none

theorem frame_of_mem_ofSend {m : Making} {outcome : Except Failure Unit} {f : Frame}
    (hf : f ∈ (Books.ofSend m outcome).recorded) : m.frame = .ok f := by
  unfold Books.ofSend at hf
  split at hf
  · cases hmade : m.frame with
    | ok g =>
      rw [hmade] at hf
      rw [List.mem_singleton.mp hf]
    | error fault =>
      rw [hmade] at hf
      exact absurd hf List.not_mem_nil
  · exact absurd hf List.not_mem_nil
  · exact absurd hf List.not_mem_nil

/-- A call keeps no frame but the one it sends. -/
theorem Entry.exists_making {e : Entry} {f : Frame} (hf : f ∈ e.books.recorded) :
    ∃ m ∈ e.act.making?, m.frame = .ok f := by
  obtain ⟨s, act, reply, s'⟩ := e
  cases act with
  | transmit tx bits =>
    cases reply with
    | acknowledged outcome => exact ⟨_, rfl, frame_of_mem_ofSend hf⟩
    | nothing | received | popped => exact absurd hf List.not_mem_nil
  | transmitWithParity tx bits parity =>
    cases reply with
    | acknowledged outcome => exact ⟨_, rfl, frame_of_mem_ofSend hf⟩
    | nothing | received | popped => exact absurd hf List.not_mem_nil
  | popSent => cases reply <;> exact absurd hf List.not_mem_nil
  | push | receive | receiveWithParity | becomeTarget | configure | failSends =>
    exact absurd hf List.not_mem_nil

theorem mem_recorded_booksOf {h : List Entry} {f : Frame} (hf : f ∈ (booksOf h).recorded) :
    ∃ e ∈ h, f ∈ e.books.recorded := by
  induction h with
  | nil => exact absurd hf List.not_mem_nil
  | cons e h ih =>
    rcases List.mem_append.mp hf with hf | hf
    · exact ⟨e, List.mem_cons_self, hf⟩
    · obtain ⟨e', he', hf'⟩ := ih hf
      exact ⟨e', List.mem_cons_of_mem e he', hf'⟩

namespace Script

variable {name : String} {acts : List Act}

theorem act_mem_of_mem_history :
    ∀ {s : Script} {e : Entry}, e ∈ s.history name acts → e.act ∈ acts := by
  induction acts with
  | nil => exact fun he => absurd he List.not_mem_nil
  | cons act acts ih =>
    intro s e he
    rcases List.mem_cons.mp he with rfl | he
    · exact List.mem_cons_self
    · exact List.mem_cons_of_mem act (ih he)

/-- **What a scripted device keeps was made by a send**, or was there before. -/
theorem mem_sent_closing {s : Script} {f : Frame} (hf : f ∈ (s.closing name acts).sent) :
    f ∈ s.sent ∨ ∃ act ∈ acts, ∃ m ∈ act.making?, m.frame = .ok f := by
  have hbooks := (balanced_history name acts s).frames
  have hin : f ∈ s.sent ++ (booksOf (s.history name acts)).recorded :=
    hbooks.subset (List.mem_append_right _ hf)
  refine (List.mem_append.mp hin).imp_right fun hrecorded => ?_
  obtain ⟨e, he, hf⟩ := mem_recorded_booksOf hrecorded
  exact ⟨e.act, act_mem_of_mem_history he, Entry.exists_making hf⟩

end Script

/-! ## Frames heard -/

/-- How a frame heard is made of what the device leaves in the buffers, given the number of bits it
reports. -/
def Config.cutting (c : Config) (staging : Staging) (bits : Nat) : Making :=
  .cutOut staging.data.bytes bits
    (if c.hardwareParity then none else some (staging.parity.bytes.take (bits / 8)))

theorem frame_of_heardPlain {data : List UInt8} {bits : Nat} {heard : Heard}
    (h : heardPlain data bits = .ok heard) :
    (Making.cutOut data bits none).frame = .ok heard.frame := by
  obtain ⟨f, hf, rfl⟩ := map_eq_ok_iff.mp h
  exact orFault_eq_ok_iff.mp hf

theorem frame_of_heardWithParity {data parity : List UInt8} {bits : Nat} {heard : Heard}
    (h : heardWithParity data parity bits = .ok heard) :
    (Making.cutOut data bits (some (parity.take (bits / 8)))).frame = .ok heard.frame := by
  obtain ⟨f, hf, hchecked⟩ := bind_eq_ok_iff.mp h
  obtain ⟨wrong, -, rfl⟩ := map_eq_ok_iff.mp hchecked
  exact orFault_eq_ok_iff.mp hf

/-- **What a session hears is cut out of its buffers**, whatever the device. -/
theorem exists_cutting_of_hear {σ : Type} {T : Transport σ} {c : Config} {staging : Staging} {d : σ}
    {heard : Heard} (h : (hear T c staging d).outcome = .ok heard) :
    ∃ bits, (c.cutting (hear T c staging d).staging bits).frame = .ok heard.frame := by
  cases hc : c.hardwareParity with
  | true =>
    simp only [hear, hc, if_true] at h ⊢
    obtain ⟨bits, -, hplain⟩ := bind_eq_ok_iff.mp h
    refine ⟨bits, ?_⟩
    rw [Config.cutting, hc]
    exact frame_of_heardPlain hplain
  | false =>
    simp only [hear, hc, Bool.false_eq_true, if_false] at h ⊢
    obtain ⟨bits, -, hparity⟩ := bind_eq_ok_iff.mp h
    refine ⟨bits, ?_⟩
    rw [Config.cutting, hc]
    exact frame_of_heardWithParity hparity

/-! ## Every frame -/

/-- **Every frame is made to fit.**  A making comes to the same with the proofs that a frame carries
and without them; without them, too, it comes to nothing but what fits: the bytes are those the bits
touch, and of parity bits there is at least one for each whole byte, and just one if they are the
right ones.  So in every frame the whole bytes and the bits lie in the bytes, and its text marks a
byte exactly if its parity bit is there and wrong.  Commands, answers, the frames a scripted device
keeps of any calls and the frames a session hears of any device are all made so. -/
theorem every_frame_is_made_to_fit :
    (∀ m : Making, m.frame.map Frame.draft = m.draft) ∧
    (∀ d : Draft, (∃ m : Making, m.draft = .ok d) ↔ d.Fits) ∧
    (∀ (m : Making) d, m.withRightParity.draft = .ok d →
      ∃ p, d.parity = some p ∧ p.length = d.bits / 8) ∧
    (∀ f : Frame, f.wholeBytes ≤ f.byteCount ∧ f.bits ≤ 8 * f.byteCount ∧
      f.text = String.ofList f.spelling) ∧
    (∀ c : Command, c.making.frame = .ok c.encode) ∧
    (∀ r : Response, r.making.frame = .ok r.encode) ∧
    (∀ (r : Responder) f reply, r.answer f = some reply →
      ∃ response : Response, response.making.frame = .ok reply) ∧
    (∀ name (s : Script) acts, ∀ f ∈ (s.closing name acts).sent,
      f ∈ s.sent ∨ ∃ act ∈ acts, ∃ m ∈ act.making?, m.frame = .ok f) ∧
    ∀ {σ : Type} (T : Transport σ) c staging d heard,
      (hear T c staging d).outcome = .ok heard →
        ∃ bits, (c.cutting (hear T c staging d).staging bits).frame = .ok heard.frame := by
  refine ⟨Making.map_draft, Making.exists_draft_iff, fun m d => Making.length_of_withRightParity,
    fun f => ⟨f.wholeBytes_le_length, f.bits_le_length, f.text_eq_spelling⟩, Command.frame_making,
    Response.frame_making, fun r f reply hr => ?_, fun name s acts f => Script.mem_sent_closing,
    fun T c staging d heard => exists_cutting_of_hear⟩
  obtain ⟨response, rfl⟩ := Script.exists_encode_of_answer hr
  exact ⟨response, response.frame_making⟩

/-- Twelve bits of three bytes, the answer to a request, that answer sent by a scripted device, and
a frame heard that carries a wrong parity bit. -/
theorem every_frame_is_made_to_fit_on_a_script :
    let twelve : Making := .withRightParity (.ofBuffer [0x93, 0x27, 0xff] 12)
    let d : Draft := ⟨[0x93, 0x27], 12, some [1]⟩
    let tag : Responder := default
    let atqa := (Response.atqa tag.identity.atqa).encode
    let script : Script := Script.ofFrames [⟨[0x26], 8, some [1], rfl, by rintro p ⟨⟩; decide⟩]
    let acts : List Act := [.transmit atqa.bytes atqa.bits]
    let c : Config := { (default : Config) with hardwareParity := false }
    let hearing := hear (Script.transport Script.ownedName) c Staging.zeroed script
    twelve.draft = .ok d ∧ d.Fits ∧ (∃ p, d.parity = some p ∧ p.length = d.bits / 8) ∧
      tag.answer Command.reqa.encode = some atqa ∧
      (∃ response : Response, response.making.frame = .ok atqa) ∧
      atqa ∈ (script.closing Script.ownedName acts).sent ∧
      (∃ act ∈ acts, ∃ m ∈ act.making?, m.frame = .ok atqa) ∧
      ∃ heard, hearing.outcome = .ok heard ∧ heard.wrongParity = some [0] ∧
        ∃ bits, (c.cutting hearing.staging bits).frame = .ok heard.frame := by
  intro twelve d tag atqa script acts c hearing
  obtain ⟨-, hfits, hparity, -, -, -, hanswer, hsent, hheard⟩ := every_frame_is_made_to_fit
  have hdraft : twelve.draft = .ok d := by decide
  have hreply : tag.answer Command.reqa.encode = some atqa := rfl
  have hkept : atqa ∈ (script.closing Script.ownedName acts).sent := by decide
  have hnew : atqa ∉ script.sent := List.not_mem_nil
  obtain ⟨staging, hhear⟩ := Script.hear_frame Script.ownedName c (s := script) rfl (by decide)
    Staging.zeroed
  have houtcome : hearing.outcome = .ok (c.heard _) := congrArg Hearing.outcome hhear
  exact ⟨hdraft, (hfits d).mp ⟨twelve, hdraft⟩, hparity _ d hdraft, hreply, hanswer _ _ _ hreply,
    hkept, (hsent _ script acts atqa hkept).resolve_left hnew, _, houtcome, by decide,
    hheard _ c _ script _ houtcome⟩

end TagEmulation
