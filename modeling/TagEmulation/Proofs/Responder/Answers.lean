import TagEmulation.Proofs.Codec.Response
import TagEmulation.Session.Rehearsal

/-!
# Proofs/Responder/Answers — what a tag answers, and what its reader makes of it

A tag tells frames apart by their length, a reader checks everything.  Still the two agree: a tag
answers a command with what the command asks for (`answers_what_was_asked`).  Strictness comes in at
one place, the frames that a strict tag turns down (`Responder.Refuses`): of those as long as
SELECT, all but the one that names the tag (`strict_answers_own_select`).
-/

namespace TagEmulation

/-! ## Commands and what they are owed -/

namespace Command

/-- The kind of frame that the command is sent in. -/
def kind : Command → FrameKind
  | .reqa | .wupa => .request
  | .anticollision => .anticollision
  | .select _ => .select

/-- The command is the SELECT of a tag with a different UID. -/
def NamesOther (c : Command) (uid : Uid) : Prop := ∃ other, c = .select other ∧ other ≠ uid

theorem bits_encode_eq_select_iff {c : Command} :
    c.encode.bits = selectBits ↔ ∃ uid, c = .select uid := by
  cases c with
  | select uid => exact ⟨fun _ => ⟨uid, rfl⟩, fun _ => rfl⟩
  | reqa | wupa | anticollision => exact ⟨nofun, nofun⟩

/-- Who selects a tag names no other. -/
theorem not_namesOther_of_mem_selection {c : Command} {uid : Uid} (h : c ∈ selection uid) :
    ¬ c.NamesOther uid := by
  rintro ⟨other, rfl, hother⟩
  simp [selection, hother] at h

end Command

namespace Identity

/-- What a tag of this identity owes to the command. -/
def response (i : Identity) : Command → Response
  | .reqa | .wupa => .atqa i.atqa
  | .anticollision => .uid i.uid
  | .select _ => .sak i.sak

theorem asks_response (i : Identity) (c : Command) : c.Asks (i.response c) := by
  cases c <;> constructor

theorem bits_response (i : Identity) (c : Command) :
    (i.response c).encode.bits = c.kind.replyBits := by
  cases c <;> rfl

end Identity

namespace FrameKind

theorem ofBits_encode (c : Command) : ofBits c.encode.bits = c.kind := by
  cases c <;> rfl

theorem ofBits_eq_select_iff {bits : Nat} : ofBits bits = .select ↔ bits = Command.selectBits := by
  constructor
  · intro h
    unfold ofBits at h
    split_ifs at h with _ _ hselect
    exact hselect
  · rintro rfl
    rfl

theorem ofBits_of_other {bits : Nat} (hrequest : bits ≠ Command.requestBits)
    (hanticollision : bits ≠ Command.anticollisionBits) (hselect : bits ≠ Command.selectBits) :
    ofBits bits = .unknown := by
  rw [ofBits, if_neg hrequest, if_neg hanticollision, if_neg hselect]

theorem ofBits_eq_unknown_iff {bits : Nat} : ofBits bits = .unknown ↔ bits ∉ [7, 16, 72] := by
  constructor
  · intro h hbits
    simp only [List.mem_cons, List.not_mem_nil, or_false] at hbits
    rcases hbits with rfl | rfl | rfl <;> cases h
  · intro h
    simp only [List.mem_cons, List.not_mem_nil, or_false, not_or] at h
    exact ofBits_of_other h.1 h.2.1 h.2.2

end FrameKind

namespace Responder

variable {r : Responder} {f : Frame} {c : Command}

/-! ## Frames that are turned down -/

/-- The tag turns the frame down: it is strict, and the frame is as long as SELECT without being the
SELECT that names the tag. -/
def Refuses (r : Responder) (f : Frame) : Prop :=
  r.strict ∧ f.bits = Command.selectBits ∧ ¬ f.SameBits (Command.select r.identity.uid).encode

theorem isSelectedBy_iff :
    r.isSelectedBy f = true ↔ f.SameBits (Command.select r.identity.uid).encode := by
  rw [← Command.decodeSelect_eq_ok_iff, isSelectedBy]
  cases Command.decodeSelect f with
  | ok uid => rw [beq_iff_eq, Except.ok.injEq]
  | error fault => exact ⟨nofun, nofun⟩

theorem answer_of_refuses (h : r.Refuses f) : r.answer f = none := by
  obtain ⟨hstrict, hbits, hother⟩ := h
  rw [← isSelectedBy_iff, Bool.not_eq_true, ← Bool.not_eq_true'] at hother
  exact if_pos ⟨FrameKind.ofBits_eq_select_iff.mpr hbits, hstrict, hother⟩

/-- **What is not turned down is answered by its length alone.** -/
theorem answer_of_not_refuses (h : ¬ r.Refuses f) :
    r.answer f = r.reply? (FrameKind.ofBits f.bits) := by
  refine if_neg fun ⟨hkind, hstrict, hother⟩ => h ⟨hstrict, ?_, ?_⟩
  · exact FrameKind.ofBits_eq_select_iff.mp hkind
  · rwa [← isSelectedBy_iff, Bool.not_eq_true, ← Bool.not_eq_true']

theorem reply?_eq_none_iff {kind : FrameKind} : r.reply? kind = none ↔ kind = .unknown := by
  cases kind <;> simp [reply?, response?]

theorem not_refuses_of_lenient (h : r.strict = false) : ¬ r.Refuses f := by
  rintro ⟨hstrict, -⟩
  exact absurd (hstrict.symm.trans h) nofun

/-- A tag that is not strict answers a frame exactly if some command is as long. -/
theorem answer_eq_none_iff_of_lenient (h : r.strict = false) :
    r.answer f = none ↔ f.bits ∉ [7, 16, 72] := by
  rw [answer_of_not_refuses (not_refuses_of_lenient h), reply?_eq_none_iff,
    FrameKind.ofBits_eq_unknown_iff]

/-- **A strict tag answers, of the frames as long as SELECT, exactly the one that names it**, with
SAK and its CRC_A, low byte first; and all other frames as if it were not strict.  So strictness
takes answers away, but never the one to the right SELECT. -/
theorem strict_answers_own_select (identity : Identity) (f : Frame) :
    let strict : Responder := ⟨identity, true⟩
    let lenient : Responder := ⟨identity, false⟩
    (f.bits ≠ 72 → strict.answer f = lenient.answer f) ∧
    (f.bits = 72 → strict.answer f =
      if f.bytes = (Command.select identity.uid).encode.bytes then
        let sak := identity.sak.value
        some (.ofBytes [sak, (crcA [sak]).toUInt8, (crcA [sak] >>> 8).toUInt8])
      else none) ∧
    (∀ reply, strict.answer f = some reply → lenient.answer f = some reply) ∧
    (Command.decode f = .ok (.select identity.uid) → strict.answer f = lenient.answer f) := by
  intro strict lenient
  have hkept (h : ¬ strict.Refuses f) : strict.answer f = lenient.answer f := by
    rw [answer_of_not_refuses h, answer_of_not_refuses (not_refuses_of_lenient rfl)]
    rfl
  refine ⟨fun hbits => hkept fun h => hbits h.2.1, fun hbits => ?_, fun reply hreply => ?_,
    fun hread => hkept fun h => h.2.2 (Command.decode_eq_ok_iff.mp hread)⟩
  · split_ifs with hbytes
    · have hnamed : ¬ strict.Refuses f := fun h =>
        h.2.2 (Command.sameBits_select_iff.mpr ⟨hbits, hbytes⟩)
      rw [answer_of_not_refuses hnamed, hbits]
      rfl
    · exact answer_of_refuses ⟨rfl, hbits, fun h => hbytes (Command.sameBits_select_iff.mp h).2⟩
  · by_cases h : strict.Refuses f
    · rw [answer_of_refuses h] at hreply
      cases hreply
    · rw [← hkept h, hreply]

/-- Nine bytes of zeros get an answer from a tag that goes by length, and none from a strict one. -/
example : ((⟨default, false⟩ : Responder).answer (.ofBytes (List.replicate 9 0))).isSome ∧
    (⟨default, true⟩ : Responder).answer (.ofBytes (List.replicate 9 0)) = none := by
  decide

/-! ## Answers to commands -/

/-- A frame that carries a command is turned down exactly if it selects another tag. -/
theorem refuses_iff_of_decode (h : Command.decode f = .ok c) :
    r.Refuses f ↔ r.strict ∧ c.NamesOther r.identity.uid := by
  have hbits : f.bits = c.encode.bits := (Command.decode_eq_ok_iff.mp h).1
  rw [Refuses, ← Command.decode_eq_ok_iff, h, Except.ok.injEq, hbits,
    Command.bits_encode_eq_select_iff, Command.NamesOther]
  refine and_congr_right fun _ => ⟨?_, ?_⟩
  · rintro ⟨⟨uid, rfl⟩, hother⟩
    exact ⟨uid, rfl, fun huid => hother (congrArg _ huid)⟩
  · rintro ⟨uid, rfl, hother⟩
    exact ⟨⟨uid, rfl⟩, fun huid => hother (Command.select.inj huid)⟩

/-- The tag has the answer it owes to a command ready for the kind of its frame. -/
theorem reply?_kind (r : Responder) (c : Command) :
    r.reply? c.kind = some (r.identity.response c).encode := by
  cases c <;> rfl

/-- **A command that names no other tag gets the answer it is owed.** -/
theorem answer_of_decode (h : Command.decode f = .ok c)
    (hown : ¬ (r.strict ∧ c.NamesOther r.identity.uid)) :
    r.answer f = some (r.identity.response c).encode := by
  have hbits : f.bits = c.encode.bits := (Command.decode_eq_ok_iff.mp h).1
  rw [answer_of_not_refuses (mt (refuses_iff_of_decode h).mp hown), hbits, FrameKind.ofBits_encode,
    reply?_kind]

theorem map_answer_selectionFrames (r : Responder) :
    (selectionFrames r.identity.uid).map r.answer
      = (Command.selection r.identity.uid).map fun c => some (r.identity.response c).encode := by
  rw [selectionFrames, List.map_map]
  refine List.map_congr_left fun c hc => ?_
  exact answer_of_decode (Command.decode_encode c)
    fun h => Command.not_namesOther_of_mem_selection hc h.2

/-- A frame of a length that no command has gets no answer. -/
theorem answer_of_other (hrequest : f.bits ≠ Command.requestBits)
    (hanticollision : f.bits ≠ Command.anticollisionBits) (hselect : f.bits ≠ Command.selectBits) :
    r.answer f = none := by
  rw [answer_of_not_refuses fun h => hselect h.2.1,
    FrameKind.ofBits_of_other hrequest hanticollision hselect]
  rfl

/-- **A tag that goes by length is right for a reader that checks everything.**  Who sends a command
reads from the answer what the command asks for, as the tag's identity has it; only a strict tag
keeps silent, to the SELECT of another.  What is as long as no command is neither read as one nor
answered.  So a reader that selects a tag learns its whole identity. -/
theorem answers_what_was_asked (r : Responder) (f : Frame) :
    (∀ c, Command.decode f = .ok c →
      (r.strict ∧ c.NamesOther r.identity.uid → r.answer f = none) ∧
      (¬ (r.strict ∧ c.NamesOther r.identity.uid) →
        ∃ reply, r.answer f = some reply ∧
          Response.decode c reply = .ok (r.identity.response c) ∧
          reply.bits = (FrameKind.ofBits f.bits).replyBits)) ∧
    (f.bits ≠ 7 → f.bits ≠ 16 → f.bits ≠ 72 →
      Command.decode f = .error (.badFrame (.noSuchCommand f.bits)) ∧
      FrameKind.ofBits f.bits = .unknown ∧ r.answer f = none) ∧
    ∃ first second third,
      (selectionFrames r.identity.uid).map r.answer = [some first, some second, some third] ∧
      Response.decode .reqa first = .ok (.atqa r.identity.atqa) ∧
      Response.decode .anticollision second = .ok (.uid r.identity.uid) ∧
      Response.decode (.select r.identity.uid) third = .ok (.sak r.identity.sak) := by
  have hread (c : Command) :
      Response.decode c (r.identity.response c).encode = .ok (r.identity.response c) :=
    Response.decode_encode_of_asks (r.identity.asks_response c)
  refine ⟨fun c h => ⟨fun hother => ?_, fun hown => ?_⟩, fun hrequest hanticollision hselect => ?_,
    _, _, _, r.map_answer_selectionFrames, hread .reqa, hread .anticollision, hread (.select _)⟩
  · exact answer_of_refuses ((refuses_iff_of_decode h).mpr hother)
  · refine ⟨_, answer_of_decode h hown, hread c, ?_⟩
    rw [(Command.decode_eq_ok_iff.mp h).1, FrameKind.ofBits_encode, Identity.bits_response]
  · exact ⟨Command.decode_of_other hrequest hanticollision hselect,
      FrameKind.ofBits_of_other hrequest hanticollision hselect,
      answer_of_other hrequest hanticollision hselect⟩

end Responder

end TagEmulation
