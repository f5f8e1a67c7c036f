import TagEmulation.Proofs.Codec.Offsets
import TagEmulation.Proofs.Session.Tap

/-!
# Proofs/Session/Checked — a session that is held to every contract

A session cuts bytes out of its buffers, reads bytes at offsets and hands bit counts on, and
`List.take` lets it: past the end there is less, and no breach.  `Checked` is the same session, line
by line, with nothing let pass: a cut (`cut`) must end within the bytes, and a breach, its own or
the device's, takes down whoever asked (`escalate`).  Not one check can fail, whatever is reported
(`Checked.hear_eq`, `Checked.answer_eq`, `Checked.speak_eq`), unless the device breaks a contract.
-/

namespace TagEmulation

variable {σ α β : Type}

/-! ## Results and faults -/

/-- The operation came to a result or to a fault: no contract was broken. -/
def Unbroken (outcome : Except Failure α) : Prop := ∃ result, outcome = orFault result

namespace Unbroken

theorem ok (a : α) : Unbroken (.ok a) := ⟨.ok a, rfl⟩

theorem fault (cause : Fault) : Unbroken (.error (.fault cause) : Except Failure α) :=
  ⟨.error cause, rfl⟩

theorem bind {outcome : Except Failure α} {next : α → Except Failure β} (h : Unbroken outcome)
    (hnext : ∀ a, Unbroken (next a)) : Unbroken (outcome.bind next) := by
  obtain ⟨result, rfl⟩ := h
  cases result with
  | error cause => exact fault cause
  | ok a => exact hnext a

theorem reception {outcome : Except Failure Nat} (h : Unbroken outcome) (capacity : Nat) :
    Unbroken (reception capacity outcome) := by
  refine h.bind fun bits => ?_
  split
  · exact ok bits
  · exact fault (.tooManyBits bits capacity)

/-- What failed, failed by a fault. -/
theorem exists_fault {why : Failure} (h : Unbroken (.error why : Except Failure α)) :
    ∃ cause, why = .fault cause := by
  obtain ⟨result, hresult⟩ := h
  cases result with
  | error cause => exact ⟨cause, Except.error.inj hresult⟩
  | ok a => cases hresult

/-- A failure is no worse where it is passed on. -/
theorem passed_on {why : Failure} (h : Unbroken (.error why : Except Failure α)) :
    Unbroken (.error why : Except Failure β) := by
  obtain ⟨cause, rfl⟩ := h.exists_fault
  exact fault cause

theorem of_map {outcome : Except Failure α} {g : α → β} (h : Unbroken (outcome.map g)) :
    Unbroken outcome := by
  cases outcome with
  | ok a => exact ok a
  | error why => exact passed_on (β := α) h

end Unbroken

/-- A breach takes down whoever asked. -/
def escalate (outcome : Except Failure α) : Except Breach Unit :=
  match outcome with
  | .error (.breach breach) => .error breach
  | _ => .ok ()

theorem escalate_of_unbroken {outcome : Except Failure α} (h : Unbroken outcome) :
    escalate outcome = .ok () := by
  obtain ⟨result, rfl⟩ := h
  cases result <;> rfl

namespace Checked

/-! ## Cuts -/

/-- The bytes before a position, which must not lie behind the last byte. -/
def cut (data : List UInt8) (stop : Nat) : Except Breach (List UInt8) :=
  if stop ≤ data.length then .ok (data.take stop) else .error (.indexPastBytes data.length stop)

theorem cut_of_le {data : List UInt8} {stop : Nat} (h : stop ≤ data.length) :
    cut data stop = .ok (data.take stop) := if_pos h

/-- A position that is held back to the end of the bytes is never too far. -/
theorem cut_min (data : List UInt8) (stop : Nat) :
    cut data (min stop data.length) = .ok (data.take stop) := by
  rw [cut_of_le (Nat.min_le_right ..), ← List.take_eq_take_min]

/-! ## Hearing -/

/-- `Frame.ofBuffer`, its cut checked. -/
def ofBuffer (buffer : List UInt8) (bits : Nat) : Except Failure Frame :=
  if bytesFor bits ≤ buffer.length then do
    let used ← orBreach (cut buffer (bytesFor bits))
    orFault (Frame.ofBits used bits)
  else .error (.fault (.tooManyBits bits buffer.length))

theorem ofBuffer_eq (buffer : List UInt8) (bits : Nat) :
    ofBuffer buffer bits = orFault (Frame.ofBuffer buffer bits) := by
  rw [ofBuffer, Frame.ofBuffer]
  split
  · next h =>
    rw [cut_of_le h]
    rfl
  · rfl

/-- `parityMismatches`, its contracts and its cuts checked. -/
def mismatches (data : List UInt8) (bits : Nat) (parity : List UInt8) : Except Breach (List Nat) :=
  if 8 * data.length < bits then .error (.bitsPastBytes bits data.length)
  else if parity.length < bits / 8 then .error (.parityTooShort parity.length (bits / 8))
  else do
    let whole ← cut data (bits / 8)
    let slots ← cut parity (bits / 8)
    return (List.range (bits / 8)).filter fun i => whole[i]?.map parityBit != slots[i]?

/-- Where the contracts are kept, there is something to cut. -/
theorem mismatches_eq (data : List UInt8) (bits : Nat) (parity : List UInt8) :
    mismatches data bits parity = parityMismatches data bits parity := by
  rw [mismatches, parityMismatches]
  split
  · rfl
  · next hbits =>
    split
    · rfl
    · next hslots =>
      have hwhole : bits / 8 ≤ data.length := by omega
      rw [cut_of_le hwhole, cut_of_le (not_lt.mp hslots)]
      refine congrArg Except.ok (List.filter_congr fun i hi => ?_)
      have hlt : i < bits / 8 := List.mem_range.mp hi
      rw [List.getElem?_take_of_lt hlt, List.getElem?_take_of_lt hlt]

/-- `heardPlain`, checked. -/
def heardPlain (data : List UInt8) (bits : Nat) : Except Failure Heard := do
  let f ← ofBuffer data bits
  return ⟨f, none⟩

theorem heardPlain_eq (data : List UInt8) (bits : Nat) :
    heardPlain data bits = TagEmulation.heardPlain data bits := by
  rw [heardPlain, ofBuffer_eq, TagEmulation.heardPlain]
  cases Frame.ofBuffer data bits <;> rfl

/-- `heardWithParity`, checked.  The parity bits are cut out of all slots there are, so the number
of whole bytes is held back to that. -/
def heardWithParity (data parity : List UInt8) (bits : Nat) : Except Failure Heard := do
  let f ← ofBuffer data bits
  let received ← orBreach (cut parity (min (bits / 8) stagingSize))
  let f ← orFault (f.withParity received)
  let wrong ← orBreach (mismatches f.bytes bits received)
  return ⟨f, some wrong⟩

theorem heardWithParity_eq (data : List UInt8) {parity : List UInt8}
    (hslots : parity.length = stagingSize) (bits : Nat) :
    heardWithParity data parity bits = TagEmulation.heardWithParity data parity bits := by
  rw [heardWithParity, ofBuffer_eq, TagEmulation.heardWithParity, ← hslots, cut_min]
  cases Frame.ofBuffer data bits with
  | error cause => rfl
  | ok f =>
    change (orFault (f.withParity _) >>= _) = (orFault (f.withParity _)).bind _
    cases f.withParity (parity.take (bits / 8)) with
    | error cause => rfl
    | ok f =>
      change (orBreach (mismatches ..) >>= _) = (orBreach (parityMismatches ..)).map _
      rw [mismatches_eq]
      cases parityMismatches f.bytes bits (parity.take (bits / 8)) <;> rfl

/-- `hear`, checked. -/
def hear (T : Transport σ) (config : Config) (staging : Staging) (device : σ) :
    Except Breach (Hearing σ) :=
  if config.hardwareParity then do
    let r := T.receive staging.data (some config.pollMillis) device
    let outcome := r.outcome.bind (heardPlain r.rx.bytes)
    escalate outcome
    return ⟨outcome, { staging with data := r.rx }, r.device⟩
  else do
    let r := T.receiveWithParity staging.data staging.parity (some config.pollMillis) device
    let outcome := r.outcome.bind (heardWithParity r.rx.bytes r.parity.bytes)
    escalate outcome
    return ⟨outcome, ⟨r.rx, r.parity⟩, r.device⟩

/-- A session hears as the checked one does, if it hears without a breach. -/
theorem hear_eq {T : Transport σ} {config : Config} {staging : Staging} {device : σ}
    (h : Unbroken (TagEmulation.hear T config staging device).outcome) :
    hear T config staging device = .ok (TagEmulation.hear T config staging device) := by
  have hplain : ∀ data, heardPlain data = TagEmulation.heardPlain data :=
    fun data => funext (heardPlain_eq data)
  have hparity : ∀ data (slots : Buffer stagingSize),
      heardWithParity data slots.bytes = TagEmulation.heardWithParity data slots.bytes :=
    fun data slots => funext (heardWithParity_eq data slots.length_bytes)
  cases hc : config.hardwareParity with
  | true =>
    simp only [TagEmulation.hear, hc, if_true] at h
    simp only [hear, TagEmulation.hear, hc, if_true, hplain, escalate_of_unbroken h]
    rfl
  | false =>
    simp only [TagEmulation.hear, hc, Bool.false_eq_true, if_false] at h
    simp only [hear, TagEmulation.hear, hc, Bool.false_eq_true, if_false, hparity,
      escalate_of_unbroken h]
    rfl

/-! ## Answering -/

/-- `Responder.isSelectedBy`, each field read at its offset, and sums of offsets checked. -/
def isSelectedBy (r : Responder) (f : Frame) : Except Breach Bool := do
  let outcome := Command.selectAtOffsets .checked f
  escalate outcome
  match outcome with
  | .ok uid => return uid == r.identity.uid
  | .error _ => return false

/-- `Responder.answer`, checked. -/
def answer (r : Responder) (f : Frame) : Except Breach (Option Frame) :=
  if FrameKind.ofBits f.bits = .select ∧ r.strict then do
    if ← isSelectedBy r f then return r.reply? (FrameKind.ofBits f.bits) else return none
  else return r.reply? (FrameKind.ofBits f.bits)

theorem isSelectedBy_eq (r : Responder) (f : Frame) :
    isSelectedBy r f = .ok (r.isSelectedBy f) := by
  rw [isSelectedBy, Command.selectAtOffsets_eq, Responder.isSelectedBy]
  cases Command.decodeSelect f <;> rfl

theorem answer_eq (r : Responder) (f : Frame) : answer r f = .ok (r.answer f) := by
  rw [answer, Responder.answer, isSelectedBy_eq]
  by_cases hstrict : FrameKind.ofBits f.bits = .select ∧ r.strict
  · rw [if_pos hstrict]
    cases r.isSelectedBy f <;> simp [hstrict] <;> rfl
  · rw [if_neg hstrict, if_neg fun h => hstrict ⟨h.1, h.2.1⟩]
    rfl

/-- `speak`, checked. -/
def speak (T : Transport σ) (config : Config) (reply : Frame) (device : σ) :
    Except Breach (Acknowledgement σ) :=
  if config.hardwareParity then do
    let sent := T.transmit reply.bytes reply.bits device
    escalate sent.outcome
    return sent
  else do
    let whole ← cut reply.bytes reply.wholeBytes
    let sent := T.transmitWithParity reply.bytes reply.bits (parityBits whole) device
    escalate sent.outcome
    return sent

theorem speak_eq {T : Transport σ} {config : Config} {reply : Frame} {device : σ}
    (h : Unbroken (TagEmulation.speak T config reply device).outcome) :
    speak T config reply device = .ok (TagEmulation.speak T config reply device) := by
  cases hc : config.hardwareParity with
  | true =>
    simp only [TagEmulation.speak, hc, if_true] at h
    simp only [speak, TagEmulation.speak, hc, if_true, escalate_of_unbroken h]
    rfl
  | false =>
    simp only [TagEmulation.speak, hc, Bool.false_eq_true, if_false, Frame.rightParity] at h
    simp only [speak, TagEmulation.speak, hc, Bool.false_eq_true, if_false, Frame.rightParity,
      cut_of_le reply.wholeBytes_le_length]
    change (escalate _ >>= fun _ => _) = _
    rw [escalate_of_unbroken h]
    rfl

/-! ## Writing to the log -/

/-- `Event.plainText`, its cut checked. -/
def plainText (f : Frame) : Except Breach String := do
  let whole ← cut f.bytes (min (f.bits / 8) f.bytes.length)
  return String.ofList (Text.spaced whole ++ Text.residue f.bytes f.bits)

/-- `Frame.text`, its cut checked. -/
def text (f : Frame) : Except Breach String :=
  match f.parity with
  | none => plainText f
  | some parity => do
    let whole ← cut f.bytes (min (f.bits / 8) f.bytes.length)
    return String.ofList (Text.marked whole parity ++ Text.residue f.bytes f.bits)

theorem plainText_eq (f : Frame) : plainText f = .ok (Event.plainText f) := by
  rw [plainText, cut_min]
  rfl

theorem text_eq (f : Frame) : text f = .ok f.text := by
  rw [text, Frame.text]
  cases f.parity with
  | none => exact plainText_eq f
  | some parity =>
    rw [cut_min]
    rfl

/-- `Event.message`, its cuts checked. -/
def message : Event → Except Breach String
  | .firstCommand device frame => do
    return device ++ ": received initiator command: " ++ (← text frame)
  | .parityWrong positions frame => do
    return "parity error in byte(s) " ++ Event.positionsText positions ++ ": " ++ (← text frame)
  | .parityRight frame => do return "R (parity): " ++ (← text frame)
  | .heard frame => do return "R: " ++ (← plainText frame)
  | .said frame => do return "T: " ++ (← plainText frame)
  | event => return event.message

theorem message_eq (event : Event) : message event = .ok event.message := by
  cases event with
  | firstCommand device frame => rw [message, text_eq]; rfl
  | parityWrong positions frame => rw [message, text_eq]; rfl
  | parityRight frame => rw [message, text_eq]; rfl
  | heard frame => rw [message, plainText_eq]; rfl
  | said frame => rw [message, plainText_eq]; rfl
  | _ => rfl

/-- The lines that events make in a log. -/
def log (events : List Event) : Except Breach (List String) := events.mapM message

/-- Every event can be written down. -/
theorem log_eq (events : List Event) : log events = .ok (events.map Event.message) := by
  rw [log, show message = fun event => pure event.message from funext message_eq]
  exact List.mapM_pure

/-! ## Parity bits for a device that checks its own -/

/-- `Receive.thenFillParity`, checked. -/
def thenFillParity (receive : Receive σ) {n m : Nat} (rx : Buffer n) (slots : Buffer m)
    (limit : Option UInt64) (device : σ) : Except Breach (ParityReception σ n m) := do
  let r := receive rx limit device
  escalate r.outcome
  match r.outcome with
  | .error why => return ⟨.error why, r.rx, slots, r.device⟩
  | .ok bits =>
    let whole ← cut r.rx.bytes (min (bits / 8) r.rx.bytes.length)
    let filled ← slots.fillParity whole
    return ⟨.ok bits, r.rx, filled, r.device⟩

/-- With a slot for each byte of the buffer, no more is filled than there is room for, however many
bits are reported. -/
theorem thenFillParity_eq {receive : Receive σ} {n m : Nat} {rx : Buffer n} {slots : Buffer m}
    {limit : Option UInt64} {device : σ} (hslots : n ≤ m)
    (h : Unbroken (receive rx limit device).outcome) :
    thenFillParity receive rx slots limit device
        = .ok (receive.thenFillParity rx slots limit device) ∧
      (receive.thenFillParity rx slots limit device).outcome
        = (receive rx limit device).outcome := by
  rw [thenFillParity, Receive.thenFillParity, escalate_of_unbroken h]
  match hr : receive rx limit device with
  | ⟨.error why, rx', device'⟩ => exact ⟨rfl, rfl⟩
  | ⟨.ok bits, rx', device'⟩ =>
    have hlength : (rx'.bytes.take (bits / 8)).length ≤ m := by
      have hrx : rx'.bytes.length = n := rx'.length_bytes
      rw [List.length_take]
      omega
    have hfilled : slots.fillParity (rx'.bytes.take (bits / 8))
        = .ok (slots.overwrite (parityBits (rx'.bytes.take (bits / 8)))) := if_pos hlength
    simp only [cut_min, hfilled, and_true]
    change (slots.fillParity _ >>= fun _ => _) = _
    rw [hfilled]
    rfl

-- with too few slots the check strikes
example : thenFillParity (fun rx _ d => ⟨.ok 16, rx, d⟩) (Buffer.zeroed 2) (Buffer.zeroed 1) none ()
    = .error (.parityTooShort 1 2) := rfl

end Checked

end TagEmulation
