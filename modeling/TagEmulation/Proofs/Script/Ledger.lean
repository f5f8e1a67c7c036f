import Mathlib.Data.List.Perm.Basic
import TagEmulation.Proofs.Script.Acts

/-!
# Proofs/Script/Ledger — a scripted device loses nothing and counts nothing twice

A history is a scripted device under any calls whatever, one after the other (`Script.history`).
What goes into the device is found again: cues are taken in the order in which they were put there,
or are still to come; frames are kept as they were sent until they are taken back; sends fail as
often as was asked for.  Each call keeps these books (`Entry.Lawful.balanced`), by what can come of
it and nothing else, and books that are kept one after the other are kept over both
(`Balanced.append`).
-/

namespace TagEmulation

/-! ## Histories -/

/-- A call with what it returned, and the script before and after it. -/
structure Entry where
  before : Script
  act : Act
  reply : Reply
  after : Script

namespace Script

/-- The script after some calls. -/
def closing (name : String) (s : Script) : List Act → Script
  | [] => s
  | act :: acts => (s.perform name act).2.closing name acts

/-- The calls one by one. -/
def history (name : String) (s : Script) : List Act → List Entry
  | [] => []
  | act :: acts =>
    let x := s.perform name act
    ⟨s, act, x.1, x.2⟩ :: x.2.history name acts

end Script

/-! ## Books -/

/-- What is put into a scripted device and what is taken out, in order. -/
structure Books where
  /-- The cues put into the script. -/
  pushed : List Cue := []
  /-- The cues taken. -/
  taken : List Cue := []
  /-- Whether a cue was wanted of a dry script. -/
  ranDry : Bool := false
  /-- The frames kept. -/
  recorded : List Frame := []
  /-- The frames taken back. -/
  popped : List Frame := []
  /-- How many failures were asked for. -/
  granted : Nat := 0
  /-- How many failures were used up, each by a send that had a frame to send. -/
  lost : Nat := 0
  /-- How many failures were dropped when others were asked for. -/
  forgiven : Nat := 0
  /-- The options switched. -/
  switched : List (DeviceOption × Bool) := []
  /-- The identities the device was made a target of. -/
  named : List Identity := []

namespace Books

/-- The books of what comes first and of what follows. -/
def append (b b' : Books) : Books where
  pushed := b.pushed ++ b'.pushed
  taken := b.taken ++ b'.taken
  ranDry := b.ranDry || b'.ranDry
  recorded := b.recorded ++ b'.recorded
  popped := b.popped ++ b'.popped
  granted := b.granted + b'.granted
  lost := b.lost + b'.lost
  forgiven := b.forgiven + b'.forgiven
  switched := b.switched ++ b'.switched
  named := b.named ++ b'.named

/-- The books of a receive, which takes a cue if there is one. -/
def ofReceive (s : Script) (named : List Identity) : Books where
  taken := s.inbound.take 1
  ranDry := s.inbound.isEmpty
  named := named

/-- The books of a send, by what it is to send and how it came out. -/
def ofSend (making : Making) : Except Failure Unit → Books
  | .ok () => { recorded := making.frame.toOption.toList }
  | .error (.fault (.notSent _)) => { lost := 1 }
  | .error _ => {}

end Books

namespace Entry

/-- The books of a call. -/
def books (e : Entry) : Books :=
  match e.act, e.reply with
  | .push cue, _ => { pushed := [cue] }
  | .receive _ _, _ => .ofReceive e.before []
  | .receiveWithParity _ _ _, _ => .ofReceive e.before []
  | .becomeTarget identity _ _, _ => .ofReceive e.before [identity]
  | .transmit tx bits, .acknowledged outcome => .ofSend (.cutOut tx bits none) outcome
  | .transmitWithParity tx bits parity, .acknowledged outcome =>
    .ofSend (.cutOut tx bits (some parity)) outcome
  | .configure option value, _ => { switched := [(option, value)] }
  | .failSends count, _ => { granted := count, forgiven := e.before.failuresLeft }
  | .popSent, .popped frame? => { popped := frame?.toList }
  | _, _ => {}

/-- The call comes to one of the things that can come of it. -/
def Lawful (e : Entry) : Prop := e.before.Does e.act e.reply e.after

end Entry

/-- The books of a history. -/
def booksOf : List Entry → Books
  | [] => {}
  | e :: h => e.books.append (booksOf h)

/-- The books account for what became of a script. -/
structure Balanced (s : Script) (b : Books) (s' : Script) : Prop where
  /-- Cues are taken in the order in which they were put there, or are still to come. -/
  cues : b.taken ++ s'.inbound = s.inbound ++ b.pushed
  /-- The stop flag is raised by nothing but a script run dry. -/
  stopRaised : s'.stopRaised = (s.stopRaised || (s.stopsWhenDry && b.ranDry))
  /-- Frames are kept until they are taken back. -/
  frames : (b.popped ++ s'.sent).Perm (s.sent ++ b.recorded)
  /-- Sends fail as often as was asked for, unless something else was asked for. -/
  failures : b.lost + b.forgiven + s'.failuresLeft = s.failuresLeft + b.granted
  options : s'.options = s.options ++ b.switched
  identities : s'.identities = s.identities ++ b.named
  disconnectsWhenDry : s'.disconnectsWhenDry = s.disconnectsWhenDry
  stopsWhenDry : s'.stopsWhenDry = s.stopsWhenDry

variable {s s' s'' : Script} {b b' : Books}

/-! ## Keeping the books -/

theorem Balanced.nil (s : Script) : Balanced s {} s where
  cues := (List.append_nil _).symm
  stopRaised := by rw [Bool.and_false, Bool.or_false]
  frames := by rw [List.nil_append, List.append_nil]
  failures := by
    change 0 + 0 + s.failuresLeft = s.failuresLeft + 0
    omega
  options := (List.append_nil _).symm
  identities := (List.append_nil _).symm
  disconnectsWhenDry := rfl
  stopsWhenDry := rfl

/-- **Books that are kept one after the other are kept over both.** -/
theorem Balanced.append (h : Balanced s b s') (h' : Balanced s' b' s'') :
    Balanced s (b.append b') s'' where
  cues := by
    change (b.taken ++ b'.taken) ++ s''.inbound = s.inbound ++ (b.pushed ++ b'.pushed)
    rw [List.append_assoc, h'.cues, ← List.append_assoc, h.cues, List.append_assoc]
  stopRaised := by
    rw [h'.stopRaised, h.stopRaised, h.stopsWhenDry, Bool.or_assoc, ← Bool.and_or_distrib_left]
    rfl
  frames := by
    change ((b.popped ++ b'.popped) ++ s''.sent).Perm (s.sent ++ (b.recorded ++ b'.recorded))
    rw [List.append_assoc, ← List.append_assoc s.sent]
    refine (h'.frames.append_left b.popped).trans ?_
    rw [← List.append_assoc]
    exact h.frames.append_right b'.recorded
  failures := by
    have hfirst := h.failures
    have hsecond := h'.failures
    change (b.lost + b'.lost) + (b.forgiven + b'.forgiven) + s''.failuresLeft
      = s.failuresLeft + (b.granted + b'.granted)
    omega
  options := by rw [h'.options, h.options, List.append_assoc]; rfl
  identities := by rw [h'.identities, h.identities, List.append_assoc]; rfl
  disconnectsWhenDry := h'.disconnectsWhenDry.trans h.disconnectsWhenDry
  stopsWhenDry := h'.stopsWhenDry.trans h.stopsWhenDry

/-! ## One call -/

/-- A receive takes the next cue, whatever comes of it. -/
theorem balanced_receives {rx : List UInt8} {slots : Option (List UInt8)} {reply : Reply}
    {named : List Identity}
    (h : Script.Receives { s with identities := s.identities ++ named } rx slots reply s') :
    Balanced s (.ofReceive s named) s' := by
  rw [h.eq_advance]
  refine { Balanced.nil s with cues := ?_, stopRaised := rfl, identities := rfl }
  change s.inbound.take 1 ++ s.inbound.tail = s.inbound ++ []
  rw [← List.drop_one, List.take_append_drop, List.append_nil]

/-- The same of a receive that names no identity. -/
theorem balanced_receives_unnamed {rx : List UInt8} {slots : Option (List UInt8)} {reply : Reply}
    (h : s.Receives rx slots reply s') : Balanced s (.ofReceive s []) s' := by
  have hunnamed : { s with identities := s.identities ++ [] } = s := by rw [List.append_nil]
  exact balanced_receives (hunnamed.symm ▸ h)

/-- A send that fails for want of a frame leaves everything as it is, one that is to fail uses up a
failure, and of any other the frame is kept. -/
theorem balanced_sends {tx : List UInt8} {bits : Nat} {parity : Option (List UInt8)}
    {outcome : Except Failure Unit} (h : s.Sends tx bits parity outcome s') :
    Balanced s (.ofSend (.cutOut tx bits parity) outcome) s' := by
  cases h with
  | tooManyBits hbits => exact .nil s
  | wrongLength hbits hparity hfew => exact .nil s
  | lost hbits hslots hleft =>
    refine { Balanced.nil s with failures := ?_ }
    change 1 + 0 + (s.failuresLeft - 1) = s.failuresLeft + 0
    omega
  | @kept f hbits hslots hleft hf =>
    have hmade : (Making.cutOut tx bits parity).frame = .ok f := by
      rw [Making.frame_eq_ok_iff, Making.draft_cutOut hbits hslots, hf]
    refine { Balanced.nil s with frames := ?_ }
    rw [Books.ofSend, hmade]
    exact .rfl

/-- **Each call keeps the books.** -/
theorem Entry.Lawful.balanced {e : Entry} (he : e.Lawful) : Balanced e.before e.books e.after := by
  obtain ⟨s, act, reply, s'⟩ := e
  change s.Does act reply s' at he
  cases he with
  | push cue => exact { Balanced.nil s with cues := rfl }
  | receive h => exact balanced_receives_unnamed h
  | receiveWithParity h => exact balanced_receives_unnamed h
  | becomeTarget h => exact balanced_receives h
  | transmit h => exact balanced_sends h
  | transmitWithParity h => exact balanced_sends h
  | configure option value => exact { Balanced.nil s with options := rfl }
  | failSends count =>
    refine { Balanced.nil s with failures := ?_ }
    change 0 + s.failuresLeft + count = s.failuresLeft + count
    omega
  | popNothing hsent => exact .nil s
  | @popLast before f hsent =>
    refine { Balanced.nil s with frames := ?_ }
    change ([f] ++ before).Perm (s.sent ++ [])
    rw [hsent, List.append_nil]
    exact List.perm_append_comm

/-! ## Any calls -/

namespace Script

theorem lawful_of_mem_history (name : String) (acts : List Act) :
    ∀ s : Script, ∀ e ∈ s.history name acts, e.Lawful := by
  induction acts with
  | nil => exact fun _ _ he => absurd he List.not_mem_nil
  | cons act acts ih =>
    intro s e he
    rcases List.mem_cons.mp he with rfl | he
    · exact does_perform name s act
    · exact ih _ e he

/-- **Any calls keep the books**, since each does. -/
theorem balanced_history (name : String) (acts : List Act) :
    ∀ s : Script, Balanced s (booksOf (s.history name acts)) (s.closing name acts) := by
  induction acts with
  | nil => exact Balanced.nil
  | cons act acts ih =>
    intro s
    let first : Entry := ⟨s, act, (s.perform name act).1, (s.perform name act).2⟩
    have hfirst : first.Lawful := does_perform name s act
    exact hfirst.balanced.append (ih first.after)

end Script

/-- **A scripted device loses nothing and counts nothing twice.**  Under any calls, with any buffers
and arguments, each call comes to one of the things that can come of it, and the books of all of
them account for the script that is left. -/
theorem scripted_device_keeps_its_books (name : String) (s : Script) (acts : List Act) :
    (∀ e ∈ s.history name acts, e.Lawful) ∧
      Balanced s (booksOf (s.history name acts)) (s.closing name acts) :=
  ⟨Script.lawful_of_mem_history name acts s, Script.balanced_history name acts s⟩

end TagEmulation
