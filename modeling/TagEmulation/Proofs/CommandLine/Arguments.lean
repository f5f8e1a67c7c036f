import Mathlib.Tactic.SplitIfs
import TagEmulation.CommandLine

/-!
# Proofs/CommandLine/Arguments — the first argument that is refused ends the reading

An argument is accepted if it is `-q`, or names a UID in a text of eight bytes.  Accepted arguments
never end the reading: of all of them only counts whether `-q` is among them and which UID was named
last (`Options.ofArguments_of_accepted`).  The first that is not accepted ends it, for a reason that
neither the arguments before nor those behind have a say in (`Options.ofArguments_of_refused`).
Wherever `-q` stands, it makes the options quiet and does no more (`Options.ofArguments_quiet`).
-/

namespace TagEmulation.CommandLine

/-- The UID that an argument names, if it does: a text of eight bytes that reads as one. -/
def uid? (argument : String) : Option Uid :=
  if argument.utf8ByteSize = 8 then (Uid.parse argument).toOption else none

/-- Whether the reading goes on behind an argument. -/
def isAccepted (argument : String) : Bool := argument == "-q" || (uid? argument).isSome

/-- The first argument that is not accepted. -/
def firstRefused (arguments : List String) : Option String := arguments.find? fun a => !isAccepted a

/-- The UID that some arguments name last, or else the given one. -/
def lastUid (arguments : List String) (usual : Uid) : Uid :=
  (arguments.filterMap uid?).getLast?.getD usual

/-- The options, quiet. -/
def Options.hushed (o : Options) : Options := { o with quiet := true }

variable {argument d : String} {arguments : List String} {uid : Uid} {o : Options}

/-! ## Accepted arguments -/

theorem uid?_eq_some_iff :
    uid? argument = some uid ↔ argument.utf8ByteSize = 8 ∧ Uid.parse argument = .ok uid := by
  unfold uid?
  split_ifs with hsize
  · cases Uid.parse argument with
    | ok uid' => simp [Except.toOption, hsize]
    | error cause => simp [Except.toOption]
  · simp [hsize]

theorem uid?_quiet : uid? "-q" = none := rfl

theorem lastUid_cons (argument : String) (arguments : List String) (usual : Uid) :
    lastUid (argument :: arguments) usual
      = lastUid arguments ((uid? argument).getD usual) := by
  rw [lastUid, lastUid, List.filterMap_cons]
  cases uid? argument with
  | none => rfl
  | some uid => rw [List.getLast?_cons, Option.getD_some, Option.getD_some]

namespace Options

theorem read_quiet (o : Options) : o.read "-q" = .ok { o with quiet := true } := rfl

/-- An argument as long as a UID is read as one. -/
theorem read_of_eight (hsize : argument.utf8ByteSize = 8) :
    o.read argument
      = match Uid.parse argument with
        | .ok uid => .ok { o with uid }
        | .error cause => .error (.notUid argument cause) := by
  have hhelp : argument ≠ "-h" := by
    rintro rfl
    cases hsize
  have hquiet : argument ≠ "-q" := by
    rintro rfl
    cases hsize
  exact (if_neg hhelp).trans ((if_neg hquiet).trans (if_pos hsize))

theorem read_of_uid (h : uid? argument = some uid) : o.read argument = .ok { o with uid } := by
  obtain ⟨hsize, hparse⟩ := uid?_eq_some_iff.mp h
  rw [read_of_eight hsize, hparse]

/-- An accepted argument sets what it says, and leaves the rest. -/
theorem read_of_accepted (h : isAccepted argument) :
    o.read argument
      = .ok ⟨argument == "-q" || o.quiet, (uid? argument).getD o.uid⟩ := by
  rcases Bool.or_eq_true_iff.mp h with hquiet | huid
  · obtain rfl := eq_of_beq hquiet
    rw [read_quiet, uid?_quiet]
    rfl
  · obtain ⟨uid, huid⟩ := Option.isSome_iff_exists.mp huid
    have hquiet : (argument == "-q") = false := by
      rw [beq_eq_false_iff_ne]
      rintro rfl
      cases huid
    rw [read_of_uid huid, huid, hquiet]
    rfl

/-- **Accepted arguments never end the reading.**  They ask for quiet if one of them does, and for
the UID named last. -/
theorem foldlM_read_of_accepted (h : ∀ a ∈ arguments, isAccepted a) (o : Options) :
    arguments.foldlM read o
      = .ok ⟨arguments.contains "-q" || o.quiet, lastUid arguments o.uid⟩ := by
  induction arguments generalizing o with
  | nil => rfl
  | cons a rest ih =>
    obtain ⟨ha, hrest⟩ := List.forall_mem_cons.mp h
    have hbeq : (a == "-q") = ("-q" == a) := BEq.comm
    rw [List.foldlM_cons, read_of_accepted ha]
    refine (ih hrest _).trans ?_
    rw [lastUid_cons, List.contains_cons, hbeq, Bool.or_left_comm, Bool.or_assoc]

theorem ofArguments_of_accepted (h : firstRefused arguments = none) :
    ofArguments arguments = .ok ⟨arguments.contains "-q", lastUid arguments default⟩ := by
  have hall : ∀ a ∈ arguments, isAccepted a := by simpa using List.find?_eq_none.mp h
  rw [ofArguments, foldlM_read_of_accepted hall, Bool.or_false]

/-! ## Refused arguments -/

theorem read_of_notUid {cause : Fault} (hsize : d.utf8ByteSize = 8)
    (hparse : Uid.parse d = .error cause) : o.read d = .error (.notUid d cause) := by
  rw [read_of_eight hsize, hparse]

theorem read_of_unexpected (hhelp : d ≠ "-h") (hquiet : d ≠ "-q") (hsize : d.utf8ByteSize ≠ 8) :
    o.read d = .error (.unexpected d) := by
  rw [read, if_neg hhelp, if_neg hquiet, if_neg hsize]

/-- **The first argument that is refused ends the reading**, whatever follows. -/
theorem ofArguments_of_refused {refusal : Refusal} (h : firstRefused arguments = some d)
    (hread : ∀ o, Options.read o d = .error refusal) : ofArguments arguments = .error refusal := by
  obtain ⟨-, before, after, rfl, hbefore⟩ := List.find?_eq_some_iff_append.mp h
  have hall : ∀ a ∈ before, isAccepted a := by simpa using hbefore
  rw [ofArguments, List.foldlM_append, foldlM_read_of_accepted hall]
  exact congrArg (· >>= fun o => after.foldlM read o) (hread _)

/-! ## Quiet -/

/-- What an argument does to the options, or has against them, does not depend on quiet. -/
theorem read_hushed (o : Options) (argument : String) :
    o.hushed.read argument = (o.read argument).map hushed := by
  unfold read
  split_ifs
  · rfl
  · rfl
  · cases Uid.parse argument <;> rfl
  · rfl

theorem foldlM_read_hushed (arguments : List String) :
    ∀ o : Options, arguments.foldlM read o.hushed = (arguments.foldlM read o).map hushed := by
  induction arguments with
  | nil => exact fun _ => rfl
  | cons a rest ih =>
    intro o
    rw [List.foldlM_cons, List.foldlM_cons, read_hushed]
    cases o.read a with
    | error refusal => rfl
    | ok o' => exact ih o'

/-- **Where `-q` stands makes no difference**: the options are those without it, quiet. -/
theorem ofArguments_quiet (front rest : List String) :
    ofArguments (front ++ "-q" :: rest) = (ofArguments (front ++ rest)).map hushed := by
  rw [ofArguments, ofArguments, List.foldlM_append, List.foldlM_append]
  cases front.foldlM read ⟨false, default⟩ with
  | error refusal => rfl
  | ok o => exact foldlM_read_hushed rest o

end Options

/-- A refused argument as long as a UID does not read as one. -/
theorem exists_error_of_firstRefused (h : firstRefused arguments = some d)
    (hsize : d.utf8ByteSize = 8) : ∃ cause, Uid.parse d = .error cause := by
  have hrefused := List.find?_some h
  cases hparse : Uid.parse d with
  | error cause => exact ⟨cause, rfl⟩
  | ok uid =>
    have huid := uid?_eq_some_iff.mpr ⟨hsize, hparse⟩
    simp [isAccepted, huid] at hrefused

theorem ne_quiet_of_firstRefused (h : firstRefused arguments = some d) : d ≠ "-q" := by
  rintro rfl
  have hrefused := List.find?_some h
  simp [isAccepted] at hrefused

end TagEmulation.CommandLine
