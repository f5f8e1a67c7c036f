import TagEmulation.Setup

/-!
# Proofs/Setup/LastChange — of many changes of a field, the last one counts

A set-up is nine fields: its device, the three of its identity and the five of its options.  A
change writes some of them (`Change.writes`): one field, or at once all of an identity or of the
options.  One change leaves every field with what it writes there, or else as it was (`get_apply`),
so many changes leave it with what was written last (`get_foldl_apply`).  That is all there is to a
set-up (`eq_of_get`): what its tag and its device are, and which changes may be made in either
order, follows from it (`last_change_of_each_field_counts`).
-/

namespace TagEmulation

/-! ## Durations -/

/-- The span in nanoseconds. -/
def Duration.inNanos (d : Duration) : Nat := d.seconds.toNat * 1000000000 + d.nanos

/-- A span is rounded down to milliseconds, and then cut down to 64 bits. -/
theorem Duration.toNat_millis (d : Duration) :
    d.millis.toNat = min (d.inNanos / 1000000) (UInt64.size - 1) := by
  have hround : d.inNanos / 1000000 = d.seconds.toNat * 1000 + d.nanos.val / 1000000 := by
    rw [inNanos]
    omega
  have hfits : min (d.inNanos / 1000000) (UInt64.size - 1) < UInt64.size :=
    Nat.lt_of_le_of_lt (Nat.min_le_right ..) (by decide)
  rw [hround] at hfits ⊢
  exact UInt64.toNat_ofNat_of_lt' hfits

namespace Setup

variable {δ : Type}

/-! ## Fields -/

/-- The fields of a set-up, those of its identity and of its options taken one by one. -/
inductive Field where
  | device
  | uid
  | atqa
  | sak
  | hardwareParity
  | quiet
  | pollMillis
  | firstMillis
  | strictSelect
  deriving DecidableEq, Repr

/-- What a field holds. -/
abbrev Field.Value (δ : Type) : Field → Type
  | .device => Option δ
  | .uid => Uid
  | .atqa => Atqa
  | .sak => Sak
  | .hardwareParity | .quiet | .strictSelect => Bool
  | .pollMillis => UInt64
  | .firstMillis => Option UInt64

/-- What the set-up holds in a field. -/
def get (s : Setup δ) : (x : Field) → x.Value δ
  | .device => s.device
  | .uid => s.identity.uid
  | .atqa => s.identity.atqa
  | .sak => s.identity.sak
  | .hardwareParity => s.config.hardwareParity
  | .quiet => s.config.quiet
  | .pollMillis => s.config.pollMillis
  | .firstMillis => s.config.firstMillis
  | .strictSelect => s.config.strictSelect

/-- The identity of three fields. -/
def identityOf (value : (x : Field) → x.Value δ) : Identity :=
  ⟨value .uid, value .atqa, value .sak⟩

/-- The options of five fields. -/
def configOf (value : (x : Field) → x.Value δ) : Config where
  hardwareParity := value .hardwareParity
  quiet := value .quiet
  pollMillis := value .pollMillis
  firstMillis := value .firstMillis
  strictSelect := value .strictSelect

/-- The set-up that holds the given value in each field. -/
def ofFields (value : (x : Field) → x.Value δ) : Setup δ :=
  ⟨value .device, identityOf value, configOf value⟩

@[simp] theorem ofFields_get (s : Setup δ) : ofFields s.get = s := rfl

/-- Two set-ups that hold the same in each field are the same. -/
theorem eq_of_get {s s' : Setup δ} (h : ∀ x, s.get x = s'.get x) : s = s' := by
  rw [← ofFields_get s, ← ofFields_get s', funext h]

end Setup

variable {δ : Type}

/-! ## What a change writes -/

/-- What a change writes to a field, if it writes to it. -/
def Change.writes : (x : Setup.Field) → Change δ → Option (x.Value δ)
  | .device, .device value => some (some value)
  | .uid, .identity value => some value.uid
  | .uid, .uid value => some value
  | .atqa, .identity value => some value.atqa
  | .sak, .identity value => some value.sak
  | .hardwareParity, .config value => some value.hardwareParity
  | .hardwareParity, .hardwareParity value => some value
  | .quiet, .config value => some value.quiet
  | .quiet, .quiet value => some value
  | .pollMillis, .config value => some value.pollMillis
  | .pollMillis, .pollTime value => some value.millis
  | .firstMillis, .config value => some value.firstMillis
  | .firstMillis, .firstTime value => some (value.map Duration.millis)
  | .strictSelect, .config value => some value.strictSelect
  | .strictSelect, .strictSelect value => some value
  | _, _ => none

/-- No field is written both by some change of the first list and by some change of the second. -/
def Change.Apart (as bs : List (Change δ)) : Prop :=
  ∀ x, (∀ c ∈ as, c.writes x = none) ∨ ∀ c ∈ bs, c.writes x = none

/-- Only a change of the device writes to it, and then a device. -/
theorem Change.writes_device_eq_some_iff {c : Change δ} {d : Option δ} :
    c.writes .device = some d ↔ ∃ value, c = .device value ∧ d = some value := by
  cases c <;> simp [writes, eq_comm]

namespace Setup

variable {x : Field} {changes as bs : List (Change δ)}

/-- A change leaves a field with what it writes there, or else as it was. -/
theorem get_apply (s : Setup δ) (c : Change δ) (x : Field) :
    (s.apply c).get x = (c.writes x).getD (s.get x) := by
  cases x <;> cases c <;> rfl

/-! ## Many changes -/

/-- What some changes write to a field, in order. -/
def written (x : Field) (changes : List (Change δ)) : List (x.Value δ) :=
  changes.filterMap (Change.writes x)

/-- What a field holds after some changes: what was written there last, or else the usual value. -/
def held (changes : List (Change δ)) (x : Field) : x.Value δ :=
  (written x changes).getLast?.getD (usual.get x)

theorem written_cons (x : Field) (c : Change δ) (rest : List (Change δ)) :
    written x (c :: rest) = (c.writes x).elim (written x rest) (· :: written x rest) := by
  rw [written, List.filterMap_cons]
  cases c.writes x <;> rfl

theorem written_append (x : Field) (as bs : List (Change δ)) :
    written x (as ++ bs) = written x as ++ written x bs :=
  List.filterMap_append

theorem written_eq_nil_iff : written x changes = [] ↔ ∀ c ∈ changes, c.writes x = none :=
  List.filterMap_eq_nil_iff

/-- Changes that are apart write the same to each field in either order. -/
theorem written_append_comm (h : Change.Apart as bs) (x : Field) :
    written x (as ++ bs) = written x (bs ++ as) := by
  rw [written_append, written_append]
  rcases h x with has | hbs
  · rw [written_eq_nil_iff.mpr has, List.nil_append, List.append_nil]
  · rw [written_eq_nil_iff.mpr hbs, List.nil_append, List.append_nil]

/-- **Many changes leave a field with what was written there last**, or else as it was. -/
theorem get_foldl_apply (changes : List (Change δ)) (s : Setup δ) (x : Field) :
    (changes.foldl apply s).get x = (written x changes).getLast?.getD (s.get x) := by
  induction changes generalizing s with
  | nil => rfl
  | cons c rest ih =>
    rw [List.foldl_cons, ih, get_apply, written_cons]
    cases c.writes x with
    | none => rfl
    | some value => rw [Option.getD_some, Option.elim_some, List.getLast?_cons, Option.getD_some]

/-- A set-up holds in each field what was written there last. -/
theorem ofChanges_eq (changes : List (Change δ)) : ofChanges changes = ofFields (held changes) := by
  refine eq_of_get fun x => (get_foldl_apply changes usual x).trans ?_
  cases x <;> rfl

/-- Changes that are apart may be made in either order, whatever comes before and after. -/
theorem ofChanges_swap (h : Change.Apart as bs) (front rest : List (Change δ)) :
    ofChanges (front ++ (as ++ bs) ++ rest) = ofChanges (front ++ (bs ++ as) ++ rest) := by
  refine eq_of_get fun x => ?_
  rw [ofChanges, ofChanges, get_foldl_apply, get_foldl_apply]
  rw [written_append, written_append x front, written_append_comm h, ← written_append x front,
    ← written_append]

/-- A field holds the usual value and no change writes it, or else what some change wrote. -/
theorem held_cases (changes : List (Change δ)) (x : Field) :
    (held changes x = usual.get x ∧ ∀ c ∈ changes, c.writes x = none) ∨
      ∃ c ∈ changes, c.writes x = some (held changes x) := by
  cases hlast : (written x changes).getLast? with
  | none =>
    have hnil : written x changes = [] := List.getLast?_eq_none_iff.mp hlast
    exact .inl ⟨by rw [held, hnil]; rfl, written_eq_nil_iff.mp hnil⟩
  | some value =>
    obtain ⟨c, hc, hwrites⟩ := List.mem_filterMap.mp (List.mem_of_getLast? hlast)
    exact .inr ⟨c, hc, by rw [held, hlast, hwrites]; rfl⟩

/-! ## The device -/

/-- There is no device exactly if none was ever supplied. -/
theorem held_device_eq_none_iff :
    held changes .device = none ↔ ∀ value, Change.device value ∉ changes := by
  rcases held_cases changes .device with ⟨hheld, hnone⟩ | ⟨c, hc, hwrites⟩
  · exact iff_of_true hheld fun value hmem => Option.some_ne_none _ (hnone _ hmem)
  · obtain ⟨value, rfl, hvalue⟩ := Change.writes_device_eq_some_iff.mp hwrites
    exact iff_of_false (by rw [hvalue]; exact Option.some_ne_none _) fun h => h value hc

/-- What is built is read off what the fields hold. -/
theorem build_ofChanges (changes : List (Change δ)) :
    (ofChanges changes).build = match held changes .device with
      | some d => .ok (.ofConfig (identityOf (held changes)) (configOf (held changes)), d)
      | none => .error .noDevice := by
  rw [ofChanges_eq]
  rfl

/-- **Of the changes of a field, the last one counts.**  A set-up builds unless no device was ever
supplied, which it then says.  It builds the tag that holds in each field of its identity and of its
options what was written there last, or else the usual value; its responder is the one of that
identity, strict or not as the option says; and its device is the one supplied last.  Times are
written in whole milliseconds of 64 bits, and no limit as no limit.  So changes that are apart may
be made in either order, whatever comes before and after. -/
theorem last_change_of_each_field_counts (changes : List (Change δ)) :
    (∀ fault, (ofChanges changes).build = .error fault ↔
      fault = .noDevice ∧ ∀ value, Change.device value ∉ changes) ∧
    (∀ d, held changes .device = some d →
      (ofChanges changes).build = .ok (
        { responder := {
            identity := ⟨held changes .uid, held changes .atqa, held changes .sak⟩
            strict := held changes .strictSelect }
          config := {
            hardwareParity := held changes .hardwareParity
            quiet := held changes .quiet
            pollMillis := held changes .pollMillis
            firstMillis := held changes .firstMillis
            strictSelect := held changes .strictSelect } }, d)) ∧
    (∀ time, ((Change.pollTime time : Change δ).writes .pollMillis).map UInt64.toNat =
      some (min (time.inNanos / 1000000) (UInt64.size - 1))) ∧
    (∀ limit, ((Change.firstTime limit : Change δ).writes .firstMillis).map (·.map UInt64.toNat) =
      some (limit.map fun time => min (time.inNanos / 1000000) (UInt64.size - 1))) ∧
    ∀ as bs : List (Change δ), Change.Apart as bs → ∀ front rest,
      ofChanges (front ++ (as ++ bs) ++ rest) = ofChanges (front ++ (bs ++ as) ++ rest) := by
  refine ⟨fun fault => ?_, fun d hd => ?_, fun time => ?_, fun limit => ?_,
    fun _ _ h => ofChanges_swap h⟩
  · rw [build_ofChanges, ← held_device_eq_none_iff]
    cases held changes .device <;> simp [eq_comm]
  · rw [build_ofChanges, hd]
    rfl
  · rw [← Duration.toNat_millis]
    rfl
  · simp only [← Duration.toNat_millis, Change.writes, Option.map_some, Option.map_map]
    rfl

/-- Two devices and two UIDs, of which the later ones count; and two changes of one option each. -/
theorem last_change_counts_of_two :
    (ofChanges [.device 1, .quiet true, .uid ⟨1, 2, 3, 4⟩, .identity default, .strictSelect true,
        .firstTime none, .device 2]).build =
      .ok (.ofConfig default { (default : Config) with quiet := true, strictSelect := true }, 2) ∧
    ofChanges [.device 1, .quiet true, .strictSelect true] =
      ofChanges [.device 1, .strictSelect true, .quiet true] := by
  refine ⟨(last_change_of_each_field_counts _).2.1 2 rfl,
    (last_change_of_each_field_counts []).2.2.2.2 [.quiet true] [.strictSelect true] ?_
      [.device 1] []⟩
  intro x
  cases x <;> simp [Change.writes]

end Setup

end TagEmulation
