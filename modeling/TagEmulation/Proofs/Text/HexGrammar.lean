import TagEmulation.Identity

/-!
# Proofs/Text/HexGrammar — which texts are read as bytes, and as a UID

A text is read as bytes exactly if, blanks aside, it spells them pair after pair.  The pairs are two
digits each, except that a plus sign may open a pair in the place of a zero; so what is read and
what is spelled in digits differ exactly on the texts that spell bytes with a plus sign
(`reads_digits_iff`).
-/

namespace TagEmulation.Hex

/-! ## The grammar -/

/-- The hexadecimal digits of zero to fifteen, in lower case. -/
def lowerDigits : List Char :=
  ['0', '1', '2', '3', '4', '5', '6', '7', '8', '9', 'a', 'b', 'c', 'd', 'e', 'f']

/-- The hexadecimal digits of zero to fifteen, in upper case. -/
def upperDigits : List Char :=
  ['0', '1', '2', '3', '4', '5', '6', '7', '8', '9', 'A', 'B', 'C', 'D', 'E', 'F']

/-- The character is the digit of this value, in either case. -/
def IsDigit (c : Char) (v : Nat) : Prop :=
  lowerDigits[v]? = some c ∨ upperDigits[v]? = some c

/-- The character opens a pair whose high half has this value: a digit, or a plus sign for zero. -/
def Opens (c : Char) (v : Nat) : Prop := IsDigit c v ∨ (c = '+' ∧ v = 0)

/-- The characters spell the bytes pair after pair: one that `lead` allows, then a digit. -/
inductive Spells (lead : Char → Nat → Prop) : List Char → List UInt8 → Prop
  | nil : Spells lead [] []
  | cons {c d : Char} {high low : Nat} {cs : List Char} {bs : List UInt8} :
      lead c high → IsDigit d low → Spells lead cs bs →
        Spells lead (c :: d :: cs) (UInt8.ofNat (16 * high + low) :: bs)

/-- The characters of a text without its ASCII blanks. -/
def stripped (text : String) : List Char :=
  text.toList.filter (· ∉ [' ', '\t', '\n', '\x0c', '\r'])

variable {lead : Char → Nat → Prop} {c d : Char} {v : Nat} {cs : List Char} {bs : List UInt8}

/-! ## Digits -/

instance (c : Char) (v : Nat) : Decidable (IsDigit c v) :=
  inferInstanceAs (Decidable (_ ∨ _))

theorem value?_lowerDigits : ∀ v (h : v < lowerDigits.length), value? lowerDigits[v] = some v := by
  decide

theorem value?_upperDigits : ∀ v (h : v < upperDigits.length), value? upperDigits[v] = some v := by
  decide

/-- Every character with the value of a digit comes before `g`. -/
theorem toNat_lt_of_value? (h : value? c = some v) : c.toNat < 103 := by
  have hle : c ≤ '9' ∨ c ≤ 'f' ∨ c ≤ 'F' := by
    unfold value? at h
    split at h
    · next hc => exact .inl hc.2
    · split at h
      · next hc => exact .inr (.inl hc.2)
      · split at h
        · next hc => exact .inr (.inr hc.2)
        · cases h
  simp only [Char.le_def, UInt32.le_iff_toNat_le] at hle
  change c.toNat ≤ 57 ∨ c.toNat ≤ 102 ∨ c.toNat ≤ 70 at hle
  omega

theorem isDigit_ofNat : ∀ n < 103, ∀ v ∈ value? (Char.ofNat n), IsDigit (Char.ofNat n) v := by
  decide +kernel

/-- **The reader knows the sixteen digits in either case**, and no other character for one. -/
theorem value?_eq_some_iff : value? c = some v ↔ IsDigit c v := by
  constructor
  · intro h
    have hdigit := isDigit_ofNat c.toNat (toNat_lt_of_value? h)
    rw [Char.ofNat_toNat] at hdigit
    exact hdigit v h
  · rintro (h | h)
    · obtain ⟨hv, rfl⟩ := List.getElem?_eq_some_iff.mp h
      exact value?_lowerDigits v hv
    · obtain ⟨hv, rfl⟩ := List.getElem?_eq_some_iff.mp h
      exact value?_upperDigits v hv

theorem not_isDigit_plus : ¬ IsDigit '+' v := by
  rw [← value?_eq_some_iff]
  exact nofun

/-- The reader's pairs: a plus sign or a digit, then a digit. -/
theorem byte?_eq_some_iff {b : UInt8} :
    byte? c d = some b
      ↔ ∃ high low, Opens c high ∧ IsDigit d low ∧ UInt8.ofNat (16 * high + low) = b := by
  simp only [Opens, ← value?_eq_some_iff, byte?]
  by_cases hc : c = '+'
  · subst hc
    have hnone : value? '+' = none := rfl
    simp [hnone]
  · simp only [hc, false_and, or_false, if_false, Option.bind_eq_some_iff, Option.map_eq_some_iff]
    grind

/-! ## Pairs -/

theorem utf8Size_of_isDigit (h : IsDigit c v) : c.utf8Size = 1 := by
  have hlt : c.toNat < 103 := toNat_lt_of_value? (value?_eq_some_iff.mpr h)
  rw [Char.utf8Size_eq_one_iff, UInt32.le_iff_toNat_le]
  change c.toNat ≤ 127
  omega

theorem utf8Size_of_opens (h : Opens c v) : c.utf8Size = 1 := by
  rcases h with h | ⟨rfl, -⟩
  · exact utf8Size_of_isDigit h
  · rfl

/-- What is spelled takes two bytes for each byte it denotes. -/
theorem byteCount_of_spells (h : Spells Opens cs bs) : byteCount cs = 2 * bs.length := by
  induction h with
  | nil => rfl
  | cons hc hd _ ih =>
    rw [byteCount, byteCount, utf8Size_of_opens hc, utf8Size_of_isDigit hd, ih, List.length_cons]
    omega

/-- Reading pair after pair succeeds on what is spelled, and on nothing else. -/
theorem readPairs_eq_ok_iff : readPairs cs = .ok bs ↔ Spells Opens cs bs := by
  constructor
  · intro h
    fun_induction readPairs cs generalizing bs with
    | case1 =>
      cases h
      exact .nil
    | case5 c d rest hc hd b hb ih =>
      obtain ⟨high, low, hhigh, hlow, rfl⟩ := byte?_eq_some_iff.mp hb
      cases hrest : readPairs rest with
      | error flaw =>
        rw [hrest] at h
        cases h
      | ok tail =>
        rw [hrest] at h
        cases h
        exact .cons hhigh hlow (ih hrest)
    | _ => cases h
  · intro h
    induction h with
    | nil => rfl
    | cons hc hd _ ih =>
      rw [readPairs, if_pos (utf8Size_of_opens hc), if_pos (utf8Size_of_isDigit hd),
        byte?_eq_some_iff.mpr ⟨_, _, hc, hd, rfl⟩]
      simp only [ih]
      rfl

/-- **A text is read as bytes exactly if it spells them**, blanks left out. -/
theorem toBytes_eq_ok_iff {text : String} :
    toBytes text = .ok bs ↔ Spells Opens (stripped text) bs := by
  have hblank (c : Char) : decide (c ∉ [' ', '\t', '\n', '\x0c', '\r']) = !isBlank c := by
    rw [Bool.eq_iff_iff]
    simp [isBlank, and_assoc]
  have hstripped : stripped text = text.toList.filter fun c => !isBlank c :=
    List.filter_congr fun c _ => hblank c
  rw [toBytes, readChars, ← hstripped, ← readPairs_eq_ok_iff]
  constructor
  · intro h
    split at h
    · exact h
    · cases h
  · intro h
    have hcount := byteCount_of_spells (readPairs_eq_ok_iff.mp h)
    rw [if_pos (by omega), h]

/-! ## Digits alone -/

/-- What is spelled in digits is what is spelled without a plus sign. -/
theorem spells_isDigit_iff : Spells IsDigit cs bs ↔ Spells Opens cs bs ∧ '+' ∉ cs := by
  constructor
  · intro h
    induction h with
    | nil => exact ⟨.nil, nofun⟩
    | cons hc hd _ ih =>
      refine ⟨.cons (.inl hc) hd ih.1, ?_⟩
      rw [List.mem_cons, List.mem_cons]
      rintro (rfl | rfl | hmem)
      · exact not_isDigit_plus hc
      · exact not_isDigit_plus hd
      · exact ih.2 hmem
  · rintro ⟨h, hplus⟩
    induction h with
    | nil => exact .nil
    | cons hc hd _ ih =>
      rw [List.mem_cons, List.mem_cons, not_or, not_or] at hplus
      have hdigit := hc.resolve_right fun hc => hplus.1 hc.1.symm
      exact .cons hdigit hd (ih hplus.2.2)

theorem plus_mem_stripped {text : String} : '+' ∈ stripped text ↔ '+' ∈ text.toList := by
  simp [stripped]

/-- Characters spell `n` bytes in digits if they are twice as many, digits all. -/
theorem exists_spells_isDigit_iff {n : Nat} :
    (∃ bs, Spells IsDigit cs bs ∧ bs.length = n)
      ↔ cs.length = 2 * n ∧ ∀ c ∈ cs, ∃ v, IsDigit c v := by
  constructor
  · rintro ⟨bs, h, rfl⟩
    induction h with
    | nil => exact ⟨rfl, nofun⟩
    | cons hc hd _ ih =>
      simp only [List.length_cons, List.forall_mem_cons]
      exact ⟨by omega, ⟨_, hc⟩, ⟨_, hd⟩, ih.2⟩
  · rintro ⟨hlength, hdigits⟩
    induction n generalizing cs with
    | zero =>
      obtain rfl := List.length_eq_zero_iff.mp hlength
      exact ⟨[], .nil, rfl⟩
    | succ n ih =>
      match cs with
      | c :: d :: rest =>
        simp only [List.length_cons, List.forall_mem_cons] at hlength hdigits
        obtain ⟨⟨high, hc⟩, ⟨low, hd⟩, hrest⟩ := hdigits
        obtain ⟨bs, hbs, rfl⟩ := ih (by omega) hrest
        exact ⟨_, .cons hc hd hbs, rfl⟩

/-! ## A UID in a text -/

theorem ofBytes_eq_ok_iff {uid : Uid} : Uid.ofBytes bs = .ok uid ↔ bs = uid.bytes := by
  constructor
  · intro h
    unfold Uid.ofBytes at h
    split at h
    · cases h
      rfl
    · cases h
  · rintro rfl
    exact Uid.ofBytes_bytes uid

/-- **A text is read as a UID exactly if it spells its four bytes**, blanks left out. -/
theorem parse_eq_ok_iff {text : String} {uid : Uid} :
    Uid.parse text = .ok uid ↔ Spells Opens (stripped text) uid.bytes := by
  rw [← toBytes_eq_ok_iff, Uid.parse]
  cases h : toBytes text with
  | ok bs =>
    rw [Except.ok.injEq]
    exact ofBytes_eq_ok_iff
  | error flaw => exact ⟨nofun, nofun⟩

/-- Bytes that are spelled are those of a UID if they are four. -/
theorem exists_uid_iff : (∃ uid : Uid, Spells lead cs uid.bytes)
    ↔ ∃ bs, Spells lead cs bs ∧ bs.length = 4 := by
  constructor
  · rintro ⟨uid, h⟩
    exact ⟨uid.bytes, h, rfl⟩
  · rintro ⟨bs, h, hlength⟩
    match bs with
    | [b0, b1, b2, b3] => exact ⟨⟨b0, b1, b2, b3⟩, h⟩

/-- The identity read from a text has the UID read from it, and the usual ATQA and SAK. -/
theorem ofUidText_eq_ok_iff {text : String} {identity : Identity} :
    Identity.ofUidText text = .ok identity
      ↔ ∃ uid, Uid.parse text = .ok uid ∧ { (default : Identity) with uid } = identity := by
  rw [Identity.ofUidText, map_eq_ok_iff]

/-- **Bytes are read from a text exactly as it spells them**: pair after pair, blanks left out, a
digit or a plus sign before a digit.  So reading is as strict as spelling in digits, for the bytes
and for a UID of eight digits, exactly on the texts that do not spell them with a plus sign. -/
theorem reads_digits_iff (text : String) :
    (∀ bs, toBytes text = .ok bs ↔ Spells Opens (stripped text) bs) ∧
    ((∃ flaw, toBytes text = .error flaw) ↔ ∀ bs, ¬ Spells Opens (stripped text) bs) ∧
    ((∀ bs, toBytes text = .ok bs ↔ Spells IsDigit (stripped text) bs)
      ↔ ('+' ∈ text.toList → ∀ bs, ¬ Spells Opens (stripped text) bs)) ∧
    (∀ uid, Uid.parse text = .ok uid ↔ Spells Opens (stripped text) uid.bytes) ∧
    (((∃ uid, Uid.parse text = .ok uid)
        ↔ (stripped text).length = 8 ∧ ∀ c ∈ stripped text, ∃ v, IsDigit c v)
      ↔ ('+' ∈ text.toList → ∀ uid : Uid, ¬ Spells Opens (stripped text) uid.bytes)) ∧
    ∀ identity, Identity.ofUidText text = .ok identity
      ↔ ∃ uid, Uid.parse text = .ok uid ∧ { (default : Identity) with uid } = identity := by
  have hbytes (bs : List UInt8) : toBytes text = .ok bs ↔ Spells Opens (stripped text) bs :=
    toBytes_eq_ok_iff
  have huid (uid : Uid) : Uid.parse text = .ok uid ↔ Spells Opens (stripped text) uid.bytes :=
    parse_eq_ok_iff
  have hdigits : ((stripped text).length = 8 ∧ ∀ c ∈ stripped text, ∃ v, IsDigit c v)
      ↔ ∃ uid : Uid, Spells IsDigit (stripped text) uid.bytes :=
    (exists_spells_isDigit_iff (n := 4)).symm.trans exists_uid_iff.symm
  refine ⟨hbytes, ?_, ?_, huid, ?_, fun identity => ofUidText_eq_ok_iff⟩
  · simp only [← hbytes]
    cases toBytes text with
    | ok bs => simp
    | error flaw => simp
  · simp only [hbytes, spells_isDigit_iff, plus_mem_stripped]
    grind
  · simp only [huid, hdigits, spells_isDigit_iff, plus_mem_stripped]
    grind

/-- A plus sign is read in the place of a zero: here are a byte and a UID that no digits spell. -/
theorem plus_sign_is_read :
    (toBytes "+f" = .ok [0x0f] ∧ ∀ bs, ¬ Spells IsDigit (stripped "+f") bs) ∧
    (Uid.parse "+1+2+3+4" = .ok ⟨1, 2, 3, 4⟩ ∧
      ¬ ∀ c ∈ stripped "+1+2+3+4", ∃ v, IsDigit c v) := by
  refine ⟨⟨rfl, fun bs h => ?_⟩, rfl, fun h => ?_⟩
  · exact (spells_isDigit_iff.mp h).2 (by decide)
  · obtain ⟨v, hv⟩ := h '+' (by decide)
    exact not_isDigit_plus hv

end TagEmulation.Hex
