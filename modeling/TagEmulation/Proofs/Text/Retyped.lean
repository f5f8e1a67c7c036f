import Mathlib.Data.List.Forall2
import TagEmulation.Proofs.Text.Written

/-!
# Proofs/Text/Retyped — bytes written down, typed again, and read back

Who types the digits of some bytes again may put in blanks, also within a pair, and may take letters
of either case (`Retyped`).  The pairs are lost to the eye then, but not to the reader: once the
blanks are left out, the characters stand one by one for those that were written
(`retyped_iff_forall₂`), and those spell the bytes (`retyped_ofBytes_iff`).  A text with eight digits
of a UID gives that UID, and with any other number of bytes it fails with that number.
-/

namespace TagEmulation.Hex

/-! ## Typing again -/

/-- The ASCII blanks. -/
def blanks : List Char := [' ', '\t', '\n', '\x0c', '\r']

/-- The second character is the first one, or the same letter in the other case. -/
def SameLetter (c d : Char) : Prop := d = c ∨ d = c.toUpper ∨ d = c.toLower

/-- The second text is the first one with blanks put in anywhere and letters of either case. -/
inductive Retyped : List Char → List Char → Prop
  | nil : Retyped [] []
  | blank {b : Char} {cs ds : List Char} (hb : b ∈ blanks) (h : Retyped cs ds) :
      Retyped cs (b :: ds)
  | letter {c d : Char} {cs ds : List Char} (hd : SameLetter c d) (h : Retyped cs ds) :
      Retyped (c :: cs) (d :: ds)

variable {c d : Char} {cs ds : List Char} {bs : List UInt8} {v : Nat}

instance (c d : Char) : Decidable (SameLetter c d) :=
  inferInstanceAs (Decidable (_ ∨ _))

theorem retyped_map_toUpper (cs : List Char) : Retyped cs (cs.map Char.toUpper) := by
  induction cs with
  | nil => exact .nil
  | cons c cs ih => exact .letter (.inr (.inl rfl)) ih

theorem Retyped.refl (cs : List Char) : Retyped cs cs := by
  induction cs with
  | nil => exact .nil
  | cons c cs ih => exact .letter (.inl rfl) ih

theorem Retyped.append {cs' ds' : List Char} (h : Retyped cs ds) (h' : Retyped cs' ds') :
    Retyped (cs ++ cs') (ds ++ ds') := by
  induction h with
  | nil => exact h'
  | blank hb _ ih => exact .blank hb ih
  | letter hd _ ih => exact .letter hd ih

theorem retyped_nil (h : ∀ c ∈ ds, c ∈ blanks) : Retyped [] ds := by
  induction ds with
  | nil => exact .nil
  | cons d ds ih =>
    rw [List.forall_mem_cons] at h
    exact .blank h.1 (ih h.2)

/-- Blanks may follow. -/
theorem Retyped.append_blanks {gap : List Char} (h : Retyped cs ds)
    (hgap : ∀ c ∈ gap, c ∈ blanks) : Retyped cs (ds ++ gap) := by
  have hboth := h.append (retyped_nil hgap)
  rwa [List.append_nil] at hboth

/-! ## Letters -/

theorem lowerDigits_getElem? : ∀ v < 16, lowerDigits[v]? = some (digit v) := by decide

theorem upperDigits_getElem? : ∀ v < 16, upperDigits[v]? = some (digit v).toUpper := by decide

theorem toLower_digit : ∀ v < 16, (digit v).toLower = digit v := by decide

theorem upperDigit_eq : ∀ v < 16, upperDigit v = (digit v).toUpper := by decide

/-- A digit typed again is a digit of the same value, of either case. -/
theorem sameLetter_digit_iff (hv : v < 16) : SameLetter (digit v) d ↔ IsDigit d v := by
  rw [SameLetter, IsDigit, lowerDigits_getElem? v hv, upperDigits_getElem? v hv,
    toLower_digit v hv, Option.some.injEq, Option.some.injEq]
  grind

theorem lt_of_isDigit (h : IsDigit d v) : v < 16 := by
  rcases h with h | h
  · exact (List.getElem?_eq_some_iff.mp h).1
  · exact (List.getElem?_eq_some_iff.mp h).1

/-- No blank is a digit. -/
theorem notMem_blanks_of_isDigit (h : IsDigit d v) : d ∉ blanks := by
  intro hd
  simp only [blanks, List.mem_cons, List.not_mem_nil, or_false] at hd
  rw [← value?_eq_some_iff] at h
  rcases hd with rfl | rfl | rfl | rfl | rfl <;> cases h

/-! ## Pairs -/

/-- **Digits typed again stand for the old ones one by one**, blanks left out. -/
theorem retyped_iff_forall₂ (hcs : ∀ c ∈ cs, ∃ v < 16, c = digit v) :
    Retyped cs ds ↔ List.Forall₂ SameLetter cs (ds.filter (· ∉ blanks)) := by
  constructor
  · intro h
    induction h with
    | nil => exact .nil
    | blank hb _ ih =>
      rw [List.filter_cons_of_neg (by simpa using hb)]
      exact ih hcs
    | letter hd _ ih =>
      rw [List.forall_mem_cons] at hcs
      obtain ⟨⟨v, hv, rfl⟩, hcs⟩ := hcs
      have hkept := notMem_blanks_of_isDigit ((sameLetter_digit_iff hv).mp hd)
      rw [List.filter_cons_of_pos (by simpa using hkept)]
      exact .cons hd (ih hcs)
  · -- the other way the typed text leads: a blank was put in, and the rest stands for a character
    clear hcs
    induction ds generalizing cs with
    | nil =>
      intro h
      cases h
      exact .nil
    | cons d ds ih =>
      intro h
      by_cases hd : d ∈ blanks
      · rw [List.filter_cons_of_neg (by simpa using hd)] at h
        exact .blank hd (ih h)
      · rw [List.filter_cons_of_pos (by simpa using hd)] at h
        cases h with
        | cons hletter hrest => exact .letter hletter (ih hrest)

theorem pair_ofNat {high low : Nat} (hhigh : high < 16) (hlow : low < 16) :
    pair (UInt8.ofNat (16 * high + low)) = [digit high, digit low] := by
  have hbyte : (UInt8.ofNat (16 * high + low)).toNat = 16 * high + low :=
    UInt8.toNat_ofNat_of_lt' (by rw [UInt8.size]; omega)
  have hdiv : (16 * high + low) / 16 = high := by omega
  have hmod : (16 * high + low) % 16 = low := by omega
  rw [pair, hbyte, hdiv, hmod]

theorem exists_digit_of_mem_flatMap : ∀ c ∈ bs.flatMap pair, ∃ v < 16, c = digit v := by
  intro c hc
  obtain ⟨b, -, hc⟩ := List.mem_flatMap.mp hc
  rw [pair, List.mem_pair] at hc
  rcases hc with rfl | rfl
  · exact ⟨_, high_lt b, rfl⟩
  · exact ⟨_, low_lt b, rfl⟩

/-- The digits of some bytes, typed in either case, spell the bytes. -/
theorem forall₂_sameLetter_iff :
    List.Forall₂ SameLetter (bs.flatMap pair) ds ↔ Spells IsDigit ds bs := by
  constructor
  · intro h
    induction bs generalizing ds with
    | nil =>
      cases h
      exact .nil
    | cons b bs ih =>
      rw [List.flatMap_cons, pair] at h
      cases h with
      | cons hhigh h =>
        cases h with
        | cons hlow h =>
          have hb : UInt8.ofNat (16 * (b.toNat / 16) + b.toNat % 16) = b := by
            rw [Nat.div_add_mod, UInt8.ofNat_toNat]
          rw [sameLetter_digit_iff (high_lt b)] at hhigh
          rw [sameLetter_digit_iff (low_lt b)] at hlow
          have hspells := Spells.cons hhigh hlow (ih h)
          rwa [hb] at hspells
  · intro h
    induction h with
    | nil => exact .nil
    | cons hhigh hlow _ ih =>
      have hhigh' := lt_of_isDigit hhigh
      have hlow' := lt_of_isDigit hlow
      rw [List.flatMap_cons, pair_ofNat hhigh' hlow']
      exact .cons ((sameLetter_digit_iff hhigh').mpr hhigh)
        (.cons ((sameLetter_digit_iff hlow').mpr hlow) ih)

/-- **A text is the digits of some bytes typed again exactly if it spells them in digits.** -/
theorem retyped_ofBytes_iff {text : String} :
    Retyped (ofBytes bs).toList text.toList ↔ Spells IsDigit (stripped text) bs := by
  rw [ofBytes, String.toList_ofList, retyped_iff_forall₂ exists_digit_of_mem_flatMap,
    forall₂_sameLetter_iff]
  rfl

theorem upperOfBytes_toList : (upperOfBytes bs).toList = (ofBytes bs).toList.map Char.toUpper := by
  rw [upperOfBytes, ofBytes, String.toList_ofList, String.toList_ofList, List.map_flatMap]
  refine List.flatMap_congr fun b _ => ?_
  rw [upperPair, pair, upperDigit_eq _ (high_lt b),
    upperDigit_eq _ (low_lt b)]
  rfl

/-! ## Reading back -/

/-- What is read back, and read without a plus sign, is the digits typed again. -/
theorem retyped_iff_toBytes {text : String} :
    Retyped (ofBytes bs).toList text.toList ↔ toBytes text = .ok bs ∧ '+' ∉ text.toList := by
  rw [retyped_ofBytes_iff, spells_isDigit_iff, plus_mem_stripped, toBytes_eq_ok_iff]

theorem parse_of_toBytes {text : String} (h : toBytes text = .ok bs) :
    Uid.parse text = Uid.ofBytes bs := by
  rw [Uid.parse, h]

theorem ofBytes_of_length_ne (h : bs.length ≠ 4) :
    Uid.ofBytes bs = .error (.wrongLength 4 bs.length) := by
  unfold Uid.ofBytes
  split
  · exact absurd rfl h
  · rfl

/-- **Bytes are read back however their digits are typed**: with blanks anywhere, and letters of
either case.  What is typed so is what is read without a plus sign, and nothing else.  A UID, and
the identity that has it and is the usual one otherwise, are read back of eight digits typed so, be
it as they are written in lower case or in upper case; and with any other number of bytes, reading
a UID fails with that number. -/
theorem retyped_digits_are_read_back :
    (∀ bs text, Retyped (ofBytes bs).toList text.toList
      ↔ toBytes text = .ok bs ∧ '+' ∉ text.toList) ∧
    (∀ bs text, Retyped (ofBytes bs).toList text.toList → bs.length ≠ 4 →
      Uid.parse text = .error (.wrongLength 4 bs.length) ∧
        Identity.ofUidText text = .error (.wrongLength 4 bs.length)) ∧
    (∀ (uid : Uid) text, Retyped uid.toHex.toList text.toList →
      Uid.parse text = .ok uid ∧
        Identity.ofUidText text = .ok { (default : Identity) with uid }) ∧
    ∀ uid : Uid, ∀ text ∈ [uid.toHex, uid.toUpperHex],
      Retyped uid.toHex.toList text.toList ∧ Uid.parse text = .ok uid ∧
        Identity.ofUidText text = .ok { (default : Identity) with uid } := by
  have hread (uid : Uid) (text : String) (h : Retyped uid.toHex.toList text.toList) :
      Uid.parse text = .ok uid ∧
        Identity.ofUidText text = .ok { (default : Identity) with uid } := by
    have hparsed : Uid.parse text = .ok uid := parse_of_toBytes (retyped_iff_toBytes.mp h).1
    exact ⟨hparsed, ofUidText_eq_ok_iff.mpr ⟨uid, hparsed, rfl⟩⟩
  refine ⟨fun bs text => retyped_iff_toBytes, fun bs text h hlength => ?_, hread,
    fun uid text htext => ?_⟩
  · have hparsed := parse_of_toBytes (retyped_iff_toBytes.mp h).1
    rw [ofBytes_of_length_ne hlength] at hparsed
    refine ⟨hparsed, ?_⟩
    rw [Identity.ofUidText, hparsed]
    rfl
  · have hretyped : Retyped uid.toHex.toList text.toList := by
      rw [List.mem_pair] at htext
      rcases htext with rfl | rfl
      · exact .refl _
      · rw [Uid.toUpperHex, upperOfBytes_toList]
        exact retyped_map_toUpper _
    exact ⟨hretyped, hread uid text hretyped⟩

/-- Two bytes typed with blanks between all of their digits, and a UID typed in both cases. -/
theorem retyped_digits_are_read_back_from_two_texts :
    let bs : List UInt8 := [0xde, 0x0f]
    let text := "D e\t0\nF"
    let uid : Uid := ⟨0xca, 0xfe, 0xba, 0xbe⟩
    let line := "CAfe bABe\r\n"
    (Retyped (ofBytes bs).toList text.toList ∧ toBytes text = .ok bs ∧ bs.length ≠ 4 ∧
      Uid.parse text = .error (.wrongLength 4 2)) ∧
    (Retyped uid.toHex.toList line.toList ∧ Uid.parse line = .ok uid ∧
      Identity.ofUidText line = .ok { (default : Identity) with uid }) ∧
    uid.toUpperHex ∈ [uid.toHex, uid.toUpperHex] ∧ Uid.parse uid.toUpperHex = .ok uid := by
  intro bs text uid line
  obtain ⟨hbytes, hother, huid, hwritten⟩ := retyped_digits_are_read_back
  have htext : Retyped (ofBytes bs).toList text.toList := by
    have hdigits : (ofBytes bs).toList = ['d', 'e', '0', 'f'] := by decide +kernel
    have htyped : text.toList = ['D', ' ', 'e', '\t', '0', '\n', 'F'] := by decide +kernel
    rw [hdigits, htyped]
    repeat first | exact .nil | refine .letter (by decide) ?_ | refine .blank (by decide) ?_
  have hline : Retyped uid.toHex.toList line.toList := by
    have hdigits : uid.toHex.toList = ['c', 'a', 'f', 'e', 'b', 'a', 'b', 'e'] := by
      decide +kernel
    have htyped : line.toList
        = ['C', 'A', 'f', 'e', ' ', 'b', 'A', 'B', 'e', '\r', '\n'] := by decide +kernel
    rw [hdigits, htyped]
    repeat first | exact .nil | refine .letter (by decide) ?_ | refine .blank (by decide) ?_
  have hlength : bs.length ≠ 4 := by decide
  have hupper : uid.toUpperHex ∈ [uid.toHex, uid.toUpperHex] := .tail _ (.head _)
  exact ⟨⟨htext, ((hbytes bs text).mp htext).1, hlength, (hother bs text htext hlength).1⟩,
    ⟨hline, huid uid line hline⟩, hupper, (hwritten uid _ hupper).2.1⟩

end TagEmulation.Hex
