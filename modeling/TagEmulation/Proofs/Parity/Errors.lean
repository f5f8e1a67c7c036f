import Mathlib.Data.List.Basic
import TagEmulation.Proofs.Bits.Row

/-!
# Proofs/Parity/Errors — which errors the parity bits give away

The parity bits of some bytes are written into slots, one after the other (`fillInPlace`), and later
held against the bytes that arrive; the positions of the wrong ones are listed (`WrongAt`,
`of_parityMismatches`).  A flipped bit of a byte turns its parity bit over (`parityBit_xor`).  So a
byte is listed exactly if an odd number of the nine bits on the air was flipped, whatever happened
to its neighbours (`parity_bits_give_odd_errors_away`).
-/

namespace TagEmulation

variable {data error flips parity : List UInt8} {bits : Nat}

/-! ## Filling slots in place -/

/-- Writes the parity bits of some bytes into the slots from `i` on. -/
def fillFrom (i : Nat) : List UInt8 → StateM (List UInt8) Unit
  | [] => pure ()
  | b :: bs => do
    modify (·.set i (parityBit b))
    fillFrom (i + 1) bs

/-- Writes the parity bits of some bytes over the front of the slots, if each byte has one. -/
def fillInPlace (data : List UInt8) : ExceptT Breach (StateM (List UInt8)) Unit := do
  let slots ← get
  if slots.length < data.length then throw (.parityTooShort slots.length data.length)
  else fillFrom 0 data

/-- The slots before the first one that is written stay, and so do those behind the last. -/
theorem run_fillFrom (front : List UInt8) {slots : List UInt8} (h : data.length ≤ slots.length) :
    (fillFrom front.length data).run (front ++ slots)
      = ((), front ++ (parityBits data ++ slots.drop data.length)) := by
  induction data generalizing front slots with
  | nil => rfl
  | cons b bs ih =>
    cases slots with
    | nil => cases h
    | cons slot slots =>
      have hset : (front ++ slot :: slots).set front.length (parityBit b)
          = front ++ [parityBit b] ++ slots := by simp
      have hrest := ih (front ++ [parityBit b]) (Nat.le_of_succ_le_succ h)
      rw [List.length_append, List.append_assoc front _ (_ ++ _)] at hrest
      change (fillFrom (front.length + 1) bs).run ((front ++ slot :: slots).set _ _) = _
      rw [hset]
      exact hrest

/-- Enough slots are filled, and too few are left alone. -/
theorem run_fillInPlace (slots data : List UInt8) :
    (fillInPlace data).run.run slots
      = if slots.length < data.length
        then (.error (.parityTooShort slots.length data.length), slots)
        else (.ok (), parityBits data ++ slots.drop data.length) := by
  change (if slots.length < data.length then throw _ else liftM (fillFrom 0 data) :
    ExceptT Breach (StateM (List UInt8)) Unit).run.run slots = _
  split_ifs with h
  · rfl
  · have hfill := run_fillFrom [] (not_lt.mp h)
    change (Except.ok (), ((fillFrom 0 data).run slots).2) = _
    exact congrArg (fun filled => (Except.ok (), filled.2)) hfill

theorem bytes_overwrite_parityBits {n : Nat} (out : Buffer n) (h : data.length ≤ n) :
    (out.overwrite (parityBits data)).bytes = parityBits data ++ out.bytes.drop data.length := by
  change (parityBits data).take n ++ out.bytes.drop (parityBits data).length = _
  rw [List.take_of_length_le (by rwa [length_parityBits]), length_parityBits]

/-- **Filled slot by slot, the slots come out as they do filled at once**; and if there are too few
of them, not one is written. -/
theorem fillInPlace_eq_fillParity {n : Nat} (out : Buffer n) (data : List UInt8) :
    (fillInPlace data).run.run out.bytes = match out.fillParity data with
      | .ok filled => (.ok (), filled.bytes)
      | .error breach => (.error breach, out.bytes) := by
  rw [run_fillInPlace, Buffer.fillParity, out.length_bytes]
  rcases Nat.lt_or_ge n data.length with h | h
  · rw [if_pos h, if_neg (not_le.mpr h)]
  · rw [if_neg (not_lt.mpr h), if_pos h, ← bytes_overwrite_parityBits out h]

/-! ## Positions of wrong parity bits -/

/-- The byte at `i` is one of the whole bytes among the first `bits` bits, and its parity bit is
wrong or missing. -/
def WrongAt (data : List UInt8) (bits : Nat) (parity : List UInt8) (i : Nat) : Prop :=
  ∃ h : i < data.length, i < bits / 8 ∧ parity[i]? ≠ some (parityBit data[i])

/-- **The bytes listed are those with a wrong parity bit**, in ascending order. -/
theorem of_parityMismatches {wrong : List Nat} (h : parityMismatches data bits parity = .ok wrong) :
    wrong.Pairwise (· < ·) ∧ ∀ i, i ∈ wrong ↔ WrongAt data bits parity i := by
  rw [parityMismatches] at h
  split_ifs at h with hbits hslots
  cases h
  refine ⟨List.pairwise_lt_range.filter _, fun i => ?_⟩
  rw [List.mem_filter, List.mem_range, bne_iff_ne, ne_comm, WrongAt]
  constructor
  · rintro ⟨hi, hwrong⟩
    have hlength : i < data.length := by omega
    rw [List.getElem?_eq_getElem hlength] at hwrong
    exact ⟨hlength, hi, hwrong⟩
  · rintro ⟨hlength, hi, hwrong⟩
    rw [List.getElem?_eq_getElem hlength]
    exact ⟨hi, hwrong⟩

/-- They are listed wherever the contracts are kept. -/
theorem exists_parityMismatches (hbits : bits ≤ 8 * data.length) (hslots : bits / 8 ≤ parity.length) :
    ∃ wrong, parityMismatches data bits parity = .ok wrong :=
  ⟨_, (if_neg (not_lt.mpr hbits)).trans (if_neg (not_lt.mpr hslots))⟩

/-! ## Flipped bits -/

theorem rowOdd_byteBits (b : UInt8) : rowOdd (byteBits b) = true ↔ Odd (ones b) := by
  rw [rowOdd_iff, count_byteBits]

/-- The parity bit of a byte, said by the row of its bits. -/
theorem parityBit_eq (b : UInt8) : parityBit b = if rowOdd (byteBits b) then 0 else 1 := by
  have heven : ones b % 2 = 0 ↔ rowOdd (byteBits b) = false := by
    rw [← Nat.not_odd_iff, ← rowOdd_byteBits, Bool.not_eq_true]
  simp only [parityBit, heven]
  cases rowOdd (byteBits b) <;> rfl

/-- **An odd number of flipped bits turns the parity bit of a byte over.** -/
theorem parityBit_xor (b e : UInt8) :
    parityBit (b ^^^ e) = parityBit b ^^^ if rowOdd (byteBits e) then 1 else 0 := by
  rw [parityBit_eq, parityBit_eq, byteBits_xor, rowOdd_zipWith (by simp)]
  cases rowOdd (byteBits b) <;> cases rowOdd (byteBits e) <;> rfl

/-- Of the nine bits of a byte on the air, an odd number was flipped if the parity bits differ. -/
theorem xor_ne_parityBit_iff {b e flip : UInt8} (hflip : flip = 0 ∨ flip = 1) :
    parityBit b ^^^ flip ≠ parityBit (b ^^^ e) ↔ Odd (ones e + flip.toNat) := by
  rw [parityBit_xor, Ne, UInt8.xor_right_inj]
  rcases hflip with rfl | rfl
  · rw [UInt8.toNat_zero, Nat.add_zero, ← rowOdd_byteBits]
    cases rowOdd (byteBits e) <;> decide
  · rw [UInt8.toNat_one, Nat.odd_add_one, ← rowOdd_byteBits]
    cases rowOdd (byteBits e) <;> decide

/-- A byte and its parity bit arrive at odds if an odd number of the nine bits was flipped. -/
theorem flipped_ne_iff {i : Nat} (hi : i < data.length) (he : i < error.length)
    (hf : i < flips.length) (hflip : flips[i] = 0 ∨ flips[i] = 1)
    (hi' : i < (flipBits data error).length) :
    (flipBits (parityBits data) flips)[i]? ≠ some (parityBit (flipBits data error)[i])
      ↔ Odd (ones error[i] + flips[i].toNat) := by
  have hbyte : (flipBits data error)[i] = data[i] ^^^ error[i] := List.getElem_zipWith ..
  have hslot : (flipBits (parityBits data) flips)[i]? = some (parityBit data[i] ^^^ flips[i]) := by
    rw [flipBits, List.getElem?_zipWith, parityBits, List.getElem?_map,
      List.getElem?_eq_getElem hi, List.getElem?_eq_getElem hf]
    rfl
  rw [hbyte, hslot, Ne, Option.some.injEq]
  exact xor_ne_parityBit_iff hflip

/-- **The bytes listed are those of which an odd number of bits arrives flipped**, the parity bit
counted in. -/
theorem exists_mismatches_flipBits (herror : error.length = data.length)
    (hflips : flips.length = data.length) (hflip : ∀ flip ∈ flips, flip = 0 ∨ flip = 1) :
    ∃ wrong, parityMismatches (flipBits data error) (8 * data.length)
        (flipBits (parityBits data) flips) = .ok wrong ∧ wrong.Pairwise (· < ·) ∧
      ∀ i, i ∈ wrong ↔ ∃ (_ : i < error.length) (_ : i < flips.length),
        Odd (ones error[i] + flips[i].toNat) := by
  have hdata : (flipBits data error).length = data.length := length_flipBits herror
  have hparity : (flipBits (parityBits data) flips).length = data.length := by
    rw [length_flipBits (hflips.trans (length_parityBits data).symm), length_parityBits]
  have hwhole : 8 * data.length / 8 = data.length := Nat.mul_div_cancel_left _ (by decide)
  have hbits : 8 * data.length ≤ 8 * (flipBits data error).length := by rw [hdata]
  have hslots : 8 * data.length / 8 ≤ (flipBits (parityBits data) flips).length := by
    rw [hparity, hwhole]
  obtain ⟨wrong, hwrong⟩ := exists_parityMismatches hbits hslots
  obtain ⟨hascending, hmem⟩ := of_parityMismatches hwrong
  refine ⟨wrong, hwrong, hascending, fun i => ?_⟩
  rw [hmem, WrongAt, hwhole]
  constructor
  · rintro ⟨hi', hi, hne⟩
    have he : i < error.length := herror ▸ hi
    have hf : i < flips.length := hflips ▸ hi
    exact ⟨he, hf, (flipped_ne_iff hi he hf (hflip _ (List.getElem_mem hf)) hi').mp hne⟩
  · rintro ⟨he, hf, hodd⟩
    have hi : i < data.length := herror ▸ he
    have hi' : i < (flipBits data error).length := hdata ▸ hi
    exact ⟨hi', hi, (flipped_ne_iff hi he hf (hflip _ (List.getElem_mem hf)) hi').mpr hodd⟩

/-- **Parity bits give away every byte with an odd number of flipped bits**, and no other.  Written
into slots, be it one after the other, they are the right ones of all bytes, and the slots behind
stay as they were; if there are too few slots, not one is written.  Of bytes and parity bits that
arrive with any of their bits flipped, those positions are listed, in ascending order, at which the
bits flipped in the byte and in its parity bit are odd in number.  And no position is ever listed
behind the whole bytes that a number of bits makes. -/
theorem parity_bits_give_odd_errors_away (data : List UInt8) :
    (∀ {n : Nat} (out : Buffer n), data.length ≤ n →
      ∃ filled, out.fillParity data = .ok filled ∧
        (fillInPlace data).run.run out.bytes = (.ok (), filled.bytes) ∧
        filled.bytes = parityBits data ++ out.bytes.drop data.length ∧
        ∀ error flips : List UInt8, error.length = data.length → flips.length = data.length →
          (∀ flip ∈ flips, flip = 0 ∨ flip = 1) →
          ∃ wrong, parityMismatches (flipBits data error) (8 * data.length)
              (flipBits (filled.bytes.take data.length) flips) = .ok wrong ∧
            wrong.Pairwise (· < ·) ∧
            ∀ i, i ∈ wrong ↔ ∃ (_ : i < error.length) (_ : i < flips.length),
              Odd (ones error[i] + flips[i].toNat)) ∧
    (∀ {n : Nat} (out : Buffer n), n < data.length →
      out.fillParity data = .error (.parityTooShort n data.length) ∧
        (fillInPlace data).run.run out.bytes
          = (.error (.parityTooShort n data.length), out.bytes)) ∧
    ∀ bits parity wrong, parityMismatches data bits parity = .ok wrong →
      ∀ i ∈ wrong, i < bits / 8 := by
  refine ⟨fun {n} out hroom => ?_, fun {n} out hfew => ?_, fun bits parity wrong h i hi => ?_⟩
  · have hfilled : out.fillParity data = .ok (out.overwrite (parityBits data)) := if_pos hroom
    have hbytes := bytes_overwrite_parityBits out hroom
    have hfront : (out.overwrite (parityBits data)).bytes.take data.length = parityBits data := by
      rw [hbytes, List.take_left' (length_parityBits data)]
    refine ⟨_, hfilled, ?_, hbytes, fun error flips herror hflips hflip => ?_⟩
    · rw [fillInPlace_eq_fillParity, hfilled]
    · rw [hfront]
      exact exists_mismatches_flipBits herror hflips hflip
  · have hrefused : out.fillParity data = .error (.parityTooShort n data.length) :=
      if_neg (not_le.mpr hfew)
    refine ⟨hrefused, ?_⟩
    rw [fillInPlace_eq_fillParity, hrefused]
  · obtain ⟨-, hwhole, -⟩ := ((of_parityMismatches h).2 i).mp hi
    exact hwhole

/-- Four bytes whose parity bits go into six slots and do not go into three.  Of the bytes that
arrive with one, two, three and no bits flipped, the last two with their parity bits flipped as
well, the first and the last are given away. -/
theorem parity_bits_give_odd_errors_away_of_four_bytes :
    let data : List UInt8 := [0x93, 0x20, 0x26, 0xff]
    let error : List UInt8 := [0x01, 0x03, 0x07, 0x00]
    let flips : List UInt8 := [0, 0, 1, 1]
    let out := Buffer.ofList [0xaa, 0xaa, 0xaa, 0xaa, 0xaa, 0xaa]
    let short := Buffer.ofList [0xaa, 0xaa, 0xaa]
    (∃ filled, out.fillParity data = .ok filled ∧
      filled.bytes = [1, 0, 0, 1, 0xaa, 0xaa] ∧
      ∃ wrong, parityMismatches (flipBits data error) 32
          (flipBits (filled.bytes.take 4) flips) = .ok wrong ∧ wrong = [0, 3] ∧
        ∀ i, i ∈ wrong ↔ ∃ (_ : i < error.length) (_ : i < flips.length),
          Odd (ones error[i] + flips[i].toNat)) ∧
      (fillInPlace data).run.run short.bytes = (.error (.parityTooShort 3 4), short.bytes) ∧
      ∀ i ∈ [0, 2], i < 30 / 8 := by
  intro data error flips out short
  obtain ⟨hfill, hrefuse, hwhole⟩ := parity_bits_give_odd_errors_away data
  obtain ⟨filled, hfilled, -, hbytes, herrors⟩ := hfill out (by decide)
  have hslots : filled.bytes = [1, 0, 0, 1, 0xaa, 0xaa] := hbytes
  obtain ⟨wrong, hwrong, -, hmem⟩ := herrors error flips rfl rfl (by simp [flips])
  have hlisted : parityMismatches (flipBits data error) 32
      (flipBits (filled.bytes.take 4) flips) = .ok [0, 3] := by
    rw [hslots]
    decide
  have hpositions : wrong = [0, 3] := Except.ok.inj (hwrong.symm.trans hlisted)
  exact ⟨⟨filled, hfilled, hslots, wrong, hwrong, hpositions, hmem⟩,
    (hrefuse short (by decide)).2, hwhole 30 [0, 0, 1] _ (by decide)⟩

end TagEmulation
