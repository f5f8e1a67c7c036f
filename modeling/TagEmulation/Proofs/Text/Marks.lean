import TagEmulation.Proofs.Parity.Errors
import TagEmulation.Proofs.Text.Written

/-!
# Proofs/Text/Marks — where a text of bits has its marks

A text of bits with marks is the same text without them, but for the marks (`map_unmarked`), and it
has them at fixed places: behind the two digits of each whole byte whose parity bit is wrong or
missing (`mark_ofBitsParity_iff`).  So to read the marks off the text is to hold the parity bits
against the bytes (`marks_of_parityMismatches`).
-/

namespace TagEmulation

variable {data parity : List UInt8} {bits k : Nat}

/-! ## Digits -/

theorem Hex.digit_ne_mark : ∀ v < 16, digit v ≠ '!' := by decide

theorem Hex.mark_notMem_pair (b : UInt8) : '!' ∉ pair b := by
  have hhigh := digit_ne_mark _ (high_lt b)
  have hlow := digit_ne_mark _ (low_lt b)
  simp [pair, hhigh.symm, hlow.symm]

namespace Text

theorem mark_notMem_residue (data : List UInt8) (bits : Nat) : '!' ∉ residue data bits := by
  rw [residue]
  split_ifs
  · exact List.not_mem_nil
  · cases data[bits / 8]? with
    | none => exact List.not_mem_nil
    | some b => exact Hex.mark_notMem_pair b

/-! ## Marks taken out -/

/-- The character, or a blank if it is a mark. -/
def unmarked (c : Char) : Char := if c = '!' then ' ' else c

theorem map_unmarked_of_notMem {cs : List Char} (h : '!' ∉ cs) : cs.map unmarked = cs := by
  have hsame : ∀ c ∈ cs, unmarked c = c := fun c hc =>
    if_neg fun hmark : c = '!' => h (hmark ▸ hc)
  rw [List.map_congr_left hsame, List.map_id']

theorem map_unmarked_marked (data parity : List UInt8) :
    (marked data parity).map unmarked = spaced data := by
  induction data generalizing parity with
  | nil => rfl
  | cons b bs ih =>
    have hplace : unmarked (if parity.head? = some (parityBit b) then ' ' else '!') = ' ' := by
      split_ifs <;> rfl
    rw [marked, List.map_append, List.map_append, ih,
      map_unmarked_of_notMem (Hex.mark_notMem_pair b), List.map_cons, hplace]
    rfl

/-- **Without its marks, a text with marks is the plain one.** -/
theorem map_unmarked_ofBitsParity (data : List UInt8) (bits : Nat) (parity : List UInt8) :
    (ofBitsParity data bits parity).toList.map unmarked = (ofBits data bits).toList := by
  rw [ofBitsParity, ofBits, String.toList_ofList, String.toList_ofList, List.map_append,
    map_unmarked_marked, map_unmarked_of_notMem (mark_notMem_residue data bits)]

/-! ## Places of the marks -/

/-- Each whole byte takes four characters, and the third is a mark if its parity bit is wrong or
missing. -/
theorem mark_marked_iff (data parity : List UInt8) (k : Nat) :
    (marked data parity)[k]? = some '!'
      ↔ ∃ i, k = 4 * i + 2 ∧ ∃ h : i < data.length, parity[i]? ≠ some (parityBit data[i]) := by
  induction data generalizing parity k with
  | nil => simp [marked]
  | cons b bs ih =>
    have hdigit {d : Char} (hd : d ∈ Hex.pair b) : some d ≠ some '!' := fun h =>
      Hex.mark_notMem_pair b (Option.some.inj h ▸ hd)
    -- the first byte takes the places 0 to 3; those behind are the places of the other bytes
    rcases k with _ | _ | _ | _ | k
    · exact iff_of_false (hdigit (by simp [Hex.pair])) (by rintro ⟨i, hk, -⟩; omega)
    · exact iff_of_false (hdigit (by simp [Hex.pair])) (by rintro ⟨i, hk, -⟩; omega)
    · have hplace : (if parity.head? = some (parityBit b) then ' ' else '!') = '!'
          ↔ parity[0]? ≠ some (parityBit b) := by
        rw [List.head?_eq_getElem?]
        split_ifs with hright <;> simp [hright]
      refine (Option.some_inj.trans hplace).trans ⟨fun hne => ⟨0, rfl, Nat.succ_pos _, hne⟩, ?_⟩
      rintro ⟨i, hk, h, hne⟩
      obtain rfl : i = 0 := by omega
      exact hne
    · have hblank : some ' ' ≠ some '!' := by decide
      exact iff_of_false hblank (by rintro ⟨i, hk, -⟩; omega)
    · refine (ih parity.tail k).trans ⟨?_, ?_⟩
      · rintro ⟨i, rfl, h, hne⟩
        rw [List.getElem?_tail] at hne
        exact ⟨i + 1, by omega, Nat.succ_lt_succ h, hne⟩
      · rintro ⟨i, hk, h, hne⟩
        obtain ⟨i, rfl⟩ := Nat.exists_eq_add_one_of_ne_zero (n := i) (by omega)
        rw [← List.getElem?_tail] at hne
        exact ⟨i, by omega, Nat.lt_of_succ_lt_succ h, hne⟩

/-- **A text has its marks behind the digits of each whole byte whose parity bit is wrong or
missing**, and nowhere else. -/
theorem mark_ofBitsParity_iff (data : List UInt8) (bits : Nat) (parity : List UInt8) (k : Nat) :
    (ofBitsParity data bits parity).toList[k]? = some '!'
      ↔ ∃ i, k = 4 * i + 2 ∧ WrongAt data bits parity i := by
  have hmarks : (ofBitsParity data bits parity).toList[k]? = some '!'
      ↔ (marked (data.take (bits / 8)) parity)[k]? = some '!' := by
    rw [ofBitsParity, String.toList_ofList]
    rcases Nat.lt_or_ge k (marked (data.take (bits / 8)) parity).length with hk | hk
    · rw [List.getElem?_append_left hk]
    · rw [List.getElem?_append_right hk, List.getElem?_eq_none hk]
      refine iff_of_false (fun h => ?_) nofun
      exact mark_notMem_residue data bits (List.mem_of_getElem? h)
  rw [hmarks, mark_marked_iff]
  refine exists_congr fun i => and_congr_right fun _ => ⟨?_, ?_⟩
  · rintro ⟨h, hne⟩
    rw [List.length_take, Nat.lt_min] at h
    rw [List.getElem_take] at hne
    exact ⟨h.2, h.1, hne⟩
  · rintro ⟨h, hwhole, hne⟩
    have hlength : i < (data.take (bits / 8)).length := by
      rw [List.length_take, Nat.lt_min]
      exact ⟨hwhole, h⟩
    refine ⟨hlength, ?_⟩
    rwa [List.getElem_take]

/-- The text has its marks behind the digits of the bytes at these positions, which ascend, and
nowhere else. -/
structure Marks (text : String) (positions : List Nat) : Prop where
  ascending : positions.Pairwise (· < ·)
  mark_iff : ∀ k, text.toList[k]? = some '!' ↔ ∃ i ∈ positions, k = 4 * i + 2

/-- **To hold parity bits against bytes is to read the marks off their text.** -/
theorem marks_of_parityMismatches {wrong : List Nat}
    (h : parityMismatches data bits parity = .ok wrong) :
    Marks (ofBitsParity data bits parity) wrong := by
  obtain ⟨hascending, hmem⟩ := of_parityMismatches h
  refine ⟨hascending, fun k => (mark_ofBitsParity_iff data bits parity k).trans ?_⟩
  exact exists_congr fun i => by rw [← hmem, and_comm]

end Text

end TagEmulation
