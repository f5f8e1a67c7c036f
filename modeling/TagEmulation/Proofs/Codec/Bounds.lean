import Mathlib.Algebra.Order.Ring.Nat
import Mathlib.Tactic.SplitIfs
import TagEmulation.Access

/-!
# Proofs/Codec/Bounds — when a reader keeps to its bounds

A reader of bytes at an offset owes the bytes if all of them are there, and if not the number of
bytes there are (`Reads`).  It asks first whether the end of what it reads lies in the data, but
that end may be one that no word holds (`Arithmetic.Overruns`).  Where sums are checked, adding up
is then a breach; where they wrap around, the end may have come to lie in the data, and what is read
after it is a breach.  That is the only way in which a reader fails to give what it owes
(`readers_keep_to_bounds_iff`), and it is proved for all readers at once
(`Arithmetic.reads_of_endOf`).
-/

namespace TagEmulation

/-! ## What a reader owes -/

/-- Of the `count` bytes from `start` on, the result is their value, if they all lie in the data;
`bytesOf` shows the bytes of a value.  If they do not, it is the fault that tells the end of what is
wanted, as far as a word holds it, and how many bytes there are. -/
def Reads {α : Type} (bytesOf : α → List UInt8) (data : List UInt8) (start count : Nat)
    (result : Except Failure α) : Prop :=
  if start + count ≤ data.length then
    ∃ a, result = .ok a ∧ bytesOf a = (data.drop start).take count
  else result = .error (.fault (.wrongLength ((start + count) % UInt64.size) data.length))

section Owed

variable {α : Type} {bytesOf : α → List UInt8} {data : List UInt8} {start count : Nat}
  {result : Except Failure α}

theorem reads_of_le {a : α} (h : start + count ≤ data.length) (hresult : result = .ok a)
    (hbytes : bytesOf a = (data.drop start).take count) :
    Reads bytesOf data start count result := by
  rw [Reads, if_pos h]
  exact ⟨a, hresult, hbytes⟩

theorem reads_of_lt (h : data.length < start + count)
    (hresult : result
      = .error (.fault (.wrongLength ((start + count) % UInt64.size) data.length))) :
    Reads bytesOf data start count result := by
  rw [Reads, if_neg (not_le.mpr h)]
  exact hresult

/-- A breach is never owed. -/
theorem not_reads_of_breach {breach : Breach} (hresult : result = .error (.breach breach)) :
    ¬ Reads bytesOf data start count result := by
  subst hresult
  rw [Reads]
  split_ifs
  · rintro ⟨a, ha, -⟩
    cases ha
  · exact nofun

end Owed

/-! ## Ends that no word holds -/

namespace Arithmetic

variable {a : Arithmetic} {data : List UInt8} {start count : UInt64}

/-- No word holds the end of the `count` bytes from `start` on; and if sums wrap around, what is
left of it lies in the data. -/
def Overruns (data : List UInt8) (start count : UInt64) : Arithmetic → Prop
  | .checked => UInt64.size ≤ start.toNat + count.toNat
  | .wrapping => UInt64.size ≤ start.toNat + count.toNat ∧
      start.toNat + count.toNat ≤ UInt64.size + data.length

instance (data : List UInt8) (start count : UInt64) (a : Arithmetic) :
    Decidable (a.Overruns data start count) :=
  match a with
  | .checked => inferInstanceAs (Decidable (_ ≤ _))
  | .wrapping => inferInstanceAs (Decidable (_ ∧ _))

theorem not_overruns_of_lt (h : start.toNat + count.toNat < UInt64.size) :
    ¬ a.Overruns data start count := by
  cases a with
  | checked => exact not_le.mpr h
  | wrapping => exact fun hover => not_le.mpr h hover.1

/-- What stops a reader at an overrun: the sum, or what the sum is used for. -/
def breachOf (used : Breach) : Arithmetic → Breach
  | .checked => .sumPastWord
  | .wrapping => used

theorem sum_of_lt (h : start.toNat + count.toNat < UInt64.size) :
    a.sum start count = .ok (start + count) := by
  cases a with
  | checked => exact if_pos h
  | wrapping => rfl

theorem sum_checked_of_le (h : UInt64.size ≤ start.toNat + count.toNat) :
    checked.sum start count = .error .sumPastWord := if_neg (not_lt.mpr h)

theorem toNat_end (start count : UInt64) :
    (start + count).toNat = (start.toNat + count.toNat) % UInt64.size := UInt64.toNat_add ..

/-- What is left of an end that no word holds. -/
theorem mod_size_of_le (h : UInt64.size ≤ start.toNat + count.toNat) :
    (start.toNat + count.toNat) % UInt64.size = start.toNat + count.toNat - UInt64.size := by
  have hstart : start.toNat < UInt64.size := start.toNat_lt
  have hcount : count.toNat < UInt64.size := count.toNat_lt
  rw [Nat.mod_eq_sub_mod h, Nat.mod_eq_of_lt (by omega)]

/-- An end that a word holds is not before the start. -/
theorem not_end_lt (h : start.toNat + count.toNat < UInt64.size) : ¬ start + count < start := by
  rw [UInt64.lt_iff_toNat_lt, toNat_end, Nat.mod_eq_of_lt h]
  omega

/-- An end that has wrapped around is. -/
theorem end_lt (h : UInt64.size ≤ start.toNat + count.toNat) : start + count < start := by
  have hcount : count.toNat < UInt64.size := count.toNat_lt
  rw [UInt64.lt_iff_toNat_lt, toNat_end, mod_size_of_le h]
  omega

/-- Every reader that adds up asks whether the end lies in the data. -/
theorem endOf_eq (hsum : a.sum start count = .ok (start + count)) :
    a.endOf data start count
      = if data.length < (start.toNat + count.toNat) % UInt64.size then
          .error (.fault (.wrongLength ((start.toNat + count.toNat) % UInt64.size) data.length))
        else .ok (start + count) := by
  rw [← toNat_end]
  simp only [endOf, hsum]
  unfold requireLength
  split_ifs <;> rfl

theorem endOf_of_le (h : start.toNat + count.toNat ≤ data.length)
    (hfits : start.toNat + count.toNat < UInt64.size) :
    a.endOf data start count = .ok (start + count) := by
  rw [endOf_eq (sum_of_lt hfits), Nat.mod_eq_of_lt hfits, if_neg (not_lt.mpr h)]

theorem endOf_checked_of_le (h : UInt64.size ≤ start.toNat + count.toNat) :
    checked.endOf data start count = .error (.breach .sumPastWord) := by
  rw [endOf, sum_checked_of_le h]

/-- **One argument for all readers.**  A reader fails if it finds no end, reads what lies in the
data, and is stopped if the end has wrapped around.  So it gives what it owes, but for overruns. -/
theorem reads_of_endOf {α : Type} {bytesOf : α → List UInt8} {result : Except Failure α}
    {used : Breach} (hsize : data.length < UInt64.size)
    (hfails : ∀ failure, a.endOf data start count = .error failure → result = .error failure)
    (hwithin : start.toNat + count.toNat ≤ data.length →
      ∃ v, result = .ok v ∧ bytesOf v = (data.drop start.toNat).take count.toNat)
    (hback : UInt64.size ≤ start.toNat + count.toNat →
      a.endOf data start count = .ok (start + count) → result = .error (.breach used)) :
    if a.Overruns data start count then result = .error (.breach (a.breachOf used))
    else Reads bytesOf data start.toNat count.toNat result := by
  rcases Nat.lt_or_ge (start.toNat + count.toNat) UInt64.size with hfits | hover
  · -- A word holds the end, so that both arithmetics find the same.
    rw [if_neg (not_overruns_of_lt hfits)]
    rcases Nat.lt_or_ge data.length (start.toNat + count.toNat) with hbehind | hin
    · refine reads_of_lt hbehind (hfails _ ((endOf_eq (sum_of_lt hfits)).trans (if_pos ?_)))
      rwa [Nat.mod_eq_of_lt hfits]
    · obtain ⟨v, hv, hbytes⟩ := hwithin hin
      exact reads_of_le hin hv hbytes
  · -- None does: then the sum fails, or what is left of it passes for an end.
    cases a with
    | checked =>
      rw [if_pos (show checked.Overruns data start count from hover)]
      exact hfails _ (endOf_checked_of_le hover)
    | wrapping =>
      have hleft := mod_size_of_le hover
      by_cases hin : start.toNat + count.toNat ≤ UInt64.size + data.length
      · rw [if_pos (show wrapping.Overruns data start count from ⟨hover, hin⟩)]
        exact hback hover ((endOf_eq rfl).trans (if_neg (by omega)))
      · rw [if_neg (show ¬ wrapping.Overruns data start count from fun h => hin h.2)]
        exact reads_of_lt (by omega) (hfails _ ((endOf_eq rfl).trans (if_pos (by omega))))

/-! ## The readers -/

theorem sliceAt_of_error {failure : Failure} (h : a.endOf data start count = .error failure) :
    a.sliceAt data start count = .error failure := by
  rw [sliceAt, h]

theorem sliceAt_of_le (h : start.toNat + count.toNat ≤ data.length)
    (hfits : start.toNat + count.toNat < UInt64.size) :
    a.sliceAt data start count = .ok ((data.drop start.toNat).take count.toNat) := by
  rw [sliceAt, endOf_of_le h hfits]
  exact if_neg (not_end_lt hfits)

/-- An end that has wrapped around makes the range run backwards. -/
theorem sliceAt_of_back (hover : UInt64.size ≤ start.toNat + count.toNat)
    (h : a.endOf data start count = .ok (start + count)) :
    a.sliceAt data start count
      = .error (.breach (.backwardRange start.toNat (start + count).toNat)) := by
  rw [sliceAt, h]
  exact if_pos (end_lt hover)

theorem byteAt_of_lt (h : start.toNat < data.length) (hfits : start.toNat + 1 < UInt64.size) :
    a.byteAt data start = .ok data[start.toNat] := by
  have hend : a.endOf data start 1 = .ok (start + 1) := endOf_of_le h hfits
  rw [byteAt, hend, List.getElem?_eq_getElem h]

theorem uidAt_of_le (h : start.toNat + 4 ≤ data.length) (hfits : start.toNat + 4 < UInt64.size)
    {uid : Uid} (hbytes : (data.drop start.toNat).take 4 = uid.bytes) :
    a.uidAt data start = .ok uid := by
  have hfour : a.sliceAt data start 4 = .ok ((data.drop start.toNat).take 4) :=
    sliceAt_of_le h hfits
  rw [uidAt, hfour, hbytes]
  rfl

variable (a)

theorem reads_sliceAt (hsize : data.length < UInt64.size) (start count : UInt64) :
    if a.Overruns data start count then
      a.sliceAt data start count
        = .error (.breach (a.breachOf (.backwardRange start.toNat (start + count).toNat)))
    else Reads id data start.toNat count.toNat (a.sliceAt data start count) :=
  reads_of_endOf hsize (fun _ => sliceAt_of_error)
    (fun hin => ⟨_, sliceAt_of_le hin (hin.trans_lt hsize), rfl⟩) sliceAt_of_back

theorem reads_byteAt (hsize : data.length < UInt64.size) (start : UInt64) :
    if a.Overruns data start 1 then
      a.byteAt data start = .error (.breach (a.breachOf (.indexPastBytes data.length start.toNat)))
    else Reads (fun b => [b]) data start.toNat 1 (a.byteAt data start) := by
  refine reads_of_endOf hsize (fun _ h => by rw [byteAt, h]) (fun hin => ?_) fun hover h => ?_
  · refine ⟨_, byteAt_of_lt hin (lt_of_le_of_lt hin hsize), ?_⟩
    rw [List.drop_eq_getElem_cons hin]
    rfl
  · have hout : data.length ≤ start.toNat := by
      have hlast : UInt64.size ≤ start.toNat + 1 := hover
      omega
    rw [byteAt, h, List.getElem?_eq_none hout]

/-- Four bytes are a UID. -/
theorem exists_bytes_eq {bs : List UInt8} (h : bs.length = 4) : ∃ uid : Uid, bs = uid.bytes := by
  match bs, h with
  | [a, b, c, d], _ => exact ⟨⟨a, b, c, d⟩, rfl⟩

theorem reads_uidAt (hsize : data.length < UInt64.size) (start : UInt64) :
    if a.Overruns data start 4 then
      a.uidAt data start
        = .error (.breach (a.breachOf (.backwardRange start.toNat (start + 4).toNat)))
    else Reads Uid.bytes data start.toNat 4 (a.uidAt data start) := by
  refine reads_of_endOf hsize (fun _ h => by rw [uidAt, sliceAt_of_error h]) (fun hin => ?_)
    fun hover h => by rw [uidAt, sliceAt_of_back hover h]
  have hroom : start.toNat + 4 ≤ data.length := hin
  have hfour : ((data.drop start.toNat).take 4).length = 4 := by
    rw [List.length_take, List.length_drop]
    omega
  obtain ⟨uid, hbytes⟩ := exists_bytes_eq hfour
  exact ⟨uid, uidAt_of_le hroom (hroom.trans_lt hsize) hbytes, hbytes.symm⟩

variable {a}

/-- A byte that is compared is read first, and fails as it does. -/
theorem requireByte_eq_error_iff {index : UInt64} {expected : UInt8} {failure : Failure}
    (h : ∀ actual, failure ≠ .fault (.wrongCommand expected actual)) :
    a.requireByte data index expected = .error failure ↔ a.byteAt data index = .error failure := by
  rw [requireByte]
  cases a.byteAt data index with
  | error why => simp
  | ok actual =>
    have hother : Failure.fault (.wrongCommand expected actual) ≠ failure := (h actual).symm
    dsimp only
    split_ifs <;> simp [hother]

end Arithmetic

/-! ## Bounds kept -/

/-- A reader that breaks its contract just where a condition holds keeps to it just where not. -/
theorem reads_iff_not {α : Type} {bytesOf : α → List UInt8} {data : List UInt8} {start count : Nat}
    {result : Except Failure α} {breach : Breach} {overruns : Prop} [Decidable overruns]
    (h : if overruns then result = .error (.breach breach)
      else Reads bytesOf data start count result) :
    (Reads bytesOf data start count result ↔ ¬ overruns) ∧
      (result = .error (.breach breach) ↔ overruns) := by
  split_ifs at h with hover
  · exact ⟨iff_of_false (not_reads_of_breach h) (not_not_intro hover), iff_of_true h hover⟩
  · exact ⟨iff_of_true h hover, iff_of_false (fun hresult => not_reads_of_breach hresult h) hover⟩

/-- **A reader keeps to its bounds exactly if it does not overrun them.**  Where sums are checked, a
word must hold the end of what it reads; where they wrap around, what is left of an end that no word
holds must lie behind the data.  Then a reader gives the bytes if they are there, and otherwise
tells how many there are.  If it overruns, it is stopped by a breach.  A byte that is compared is
missing exactly if it cannot be read. -/
theorem readers_keep_to_bounds_iff (a : Arithmetic) (data : List UInt8)
    (hsize : data.length < 2 ^ 63) (start count : UInt64) (expected : UInt8) :
    (Reads id data start.toNat count.toNat (a.sliceAt data start count)
      ↔ ¬ a.Overruns data start count) ∧
    (a.sliceAt data start count
        = .error (.breach (a.breachOf (.backwardRange start.toNat (start + count).toNat)))
      ↔ a.Overruns data start count) ∧
    (Reads (fun b => [b]) data start.toNat 1 (a.byteAt data start)
      ↔ ¬ a.Overruns data start 1) ∧
    (a.byteAt data start = .error (.breach (a.breachOf (.indexPastBytes data.length start.toNat)))
      ↔ a.Overruns data start 1) ∧
    (Reads Uid.bytes data start.toNat 4 (a.uidAt data start) ↔ ¬ a.Overruns data start 4) ∧
    (a.uidAt data start
        = .error (.breach (a.breachOf (.backwardRange start.toNat (start + 4).toNat)))
      ↔ a.Overruns data start 4) ∧
    (∀ wanted present,
      a.requireByte data start expected = .error (.fault (.wrongLength wanted present))
        ↔ a.byteAt data start = .error (.fault (.wrongLength wanted present))) ∧
    ((∃ breach, a.requireByte data start expected = .error (.breach breach))
      ↔ a.Overruns data start 1) := by
  have hword : data.length < UInt64.size := hsize.trans (by decide)
  obtain ⟨hslice, hslices⟩ := reads_iff_not (a.reads_sliceAt hword start count)
  obtain ⟨hbyte, hbytes⟩ := reads_iff_not (a.reads_byteAt hword start)
  obtain ⟨huid, huids⟩ := reads_iff_not (a.reads_uidAt hword start)
  refine ⟨hslice, hslices, hbyte, hbytes, huid, huids,
    fun wanted present => Arithmetic.requireByte_eq_error_iff fun _ => nofun, ?_⟩
  have hcompared (breach : Breach) : a.requireByte data start expected = .error (.breach breach)
      ↔ a.byteAt data start = .error (.breach breach) :=
    Arithmetic.requireByte_eq_error_iff fun _ => nofun
  constructor
  · rintro ⟨breach, hbreach⟩
    by_contra hkeeps
    exact not_reads_of_breach ((hcompared breach).mp hbreach) (hbyte.mpr hkeeps)
  · intro hover
    exact ⟨_, (hcompared _).mpr (hbytes.mpr hover)⟩

/-- Six bytes with a UID at the third, and two ranges that start at the last position but one.  No
word holds their ends; wrapped around, only that of the shorter one lies in the data. -/
theorem readers_keep_to_bounds_in_six_bytes :
    let data : List UInt8 := [0x93, 0x70, 0xde, 0xad, 0xbe, 0xaf]
    data.length < 2 ^ 63 ∧ Reads Uid.bytes data 2 4 (uidAt data 2) ∧
      uidAt data 2 = .ok ⟨0xde, 0xad, 0xbe, 0xaf⟩ ∧
      Reads (fun b => [b]) data 6 1 (byteAt data 6) ∧
      sliceAt data 0xfffffffffffffffe 5 = .error (.breach .sumPastWord) ∧
      Arithmetic.wrapping.sliceAt data 0xfffffffffffffffe 5
        = .error (.breach (.backwardRange 0xfffffffffffffffe 3)) ∧
      sliceAt data 0xfffffffffffffffe 9 = .error (.breach .sumPastWord) ∧
      Reads id data 0xfffffffffffffffe 9
        (Arithmetic.wrapping.sliceAt data 0xfffffffffffffffe 9) := by
  intro data
  have hsize : data.length < 2 ^ 63 := by decide
  obtain ⟨-, -, -, -, huid, -⟩ := readers_keep_to_bounds_iff .checked data hsize 2 4 0x93
  obtain ⟨-, -, hbyte, -⟩ := readers_keep_to_bounds_iff .checked data hsize 6 1 0x93
  have hrange (a : Arithmetic) (count : UInt64) :=
    readers_keep_to_bounds_iff a data hsize 0xfffffffffffffffe count 0x93
  obtain ⟨-, hfive, -⟩ := hrange .checked 5
  obtain ⟨-, hback, -⟩ := hrange .wrapping 5
  obtain ⟨-, hnine, -⟩ := hrange .checked 9
  obtain ⟨hbehind, -⟩ := hrange .wrapping 9
  exact ⟨hsize, huid.mpr (by decide), rfl, hbyte.mpr (by decide), hfive.mpr (by decide),
    hback.mpr (by decide), hnine.mpr (by decide), hbehind.mpr (by decide)⟩

/-- No word holds the end of the byte at the last position of all: no number of bytes is told,
whether the sum is refused or taken for zero. -/
theorem byte_at_last_position_is_a_breach :
    let last : UInt64 := 0xffffffffffffffff
    byteAt [0x93] last = .error (.breach .sumPastWord) ∧
      ¬ Reads (fun b => [b]) [0x93] last.toNat 1 (byteAt [0x93] last) ∧
      Arithmetic.wrapping.byteAt [0x93] last
        = .error (.breach (.indexPastBytes 1 0xffffffffffffffff)) ∧
      ¬ Reads (fun b => [b]) [0x93] last.toNat 1 (Arithmetic.wrapping.byteAt [0x93] last) := by
  intro last
  have hsum : byteAt [0x93] last = .error (.breach .sumPastWord) := by decide +kernel
  have hindex : Arithmetic.wrapping.byteAt [0x93] last
      = .error (.breach (.indexPastBytes 1 0xffffffffffffffff)) := by decide +kernel
  exact ⟨hsum, not_reads_of_breach hsum, hindex, not_reads_of_breach hindex⟩

end TagEmulation
