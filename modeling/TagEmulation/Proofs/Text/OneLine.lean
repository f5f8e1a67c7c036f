import Mathlib.Tactic.SplitIfs
import TagEmulation.Identity

/-!
# Proofs/Text/OneLine — reports that take one line

A text may hold line breaks, but what is wrong with it is told on one line: blanks are left out
before a flaw is looked for, and a flaw shows no more of the text than a pair of its characters
(`Hex.oneLine_of_readPairs`).  So a cause does not break up the report that quotes it
(`Uid.oneLine_of_parse`).
-/

namespace TagEmulation

/-- A text that takes one line. -/
def OneLine (text : String) : Prop := '\n' ∉ text.toList

instance : DecidablePred OneLine := fun _ => inferInstanceAs (Decidable (¬ _))

theorem OneLine.append {front rest : String} (h : OneLine front) (h' : OneLine rest) :
    OneLine (front ++ rest) := by
  rw [OneLine, String.toList_append, List.mem_append]
  exact not_or.mpr ⟨h, h'⟩

/-- A number is written in digits. -/
theorem oneLine_toString (n : Nat) : OneLine (toString n) := by
  rw [OneLine, Nat.toString_eq_repr, Nat.toList_repr]
  intro h
  exact absurd (Nat.isDigit_of_mem_toDigits (by decide) (by decide) h) (by decide)

namespace Hex

variable {cs : List Char} {flaw : Flaw}

theorem oneLine_badPair {pair : String} (h : OneLine pair) :
    OneLine (Flaw.badPair pair).message :=
  .append (.append (by decide) h) (by decide)

/-- A flaw shows no more of a text than a pair of its characters. -/
theorem oneLine_of_readPairs (hcs : '\n' ∉ cs) (h : readPairs cs = .error flaw) :
    OneLine flaw.message := by
  fun_induction readPairs cs with
  | case1 => cases h
  | case2 | case4 | case7 | case9 =>
    cases h
    decide
  | case3 c =>
    cases h
    exact oneLine_badPair (by simpa [OneLine] using hcs)
  | case5 c d rest _ _ b _ ih =>
    rw [List.mem_cons, List.mem_cons, not_or, not_or] at hcs
    cases hrest : readPairs rest with
    | ok tail =>
      rw [hrest] at h
      cases h
    | error flaw' =>
      rw [hrest] at h
      cases h
      exact ih hcs.2.2 hrest
  | case6 c d rest =>
    cases h
    refine oneLine_badPair ?_
    rw [OneLine, String.toList_ofList]
    exact fun hmem => hcs (List.mem_append_left rest hmem)
  | case8 c d rest =>
    cases h
    refine oneLine_badPair ?_
    rw [OneLine, String.toList_singleton]
    exact fun hmem => hcs (List.mem_append_left (d :: rest) hmem)

/-- A line break is a blank. -/
theorem oneLine_of_toBytes {text : String} (h : toBytes text = .error flaw) :
    OneLine flaw.message := by
  unfold toBytes readChars at h
  dsimp only at h
  split_ifs at h
  · exact oneLine_of_readPairs (by simp [isBlank]) h
  · cases h
    decide

end Hex

/-- **What is wrong with a text that names no UID is told on one line.** -/
theorem Uid.oneLine_of_parse {text : String} {cause : Fault} (h : Uid.parse text = .error cause) :
    OneLine cause.message := by
  unfold Uid.parse at h
  cases hbytes : Hex.toBytes text with
  | error flaw =>
    rw [hbytes] at h
    cases h
    exact .append (by decide) (Hex.oneLine_of_toBytes hbytes)
  | ok bs =>
    rw [hbytes] at h
    have hcause : cause = .wrongLength 4 bs.length := by
      simp only at h
      unfold Uid.ofBytes at h
      split at h <;> cases h
      rfl
    have hmessage : cause.message = "invalid length: expected 4, got " ++ toString bs.length := by
      rw [hcause]
      rfl
    rw [hmessage]
    exact .append (by decide) (oneLine_toString _)

end TagEmulation
