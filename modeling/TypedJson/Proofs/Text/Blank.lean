import Mathlib.Data.List.TakeWhile
import TypedJson.Proofs.Text.Digits
import TypedJson.Text.Blank

/-!
Blanks in front of a text. They are dropped up to the first character that is none, such as a
digit, and then there are no more to drop.
-/

namespace TypedJson.Text

theorem isBlank_eq_false_of_isDigit {c : Char} (digit : isDigit c = true) : isBlank c = false := by
  obtain ⟨low, high⟩ := isDigit_iff.mp digit
  simp only [isBlank, Bool.or_eq_false_iff, Bool.and_eq_false_iff, decide_eq_false_iff_not,
    beq_eq_false_iff_ne]
  omega

theorem dropBlanks_append {blanks rest : List Char} (all : ∀ c ∈ blanks, isBlank c = true)
    : dropBlanks (blanks ++ rest) = dropBlanks rest :=
  List.dropWhile_append_of_pos all

theorem dropBlanks_cons {c : Char} {rest : List Char} (solid : isBlank c = false)
    : dropBlanks (c :: rest) = c :: rest := by
  simp [dropBlanks, solid]

theorem exists_eq_append_dropBlanks (text : List Char)
    : ∃ blanks, (∀ c ∈ blanks, isBlank c = true) ∧ text = blanks ++ dropBlanks text :=
  ⟨text.takeWhile isBlank, fun _ hc => List.mem_takeWhile_imp hc,
    List.takeWhile_append_dropWhile.symm⟩

theorem dropBlanks_dropBlanks (text : List Char)
    : dropBlanks (dropBlanks text) = dropBlanks text := by
  obtain ⟨blanks, hb, ht⟩ := exists_eq_append_dropBlanks text
  exact (dropBlanks_append hb).symm.trans (congrArg dropBlanks ht.symm)

end TypedJson.Text
