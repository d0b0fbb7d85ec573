import TypedJson.Text.Blank
import TypedJson.Text.NameChar

/-!
No character is both a blank and part of a bare name, so a name ends where a blank begins.
-/

namespace TypedJson.Text

/-- The code points of the blanks. -/
def blankCodes : List Nat :=
  [9, 10, 11, 12, 13, 0x20, 0x85, 0xA0, 0x1680, 0x2000, 0x2001, 0x2002, 0x2003, 0x2004, 0x2005,
    0x2006, 0x2007, 0x2008, 0x2009, 0x200A, 0x2028, 0x2029, 0x202F, 0x205F, 0x3000]

theorem mem_blankCodes {c : Char} (blank : isBlank c = true) : c.toNat ∈ blankCodes := by
  simp only [isBlank, Bool.or_eq_true, Bool.and_eq_true, decide_eq_true_eq, beq_iff_eq] at blank
  simp only [blankCodes, List.mem_cons, List.not_mem_nil, or_false]
  omega

/-- Whether a character is a letter or a number is decided by its code point. -/
def isLetterOrNumberCode (code : Nat) : Bool :=
  if code < 128 then isBasicLetterOrDigit code else inRanges letterOrNumberRanges code

theorem isNameChar_eq_false_of_isBlank {c : Char} (blank : isBlank c = true)
    : isNameChar c = false := by
  have hcode := mem_blankCodes blank
  have hletter : ∀ code ∈ blankCodes, isLetterOrNumberCode code = false := by decide +kernel
  have hmark : ∀ mark ∈ ['_', '.', ':'], mark.toNat ∉ blankCodes := by simp [blankCodes]
  have hne : ∀ mark ∈ ['_', '.', ':'], c ≠ mark := by
    intro mark hm he
    exact hmark mark hm (he ▸ hcode)
  have hc : isLetterOrNumber c = false := hletter c.toNat hcode
  simp only [isNameChar, hc, Bool.or_false, Bool.or_eq_false_iff, beq_eq_false_iff_ne]
  exact ⟨⟨hne '_' (by simp), hne '.' (by simp)⟩, hne ':' (by simp)⟩

theorem isBlank_eq_false_of_isNameChar {c : Char} (name : isNameChar c = true)
    : isBlank c = false := by
  cases hb : isBlank c with
  | false => rfl
  | true => exact absurd (isNameChar_eq_false_of_isBlank hb) (by simp [name])

end TypedJson.Text
