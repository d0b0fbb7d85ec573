import Mathlib.Data.List.TakeWhile
import TypedJson.Number.Notation
import TypedJson.Proofs.Number.Binary64
import TypedJson.Proofs.Text.Digits

/-!
Decimals that read back. Rounding a ratio depends on the ratio alone, so zeros behind the digits
of a decimal may be moved into its exponent, and the shortest decimal of a number, whichever
search finds it, is read as that number.
-/

namespace TypedJson.Binary64

open Number (roundHalfEven)

variable {negative : Bool}

-----------------------------------------------------------------------------------------
-- Rounding a ratio
-----------------------------------------------------------------------------------------

theorem roundHalfEven_mul_mul {factor : Nat} (h : 0 < factor) (num den : Nat)
    : roundHalfEven (num * factor) (den * factor) = roundHalfEven num den := by
  have hlt : ∀ a b : Nat, a * factor < b * factor ↔ a < b := fun a b => Nat.mul_lt_mul_right h
  simp only [roundHalfEven, Nat.mul_div_mul_right _ _ h, Nat.mul_mod_mul_right, ← Nat.mul_assoc,
    hlt]

theorem roundMagnitude_mul_mul {factor : Nat} (h : 0 < factor) (num den : Nat)
    : roundMagnitude (num * factor) (den * factor) = roundMagnitude num den := by
  have hshift : ∀ scale, (den * factor) <<< scale = (den <<< scale) * factor := by
    intro scale
    rw [Nat.shiftLeft_eq, Nat.shiftLeft_eq]
    ring
  simp only [roundMagnitude, Nat.mul_div_mul_right _ _ h, hshift, roundHalfEven_mul_mul h]

/-- Equal ratios are rounded to one number. -/
theorem ofMagnitude_congr {num den num' den' : Nat} (hd : 0 < den) (hd' : 0 < den')
    (ratio : num * den' = num' * den)
    : ofMagnitude negative num den = ofMagnitude negative num' den' := by
  have hr : roundMagnitude num den = roundMagnitude num' den' := by
    rw [← roundMagnitude_mul_mul hd' num den, ratio, Nat.mul_comm den den',
      roundMagnitude_mul_mul hd]
  simp only [ofMagnitude, hr]

-----------------------------------------------------------------------------------------
-- Reading decimals
-----------------------------------------------------------------------------------------

/-- The power of ten just above a decimal. -/
def top (digits : Nat) (exponent : Int) : Int :=
  exponent + (Text.digitsOf digits).length

/-- A decimal as a ratio, counted in the least positive number. -/
def ratio (digits : Nat) : Int → Nat × Nat
  | .ofNat e => (digits * 10 ^ e * unit, 1)
  | .negSucc e => (digits * unit, 10 ^ (e + 1))

theorem ofDecimal_zero (exponent : Int) : ofDecimal negative 0 exponent = zero negative :=
  if_pos rfl

theorem ofDecimal_of_range {digits : Nat} {exponent : Int} (positive : digits ≠ 0)
    (low : -400 ≤ top digits exponent) (high : top digits exponent ≤ 400)
    : ofDecimal negative digits exponent
        = ofMagnitude negative (ratio digits exponent).1 (ratio digits exponent).2 := by
  unfold ofDecimal
  rw [if_neg positive]
  simp only [top, Text.digitsOf] at low high
  dsimp only
  rw [if_neg (by omega), if_neg (by omega)]
  cases exponent <;> rfl

theorem ratio_pos (digits : Nat) (exponent : Int) : 0 < (ratio digits exponent).2 := by
  cases exponent with
  | ofNat e => exact Nat.one_pos
  | negSucc e => exact Nat.pow_pos (by decide)

theorem top_mul_pow {digits : Nat} (h : digits ≠ 0) (count : Nat) (exponent : Int)
    : top (digits * 10 ^ count) exponent = top digits (exponent + count) := by
  simp only [top, Text.digitsOf_mul_pow (Nat.pos_of_ne_zero h), List.length_append,
    List.length_replicate]
  omega

/-- The ratio of a decimal with zeros behind its digits, by cases on the signs of the exponents. -/
theorem ratio_mul_pow (digits count : Nat) (exponent : Int)
    : (ratio (digits * 10 ^ count) exponent).1 * (ratio digits (exponent + count)).2
        = (ratio digits (exponent + count)).1 * (ratio (digits * 10 ^ count) exponent).2 := by
  cases exponent with
  | ofNat e =>
      have hs : (Int.ofNat e + count : Int) = Int.ofNat (e + count) := rfl
      simp only [hs, ratio]
      ring
  | negSucc e =>
      by_cases h : count ≤ e
      · have hs : (Int.negSucc e + count : Int) = Int.negSucc (e - count) := by omega
        have he : e + 1 = (e - count + 1) + count := by omega
        simp only [hs, ratio]
        rw [he, pow_add]
        ring
      · have hs : (Int.negSucc e + count : Int) = Int.ofNat (count - (e + 1)) := by
          rw [Int.ofNat_eq_natCast]
          omega
        have hc : count = (count - (e + 1)) + (e + 1) := by omega
        simp only [hs, ratio]
        conv_lhs => rw [hc, pow_add]
        ring

/-- Zeros behind the digits of a decimal may be moved into its exponent. -/
theorem ofDecimal_mul_pow (negative : Bool) (digits count : Nat) (exponent : Int)
    : ofDecimal negative (digits * 10 ^ count) exponent
        = ofDecimal negative digits (exponent + count) := by
  by_cases hz : digits = 0
  · rw [hz, Nat.zero_mul, ofDecimal_zero, ofDecimal_zero]
  · have hz' : digits * 10 ^ count ≠ 0 := Nat.mul_ne_zero hz (Nat.pow_pos (by decide)).ne'
    have htop := top_mul_pow hz count exponent
    by_cases hrange : -400 ≤ top digits (exponent + count) ∧ top digits (exponent + count) ≤ 400
    · rw [ofDecimal_of_range hz hrange.1 hrange.2,
        ofDecimal_of_range hz' (htop ▸ hrange.1) (htop ▸ hrange.2)]
      exact ofMagnitude_congr (ratio_pos _ _) (ratio_pos _ _) (ratio_mul_pow digits count exponent)
    · -- Far outside the range both are answered from the count of digits.
      simp only [top, Text.digitsOf] at htop hrange
      simp only [ofDecimal, if_neg hz, if_neg hz', htop]
      by_cases hhigh : 400 < exponent + count + ((Nat.toDigits 10 digits).length : Int)
      · rw [if_pos hhigh, if_pos hhigh]
      · rw [if_neg hhigh, if_neg hhigh, if_pos (by omega), if_pos (by omega)]

-----------------------------------------------------------------------------------------
-- Reading back
-----------------------------------------------------------------------------------------

theorem isFinite_infinity : (infinity negative).isFinite = false := by
  cases negative <;> decide

theorem stored_zero : Stored 0 0 :=
  ⟨by decide, by decide, fun _ => rfl⟩

theorem magnitude_zero : (zero negative).magnitude = 0 :=
  magnitude_make stored_zero

/-- A number of no magnitude is a zero. -/
theorem eq_zero_of_magnitude {x : Binary64} (finite : x.isFinite = true) (h : x.magnitude = 0)
    : x = zero x.isNegative := by
  have hstored := stored_of_isFinite finite
  have hs : x.significand = 0 := by simpa [magnitude, Nat.shiftLeft_eq] using h
  have hscale : x.scale = 0 := hstored.normal (by omega)
  calc x
      = make x.isNegative x.significand x.scale := (make_of_isFinite finite).symm
    _ = zero x.isNegative := by rw [hs, hscale, zero]

/-- A magnitude has one significand and scale. -/
theorem eq_of_shiftLeft_eq {a s b t : Nat} (ha : Stored a s) (hb : Stored b t)
    (h : a <<< s = b <<< t)
    : (a, s) = (b, t) := by
  rw [← roundMagnitude_of_stored ha Nat.one_pos, ← roundMagnitude_of_stored hb Nat.one_pos, h]

/-- A decimal that reads back does so with either sign, and lies in the range that is computed. -/
theorem ofDecimal_of_readsBack {x : Binary64} (finite : x.isFinite = true)
    (positive : x.magnitude ≠ 0) {decimal : Decimal}
    (back : readsBack x.magnitude decimal = true)
    : ofDecimal x.isNegative decimal.digits decimal.exponent = x
        ∧ decimal.digits ≠ 0
        ∧ -400 ≤ top decimal.digits decimal.exponent
        ∧ top decimal.digits decimal.exponent ≤ 400 := by
  obtain ⟨digits, exponent⟩ := decimal
  simp only [readsBack, Bool.and_eq_true, beq_iff_eq] at back
  obtain ⟨hfinite, hmagnitude⟩ := back
  have hdigits : digits ≠ 0 := by
    intro he
    subst he
    rw [ofDecimal_zero, magnitude_zero] at hmagnitude
    exact positive hmagnitude.symm
  have hrange : -400 ≤ top digits exponent ∧ top digits exponent ≤ 400 := by
    simp only [ofDecimal, if_neg hdigits] at hfinite hmagnitude
    simp only [top, Text.digitsOf]
    by_cases hhigh : 400 < exponent + ((Nat.toDigits 10 digits).length : Int)
    · rw [if_pos hhigh, isFinite_infinity] at hfinite
      cases hfinite
    · by_cases hlow : exponent + ((Nat.toDigits 10 digits).length : Int) < -400
      · rw [if_neg hhigh, if_pos hlow, magnitude_zero] at hmagnitude
        exact absurd hmagnitude.symm positive
      · omega
  refine ⟨?_, hdigits, hrange.1, hrange.2⟩
  rw [ofDecimal_of_range hdigits hrange.1 hrange.2] at hfinite hmagnitude ⊢
  generalize (ratio digits exponent).1 = num, (ratio digits exponent).2 = den
    at hfinite hmagnitude ⊢
  by_cases hscale : 2045 < (roundMagnitude num den).2
  · simp only [ofMagnitude, if_pos hscale, isFinite_infinity] at hfinite
    cases hfinite
  · have hstored := stored_roundMagnitude num den (Nat.not_lt.mp hscale)
    simp only [ofMagnitude, if_neg hscale, magnitude_make hstored] at hmagnitude ⊢
    have hpair := eq_of_shiftLeft_eq hstored (stored_of_isFinite finite) hmagnitude
    obtain ⟨hsignificand, hs⟩ := Prod.mk.inj hpair
    rw [hsignificand, hs]
    exact make_of_isFinite finite

theorem Stored.magnitude_lt {significand scale bits : Nat} (h : Stored significand scale)
    (hb : 53 + scale ≤ bits)
    : significand <<< scale < 2 ^ bits := by
  have hs : significand < 2 ^ 53 := h.bound
  calc significand <<< scale
      = significand * 2 ^ scale := Nat.shiftLeft_eq _ _
    _ < 2 ^ 53 * 2 ^ scale := Nat.mul_lt_mul_of_pos_right hs (Nat.two_pow_pos scale)
    _ = 2 ^ (53 + scale) := (pow_add 2 53 scale).symm
    _ ≤ 2 ^ bits := Nat.pow_le_pow_right (by decide) hb

theorem top_of_length {digits : Nat} (low : 750 < (Text.digitsOf digits).length)
    (high : (Text.digitsOf digits).length ≤ 1474)
    : -400 ≤ top digits (-1074) ∧ top digits (-1074) ≤ 400 := by
  simp only [top]
  omega

/-- The exact decimal of a number reads back: its digits count a power of ten that the power of
two in the least positive number completes. -/
theorem readsBack_exactDecimal {x : Binary64} (finite : x.isFinite = true)
    (positive : x.magnitude ≠ 0)
    : readsBack x.magnitude (exactDecimal x.magnitude) = true := by
  have hstored := stored_of_isFinite finite
  have hupper : x.magnitude < 2 ^ 2098 := hstored.magnitude_lt (by have := hstored.range; omega)
  have hdigits : x.magnitude * 5 ^ 1074 ≠ 0 := Nat.mul_ne_zero positive (by decide +kernel)
  have hlow : 750 < (Text.digitsOf (x.magnitude * 5 ^ 1074)).length := by
    rw [Text.lt_length_digitsOf_iff (by decide)]
    have h5 : 10 ^ 750 ≤ 5 ^ 1074 := by decide +kernel
    exact h5.trans (Nat.le_mul_of_pos_left _ (Nat.pos_of_ne_zero positive))
  have hhigh : (Text.digitsOf (x.magnitude * 5 ^ 1074)).length ≤ 1474 := by
    rw [Text.length_digitsOf_le_iff (by decide)]
    have h5 : 2 ^ 2098 * 5 ^ 1074 ≤ 10 ^ 1474 := by decide +kernel
    have hfive : 0 < 5 ^ 1074 := by decide +kernel
    exact Nat.lt_of_lt_of_le (Nat.mul_lt_mul_of_pos_right hupper hfive) h5
  have htop := top_of_length hlow hhigh
  have hratio : ratio (x.magnitude * 5 ^ 1074) (-1074)
      = ((x.significand <<< x.scale) * 10 ^ 1074, 10 ^ 1074) := by
    have hten : 5 ^ 1074 * unit = 10 ^ 1074 := by decide +kernel
    have he : (-1074 : Int) = Int.negSucc 1073 := rfl
    rw [he, ratio, Nat.mul_assoc, hten, magnitude]
  have hvalue : ofDecimal false (x.magnitude * 5 ^ 1074) (-1074)
      = make false x.significand x.scale := by
    rw [ofDecimal_of_range hdigits htop.1 htop.2, hratio]
    exact ofMagnitude_of_stored hstored (by decide +kernel)
  have hexact : exactDecimal x.magnitude = ⟨x.magnitude * 5 ^ 1074, -1074⟩ := by
    have hpow : Nat.pow 5 1074 = 5 ^ 1074 := by decide +kernel
    rw [exactDecimal, hpow]
  rw [readsBack, hexact]
  dsimp only
  rw [hvalue, isFinite_make hstored, magnitude_make hstored, magnitude, beq_self_eq_true,
    Bool.and_self]

theorem readsBack_of_withDigits? {magnitude count : Nat} {decimal : Decimal}
    (h : withDigits? magnitude count = some decimal)
    : readsBack magnitude decimal = true :=
  List.find?_some h

/-- The shortest decimal of a number reads back, whichever search finds it. -/
theorem readsBack_shortest {x : Binary64} (finite : x.isFinite = true)
    (positive : x.magnitude ≠ 0)
    : readsBack x.magnitude (shortest x.magnitude) = true := by
  rw [shortest]
  cases h : (List.range 17).findSome? fun n => withDigits? x.magnitude (n + 1) with
  | none => exact readsBack_exactDecimal finite positive
  | some decimal =>
      obtain ⟨count, _, hd⟩ := List.exists_of_findSome?_eq_some h
      exact readsBack_of_withDigits? hd

-----------------------------------------------------------------------------------------
-- Significant digits
-----------------------------------------------------------------------------------------

/-- A run of digits is its significant part and the zeros that were cut off behind it. -/
theorem reverse_dropWhile_append (digits : List Char)
    : ∃ count,
        digits = (digits.reverse.dropWhile (· == '0')).reverse ++ List.replicate count '0' := by
  have hzeros : digits.reverse.takeWhile (· == '0')
      = List.replicate (digits.reverse.takeWhile (· == '0')).length '0' := by
    apply List.eq_replicate_of_mem
    intro c hc
    simpa using List.mem_takeWhile_imp hc
  refine ⟨(digits.reverse.takeWhile (· == '0')).length, ?_⟩
  rw [← List.reverse_replicate, ← hzeros, ← List.reverse_append, List.takeWhile_append_dropWhile,
    List.reverse_reverse]

/-- The significant digits of a decimal and the place of the first one: they are digits, the
first is no zero, and behind them they stand for the decimal. -/
structure Significant (decimal : Decimal) (digits : List Char) (exponent : Int) : Prop where
  all : ∀ c ∈ digits, Text.isDigit c = true
  head : ∃ first rest, digits = first :: rest ∧ first ≠ '0'
  place : exponent + 1 = top decimal.digits decimal.exponent
  value : ∃ count : Nat, decimal.digits = Text.numberOf digits * 10 ^ count
    ∧ decimal.exponent + count = exponent + 1 - digits.length

theorem significant_spec {decimal : Decimal} (h : decimal.digits ≠ 0)
    : Significant decimal (significant decimal).1 (significant decimal).2 := by
  obtain ⟨count, hcount⟩ := reverse_dropWhile_append (Text.digitsOf decimal.digits)
  have hd : (significant decimal).1
      = ((Text.digitsOf decimal.digits).reverse.dropWhile (· == '0')).reverse := rfl
  have he : (significant decimal).2
      = decimal.exponent + (Text.digitsOf decimal.digits).length - 1 := rfl
  rw [← hd] at hcount
  have hlen := congrArg List.length hcount
  simp only [List.length_append, List.length_replicate] at hlen
  have hnumber : decimal.digits = Text.numberOf (significant decimal).1 * 10 ^ count := by
    rw [← Text.numberOf_append_zeros, ← hcount, Text.numberOf_digitsOf]
  constructor
  · intro c hc
    apply Text.isDigit_of_mem_digitsOf (n := decimal.digits)
    rw [hcount]
    exact List.mem_append_left _ hc
  · have hhead := Text.head?_digitsOf (Nat.pos_of_ne_zero h)
    rw [hcount] at hhead
    cases hds : (significant decimal).1 with
    | nil =>
        rw [hds, Text.numberOf, Text.numberFrom_eq_ofDigitChars, Nat.ofDigitChars_nil,
          Nat.zero_mul] at hnumber
        exact absurd hnumber h
    | cons first rest =>
        rw [hds] at hhead
        exact ⟨first, rest, rfl, fun hz => hhead (by rw [hz]; rfl)⟩
  · rw [he, top]
    omega
  · exact ⟨count, hnumber, by rw [he]; omega⟩

end TypedJson.Binary64
