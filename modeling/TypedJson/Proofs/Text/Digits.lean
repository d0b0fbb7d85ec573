import Mathlib.Algebra.Order.Ring.Nat
import Mathlib.Data.List.Induction
import Mathlib.Data.Nat.Digits.Defs
import Mathlib.Tactic.Ring
import TypedJson.Text.Digits

/-!
Runs of digits and the numbers that they write. The digits of a number write that number, zeros
in front of a run do not count, and each one behind it multiplies by ten. A run without a zero in
front is the only one of its number.
-/

namespace TypedJson.Text

theorem isDigit_iff {c : Char} : isDigit c = true ↔ 48 ≤ c.toNat ∧ c.toNat ≤ 57 := by
  simp only [isDigit, Bool.and_eq_true, decide_eq_true_eq, Char.le_def, UInt32.le_iff_toNat_le]
  rfl

-----------------------------------------------------------------------------------------
-- Decimal digits
-----------------------------------------------------------------------------------------

theorem numberFrom_eq_ofDigitChars (value : Nat) (digits : List Char)
    : numberFrom value digits = Nat.ofDigitChars 10 digits value := by
  simp only [numberFrom, Nat.ofDigitChars_eq_foldl, Nat.mul_comm]

theorem numberOf_digitsOf (n : Nat) : numberOf (digitsOf n) = n := by
  rw [numberOf, numberFrom_eq_ofDigitChars, digitsOf, Nat.ofDigitChars_ten_toDigits]

theorem numberOf_append (first second : List Char)
    : numberOf (first ++ second) = numberOf first * 10 ^ second.length + numberOf second := by
  simp only [numberOf, numberFrom_eq_ofDigitChars]
  rw [Nat.ofDigitChars_append, Nat.ofDigitChars_eq_ofDigitChars_zero, Nat.mul_comm]

theorem numberOf_replicate_zero (count : Nat) : numberOf (List.replicate count '0') = 0 := by
  rw [numberOf, numberFrom_eq_ofDigitChars, Nat.ofDigitChars_replicate_zero, Nat.mul_zero]

/-- Zeros behind a run of digits multiply by powers of ten. -/
theorem numberOf_append_zeros (digits : List Char) (count : Nat)
    : numberOf (digits ++ List.replicate count '0') = numberOf digits * 10 ^ count := by
  rw [numberOf_append, numberOf_replicate_zero, List.length_replicate, Nat.add_zero]

/-- Zeros in front of a run of digits do not count. -/
theorem numberOf_zeros_append (count : Nat) (digits : List Char)
    : numberOf (List.replicate count '0' ++ digits) = numberOf digits := by
  rw [numberOf_append, numberOf_replicate_zero, Nat.zero_mul, Nat.zero_add]

theorem isDigit_of_mem_digitsOf {n : Nat} {c : Char} (h : c ∈ digitsOf n) : isDigit c = true := by
  have hd : c.isDigit = true := Nat.isDigit_of_mem_toDigits (by decide) (by decide) h
  simp only [Char.isDigit, Bool.and_eq_true, decide_eq_true_eq, ge_iff_le,
    UInt32.le_iff_toNat_le] at hd
  exact isDigit_iff.mpr hd

theorem digitsOf_ne_nil (n : Nat) : digitsOf n ≠ [] :=
  Nat.toDigits_ne_nil

theorem digitsOf_zero : digitsOf 0 = ['0'] :=
  Nat.toDigits_zero 10

/-- The count of digits is the one that powers of ten tell. -/
theorem length_digitsOf_le_iff {n count : Nat} (h : 0 < count)
    : (digitsOf n).length ≤ count ↔ n < 10 ^ count :=
  Nat.length_toDigits_le_iff (by decide) h

theorem lt_length_digitsOf_iff {n count : Nat} (h : 0 < count)
    : count < (digitsOf n).length ↔ 10 ^ count ≤ n := by
  rw [← Nat.not_le, length_digitsOf_le_iff h, Nat.not_lt]

/-- A power of ten adds its zeros to the digits of a number, by induction on the exponent. -/
theorem digitsOf_mul_pow {n : Nat} (h : 0 < n) (count : Nat)
    : digitsOf (n * 10 ^ count) = digitsOf n ++ List.replicate count '0' := by
  induction count with
  | zero => simp
  | succ count ih =>
      have hstep : digitsOf (10 * (n * 10 ^ count) + 0)
          = digitsOf (n * 10 ^ count) ++ digitsOf 0 :=
        (Nat.toDigits_append_toDigits (by decide) (Nat.mul_pos h (Nat.pow_pos (by decide)))
          (by decide)).symm
      have hn : n * 10 ^ (count + 1) = 10 * (n * 10 ^ count) + 0 := by ring
      rw [hn, hstep, ih, digitsOf_zero, List.append_assoc, ← List.replicate_succ']

/-- The digits of a positive number do not begin with a zero, by induction on the number. -/
theorem head?_digitsOf {n : Nat} (h : 0 < n) : (digitsOf n).head? ≠ some '0' := by
  induction n using Nat.strongRecOn with
  | ind n ih =>
      by_cases hn : n < 10
      · have hdigit : ∀ m < 10, 0 < m → [Nat.digitChar m].head? ≠ some '0' := by decide
        rw [digitsOf, Nat.toDigits_of_lt_base hn]
        exact hdigit n hn h
      · have hq : 0 < n / 10 := Nat.div_pos (Nat.not_lt.mp hn) (by decide)
        have hrest := ih (n / 10) (Nat.div_lt_self h (by decide)) hq
        obtain ⟨first, rest, hd⟩ := List.exists_cons_of_ne_nil (digitsOf_ne_nil (n / 10))
        rw [hd] at hrest
        have hn : digitsOf n = digitsOf (n / 10) ++ [Nat.digitChar (n % 10)] :=
          Nat.toDigits_of_base_le (by decide) (Nat.not_lt.mp hn)
        rw [hn, hd]
        exact hrest

-----------------------------------------------------------------------------------------
-- Runs of digits
-----------------------------------------------------------------------------------------

theorem numberOf_concat (digits : List Char) (c : Char)
    : numberOf (digits ++ [c]) = numberOf digits * 10 + (c.toNat - '0'.toNat) := by
  rw [numberOf, numberFrom, List.foldl_append]
  rfl

theorem digit_lt {c : Char} (digit : isDigit c = true) : c.toNat - '0'.toNat < 10 := by
  have h := isDigit_iff.mp digit
  have hzero : '0'.toNat = 48 := rfl
  omega

theorem digitsOf_digit {c : Char} (digit : isDigit c = true)
    : digitsOf (c.toNat - '0'.toNat) = [c] := by
  obtain ⟨low, high⟩ := isDigit_iff.mp digit
  have chars : ∀ n < 10, Nat.digitChar n = Char.ofNat (n + 48) := by decide
  have hzero : '0'.toNat = 48 := rfl
  rw [digitsOf, Nat.toDigits_of_lt_base (digit_lt digit), chars _ (digit_lt digit), hzero,
    Nat.sub_add_cancel low, Char.ofNat_toNat]

/-- So many digits write a number below that power of ten, by induction from the last one. -/
theorem numberOf_lt {digits : List Char} (all : ∀ c ∈ digits, isDigit c = true)
    : numberOf digits < 10 ^ digits.length := by
  induction digits using List.reverseRecOn with
  | nil => exact Nat.one_pos
  | append_singleton digits c ih =>
      have hrest := ih fun d hd => all d (List.mem_append_left _ hd)
      have hc := digit_lt (all c (by simp))
      rw [numberOf_concat, List.length_append, List.length_singleton, Nat.pow_succ]
      omega

/-- A run of digits without a zero in front is that of its number, by induction from the last
digit. -/
theorem digitsOf_numberOf {digits : List Char} (nonempty : digits ≠ [])
    (all : ∀ c ∈ digits, isDigit c = true) (lead : digits.head? ≠ some '0')
    : digitsOf (numberOf digits) = digits := by
  induction digits using List.reverseRecOn with
  | nil => exact absurd rfl nonempty
  | append_singleton digits c ih =>
      have hc : isDigit c = true := all c (by simp)
      cases digits with
      | nil =>
          have alone : numberOf ([] ++ [c]) = c.toNat - '0'.toNat :=
            (numberOf_concat [] c).trans (Nat.zero_add _)
          rw [alone, digitsOf_digit hc, List.nil_append]
      | cons first rest =>
          have hrest : digitsOf (numberOf (first :: rest)) = first :: rest :=
            ih (List.cons_ne_nil first rest) (fun d hd => all d (List.mem_append_left _ hd)) lead
          -- A run that writes zero would be the digit zero, which may not stand in front.
          have positive : 0 < numberOf (first :: rest) := by
            refine Nat.pos_of_ne_zero fun hz => lead ?_
            rw [hz, digitsOf_zero] at hrest
            rw [← hrest]
            rfl
          have split : digitsOf (10 * numberOf (first :: rest) + (c.toNat - '0'.toNat))
              = digitsOf (numberOf (first :: rest)) ++ digitsOf (c.toNat - '0'.toNat) :=
            (Nat.toDigits_append_toDigits (by decide) positive (digit_lt hc)).symm
          rw [numberOf_concat, Nat.mul_comm, split, hrest, digitsOf_digit hc]

-----------------------------------------------------------------------------------------
-- Integers with a sign
-----------------------------------------------------------------------------------------

/-- The text is decimal digits, at least one, which may have a sign in front, and the integer is
what it writes. -/
inductive Numeral : List Char → Int → Prop where
  | unsigned {digits : List Char} (nonempty : digits ≠ [])
    (all : ∀ c ∈ digits, isDigit c = true)
    : Numeral digits (numberOf digits)
  | plus {digits : List Char} (nonempty : digits ≠ []) (all : ∀ c ∈ digits, isDigit c = true)
    : Numeral ('+' :: digits) (numberOf digits)
  | minus {digits : List Char} (nonempty : digits ≠ []) (all : ∀ c ∈ digits, isDigit c = true)
    : Numeral ('-' :: digits) (-(numberOf digits : Int))

theorem allDigits?_eq_some_iff {cs : List Char} {n : Nat}
    : allDigits? cs = some n ↔ (cs ≠ [] ∧ ∀ c ∈ cs, isDigit c = true) ∧ numberOf cs = n := by
  rw [allDigits?]
  cases cs with
  | nil => simp
  | cons c rest =>
      cases hall : (c :: rest).all isDigit with
      | false =>
          have hnot : ¬ ∀ d ∈ c :: rest, isDigit d = true := by
            rw [← List.all_eq_true, hall]
            exact Bool.false_ne_true
          simp only [List.isEmpty_cons, Bool.not_false, Bool.or_true, if_true, reduceCtorEq,
            false_iff]
          exact fun h => hnot h.1.2
      | true =>
          simp only [List.isEmpty_cons, Bool.not_true, Bool.or_false, Bool.false_eq_true, if_false,
            Option.some.injEq, ne_eq, reduceCtorEq, not_false_eq_true, true_and]
          exact (and_iff_right (List.all_eq_true.mp hall)).symm

theorem integerOf?_minus (rest : List Char)
    : integerOf? ('-' :: rest) = (allDigits? rest).map fun n => -Int.ofNat n := by
  rw [integerOf?]
  cases allDigits? rest <;> rfl

/-- An integer is read from a text just when the text writes it, by cases on the sign. -/
theorem integerOf?_eq_some_iff {cs : List Char} {n : Int}
    : integerOf? cs = some n ↔ Numeral cs n := by
  constructor
  · intro h
    unfold integerOf? at h
    split at h
    · obtain ⟨m, hm, rfl⟩ := Option.map_eq_some_iff.mp h
      obtain ⟨⟨nonempty, all⟩, rfl⟩ := allDigits?_eq_some_iff.mp hm
      exact .plus nonempty all
    · next rest =>
        obtain ⟨m, hm, rfl⟩ := Option.map_eq_some_iff.mp ((integerOf?_minus rest).symm.trans h)
        obtain ⟨⟨nonempty, all⟩, rfl⟩ := allDigits?_eq_some_iff.mp hm
        exact .minus nonempty all
    · obtain ⟨m, hm, rfl⟩ := Option.map_eq_some_iff.mp h
      obtain ⟨⟨nonempty, all⟩, rfl⟩ := allDigits?_eq_some_iff.mp hm
      exact .unsigned nonempty all
  · intro numeral
    cases numeral with
    | unsigned nonempty all =>
        have hdigits : allDigits? cs = some (numberOf cs) :=
          allDigits?_eq_some_iff.mpr ⟨⟨nonempty, all⟩, rfl⟩
        unfold integerOf?
        split
        · exact absurd (all '+' (by simp)) (by decide)
        · exact absurd (all '-' (by simp)) (by decide)
        · rw [hdigits]
          rfl
    | plus nonempty all =>
        rw [integerOf?, allDigits?_eq_some_iff.mpr ⟨⟨nonempty, all⟩, rfl⟩]
        rfl
    | minus nonempty all =>
        rw [integerOf?_minus, allDigits?_eq_some_iff.mpr ⟨⟨nonempty, all⟩, rfl⟩]
        rfl

-----------------------------------------------------------------------------------------
-- Hexadecimal digits
-----------------------------------------------------------------------------------------

theorem hexValue?_hexDigit {n : Nat} (h : n < 16) : hexValue? (hexDigit n) = some n := by
  decide +revert

theorem hexNumber?_concat (digits : List Char) (c : Char)
    : hexNumber? (digits ++ [c])
        = (hexNumber? digits).bind fun n => (hexValue? c).map (n * 16 + ·) := by
  simp only [hexNumber?, List.foldlM_append, List.foldlM_cons, List.foldlM_nil, bind_pure]
  rfl

/-- The number that digits write has their values as its places, by induction from the last one. -/
theorem hexNumber?_map_hexDigit {values : List Nat} (small : ∀ v ∈ values, v < 16)
    : hexNumber? (values.map hexDigit) = some (Nat.ofDigits 16 values.reverse) := by
  induction values using List.reverseRecOn with
  | nil => rfl
  | append_singleton values v ih =>
      rw [List.map_append, List.map_singleton, hexNumber?_concat,
        ih fun w hw => small w (List.mem_append_left _ hw), Option.bind_some,
        hexValue?_hexDigit (small v (by simp)), Option.map_some, List.reverse_append,
        List.reverse_singleton, List.singleton_append, Nat.ofDigits_cons]
      exact congrArg some (by ring)

/-- Two hexadecimal digits behind two zeros write a number of one byte. -/
theorem hexNumber?_byte {n : Nat} (h : n < 256)
    : hexNumber? ['0', '0', hexDigit (n / 16), hexDigit (n % 16)] = some n := by
  have small : ∀ v ∈ [0, 0, n / 16, n % 16], v < 16 := by
    simp only [List.mem_cons, List.not_mem_nil, or_false]
    rintro v (rfl | rfl | rfl | rfl) <;> omega
  have number : Nat.ofDigits 16 [n % 16, n / 16, 0, 0] = n := by
    simp only [Nat.ofDigits_cons, Nat.ofDigits_nil]
    omega
  exact (hexNumber?_map_hexDigit small).trans (congrArg some number)

end TypedJson.Text
