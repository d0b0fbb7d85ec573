import TypedJson.Calendar.Date
import TypedJson.Proofs.Text.Blank

/-!
Dates as texts. There is one form in which every date is written, from the first year to the last:
a year of four digits, or of a sign and at least four, and two digits each for the month and the
day. A text in this form is read as the date that it is written for, and any other text of a date
is read as one that is written in this form.
-/

namespace TypedJson.Calendar

variable {digits : List Char}

-----------------------------------------------------------------------------------------
-- Zeros in front
-----------------------------------------------------------------------------------------

/-- At least so many digits, and no zero in front of more than that. -/
structure Padded (width : Nat) (digits : List Char) : Prop where
  all : ∀ c ∈ digits, Text.isDigit c = true
  enough : width ≤ digits.length
  tight : width < digits.length → digits.head? ≠ some '0'

theorem numberOf_padded (width n : Nat) : Text.numberOf (padded width n) = n := by
  rw [padded, Text.numberOf_zeros_append, Text.numberOf_digitsOf]

theorem length_padded (width n : Nat)
    : (padded width n).length = max width (Text.digitsOf n).length := by
  rw [padded, List.length_append, List.length_replicate]
  omega

theorem padded_padded {width : Nat} (positive : 0 < width) (n : Nat)
    : Padded width (padded width n) where
  all c hc := by
    rcases List.mem_append.mp hc with hc | hc
    · rw [List.eq_of_mem_replicate hc]
      decide
    · exact Text.isDigit_of_mem_digitsOf hc
  enough := by
    rw [length_padded]
    exact Nat.le_max_left _ _
  tight h := by
    rw [length_padded] at h
    have long : width < (Text.digitsOf n).length := by omega
    have hn : 10 ^ width ≤ n := (Text.lt_length_digitsOf_iff positive).mp long
    rw [padded, Nat.sub_eq_zero_of_le long.le, List.replicate_zero, List.nil_append]
    exact Text.head?_digitsOf (Nat.lt_of_lt_of_le (Nat.pow_pos (by decide)) hn)

theorem length_padded_eq {width n : Nat} (positive : 0 < width) (small : n < 10 ^ width)
    : (padded width n).length = width := by
  rw [length_padded]
  exact Nat.max_eq_left ((Text.length_digitsOf_le_iff positive).mpr small)

/-- A run of digits is its number with zeros in front up to its length, by induction on the run. -/
theorem padded_length_numberOf (nonempty : digits ≠ [])
    (all : ∀ c ∈ digits, Text.isDigit c = true)
    : padded digits.length (Text.numberOf digits) = digits := by
  induction digits with
  | nil => exact absurd rfl nonempty
  | cons c rest ih =>
      by_cases zero : c = '0'
      · subst zero
        have number : Text.numberOf ('0' :: rest) = Text.numberOf rest :=
          Text.numberOf_zeros_append 1 rest
        cases rest with
        | nil => rfl
        | cons d more =>
            have below := ih (List.cons_ne_nil d more) fun b hb => all b (List.mem_cons_of_mem _ hb)
            have short := congrArg List.length below
            rw [length_padded] at short
            rw [padded] at below
            rw [number, padded, List.length_cons, Nat.succ_sub (by omega), List.replicate_succ,
              List.cons_append, below]
      · have lead : (c :: rest).head? ≠ some '0' := fun h => zero (Option.some.inj h)
        rw [padded, Text.digitsOf_numberOf nonempty all lead, Nat.sub_self]
        rfl

theorem Padded.ne_nil {width : Nat} (positive : 0 < width) (h : Padded width digits)
    : digits ≠ [] :=
  List.ne_nil_of_length_pos (Nat.lt_of_lt_of_le positive h.enough)

/-- So the digits are determined by their number. -/
theorem Padded.padded_numberOf {width : Nat} (positive : 0 < width) (h : Padded width digits)
    : padded width (Text.numberOf digits) = digits := by
  rcases Nat.eq_or_lt_of_le h.enough with same | long
  · subst same
    exact padded_length_numberOf (h.ne_nil positive) h.all
  · rw [padded, Text.digitsOf_numberOf (h.ne_nil positive) h.all (h.tight long),
      Nat.sub_eq_zero_of_le h.enough]
    rfl

theorem Padded.pow_le_numberOf {width : Nat} (positive : 0 < width) (h : Padded width digits)
    (long : width < digits.length)
    : 10 ^ width ≤ Text.numberOf digits := by
  rw [← Text.lt_length_digitsOf_iff positive,
    Text.digitsOf_numberOf (h.ne_nil positive) h.all (h.tight long)]
  exact long

-----------------------------------------------------------------------------------------
-- The form of a date
-----------------------------------------------------------------------------------------

/-- A year in the form in which it is written: four digits, or a sign and at least four, the minus
sign not before zero and the plus sign only before more than four. -/
inductive YearForm : List Char → Int → Prop where
  | plain {digits : List Char} (padded : Padded 4 digits) (four : digits.length = 4)
    : YearForm digits (Text.numberOf digits)
  | negative {digits : List Char} (padded : Padded 4 digits) (nonzero : Text.numberOf digits ≠ 0)
    : YearForm ('-' :: digits) (-(Text.numberOf digits : Int))
  | positive {digits : List Char} (padded : Padded 4 digits) (long : 4 < digits.length)
    : YearForm ('+' :: digits) (Text.numberOf digits)

/-- Two digits. -/
def IsPair (digits : List Char) : Prop :=
  digits.length = 2 ∧ ∀ c ∈ digits, Text.isDigit c = true

/-- The form in which dates are written, with dashes. -/
def Date.Form (text : List Char) : Prop :=
  ∃ year n month day, text = year ++ '-' :: month ++ '-' :: day
    ∧ YearForm year n ∧ IsPair month ∧ IsPair day

theorem yearForm_yearText (year : Int) : YearForm (yearText year) year := by
  have four : Padded 4 (padded 4 year.natAbs) := padded_padded (by decide) _
  have number : Text.numberOf (padded 4 year.natAbs) = year.natAbs := numberOf_padded 4 _
  rw [yearText]
  split
  · next h =>
      simp only [Bool.and_eq_true, decide_eq_true_eq] at h
      have form := YearForm.plain four (length_padded_eq (by decide) (by omega))
      have hnat : year.toNat = year.natAbs := by omega
      have hyear : (year.natAbs : Int) = year := by omega
      rwa [number, hyear, ← hnat] at form
  · next h =>
      simp only [Bool.and_eq_true, decide_eq_true_eq, not_and] at h
      split
      · next negative =>
          have form := YearForm.negative four (by omega)
          have hyear : -(year.natAbs : Int) = year := by omega
          rwa [number, hyear] at form
      · next positive =>
          have long : 4 < (padded 4 year.natAbs).length := by
            have more := (Text.lt_length_digitsOf_iff (show 0 < 4 by decide)).mpr
              (show 10 ^ 4 ≤ year.natAbs by omega)
            rw [length_padded]
            omega
          have form := YearForm.positive four long
          have hyear : (year.natAbs : Int) = year := by omega
          rwa [number, hyear] at form

theorem YearForm.eq_yearText {text : List Char} {year : Int} (form : YearForm text year)
    : text = yearText year := by
  rw [yearText]
  cases form with
  | plain padded four =>
      have small := four ▸ Text.numberOf_lt padded.all
      rw [if_pos (by simp only [Bool.and_eq_true, decide_eq_true_eq]; omega), Int.toNat_natCast,
        padded.padded_numberOf (by decide)]
  | negative padded nonzero =>
      rw [if_neg (by simp only [Bool.and_eq_true, decide_eq_true_eq]; omega), if_pos (by omega),
        Int.natAbs_neg, Int.natAbs_natCast, padded.padded_numberOf (by decide)]
  | positive padded long =>
      have large := padded.pow_le_numberOf (by decide) long
      rw [if_neg (by simp only [Bool.and_eq_true, decide_eq_true_eq]; omega), if_neg (by omega),
        Int.natAbs_natCast, padded.padded_numberOf (by decide)]

theorem isPair_padded {n : Nat} (small : n < 100) : IsPair (padded 2 n) :=
  ⟨length_padded_eq (by decide) small, (padded_padded (by decide) n).all⟩

theorem IsPair.eq_padded (pair : IsPair digits) : digits = padded 2 (Text.numberOf digits) := by
  have nonempty : digits ≠ [] := List.ne_nil_of_length_pos (pair.1 ▸ Nat.two_pos)
  rw [← pair.1, padded_length_numberOf nonempty pair.2]

-----------------------------------------------------------------------------------------
-- Reading the parts
-----------------------------------------------------------------------------------------

namespace Date

/-- Digits that fit the width are taken as their number, up to what is no digit. -/
theorem takeNumber_append (width : Option Nat) (rest : List Char) (nonempty : digits ≠ [])
    (all : ∀ c ∈ digits, Text.isDigit c = true) (fits : ∀ w ∈ width, digits.length ≤ w)
    (stop : ∀ c ∈ rest.head?, Text.isDigit c = false)
    : takeNumber width (digits ++ rest)
        = if 0x8000000000000000 ≤ Text.numberOf digits then .error .outOfRange
          else .ok (Text.numberOf digits, rest) := by
  have behind : rest.takeWhile Text.isDigit = [] := by
    cases rest with
    | nil => rfl
    | cons c more => exact List.takeWhile_cons_of_neg (by simp [stop c rfl])
  have run : (digits ++ rest).takeWhile Text.isDigit = digits := by
    rw [List.takeWhile_append_of_pos all, behind, List.append_nil]
  have left : (digits ++ rest).drop digits.length = rest := List.drop_left
  have some_digits : digits.isEmpty = false := List.isEmpty_eq_false_iff.mpr nonempty
  obtain ⟨c, more, hcs⟩ : ∃ c more, digits ++ rest = c :: more :=
    List.exists_cons_of_ne_nil (List.append_ne_nil_of_left_ne_nil nonempty rest)
  unfold takeNumber
  cases width with
  | none =>
      simp only [run, some_digits, left, Bool.false_eq_true, if_false]
      rw [hcs]
  | some w =>
      simp only [run, List.take_of_length_le (fits w rfl), some_digits, left, Bool.false_eq_true,
        if_false]
      rw [hcs]

/-- The last step in taking a year: its number, with the sign, has to fit half a word. -/
theorem number_fits_half {number : Nat} {year : Int} {rest : List Char}
    (sign : year = number ∨ year = -(number : Int))
    {signed : Nat × List Char → Int × List Char} (hsigned : signed (number, rest) = (year, rest))
    : ((if 0x8000000000000000 ≤ number then Except.error ReadError.outOfRange
          else .ok (number, rest)).map signed >>= fun taken =>
        if -0x80000000 ≤ taken.1 && taken.1 < 0x80000000 then .ok (taken.1, taken.2)
        else .error .outOfRange)
      = if -0x80000000 ≤ year ∧ year < 0x80000000 then .ok (year, rest)
        else .error .outOfRange := by
  split
  · rw [if_neg (by omega)]
    rfl
  · simp only [Except.map, hsigned, bind, Except.bind, Bool.and_eq_true, decide_eq_true_eq]

/-- A year in its form is taken as the year, if half a word has room for it. -/
theorem takeYear_append {text : List Char} {year : Int} (form : YearForm text year)
    (rest : List Char) (stop : ∀ c ∈ rest.head?, Text.isDigit c = false)
    : takeYear (text ++ rest)
        = if -0x80000000 ≤ year ∧ year < 0x80000000 then .ok (year, rest)
          else .error .outOfRange := by
  cases form with
  | plain padded four =>
      have taken := takeNumber_append (some 4) rest (padded.ne_nil (by decide)) padded.all
        (fun w hw => by rw [four, Option.some.inj hw]) stop
      obtain ⟨c, more, rfl⟩ := List.exists_cons_of_ne_nil (padded.ne_nil (by decide))
      have hc : Text.isDigit c = true := padded.all c (by simp)
      have visible : Text.dropBlanks (c :: more ++ rest) = c :: more ++ rest :=
        Text.dropBlanks_cons (Text.isBlank_eq_false_of_isDigit hc)
      rw [takeYear, visible]
      split
      · next he => exact absurd hc (by rw [(List.cons.inj he).1]; decide)
      · next he => exact absurd hc (by rw [(List.cons.inj he).1]; decide)
      · rw [taken]
        exact number_fits_half (.inl rfl) rfl
  | negative padded nonzero =>
      have taken := takeNumber_append none rest (padded.ne_nil (by decide)) padded.all
        (fun _ hw => nomatch hw) stop
      rw [takeYear, List.cons_append, Text.dropBlanks_cons (by decide)]
      simp only [taken]
      exact number_fits_half (.inr rfl) rfl
  | positive padded long =>
      have taken := takeNumber_append none rest (padded.ne_nil (by decide)) padded.all
        (fun _ hw => nomatch hw) stop
      rw [takeYear, List.cons_append, Text.dropBlanks_cons (by decide)]
      simp only [taken]
      exact number_fits_half (.inl rfl) rfl

/-- Two digits are taken as their number, if it is in range. -/
theorem takePart_append (pair : IsPair digits) (greatest : Nat) (rest : List Char)
    (stop : ∀ c ∈ rest.head?, Text.isDigit c = false)
    : takePart greatest (digits ++ rest)
        = if 1 ≤ Text.numberOf digits ∧ Text.numberOf digits ≤ greatest then
            .ok (Text.numberOf digits, rest)
          else .error .outOfRange := by
  obtain ⟨length, all⟩ := pair
  have nonempty : digits ≠ [] := List.ne_nil_of_length_pos (length ▸ Nat.two_pos)
  obtain ⟨c, more, rfl⟩ := List.exists_cons_of_ne_nil nonempty
  have visible : Text.dropBlanks (c :: more ++ rest) = c :: more ++ rest :=
    Text.dropBlanks_cons (Text.isBlank_eq_false_of_isDigit (all c (by simp)))
  have small := Text.numberOf_lt all
  rw [length] at small
  have taken := takeNumber_append (some 2) rest nonempty all
    (fun w hw => by rw [length, Option.some.inj hw]) stop
  rw [if_neg (by omega)] at taken
  rw [takePart, visible, taken]
  simp only [bind, Except.bind, Bool.and_eq_true, decide_eq_true_eq]

-----------------------------------------------------------------------------------------
-- Whole dates
-----------------------------------------------------------------------------------------

theorem daysInMonth_le (year : Int) (month : Nat) : daysInMonth year month ≤ 31 := by
  unfold daysInMonth
  split
  · split <;> decide
  · split <;> decide

theorem bounds_of_isDay {year : Int} {month day : Nat} (h : Calendar.isDay year month day = true)
    : (firstYear ≤ year ∧ year ≤ lastYear) ∧ (1 ≤ month ∧ month ≤ 12) ∧ (1 ≤ day ∧ day ≤ 31) := by
  have days := daysInMonth_le year month
  simp only [Calendar.isDay, Bool.and_eq_true, decide_eq_true_eq] at h
  omega

theorem form_text (date : Date) : Form (date.text .dashed) := by
  obtain ⟨_, hm, hd⟩ := bounds_of_isDay date.isDay
  exact ⟨yearText date.year, date.year, padded 2 date.month, padded 2 date.day, rfl,
    yearForm_yearText date.year, isPair_padded (by omega), isPair_padded (by omega)⟩

/-- A text in the form of dates is read as the date of its parts, where there is one: what the
parts are checked for on the way is no more than that. -/
theorem ofText_of_form {year month day : List Char} {n : Int} (hyear : YearForm year n)
    (hmonth : IsPair month) (hday : IsPair day)
    : ofText .dashed (year ++ '-' :: month ++ '-' :: day)
        = (ofYearMonthDay? n (Text.numberOf month) (Text.numberOf day)).elim
            (.error .outOfRange) .ok := by
  have years := takeYear_append hyear ('-' :: (month ++ '-' :: day))
    fun c hc => Option.some.inj hc ▸ rfl
  have months := takePart_append hmonth 12 ('-' :: day) fun c hc => Option.some.inj hc ▸ rfl
  have days := takePart_append hday 31 [] fun c hc => nomatch hc
  rw [List.append_nil] at days
  rw [ofText, List.append_assoc, List.cons_append, years]
  -- A part that is out of its range ends the reading, and then there is no such day either.
  by_cases hn : -0x80000000 ≤ n ∧ n < 0x80000000
  · rw [if_pos hn]
    simp only [bind, Except.bind, takeDash, if_true, months]
    by_cases hm : 1 ≤ Text.numberOf month ∧ Text.numberOf month ≤ 12
    · simp only [if_pos hm, if_true, days]
      by_cases hd : 1 ≤ Text.numberOf day ∧ Text.numberOf day ≤ 31
      · simp only [if_pos hd, List.isEmpty_nil, Bool.not_true, Bool.false_eq_true, if_false]
        cases ofYearMonthDay? n (Text.numberOf month) (Text.numberOf day) <;> rfl
      · rw [if_neg hd, ofYearMonthDay?, dif_neg fun h => hd (bounds_of_isDay h).2.2]
        rfl
    · rw [if_neg hm, ofYearMonthDay?, dif_neg fun h => hm (bounds_of_isDay h).2.1]
      rfl
  · have outside (h : firstYear ≤ n ∧ n ≤ lastYear) : False := by
      unfold firstYear lastYear at h
      omega
    rw [if_neg hn, ofYearMonthDay?, dif_neg fun h => outside (bounds_of_isDay h).1]
    rfl

/-- A date is read from its own text. -/
theorem ofText_text (date : Date) : ofText .dashed (date.text .dashed) = .ok date := by
  obtain ⟨_, hm, hd⟩ := bounds_of_isDay date.isDay
  have read := ofText_of_form (yearForm_yearText date.year)
    (isPair_padded (show date.month < 100 by omega)) (isPair_padded (show date.day < 100 by omega))
  rw [numberOf_padded, numberOf_padded, ofYearMonthDay?, dif_pos date.isDay] at read
  exact read

/-- A text in the form of dates that is read as a date is the date's own text. -/
theorem Form.eq_text {text : List Char} (form : Form text) {date : Date}
    (read : ofText .dashed text = .ok date)
    : text = date.text .dashed := by
  obtain ⟨year, n, month, day, rfl, hyear, hmonth, hday⟩ := form
  rw [ofText_of_form hyear hmonth hday, ofYearMonthDay?] at read
  split at read
  · cases read
    rw [Date.text, ← hyear.eq_yearText, ← hmonth.eq_padded, ← hday.eq_padded]
  · cases read

end Date

end TypedJson.Calendar
