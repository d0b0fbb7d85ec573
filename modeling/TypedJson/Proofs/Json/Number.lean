import TypedJson.Json.Printer
import TypedJson.Proofs.Json.Cursor
import TypedJson.Proofs.Number.Decimal

/-!
Numbers of a document. What is written for a number is a sign, digits, perhaps a part behind a
point and perhaps an exponent; a number in these pieces is read as its value, and the pieces that
are written for a number have that number for their value.
-/

namespace TypedJson.Json.Token

namespace NumberText

/-- Digits behind a point, if there are any. -/
def partText (digits : List Char) : List Char :=
  if digits.isEmpty then [] else '.' :: digits

/-- An exponent, if there is one, its sign always written. -/
def exponentText : Option Int → List Char
  | none => []
  | some e => 'e' :: (if e < 0 then '-' else '+') :: Text.digitsOf e.natAbs

/-- The pieces of a number one after the other. -/
def write (text : NumberText) : List Char :=
  (if text.negative then ['-'] else [])
    ++ (text.whole ++ (partText text.part ++ exponentText text.exponent))

/-- Pieces that a document may have: digits, at least one of them before the point and no zero in
front of others, and an exponent that is read as it stands. -/
structure Lawful (text : NumberText) : Prop where
  whole : ∀ c ∈ text.whole, Text.isDigit c = true
  first : text.whole = ['0'] ∨ ∃ c rest, text.whole = c :: rest ∧ c ≠ '0'
  part : ∀ c ∈ text.part, Text.isDigit c = true
  exponent : ∀ e, text.exponent = some e → e.natAbs ≤ greatestExponent

end NumberText

/-- The symbols do not continue a number that stands before them. -/
def Ends (rest : List Symbol) : Prop :=
  ∀ c, rest.head? = some (some c) → Text.isDigit c = false ∧ c ≠ '.' ∧ c ≠ 'e' ∧ c ≠ 'E'

variable {rest : List Symbol}

-----------------------------------------------------------------------------------------
-- Reading the pieces
-----------------------------------------------------------------------------------------

theorem takes_wholeDigits {digits : List Char} (all : ∀ c ∈ digits, Text.isDigit c = true)
    (first : digits = ['0'] ∨ ∃ c rest, digits = c :: rest ∧ c ≠ '0')
    (stop : ∀ c, rest.head? = some (some c) → Text.isDigit c = false)
    : Reader.Takes wholeDigits digits digits rest := by
  intro place
  have hdigits := Cursor.digits_append all stop place
  rcases first with rfl | ⟨c, others, rfl, hc⟩
  · simp only [wholeDigits, Cursor.rest_cons, hdigits]
  · simp only [wholeDigits, Cursor.rest_cons, hdigits]
    split
    · next h => cases h
    · rfl
    · next h => exact absurd (List.cons.inj h).1 hc
    · rfl

/-- A part is taken behind its point, and none where there is no point. -/
theorem takes_partDigits {digits : List Char} (all : ∀ c ∈ digits, Text.isDigit c = true)
    (stop : ∀ c, rest.head? = some (some c) → Text.isDigit c = false ∧ c ≠ '.')
    : Reader.Takes partDigits (NumberText.partText digits) digits rest := by
  intro place
  unfold NumberText.partText
  cases digits with
  | nil =>
      simp only [List.isEmpty_nil, if_true, Cursor.at_nil, Place.behind_nil]
      cases rest with
      | nil => rfl
      | cons symbol rest =>
          cases symbol with
          | none => rfl
          | some c =>
              have hc := (stop c rfl).2
              simp [partDigits, hc]
  | cons c digits =>
      have hdigits := Cursor.digits_append all (fun c h => (stop c h).1) (place.after (some '.'))
      simp only [List.isEmpty_cons, Bool.false_eq_true, if_false, partDigits, Cursor.rest_cons,
        Cursor.advance_cons, hdigits]
      rfl

/-- No digit makes an exponent too great when all of them together do not, by induction on the
digits. -/
theorem excess_eq_none {value count : Nat} {digits : List Char}
    (h : Text.numberFrom value digits ≤ greatestExponent)
    : excess value count digits = none := by
  induction digits generalizing value count with
  | nil => rfl
  | cons digit digits ih =>
      have hfrom : Text.numberFrom value (digit :: digits)
          = Text.numberFrom (value * 10 + (digit.toNat - '0'.toNat)) digits := rfl
      rw [hfrom] at h
      have hle : value * 10 + (digit.toNat - '0'.toNat) ≤ greatestExponent := by
        refine Nat.le_trans ?_ h
        rw [Text.numberFrom_eq_ofDigitChars, Nat.ofDigitChars_eq_ofDigitChars_zero]
        exact Nat.le_trans (Nat.le_mul_of_pos_left _ (Nat.pow_pos (by decide)))
          (Nat.le_add_right _ _)
      simp only [excess]
      rw [if_neg (Nat.not_lt.mpr hle)]
      exact ih h

theorem takes_exponentDigits {exponent : Option Int} (isZero : Bool)
    (small : ∀ e, exponent = some e → e.natAbs ≤ greatestExponent) (stop : Ends rest)
    : Reader.Takes (exponentDigits isZero) (NumberText.exponentText exponent) exponent rest := by
  intro place
  unfold NumberText.exponentText
  cases exponent with
  | none =>
      simp only [Cursor.at_nil, Place.behind_nil]
      cases rest with
      | nil => rfl
      | cons symbol rest =>
          cases symbol with
          | none => rfl
          | some c =>
              have hc := (stop c rfl).2.2
              simp [exponentDigits, hc]
  | some e =>
      obtain ⟨first, others, hd⟩ := List.exists_cons_of_ne_nil (Text.digitsOf_ne_nil e.natAbs)
      have hnumber := Text.numberOf_digitsOf e.natAbs
      have hsmall : excess 0 0 (Text.digitsOf e.natAbs) = none :=
        excess_eq_none (hnumber.trans_le (small e rfl))
      have hall : ∀ c ∈ Text.digitsOf e.natAbs, Text.isDigit c = true :=
        fun c => Text.isDigit_of_mem_digitsOf
      rw [hd] at hall hnumber hsmall
      simp only [hd]
      by_cases he : e < 0
      · have hdigits := Cursor.digits_append hall (fun c h => (stop c h).1)
          ((place.after (some 'e')).after (some '-'))
        simp only [he, if_true, exponentDigits, exponentSign, Cursor.rest_cons,
          symbolsOfText_cons, List.cons_append, Cursor.advance_cons, hdigits, List.isEmpty_cons,
          Bool.false_eq_true, if_false, hsmall, hnumber]
        rw [show -(e.natAbs : Int) = e by omega]
        rfl
      · have hdigits := Cursor.digits_append hall (fun c h => (stop c h).1)
          ((place.after (some 'e')).after (some '+'))
        simp only [he, if_false, exponentDigits, exponentSign, Cursor.rest_cons,
          symbolsOfText_cons, List.cons_append, Cursor.advance_cons, hdigits, List.isEmpty_cons,
          Bool.false_eq_true, hsmall, hnumber]
        rw [show (e.natAbs : Int) = e by omega]
        rfl

theorem ends_exponentText {exponent : Option Int} (stop : Ends rest) (c : Char)
    (h : (symbolsOfText (NumberText.exponentText exponent) ++ rest).head? = some (some c))
    : Text.isDigit c = false ∧ c ≠ '.' := by
  cases exponent with
  | none => exact ⟨(stop c h).1, (stop c h).2.1⟩
  | some e =>
      obtain rfl : 'e' = c := Option.some.inj (Option.some.inj h)
      decide

theorem ends_partText {part : List Char} {exponent : Option Int} (stop : Ends rest) (c : Char)
    (h : (symbolsOfText (NumberText.partText part)
      ++ (symbolsOfText (NumberText.exponentText exponent) ++ rest)).head? = some (some c))
    : Text.isDigit c = false := by
  cases part with
  | nil => exact (ends_exponentText stop c h).1
  | cons digit part =>
      obtain rfl : '.' = c := Option.some.inj (Option.some.inj h)
      decide

/-- A number behind its sign is taken piece by piece. -/
theorem takes_unsignedNumber {text : NumberText} {n : Number} (lawful : text.Lawful)
    (value : text.value? = some n) (stop : Ends rest)
    : Reader.Takes (unsignedNumber text.negative)
        (text.whole ++ (NumberText.partText text.part ++ NumberText.exponentText text.exponent))
        n rest := by
  intro place
  have hwhole : Reader.Takes wholeDigits text.whole text.whole
      (symbolsOfText (NumberText.partText text.part)
        ++ (symbolsOfText (NumberText.exponentText text.exponent) ++ rest)) :=
    takes_wholeDigits lawful.whole lawful.first (ends_partText stop)
  have hpart : Reader.Takes partDigits (NumberText.partText text.part) text.part
      (symbolsOfText (NumberText.exponentText text.exponent) ++ rest) :=
    takes_partDigits lawful.part (ends_exponentText stop)
  have hexponent := takes_exponentDigits ((text.whole ++ text.part).all (· == '0'))
    lawful.exponent stop ((place.behind text.whole).behind (NumberText.partText text.part))
  simp only [Reader.Takes, Cursor.at] at hwhole hpart hexponent
  simp only [unsignedNumber, Cursor.at, symbolsOfText_append, List.append_assoc, hwhole, hpart,
    hexponent, bind, Except.bind, value, Place.behind_append]

/-- A number is taken as its value, from its sign on. -/
theorem takes_number {text : NumberText} {n : Number} (lawful : text.Lawful)
    (value : text.value? = some n) (stop : Ends rest)
    : Reader.Takes number text.write n rest := by
  intro place
  obtain ⟨negative, whole, part, exponent⟩ := text
  cases negative with
  | true => exact takes_unsignedNumber lawful value stop (place.after (some '-'))
  | false =>
      have h := takes_unsignedNumber lawful value stop place
      obtain ⟨first, others, hw⟩ : ∃ first others, whole = first :: others := by
        rcases lawful.first with h | ⟨c, others, h, _⟩ <;> exact ⟨_, _, h⟩
      have hfirst : first ≠ '-' := by
        intro he
        subst he
        have hd := lawful.whole '-' (by simp [hw])
        revert hd
        decide
      simp only [NumberText.write, Bool.false_eq_true, if_false, List.nil_append]
      simp only at h hw
      subst hw
      rw [number]
      split
      · next hrest => exact absurd (Option.some.inj (List.cons.inj hrest).1) hfirst
      · exact h

-----------------------------------------------------------------------------------------
-- The pieces that are written
-----------------------------------------------------------------------------------------

namespace NumberText

/-- The pieces of an integer. -/
def ofInteger (n : Int) : NumberText :=
  ⟨n < 0, Text.digitsOf n.natAbs, [], none⟩

theorem first_digitsOf (n : Nat)
    : Text.digitsOf n = ['0'] ∨ ∃ c rest, Text.digitsOf n = c :: rest ∧ c ≠ '0' := by
  rcases Nat.eq_zero_or_pos n with rfl | hn
  · exact .inl Text.digitsOf_zero
  · obtain ⟨c, rest, hd⟩ := List.exists_cons_of_ne_nil (Text.digitsOf_ne_nil n)
    have hhead := Text.head?_digitsOf hn
    rw [hd] at hhead
    exact .inr ⟨c, rest, hd, fun hc => hhead (by rw [hc]; rfl)⟩

theorem lawful_of_none {negative : Bool} {whole part : List Char}
    (hwhole : ∀ c ∈ whole, Text.isDigit c = true)
    (first : whole = ['0'] ∨ ∃ c rest, whole = c :: rest ∧ c ≠ '0')
    (hpart : ∀ c ∈ part, Text.isDigit c = true)
    : (NumberText.mk negative whole part none).Lawful where
  whole := hwhole
  first := first
  part := hpart
  exponent _ h := nomatch h

theorem lawful_ofInteger (n : Int) : (ofInteger n).Lawful :=
  lawful_of_none (fun _ => Text.isDigit_of_mem_digitsOf) (first_digitsOf n.natAbs) (by simp)

theorem write_ofInteger (n : Int) : (ofInteger n).write = Text.integerText n := by
  cases n with
  | ofNat m => simp [ofInteger, write, partText, exponentText, Text.integerText]
  | negSucc m =>
      simp [ofInteger, write, partText, exponentText, Text.integerText, Int.negSucc_lt_zero]

theorem value?_ofInteger (n : WideInt) : (ofInteger n.val).value? = some (.integer n) := by
  have hself : WideInt.ofInt? n.val = some n := (WideInt.ofInt?_eq_some_iff n.val n).mpr rfl
  have hwhole := Text.numberOf_digitsOf n.val.natAbs
  by_cases hn : n.val < 0
  · have hzero : n.val.natAbs ≠ 0 := by omega
    have habs : -(n.val.natAbs : Int) = n.val := by omega
    have hint : WideInt.ofInt? (-(n.val.natAbs : Int)) = some n :=
      (congrArg WideInt.ofInt? habs).trans hself
    simp only [ofInteger, value?, hwhole, hn, decide_true, List.isEmpty_nil, Option.isNone_none,
      Bool.and_self, Bool.not_true, Bool.false_eq_true, if_true, if_false, hzero, hint]
  · have habs : (n.val.natAbs : Int) = n.val := by omega
    have hint : WideInt.ofInt? (n.val.natAbs : Int) = some n :=
      (congrArg WideInt.ofInt? habs).trans hself
    simp only [ofInteger, value?, hwhole, hn, decide_false, List.isEmpty_nil, Option.isNone_none,
      Bool.and_self, Bool.not_false, if_true, hint]

/-- Pieces with a part or an exponent have a binary number for their value. -/
theorem value?_real {text : NumberText} {x : Binary64} (finite : x.isFinite = true)
    (broken : (text.part.isEmpty && text.exponent.isNone) = false)
    (value : Binary64.ofDecimal text.negative text.significand
      (text.exponent.getD 0 - text.part.length) = x)
    : text.value? = some (.real x finite) := by
  subst value
  simp [value?, broken, finite]

/-- What the significant digits of a number stand for, and how far their first one is from the
point. -/
structure Scaled (x : Binary64) (digits : List Char) (exponent : Int) : Prop where
  all : ∀ c ∈ digits, Text.isDigit c = true
  head : ∃ first rest, digits = first :: rest ∧ first ≠ '0'
  low : -401 ≤ exponent
  high : exponent ≤ 399
  value : Binary64.ofDecimal x.isNegative (Text.numberOf digits) (exponent + 1 - digits.length) = x

theorem scaled_significant {x : Binary64} (finite : x.isFinite = true)
    (positive : x.magnitude ≠ 0)
    : Scaled x (Binary64.significant (Binary64.shortest x.magnitude)).1
        (Binary64.significant (Binary64.shortest x.magnitude)).2 := by
  obtain ⟨hvalue, hdigits, hlow, hhigh⟩ := Binary64.ofDecimal_of_readsBack finite positive
    (Binary64.readsBack_shortest finite positive)
  have hs := Binary64.significant_spec hdigits
  have hplace := hs.place
  obtain ⟨count, hnumber, hexponent⟩ := hs.value
  refine ⟨hs.all, hs.head, by omega, by omega, ?_⟩
  rw [← hexponent, ← Binary64.ofDecimal_mul_pow, ← hnumber]
  exact hvalue

variable {x : Binary64} {digits : List Char} {exponent : Int}

/-- Digits on both sides of the point, with zeros up to the point where there are too few, by cases
on whether there are. -/
theorem exists_positional_ofNat {e : Nat} (scaled : Scaled x digits (Int.ofNat e))
    (finite : x.isFinite = true)
    : ∃ text : NumberText, text.Lawful
        ∧ text.write
            = (if x.isNegative then ['-'] else []) ++ Binary64.positional digits (Int.ofNat e)
        ∧ text.value? = some (.real x finite) := by
  obtain ⟨first, others, hd, hfirst⟩ := scaled.head
  by_cases hlen : digits.length ≤ e + 1
  · let zeros := List.replicate (e + 1 - digits.length) '0'
    refine ⟨⟨x.isNegative, digits ++ zeros, ['0'], none⟩, lawful_of_none ?_ ?_ ?_, ?_, ?_⟩
    · intro c hc
      rcases List.mem_append.mp hc with hc | hc
      · exact scaled.all c hc
      · rw [List.eq_of_mem_replicate hc]
        rfl
    · exact .inr ⟨first, others ++ zeros, by rw [hd]; rfl, hfirst⟩
    · simp [Text.isDigit]
    · simp [write, partText, exponentText, Binary64.positional, List.take_of_length_le hlen,
        List.drop_eq_nil_of_le hlen, zeros]
    · refine value?_real finite rfl ?_
      have hsplit : (digits ++ zeros) ++ ['0']
          = digits ++ List.replicate (e + 1 - digits.length + 1) '0' := by
        simp [zeros, List.replicate_succ']
      simp only [significand, hsplit, Text.numberOf_append_zeros, Option.getD_none,
        List.length_singleton]
      rw [Binary64.ofDecimal_mul_pow]
      have hvalue := scaled.value
      rw [show (0 - ((1 : Nat) : Int) + (e + 1 - digits.length + 1 : Nat) : Int)
        = Int.ofNat e + 1 - digits.length by rw [Int.ofNat_eq_natCast]; omega]
      exact hvalue
  · have hdrop : digits.drop (e + 1) ≠ [] := by
      intro h
      exact hlen (List.drop_eq_nil_iff.mp h)
    have hempty : (digits.drop (e + 1)).isEmpty = false := by simpa using hdrop
    refine ⟨⟨x.isNegative, digits.take (e + 1), digits.drop (e + 1), none⟩,
      lawful_of_none ?_ ?_ ?_, ?_, ?_⟩
    · exact fun c hc => scaled.all c (List.mem_of_mem_take hc)
    · exact .inr ⟨first, others.take e, by rw [hd]; rfl, hfirst⟩
    · exact fun c hc => scaled.all c (List.mem_of_mem_drop hc)
    · have hzeros : e + 1 - digits.length = 0 := by omega
      simp [write, partText, exponentText, Binary64.positional, hempty, hzeros]
    · refine value?_real finite (by simp only [hempty, Bool.false_and]) ?_
      have hvalue := scaled.value
      simp only [significand, List.take_append_drop, Option.getD_none, List.length_drop]
      rw [show (0 - ((digits.length - (e + 1) : Nat) : Int))
        = Int.ofNat e + 1 - digits.length by rw [Int.ofNat_eq_natCast]; omega]
      exact hvalue

/-- Digits behind the point and zeros. -/
theorem exists_positional_negSucc {e : Nat} (scaled : Scaled x digits (Int.negSucc e))
    (finite : x.isFinite = true)
    : ∃ text : NumberText, text.Lawful
        ∧ text.write
            = (if x.isNegative then ['-'] else []) ++ Binary64.positional digits (Int.negSucc e)
        ∧ text.value? = some (.real x finite) := by
  obtain ⟨first, others, hd, hfirst⟩ := scaled.head
  refine ⟨⟨x.isNegative, ['0'], List.replicate e '0' ++ digits, none⟩,
    lawful_of_none ?_ (.inl rfl) ?_, ?_, ?_⟩
  · simp [Text.isDigit]
  · intro c hc
    rcases List.mem_append.mp hc with hc | hc
    · rw [List.eq_of_mem_replicate hc]
      rfl
    · exact scaled.all c hc
  · have hempty : (List.replicate e '0' ++ digits).isEmpty = false := by simp [hd]
    simp [write, partText, exponentText, Binary64.positional, hempty]
  · refine value?_real finite (by simp [hd]) ?_
    have hvalue := scaled.value
    have hsplit : ['0'] ++ (List.replicate e '0' ++ digits)
        = List.replicate (e + 1) '0' ++ digits := rfl
    simp only [significand, hsplit, Text.numberOf_zeros_append, Option.getD_none,
      List.length_append, List.length_replicate]
    rw [show (0 - ((e + digits.length : Nat) : Int)) = Int.negSucc e + 1 - digits.length by omega]
    exact hvalue

/-- One digit before the point and an exponent. -/
theorem exists_scientific (scaled : Scaled x digits exponent) (finite : x.isFinite = true)
    : ∃ text : NumberText, text.Lawful
        ∧ text.write = (if x.isNegative then ['-'] else []) ++ Binary64.scientific digits exponent
        ∧ text.value? = some (.real x finite) := by
  obtain ⟨first, others, rfl, hfirst⟩ := scaled.head
  refine ⟨⟨x.isNegative, [first], others, some exponent⟩, ⟨?_, ?_, ?_, ?_⟩, ?_, ?_⟩
  · intro c hc
    obtain rfl := List.mem_singleton.mp hc
    exact scaled.all c (by simp)
  · exact .inr ⟨first, [], rfl, hfirst⟩
  · exact fun c hc => scaled.all c (List.mem_cons_of_mem first hc)
  · intro e he
    obtain rfl := Option.some.inj he
    have hlow := scaled.low
    have hhigh := scaled.high
    simp only [greatestExponent]
    omega
  · cases others <;> simp [write, partText, exponentText, Binary64.scientific]
  · refine value?_real finite (by simp) ?_
    have hvalue := scaled.value
    simp only [List.length_cons] at hvalue
    simp only [significand, List.singleton_append, Option.getD_some]
    rw [show exponent - (others.length : Int) = exponent + 1 - (others.length + 1 : Nat) by omega]
    exact hvalue

/-- A binary number is written by the place of its first significant digit. -/
theorem writeNumber_real (x : Binary64) (finite : x.isFinite = true)
    : writeNumber (.real x finite)
        = (if x.isNegative then ['-'] else [])
          ++ (if x.magnitude = 0 then ['0', '.', '0']
              else if Binary64.leastPositional
                    ≤ (Binary64.significant (Binary64.shortest x.magnitude)).2
                  && (Binary64.significant (Binary64.shortest x.magnitude)).2
                    ≤ Binary64.greatestPositional then
                Binary64.positional (Binary64.significant (Binary64.shortest x.magnitude)).1
                  (Binary64.significant (Binary64.shortest x.magnitude)).2
              else
                Binary64.scientific (Binary64.significant (Binary64.shortest x.magnitude)).1
                  (Binary64.significant (Binary64.shortest x.magnitude)).2) := by
  simp only [writeNumber, Binary64.text]
  split <;> rfl

/-- Whatever is written for a number is a number in pieces, which has that number for its value. -/
theorem exists_write (n : Number)
    : ∃ text : NumberText, text.Lawful ∧ text.write = writeNumber n ∧ text.value? = some n := by
  cases n with
  | integer n => exact ⟨ofInteger n.val, lawful_ofInteger n.val, write_ofInteger n.val,
      value?_ofInteger n⟩
  | real x finite =>
      rw [writeNumber_real]
      by_cases hzero : x.magnitude = 0
      · rw [if_pos hzero]
        refine ⟨⟨x.isNegative, ['0'], ['0'], none⟩, lawful_of_none ?_ (.inl rfl) ?_, rfl, ?_⟩
        · simp [Text.isDigit]
        · simp [Text.isDigit]
        · refine value?_real finite rfl ?_
          exact (Binary64.ofDecimal_zero _).trans (Binary64.eq_zero_of_magnitude finite hzero).symm
      · rw [if_neg hzero]
        have scaled := scaled_significant finite hzero
        generalize (Binary64.significant (Binary64.shortest x.magnitude)).1 = digits at scaled ⊢
        generalize (Binary64.significant (Binary64.shortest x.magnitude)).2 = exponent at scaled ⊢
        by_cases hplace : (Binary64.leastPositional ≤ exponent
            && exponent ≤ Binary64.greatestPositional) = true
        · rw [if_pos hplace]
          cases exponent with
          | ofNat e => exact exists_positional_ofNat scaled finite
          | negSucc e => exact exists_positional_negSucc scaled finite
        · rw [if_neg hplace]
          exact exists_scientific scaled finite

end NumberText

/-- What is written for a number is taken as the number. -/
theorem takes_writeNumber (n : Number) (stop : Ends rest)
    : Reader.Takes number (writeNumber n) n rest := by
  obtain ⟨text, lawful, hwrite, hvalue⟩ := NumberText.exists_write n
  rw [← hwrite]
  exact takes_number lawful hvalue stop

end TypedJson.Json.Token
