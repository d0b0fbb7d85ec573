import TypedJson.Text.Blank
import TypedJson.Text.Digits

/-!
Days of the proleptic Gregorian calendar, and their texts in the two orders of digits that are
read and written here: with dashes, as in `2020-01-02`, and compact, as in `20200102`.
-/

namespace TypedJson.Calendar

/-- A year with a 29th of February. -/
def isLeapYear (year : Int) : Bool :=
  year % 4 = 0 && (year % 100 ≠ 0 || year % 400 = 0)

/-- How many days a month has. -/
def daysInMonth (year : Int) (month : Nat) : Nat :=
  if month = 2 then if isLeapYear year then 29 else 28
  else if month = 4 || month = 6 || month = 9 || month = 11 then 30
  else 31

/-- The first year whose days are all dates. -/
def firstYear : Int := -262143

/-- The last year whose days are all dates. -/
def lastYear : Int := 262142

/-- Year, month and day name a day. -/
def isDay (year : Int) (month day : Nat) : Bool :=
  firstYear ≤ year && year ≤ lastYear && 1 ≤ month && month ≤ 12 && 1 ≤ day
    && day ≤ daysInMonth year month

/-- A day of the calendar. -/
structure Date where
  year : Int
  month : Nat
  day : Nat
  isDay : isDay year month day = true
  deriving DecidableEq, Repr

/-- The date of a year, a month and a day, if they name one. -/
def Date.ofYearMonthDay? (year : Int) (month day : Nat) : Option Date :=
  if h : Calendar.isDay year month day = true then some ⟨year, month, day, h⟩ else none

/-- Digits with zeros in front, up to the given count. -/
def padded (width n : Nat) : List Char :=
  let digits := Text.digitsOf n
  List.replicate (width - digits.length) '0' ++ digits

/-- A year: four digits from year 0 to year 9999, otherwise a sign and at least four digits. -/
def yearText (year : Int) : List Char :=
  if 0 ≤ year && year ≤ 9999 then padded 4 year.toNat
  else (if year < 0 then '-' else '+') :: padded 4 year.natAbs

/-- Whether dashes stand between the parts of a date. -/
inductive DateFormat where
  | dashed
  | compact
  deriving DecidableEq, Repr

namespace Date

/-- The text of a date. -/
def text (format : DateFormat) (date : Date) : List Char :=
  let month := padded 2 date.month
  let day := padded 2 date.day
  match format with
  | .dashed => yearText date.year ++ '-' :: month ++ '-' :: day
  | .compact => yearText date.year ++ month ++ day

/-- Why a text is no date. -/
inductive ReadError where
  | outOfRange
  | invalid
  | tooShort
  | tooLong
  deriving DecidableEq, Repr

/-- The text of a complaint. -/
def ReadError.message : ReadError → String
  | .outOfRange => "input is out of range"
  | .invalid => "input contains invalid characters"
  | .tooShort => "premature end of input"
  | .tooLong => "trailing input"

/-- A number of at most `width` digits, or of any count where there is no width, and what follows
it. A number beyond 64 bits is out of range. -/
def takeNumber (width : Option Nat) (cs : List Char) : Except ReadError (Nat × List Char) :=
  let run := cs.takeWhile Text.isDigit
  let digits := match width with
    | some w => run.take w
    | none => run
  match cs with
  | [] => .error .tooShort
  | _ =>
      if digits.isEmpty then .error .invalid
      else if 0x8000000000000000 ≤ Text.numberOf digits then .error .outOfRange
      else .ok (Text.numberOf digits, cs.drop digits.length)

/-- A year, with blanks before it: a signed one has any count of digits, another at most four. -/
def takeYear (cs : List Char) : Except ReadError (Int × List Char) := do
  let (year, rest) ←
    match Text.dropBlanks cs with
    | '-' :: rest => (takeNumber none rest).map fun (n, rest) => (-(n : Int), rest)
    | '+' :: rest => (takeNumber none rest).map fun (n, rest) => ((n : Int), rest)
    | rest => (takeNumber (some 4) rest).map fun (n, rest) => ((n : Int), rest)
  if -0x80000000 ≤ year && year < 0x80000000 then .ok (year, rest) else .error .outOfRange

/-- A number of one or two digits between `1` and `greatest`, with blanks before it. -/
def takePart (greatest : Nat) (cs : List Char) : Except ReadError (Nat × List Char) := do
  let (n, rest) ← takeNumber (some 2) (Text.dropBlanks cs)
  if 1 ≤ n && n ≤ greatest then .ok (n, rest) else .error .outOfRange

/-- A dash, where the format has one. -/
def takeDash (format : DateFormat) (cs : List Char) : Except ReadError (List Char) :=
  match format, cs with
  | .compact, cs => .ok cs
  | .dashed, [] => .error .tooShort
  | .dashed, c :: rest => if c = '-' then .ok rest else .error .invalid

/-- The date that a text writes. -/
def ofText (format : DateFormat) (text : List Char) : Except ReadError Date := do
  let (year, rest) ← takeYear text
  let rest ← takeDash format rest
  let (month, rest) ← takePart 12 rest
  let rest ← takeDash format rest
  let (day, rest) ← takePart 31 rest
  if !rest.isEmpty then .error .tooLong
  else
    match ofYearMonthDay? year month day with
    | some date => .ok date
    | none => .error .outOfRange

end Date

end TypedJson.Calendar
