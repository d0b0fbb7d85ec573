/-!
Decimal and hexadecimal digits: their values, and the numbers that runs of them write.
-/

namespace TypedJson.Text

/-- A decimal digit of the first 128 code points. -/
def isDigit (c : Char) : Bool :=
  '0' ≤ c && c ≤ '9'

/-- The number that a run of decimal digits writes, continuing one that has `value` so far. -/
def numberFrom (value : Nat) (digits : List Char) : Nat :=
  digits.foldl (fun n c => n * 10 + (c.toNat - '0'.toNat)) value

/-- The number that a run of decimal digits writes. -/
def numberOf (digits : List Char) : Nat :=
  numberFrom 0 digits

/-- The decimal digits of a number, without leading zeros. -/
def digitsOf (n : Nat) : List Char :=
  Nat.toDigits 10 n

/-- A whole number in decimal, with a minus sign when it is negative. -/
def integerText (n : Int) : List Char :=
  match n with
  | .ofNat m => digitsOf m
  | .negSucc m => '-' :: digitsOf (m + 1)

/-- The digits of a text that holds at least one digit and nothing else. -/
def allDigits? (cs : List Char) : Option Nat :=
  if cs.isEmpty || !cs.all isDigit then none else some (numberOf cs)

/-- The integer that a text writes: an optional sign and then digits only, at least one. -/
def integerOf? : List Char → Option Int
  | '+' :: rest => (allDigits? rest).map Int.ofNat
  | '-' :: rest => (allDigits? rest).map fun n => -(n : Int)
  | cs => (allDigits? cs).map Int.ofNat

/-- The value of a hexadecimal digit in either letter case. -/
def hexValue? (c : Char) : Option Nat :=
  if isDigit c then some (c.toNat - '0'.toNat)
  else if 'a' ≤ c && c ≤ 'f' then some (c.toNat - 'a'.toNat + 10)
  else if 'A' ≤ c && c ≤ 'F' then some (c.toNat - 'A'.toNat + 10)
  else none

/-- The hexadecimal digit of a value below sixteen, in lower case. -/
def hexDigit (n : Nat) : Char :=
  if n < 10 then Char.ofNat ('0'.toNat + n) else Char.ofNat ('a'.toNat + (n - 10))

/-- The number that a run of hexadecimal digits writes, if it holds nothing else. -/
def hexNumber? (cs : List Char) : Option Nat :=
  cs.foldlM (fun n c => (hexValue? c).map (n * 16 + ·)) 0

/-- The hexadecimal digits of a number, without leading zeros. -/
def hexText (n : Nat) : List Char :=
  Nat.toDigits 16 n

end TypedJson.Text
