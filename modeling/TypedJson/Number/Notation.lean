import TypedJson.Number.Shortest

/-!
How a binary number is written: with the fewest digits that read back, positionally when the
leading digit stands between the fifth place behind the point and the sixteenth before it, and
otherwise with an exponent whose sign is always written.
-/

namespace TypedJson.Binary64

/-- The significant digits of a decimal, without zeros at the end, and the power of ten of the
first of them. -/
def significant (decimal : Decimal) : List Char × Int :=
  let digits := Text.digitsOf decimal.digits
  ((digits.reverse.dropWhile (· == '0')).reverse, decimal.exponent + digits.length - 1)

/-- The greatest power of ten of a leading digit that is written positionally. -/
def greatestPositional : Int := 15

/-- The least power of ten of a leading digit that is written positionally. -/
def leastPositional : Int := -5

/-- Digits with the point behind the digit that counts ones; there is always a digit after it. -/
def positional (digits : List Char) (exponent : Int) : List Char :=
  match exponent with
  | .ofNat e =>
      let whole := digits.take (e + 1)
      let part := digits.drop (e + 1)
      whole ++ List.replicate (e + 1 - digits.length) '0' ++ '.' ::
        (if part.isEmpty then ['0'] else part)
  | .negSucc e => '0' :: '.' :: List.replicate e '0' ++ digits

/-- Digits with the point behind the first one, if there are more, and the power of ten. -/
def scientific (digits : List Char) (exponent : Int) : List Char :=
  let mantissa :=
    match digits with
    | first :: second :: rest => first :: '.' :: second :: rest
    | short => short
  mantissa ++ 'e' :: (if exponent < 0 then '-' else '+') :: Text.digitsOf exponent.natAbs

/-- The text of a finite number. -/
def text (x : Binary64) : List Char :=
  let digits :=
    if x.magnitude = 0 then ['0', '.', '0']
    else
      let (digits, exponent) := significant (shortest x.magnitude)
      if leastPositional ≤ exponent && exponent ≤ greatestPositional then
        positional digits exponent
      else scientific digits exponent
  if x.isNegative then '-' :: digits else digits

end TypedJson.Binary64
