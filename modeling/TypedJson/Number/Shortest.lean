import TypedJson.Number.Binary64
import TypedJson.Text.Digits

/-!
The shortest decimal that reads back as a given binary number. A decimal with a fixed count of
digits that reads back exists only if one of the number's two neighbours on that decimal grid
reads back, so it is enough to try these two, for one digit, two digits and so on.
-/

namespace TypedJson

/-- The decimal number `digits * 10 ^ exponent`. -/
structure Decimal where
  digits : Nat
  exponent : Int
  deriving DecidableEq, Repr

namespace Binary64

/-- The power of ten of the leading digit of `magnitude / unit`, for a positive magnitude. -/
def leadingExponent (magnitude : Nat) : Int :=
  if unit ≤ magnitude then (Text.digitsOf (magnitude / unit)).length - 1
  else -((Text.digitsOf ((unit - 1) / magnitude)).length : Int)

/-- The number divided by `10 ^ exponent`, as a numerator and a denominator. -/
def onGrid (magnitude : Nat) (exponent : Int) : Nat × Nat :=
  match exponent with
  | .ofNat e => (magnitude, unit * Nat.pow 10 e)
  | .negSucc e => (magnitude * Nat.pow 10 (e + 1), unit)

/-- The two multiples of `10 ^ exponent` next to the number, the nearer one first, and of two
that are equally near the even one. -/
def neighbours (magnitude : Nat) (exponent : Int) : List Nat :=
  let (num, den) := onGrid magnitude exponent
  let below := num / den
  if Number.roundHalfEven num den = below then [below, below + 1] else [below + 1, below]

/-- The decimal reads back as the number with this magnitude. -/
def readsBack (magnitude : Nat) (decimal : Decimal) : Bool :=
  let back := ofDecimal false decimal.digits decimal.exponent
  back.isFinite && back.magnitude == magnitude

/-- A decimal of `count` digits that reads back, the nearest one if there is any. -/
def withDigits? (magnitude count : Nat) : Option Decimal :=
  let exponent := leadingExponent magnitude - count + 1
  ((neighbours magnitude exponent).map (Decimal.mk · exponent)).find? (readsBack magnitude)

/-- The decimal that equals the number: a multiple of `2 ^ -1074` is one of `10 ^ -1074`. -/
def exactDecimal (magnitude : Nat) : Decimal :=
  ⟨magnitude * Nat.pow 5 1074, -1074⟩

/-- The decimal with the fewest digits that reads back as the number with this magnitude. -/
def shortest (magnitude : Nat) : Decimal :=
  ((List.range 17).findSome? fun n => withDigits? magnitude (n + 1)).getD (exactDecimal magnitude)

end Binary64

end TypedJson
