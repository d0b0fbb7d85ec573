import TypedJson.Number.Rounding

/-!
Binary floating-point numbers of 64 bits. A finite number is a sign and a whole multiple of the
least positive one, `2 ^ -1074`; all arithmetic here is exact arithmetic on that multiple,
followed by one rounding to nearest, a half going to the even significand.
-/

namespace TypedJson

open Number (roundHalfEven)

/-- A number in the 64-bit binary format, as its bits. -/
structure Binary64 where
  bits : UInt64
  deriving DecidableEq, Repr

namespace Binary64

instance : Inhabited Binary64 := ⟨⟨0⟩⟩

/-- The sign bit. -/
def isNegative (x : Binary64) : Bool :=
  0x8000000000000000 ≤ x.bits.toNat

/-- The eleven bits of the exponent. -/
def exponentField (x : Binary64) : Nat :=
  x.bits.toNat / 0x10000000000000 % 2048

/-- The low 52 bits. -/
def fraction (x : Binary64) : Nat :=
  x.bits.toNat % 0x10000000000000

/-- The number is neither an infinity nor not-a-number. -/
def isFinite (x : Binary64) : Bool :=
  x.exponentField != 2047

/-- The bits stand for no number. -/
def isNaN (x : Binary64) : Bool :=
  x.exponentField == 2047 && x.fraction != 0

/-- The significand, with the leading bit that a normal number does not store. -/
def significand (x : Binary64) : Nat :=
  if x.exponentField = 0 then x.fraction else x.fraction + 0x10000000000000

/-- How often the unit of the significand doubles the least positive number. -/
def scale (x : Binary64) : Nat :=
  x.exponentField - 1

/-- The absolute value of a finite number as a multiple of the least positive one. -/
def magnitude (x : Binary64) : Nat :=
  x.significand <<< x.scale

/-- The number with the given sign, significand and scale. -/
def make (negative : Bool) (significand scale : Nat) : Binary64 :=
  let low :=
    if significand < 0x10000000000000 then significand
    else (scale + 1) * 0x10000000000000 + (significand - 0x10000000000000)
  ⟨UInt64.ofNat (low + if negative then 0x8000000000000000 else 0)⟩

/-- Zero with the given sign. -/
def zero (negative : Bool) : Binary64 :=
  make negative 0 0

/-- Infinity with the given sign. -/
def infinity (negative : Bool) : Binary64 :=
  make negative 0x10000000000000 2046

/-- The significand and scale nearest to `num / den` units of the least positive number. The
scale is chosen so that the significand has 53 bits, or as many as there are at scale zero. -/
def roundMagnitude (num den : Nat) : Nat × Nat :=
  let whole := num / den
  let scale := if whole < 0x20000000000000 then 0 else whole.log2 - 52
  let significand := roundHalfEven num (den <<< scale)
  if significand = 0x20000000000000 then (0x10000000000000, scale + 1) else (significand, scale)

/-- The number nearest to `num / den` units of the least positive one; infinity from half a unit
beyond the largest finite number on. -/
def ofMagnitude (negative : Bool) (num den : Nat) : Binary64 :=
  let rounded := roundMagnitude num den
  if 2045 < rounded.2 then infinity negative else make negative rounded.1 rounded.2

/-- One, as a multiple of the least positive number. -/
def unit : Nat := 1 <<< 1074

/-- The number nearest to an integer. -/
def ofInt (n : Int) : Binary64 :=
  ofMagnitude (n < 0) (n.natAbs * unit) 1

/-- The number nearest to `digits * 10 ^ exponent`. An exponent far outside the format's range is
answered from the count of digits, before any power of ten is computed. -/
def ofDecimal (negative : Bool) (digits : Nat) (exponent : Int) : Binary64 :=
  if digits = 0 then zero negative
  else
    let top := exponent + (Nat.toDigits 10 digits).length
    if 400 < top then infinity negative
    else if top < -400 then zero negative
    else
      match exponent with
      | .ofNat e => ofMagnitude negative (digits * Nat.pow 10 e * unit) 1
      | .negSucc e => ofMagnitude negative (digits * unit) (Nat.pow 10 (e + 1))

/-- Equality of numbers: the two zeros are equal, and not-a-number differs from everything. -/
def same (x y : Binary64) : Bool :=
  !x.isNaN && !y.isNaN && (x.bits == y.bits || (x.magnitude == 0 && y.magnitude == 0))

end Binary64

end TypedJson
