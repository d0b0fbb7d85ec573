import TypedJson.Text.Utf8

/-!
UTF-16 in either byte order, read with replacement characters: a surrogate without its partner
is one replacement character, and so is whatever is left unfinished at the end.
-/

namespace TypedJson.Text.Utf16

/-- Which byte of a unit comes first. -/
inductive ByteOrder where
  | littleEndian
  | bigEndian
  deriving DecidableEq, Repr

/-- The unit made of two bytes in the order they stand. -/
def ByteOrder.unit (order : ByteOrder) (first second : UInt8) : Nat :=
  match order with
  | .littleEndian => second.toNat * 256 + first.toNat
  | .bigEndian => first.toNat * 256 + second.toNat

/-- The units of a byte sequence; a byte left over at the end is `none`. -/
def units (order : ByteOrder) : List UInt8 → List (Option Nat)
  | [] => []
  | [_] => [none]
  | first :: second :: rest => some (order.unit first second) :: units order rest

/-- A unit that begins a surrogate pair. -/
def isHigh (unit : Nat) : Bool := 0xD800 ≤ unit && unit ≤ 0xDBFF

/-- A unit that ends a surrogate pair. -/
def isLow (unit : Nat) : Bool := 0xDC00 ≤ unit && unit ≤ 0xDFFF

/-- The character of a surrogate pair. -/
def pair (high low : Nat) : Char :=
  Char.ofNat (0x10000 + (high - 0xD800) * 1024 + (low - 0xDC00))

/-- The characters of a sequence of units, given the high surrogate that is pending before it. -/
def decodeUnits : Option Nat → List (Option Nat) → List Char
  | none, [] => []
  | some _, [] => [Utf8.replacement]
  | _, none :: _ => [Utf8.replacement]
  | none, some unit :: rest =>
      if isHigh unit then decodeUnits (some unit) rest
      else if isLow unit then Utf8.replacement :: decodeUnits none rest
      else Char.ofNat unit :: decodeUnits none rest
  | some high, some unit :: rest =>
      if isLow unit then pair high unit :: decodeUnits none rest
      else if isHigh unit then Utf8.replacement :: decodeUnits (some unit) rest
      else Utf8.replacement :: Char.ofNat unit :: decodeUnits none rest

/-- The text of a byte sequence in UTF-16. -/
def decodeLossy (order : ByteOrder) (bytes : List UInt8) : List Char :=
  decodeUnits none (units order bytes)

end TypedJson.Text.Utf16
