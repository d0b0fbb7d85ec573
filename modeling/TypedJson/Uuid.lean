import TypedJson.Text.Digits
import TypedJson.Text.Utf8

/-!
Universally unique identifiers. One is read from 32 hexadecimal digits, or from five groups of
them with hyphens between, which may stand in braces or behind `urn:uuid:`; it is written in the
five groups, in lower case.
-/

namespace TypedJson

/-- An identifier of 128 bits. -/
structure Uuid where
  value : BitVec 128
  deriving DecidableEq, Repr

namespace Uuid

/-- The 32 digits of an identifier. -/
def digits (id : Uuid) : List Char :=
  (List.range 32).map fun i => Text.hexDigit (id.value.toNat >>> (4 * (31 - i)) % 16)

/-- The five groups of an identifier. -/
def text (id : Uuid) : List Char :=
  let digits := id.digits
  digits.take 8 ++ '-' :: (digits.drop 8).take 4 ++ '-' :: (digits.drop 12).take 4
    ++ '-' :: (digits.drop 16).take 4 ++ '-' :: digits.drop 20

/-- Why a text is no identifier. -/
inductive ReadError where
  | invalidCharacter (c : Char) (offset : Nat)
  | wrongLength (length : Nat)
  | wrongGroupCount (count : Nat)
  | wrongGroupLength (group expected length : Nat)
  deriving DecidableEq, Repr

/-- The text of a complaint. -/
def ReadError.message : ReadError → String
  | .invalidCharacter c offset =>
      "invalid character: found `" ++ String.singleton c ++ "` at " ++ toString offset
  | .wrongLength length => "invalid length: found " ++ toString length
  | .wrongGroupCount count => "invalid group count: expected 5, found " ++ toString count
  | .wrongGroupLength group expected length =>
      "invalid group length in group " ++ toString group ++ ": expected " ++ toString expected
        ++ ", found " ++ toString length

/-- What an identifier is wrapped in. -/
inductive Wrapping where
  | bare
  | braces
  | urn
  deriving DecidableEq, Repr

/-- The wrapping of a text, and the text inside it. -/
def unwrap (cs : List Char) : Wrapping × List Char :=
  let marker := "urn:uuid:".toList
  if cs.head? = some '\x7b' && cs.getLast? = some '\x7d' && 2 ≤ cs.length then
    (.braces, (cs.drop 1).dropLast)
  else if cs.take marker.length = marker then (.urn, cs.drop marker.length)
  else (.bare, cs)

/-- How many bytes stand before the wrapped text. -/
def Wrapping.offset : Wrapping → Nat
  | .bare => 0
  | .braces => 1
  | .urn => 9

/-- The first character that is neither a hexadecimal digit nor a hyphen, and its offset. -/
def invalidCharacter? (offset : Nat) : List Char → Option (Char × Nat)
  | [] => none
  | c :: rest =>
      if c = '-' || (Text.hexValue? c).isSome then invalidCharacter? (offset + c.utf8Size) rest
      else some (c, offset)

/-- The texts between the hyphens. -/
def groups : List Char → List (List Char)
  | [] => [[]]
  | c :: rest =>
      if c = '-' then [] :: groups rest
      else
        match groups rest with
        | first :: more => (c :: first) :: more
        | [] => [[c]]

/-- The lengths of the five groups. -/
def groupLengths : List Nat := [8, 4, 4, 4, 12]

/-- Why a text that is no identifier is none. The length of the last group is counted to the end
of the text, whatever it is wrapped in. -/
def complain (cs : List Char) : ReadError :=
  let (wrapping, inner) := unwrap cs
  match invalidCharacter? wrapping.offset inner with
  | some (c, offset) => .invalidCharacter c offset
  | none =>
      let parts := groups inner
      if parts.length = 1 && wrapping = .bare then .wrongLength (Text.Utf8.size cs)
      else if parts.length ≠ 5 then .wrongGroupCount parts.length
      else
        let lengths := parts.map List.length
        match ((groupLengths.zip lengths).zipIdx.take 4).find? fun ((e, l), _) => e ≠ l with
        | some ((expected, length), group) => .wrongGroupLength group expected length
        | none => .wrongGroupLength 4 12 (Text.Utf8.size cs - 24)

/-- The identifier of 32 digits. -/
def ofDigits? (cs : List Char) : Option Uuid :=
  if cs.length = 32 then (Text.hexNumber? cs).map fun n => ⟨BitVec.ofNat 128 n⟩ else none

/-- The identifier in five groups. -/
def ofGroups? (cs : List Char) : Option Uuid :=
  let parts := groups cs
  if parts.map List.length = groupLengths then ofDigits? parts.flatten else none

/-- The identifier that a text writes. The length in bytes tells which form it can have, and a
complaint is about what that form leaves of the text. -/
def ofText (cs : List Char) : Except ReadError Uuid :=
  let (wrapping, inner) := unwrap cs
  let length := Text.Utf8.size cs
  let attempt (found : Option Uuid) (text : List Char) : Except ReadError Uuid :=
    match found with
    | some id => .ok id
    | none => .error (complain text)
  if length = 32 then attempt (ofDigits? cs) cs
  else if length = 36 then attempt (ofGroups? cs) cs
  else if length = 38 && wrapping = .braces then attempt (ofGroups? inner) inner
  else if length = 45 && wrapping = .urn then attempt (ofGroups? inner) inner
  else .error (complain cs)

end Uuid

end TypedJson
