import TypedJson.Json.Skip

/-!
Reading documents straight into types of their own, without a descriptor: strings, truth values,
numbers, lists and maps. A value of the wrong kind is named together with what was expected.
-/

namespace TypedJson.Typed

open Json

/-- Reads a value of a type from a document, given how many levels may still be opened. -/
abbrev TextReader (α : Type) := Nat → Reader α

/-- Reads a value of a type from a tree. -/
abbrev TreeReader (α : Type) := Json → Except Rejection α

/-- What stands at the cursor, of which lists and objects are not read further. -/
def foundAt (cursor : Cursor) : Except Failure (Found × Cursor) :=
  match cursor.rest with
  | some 'n' :: _ =>
      (Token.word ['u', 'l', 'l'] cursor.advance).map fun cursor => (.null, cursor)
  | some 't' :: _ =>
      (Token.word ['r', 'u', 'e'] cursor.advance).map fun cursor => (.bool true, cursor)
  | some 'f' :: _ =>
      (Token.word ['a', 'l', 's', 'e'] cursor.advance).map fun cursor => (.bool false, cursor)
  | some '"' :: _ => (Token.string cursor.advance).map fun (s, cursor) => (.string s, cursor)
  | some '[' :: _ => .ok (.sequence, cursor)
  | some '\x7b' :: _ => .ok (.map, cursor)
  | some '-' :: _ => (Token.number cursor).map fun (n, cursor) => (.number n, cursor)
  | some c :: _ =>
      if Text.isDigit c then (Token.number cursor).map fun (n, cursor) => (.number n, cursor)
      else .error (cursor.faultAhead .expectedValue)
  | _ => .error (cursor.faultAhead .expectedValue)

/-- The failure of finding something else than what was expected. -/
def wrongType {α : Type} (expected : String) : Reader α := fun cursor => do
  let (found, cursor) ← foundAt cursor
  .error (cursor.rejection (.wrongType found expected))

/-- Reads behind the blanks what is there, where the document does not end. -/
def atValue {α : Type} (reader : Reader α) : Reader α := fun cursor =>
  let cursor := cursor.skipBlanks
  if cursor.rest.isEmpty then .error (cursor.faultAhead .endInValue) else reader cursor

/-- A tree. -/
def tree : TextReader Json := fun depth => Reader.tree depth

/-- A string. -/
def string : TextReader String := fun _ => atValue fun cursor =>
  match cursor.rest with
  | some '"' :: _ => Token.string cursor.advance
  | _ => wrongType "a string" cursor

/-- A truth value. -/
def bool : TextReader Bool := fun _ => atValue fun cursor =>
  match cursor.rest with
  | some 't' :: _ =>
      (Token.word ['r', 'u', 'e'] cursor.advance).map fun cursor => (true, cursor)
  | some 'f' :: _ =>
      (Token.word ['a', 'l', 's', 'e'] cursor.advance).map fun cursor => (false, cursor)
  | _ => wrongType "a boolean" cursor

/-- A number that satisfies the test of what is expected. -/
def numberOf {α : Type} (expected : String) (accept : Number → Except Rejection α)
    : TextReader α := fun _ => atValue fun cursor => do
  let (found, next) ← foundAt cursor
  match found with
  | .number n =>
      match accept n with
      | .ok value => .ok (value, next)
      | .error rejection => .error (next.rejection rejection)
  | found => .error (next.rejection (.wrongType found expected))

/-- Accepts the integers of a range. -/
def integerIn (expected : String) (least greatest : Int) (n : Number) : Except Rejection Int :=
  match n with
  | .integer i =>
      if least ≤ i.val && i.val ≤ greatest then .ok i.val
      else .error (.wrongValue (.number n) expected)
  | .real _ _ => .error (.wrongType (.number n) expected)

/-- An integer that a signed 64-bit word holds. -/
def int64 : TextReader Int :=
  numberOf "i64" (integerIn "i64" (-0x8000000000000000) 0x7FFFFFFFFFFFFFFF)

/-- An integer from 0 to 255. -/
def byte : TextReader Int :=
  numberOf "u8" (integerIn "u8" 0 255)

/-- A binary number; integers are rounded to one. -/
def float : TextReader Binary64 :=
  numberOf "f64" fun n => .ok n.toBinary64

/-- A value or null. -/
def option {α : Type} (value : TextReader α) : TextReader (Option α) := fun depth cursor =>
  let cursor := cursor.skipBlanks
  match cursor.rest with
  | some 'n' :: _ =>
      (Token.word ['u', 'l', 'l'] cursor.advance).map fun cursor => (none, cursor)
  | _ => (value depth cursor).map fun (value, cursor) => (some value, cursor)

/-- What a bracket opens one level further in, unless no level is left. -/
def enclosed {α : Type} (close : Cursor → Except Failure Cursor) (inner : TextReader α)
    : TextReader α
  | 0, cursor => .error (cursor.faultAhead .tooDeep)
  | depth + 1, cursor => Reader.enclosed close (inner depth) cursor

/-- A list. -/
def list {α : Type} (item : TextReader α) : TextReader (List α) := fun depth =>
  atValue fun cursor =>
    match cursor.rest with
    | some '[' :: _ =>
        enclosed Reader.closeList (fun depth => Reader.items (item depth)) depth cursor
    | _ => wrongType "a sequence" cursor

/-- An object whose members are collected from `empty` on. -/
def object {σ : Type} (empty : σ) (member : Nat → σ → Reader σ) : TextReader σ := fun depth =>
  atValue fun cursor =>
    match cursor.rest with
    | some '\x7b' :: _ =>
        enclosed Reader.closeObject (fun depth => Reader.members empty (member depth)) depth cursor
    | _ => wrongType "a map" cursor

/-- An object whose members all have values of one type, in the order of their names' first
occurrence. -/
def members {α : Type} (value : TextReader α) : TextReader (List (String × α)) :=
  object [] fun depth => Reader.putMember (value depth)

/-- A member's name that is an integer in quotes, up to and with its closing quote. -/
def integerKey (depth : Nat) : Reader Int := fun cursor =>
  let inner := cursor.advance
  let isNumeric := inner.rest.head?.join.any fun c => c == '-' || Text.isDigit c
  if !isNumeric then .error (inner.fault .expectedNumericKey)
  else do
    let (key, cursor) ← int64 depth inner
    match cursor.rest with
    | some '"' :: _ => .ok (key, cursor.advance)
    | _ => .error (cursor.faultAhead .expectedQuote)

/-- Puts a value under an integer key, the keys in increasing order. -/
def putSorted {α : Type} (key : Int) (value : α) : List (Int × α) → List (Int × α)
  | [] => [(key, value)]
  | (other, old) :: rest =>
      if key < other then (key, value) :: (other, old) :: rest
      else if key = other then (key, value) :: rest
      else (other, old) :: putSorted key value rest

/-- An object with integer keys, in increasing order. -/
def intMap {α : Type} (value : TextReader α) : TextReader (List (Int × α)) :=
  object [] fun depth entries cursor => do
    let (key, cursor) ← integerKey depth cursor
    let step := String.ofList (Text.integerText key)
    let (value, cursor) ← Reader.memberValue step (value depth) cursor
    .ok (putSorted key value entries, cursor)

/-- What a tree is found to be where something else was expected. -/
def foundTree : Json → Found
  | .null => .null
  | .bool b => .bool b
  | .number n => .number n
  | .string s => .string s
  | .array _ => .sequence
  | .object _ => .map

/-- A string of a tree. -/
def treeString : TreeReader String
  | .string s => .ok s
  | json => .error (.wrongType (foundTree json) "a string")

/-- A truth value of a tree. -/
def treeBool : TreeReader Bool
  | .bool b => .ok b
  | json => .error (.wrongType (foundTree json) "a boolean")

/-- A list of a tree. -/
def treeList {α : Type} (item : TreeReader α) : TreeReader (List α)
  | .array items => items.mapM item
  | json => .error (.wrongType (foundTree json) "a sequence")

/-- The members of an object of a tree. -/
def treeMembers {α : Type} (value : TreeReader α) : TreeReader (List (String × α))
  | .object members => members.mapM fun (name, json) => (value json).map fun value => (name, value)
  | json => .error (.wrongType (foundTree json) "a map")

/-- Reads a whole text. -/
def ofText {α : Type} (reader : TextReader α) (text : List Char) : Except Problem α :=
  (Reader.document (reader greatestDepth) (symbolsOfText text)).mapError Failure.problem

end TypedJson.Typed
