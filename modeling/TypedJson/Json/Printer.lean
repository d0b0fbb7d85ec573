import TypedJson.Json.Basic
import TypedJson.Number.Notation

/-!
The text of a JSON tree, in one line without spaces or with every item and member on a line of
its own, indented by two spaces for each level.
-/

namespace TypedJson.Json

/-- One character of a string: quotes, backslashes and control characters are escaped. -/
def writeChar (c : Char) : List Char :=
  if c = '"' then ['\\', '"']
  else if c = '\\' then ['\\', '\\']
  else if c.toNat = 0x08 then ['\\', 'b']
  else if c.toNat = 0x09 then ['\\', 't']
  else if c.toNat = 0x0A then ['\\', 'n']
  else if c.toNat = 0x0C then ['\\', 'f']
  else if c.toNat = 0x0D then ['\\', 'r']
  else if c.toNat < 0x20 then
    ['\\', 'u', '0', '0', Text.hexDigit (c.toNat / 16), Text.hexDigit (c.toNat % 16)]
  else [c]

/-- A string with its quotes. -/
def writeString (s : String) : List Char :=
  '"' :: s.toList.flatMap writeChar ++ ['"']

/-- A number: an integer in decimal, any other with a point or an exponent. -/
def writeNumber : Number → List Char
  | .integer n => Text.integerText n.val
  | .real x _ => x.text

/-- How a document is laid out: on one line, or indented with the given depth reached so far. -/
inductive Layout where
  | compact
  | indented (depth : Nat)
  deriving DecidableEq, Repr

namespace Layout

/-- The layout one level further in. -/
def deeper : Layout → Layout
  | .compact => .compact
  | .indented depth => .indented (depth + 1)

/-- The start of a new line, where there are lines. -/
def newLine : Layout → List Char
  | .compact => []
  | .indented depth => '\n' :: List.replicate (2 * depth) ' '

/-- What stands between a member's name and its value. -/
def colon : Layout → List Char
  | .compact => [':']
  | .indented _ => [':', ' ']

end Layout

mutual
/-- The text of a tree. -/
def write (layout : Layout) : Json → List Char
  | .null => ['n', 'u', 'l', 'l']
  | .bool true => ['t', 'r', 'u', 'e']
  | .bool false => ['f', 'a', 'l', 's', 'e']
  | .number n => writeNumber n
  | .string s => writeString s
  | .array [] => ['[', ']']
  | .array (item :: rest) =>
      '[' :: layout.deeper.newLine ++ write layout.deeper item
        ++ writeItems layout.deeper rest ++ layout.newLine ++ [']']
  | .object [] => ['\x7b', '\x7d']
  | .object ((name, value) :: rest) =>
      '\x7b' :: layout.deeper.newLine ++ writeString name ++ layout.colon
        ++ write layout.deeper value ++ writeMembers layout.deeper rest
        ++ layout.newLine ++ ['\x7d']

/-- The items after the first, each behind a comma. -/
def writeItems (layout : Layout) : List Json → List Char
  | [] => []
  | item :: rest => ',' :: layout.newLine ++ write layout item ++ writeItems layout rest

/-- The members after the first, each behind a comma. -/
def writeMembers (layout : Layout) : List (String × Json) → List Char
  | [] => []
  | (name, value) :: rest =>
      ',' :: layout.newLine ++ writeString name ++ layout.colon ++ write layout value
        ++ writeMembers layout rest
end

/-- The document of a tree, indented or on one line. -/
def text (pretty : Bool) (json : Json) : String :=
  String.ofList (json.write (if pretty then .indented 0 else .compact))

end TypedJson.Json
