import TypedJson.Descriptor.Basic
import TypedJson.Text.Blank
import TypedJson.Text.NameChar
import TypedJson.Text.Utf8

/-!
Reading the textual form of descriptors. A cursor holds the byte offset reached and the text
behind it; a complaint names the offset at which the text stopped making sense. Nesting is
limited, and the limit is the measure by which reading ends.
-/

namespace TypedJson.Descriptor

/-- How deeply types may be nested in each other. -/
def greatestNesting : Nat := 64

/-- Why a text is no descriptor. -/
inductive Complaint where
  | tooDeep
  | expectedName
  | expectedMark (mark : Char)
  | unfinishedQuote
  | keyNotAllowed
  | boundTwice
  | trailingText
  deriving DecidableEq, Repr

/-- The text of a complaint, without its offset. -/
def Complaint.message : Complaint → String
  | .tooDeep => "type is nested too deeply"
  | .expectedName => "expected a type name"
  | .expectedMark mark => "expected `" ++ String.singleton mark ++ "`"
  | .unfinishedQuote => "unterminated quoted name"
  | .keyNotAllowed => "map keys must be string, any, integer or named"
  | .boundTwice => "type argument bound twice"
  | .trailingText => "unexpected trailing input"

/-- A complaint about a text, and the byte offset that it is about. -/
structure SyntaxError where
  position : Nat
  complaint : Complaint
  deriving DecidableEq, Repr

/-- The text of a complaint. -/
def SyntaxError.message (e : SyntaxError) : String :=
  "invalid type descriptor at offset " ++ toString e.position ++ ": " ++ e.complaint.message

namespace Parser

/-- The byte offset reached in a text, and what follows it. -/
structure Cursor where
  offset : Nat
  rest : List Char
  deriving DecidableEq, Repr

/-- Takes a value from a cursor, and gives it with the cursor behind it. -/
abbrev Parse (α : Type) := Cursor → Except SyntaxError (α × Cursor)

namespace Cursor

/-- The complaint at the cursor's offset. -/
def complain (cursor : Cursor) (complaint : Complaint) : SyntaxError :=
  ⟨cursor.offset, complaint⟩

/-- The cursor behind the characters that satisfy the test, and these characters. -/
def spanFrom (test : Char → Bool) (offset : Nat) : List Char → List Char × Cursor
  | [] => ([], ⟨offset, []⟩)
  | c :: rest =>
      if test c then
        let (taken, cursor) := spanFrom test (offset + c.utf8Size) rest
        (c :: taken, cursor)
      else ([], ⟨offset, c :: rest⟩)

/-- The cursor behind the characters that satisfy the test, and these characters. -/
def span (cursor : Cursor) (test : Char → Bool) : List Char × Cursor :=
  spanFrom test cursor.offset cursor.rest

/-- The cursor behind the blanks. -/
def skipBlanks (cursor : Cursor) : Cursor :=
  (cursor.span Text.isBlank).2

/-- The cursor behind the given mark, if it stands there. -/
def eat? (mark : Char) (cursor : Cursor) : Option Cursor :=
  match cursor.rest with
  | [] => none
  | c :: rest => if c = mark then some ⟨cursor.offset + c.utf8Size, rest⟩ else none

end Cursor

/-- Takes a mark, with blanks before it. -/
def expect (mark : Char) (cursor : Cursor) : Except SyntaxError Cursor :=
  let cursor := cursor.skipBlanks
  match cursor.eat? mark with
  | some next => .ok next
  | none => .error (cursor.complain (.expectedMark mark))

/-- Takes a bare name, with blanks before it. -/
def bareName : Parse String := fun cursor =>
  let cursor := cursor.skipBlanks
  match cursor.span Text.isNameChar with
  | ([], _) => .error (cursor.complain .expectedName)
  | (name, next) => .ok (String.ofList name, next)

/-- The name up to a closing quote, and the cursor behind the quote. -/
def quotedFrom (offset : Nat) : List Char → Option (List Char × Cursor)
  | [] => none
  | '"' :: rest => some ([], ⟨offset + 1, rest⟩)
  | ['\\'] => none
  | '\\' :: c :: rest =>
      (quotedFrom (offset + 1 + c.utf8Size) rest).map fun (name, cursor) => (c :: name, cursor)
  | c :: rest =>
      (quotedFrom (offset + c.utf8Size) rest).map fun (name, cursor) => (c :: name, cursor)

/-- Takes a quoted name if an opening quote stands there; one that is not closed is complained
about at its opening quote. -/
def quotedName? (cursor : Cursor) : Except SyntaxError (Option (String × Cursor)) :=
  match cursor.eat? '"' with
  | none => .ok none
  | some inner =>
      match quotedFrom inner.offset inner.rest with
      | some (name, next) => .ok (some (String.ofList name, next))
      | none => .error (cursor.complain .unfinishedQuote)

/-- Takes a name, bare or quoted, with blanks before it. -/
def name : Parse String := fun cursor => do
  let cursor := cursor.skipBlanks
  match ← quotedName? cursor with
  | some found => .ok found
  | none => bareName cursor

/-- Takes the arguments of a generic type from its first name on, up to and with the closing
mark. The bound is at least the count of characters left, each round taking one or more. -/
def argumentsFrom (type : Parse Descriptor)
    : Nat → Bindings → Parse Bindings
  | 0, _, cursor => .error (cursor.complain .expectedName)
  | bound + 1, arguments, cursor => do
      let (parameter, cursor) ← name cursor
      let cursor ← expect '=' cursor
      let (argument, cursor) ← type cursor
      if (arguments.lookup parameter).isSome then .error (cursor.complain .boundTwice)
      else
        let arguments := Directory.insert parameter argument arguments
        let cursor := cursor.skipBlanks
        match cursor.eat? '>' with
        | some cursor => .ok (arguments, cursor)
        | none => do
            let cursor ← expect ',' cursor
            argumentsFrom type bound arguments cursor

/-- Takes what follows the name of a type: arguments between angle brackets, or nothing. -/
def afterName (type : Parse Descriptor) (name : String) : Parse Descriptor := fun cursor =>
  let cursor := cursor.skipBlanks
  match cursor.eat? '<' with
  | none => .ok (.named name, cursor)
  | some cursor => do
      let (arguments, cursor) ← argumentsFrom type (cursor.rest.length + 1) [] cursor
      .ok (.generic name arguments, cursor)

/-- The type that a keyword other than `list` and `map` means. -/
def primitive? (word : String) : Option Descriptor :=
  if word = "bytes" then some .bytes
  else if word = "any" then some .any
  else if word = "bool" || word = "boolean" then some .bool
  else if word = "integer" || word = "int" || word = "long" then some .integer
  else if word = "float" || word = "double" || word = "number" then some .float
  else if word = "string" then some .string
  else none

/-- Takes the item type of a list behind its keyword. -/
def listTail (type : Parse Descriptor) : Parse Descriptor := fun cursor => do
  let cursor ← expect '<' cursor
  let (item, cursor) ← type cursor
  let cursor ← expect '>' cursor
  .ok (.list item, cursor)

/-- Takes the key and value types of a map behind its keyword. A key that is not allowed is
complained about at the keyword, once the whole map has been taken. -/
def mapTail (type : Parse Descriptor) (start : Cursor) : Parse Descriptor := fun cursor => do
  let cursor ← expect '<' cursor
  let (key, cursor) ← type cursor
  let cursor ← expect ',' cursor
  let (value, cursor) ← type cursor
  let cursor ← expect '>' cursor
  if key.isKey then .ok (.map key value, cursor) else .error (start.complain .keyNotAllowed)

/-- Takes a type, given what takes the types inside it. -/
def typeOf (inner : Parse Descriptor) : Parse Descriptor := fun cursor => do
  let cursor := cursor.skipBlanks
  match cursor.eat? '$' with
  | some cursor => do
      let (parameter, cursor) ← name cursor
      .ok (.var parameter, cursor)
  | none =>
      match ← quotedName? cursor with
      | some (name, next) => afterName inner name next
      | none => do
          let (word, next) ← bareName cursor
          match primitive? word with
          | some descriptor => .ok (descriptor, next)
          | none =>
              if word = "list" then listTail inner next
              else if word = "map" then mapTail inner cursor next
              else afterName inner word next

/-- Takes a type, given how many levels of types may still be opened. -/
def typeAt : Nat → Parse Descriptor
  | 0, cursor => .error (cursor.complain .tooDeep)
  | levels + 1, cursor => typeOf (typeAt levels) cursor

end Parser

/-- The descriptor that a text writes. -/
def ofText (text : String) : Except SyntaxError Descriptor := do
  let (descriptor, cursor) ← Parser.typeAt greatestNesting ⟨0, text.toList⟩
  let cursor := cursor.skipBlanks
  if cursor.rest.isEmpty then .ok descriptor else .error (cursor.complain .trailingText)

end TypedJson.Descriptor
