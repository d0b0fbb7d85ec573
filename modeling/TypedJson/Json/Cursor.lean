import TypedJson.Text.Digits
import TypedJson.Text.Utf8

/-!
Reading positions in a document. A document is a sequence of symbols, each a character or a byte
that is no part of one; lines count from one and columns count the bytes since the line began.
-/

namespace TypedJson.Json

/-- What a document consists of: a character, or a byte outside every character as `none`. -/
abbrev Symbol := Option Char

/-- The symbols of a text. -/
def symbolsOfText (text : List Char) : List Symbol :=
  text.map some

/-- How many bytes a symbol takes. -/
def symbolSize : Symbol → Nat
  | some c => c.utf8Size
  | none => 1

/-- A place in a document. -/
structure Place where
  line : Nat := 1
  column : Nat := 0
  deriving DecidableEq, Repr

namespace Place

/-- The place behind a symbol. -/
def after (place : Place) (symbol : Symbol) : Place :=
  if symbol = some '\n' then ⟨place.line + 1, 0⟩
  else ⟨place.line, place.column + symbolSize symbol⟩

/-- The place behind the first byte of a symbol. -/
def afterByte (place : Place) (symbol : Symbol) : Place :=
  if symbol = some '\n' then ⟨place.line + 1, 0⟩ else ⟨place.line, place.column + 1⟩

/-- The place behind all symbols. -/
def afterAll (place : Place) (symbols : List Symbol) : Place :=
  symbols.foldl after place

/-- The place so many bytes further, if the symbols have that many. -/
def afterBytes? (place : Place) : Nat → List Symbol → Option Place
  | 0, _ => some place
  | _ + 1, [] => none
  | count + 1, symbol :: rest =>
      if symbolSize symbol ≤ count + 1 then
        (place.after symbol).afterBytes? (count + 1 - symbolSize symbol) rest
      else some ⟨place.line, place.column + (count + 1)⟩

end Place

/-- A place together with the symbols that follow it. -/
structure Cursor where
  place : Place
  rest : List Symbol
  deriving DecidableEq, Repr

/-- A blank between the parts of a document. -/
def isBlank (c : Char) : Bool :=
  c == ' ' || c == '\n' || c == '\t' || c == '\r'

namespace Cursor

/-- The start of a document. -/
def start (symbols : List Symbol) : Cursor :=
  ⟨{}, symbols⟩

/-- The place that a complaint about the next byte names: behind it, or the end of the document. -/
def ahead (cursor : Cursor) : Place :=
  match cursor.rest with
  | [] => cursor.place
  | symbol :: _ => cursor.place.afterByte symbol

/-- The cursor behind the next symbol. -/
def advance (cursor : Cursor) : Cursor :=
  match cursor.rest with
  | [] => cursor
  | symbol :: rest => ⟨cursor.place.after symbol, rest⟩

/-- The cursor at the first symbol that is no blank. -/
def skipBlanksFrom (place : Place) : List Symbol → Cursor
  | [] => ⟨place, []⟩
  | none :: rest => ⟨place, none :: rest⟩
  | some c :: rest =>
      if isBlank c then skipBlanksFrom (place.after (some c)) rest else ⟨place, some c :: rest⟩

/-- The cursor at the first symbol that is no blank. -/
def skipBlanks (cursor : Cursor) : Cursor :=
  skipBlanksFrom cursor.place cursor.rest

/-- The run of decimal digits in front, and the cursor behind it. -/
def digitsFrom (place : Place) : List Symbol → List Char × Cursor
  | [] => ([], ⟨place, []⟩)
  | none :: rest => ([], ⟨place, none :: rest⟩)
  | some c :: rest =>
      if Text.isDigit c then
        let (digits, cursor) := digitsFrom (place.after (some c)) rest
        (c :: digits, cursor)
      else ([], ⟨place, some c :: rest⟩)

/-- The run of decimal digits in front, and the cursor behind it. -/
def digits (cursor : Cursor) : List Char × Cursor :=
  digitsFrom cursor.place cursor.rest

end Cursor

end TypedJson.Json
