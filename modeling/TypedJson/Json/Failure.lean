import TypedJson.Json.Cursor
import TypedJson.Json.Basic
import TypedJson.Number.Notation
import TypedJson.Text.Quoted

/-!
Why a document could not be read. A fault is a breach of the grammar; a rejection is a value of
the wrong kind for what is being read. A fault is placed where it is found, a rejection by the
nearest enclosing part of the document that is being read, or not at all.
-/

namespace TypedJson.Json

/-- A breach of the grammar of documents. -/
inductive Fault where
  | endInList
  | endInObject
  | endInString
  | endInValue
  | expectedColon
  | expectedItemEnd
  | expectedMemberEnd
  | expectedIdentifier
  | expectedValue
  | expectedQuote
  | expectedNumericKey
  | invalidEscape
  | invalidNumber
  | numberOutOfRange
  | invalidEncoding
  | controlCharacter
  | keyNotString
  | loneSurrogate
  | unfinishedSurrogatePair
  | trailingComma
  | trailingText
  | tooDeep
  deriving DecidableEq, Repr

/-- The text of a fault. -/
def Fault.message : Fault → String
  | .endInList => "EOF while parsing a list"
  | .endInObject => "EOF while parsing an object"
  | .endInString => "EOF while parsing a string"
  | .endInValue => "EOF while parsing a value"
  | .expectedColon => "expected `:`"
  | .expectedItemEnd => "expected `,` or `]`"
  | .expectedMemberEnd => "expected `,` or `\x7d`"
  | .expectedIdentifier => "expected ident"
  | .expectedValue => "expected value"
  | .expectedQuote => "expected `\"`"
  | .expectedNumericKey => "invalid value: expected key to be a number in quotes"
  | .invalidEscape => "invalid escape"
  | .invalidNumber => "invalid number"
  | .numberOutOfRange => "number out of range"
  | .invalidEncoding => "invalid unicode code point"
  | .controlCharacter => "control character (\\u0000-\\u001F) found while parsing a string"
  | .keyNotString => "key must be a string"
  | .loneSurrogate => "lone leading surrogate in hex escape"
  | .unfinishedSurrogatePair => "unexpected end of hex escape"
  | .trailingComma => "trailing comma"
  | .trailingText => "trailing characters"
  | .tooDeep => "recursion limit exceeded"

/-- What stands in a document where something else was expected. -/
inductive Found where
  | null
  | bool (b : Bool)
  | number (n : Number)
  | string (s : String)
  | sequence
  | map
  deriving DecidableEq, Repr

/-- What was found, as messages name it. -/
def Found.text : Found → String
  | .null => "null"
  | .bool b => "boolean `" ++ (if b then "true" else "false") ++ "`"
  | .number (.integer n) => "integer `" ++ String.ofList (Text.integerText n.val) ++ "`"
  | .number (.real x _) => "floating point `" ++ String.ofList x.text ++ "`"
  | .string s => "string " ++ Text.quoted s
  | .sequence => "sequence"
  | .map => "map"

/-- A value of the wrong kind for what is being read. -/
inductive Rejection where
  | wrongType (found : Found) (expected : String)
  | wrongValue (found : Found) (expected : String)
  | wrongLength (length : Nat) (expected : String)
  | missingField (name : String)
  | duplicateField (name : String)
  | refused (reason : String)
  deriving DecidableEq, Repr

/-- The text of a rejection. -/
def Rejection.message : Rejection → String
  | .wrongType found expected => "invalid type: " ++ found.text ++ ", expected " ++ expected
  | .wrongValue found expected => "invalid value: " ++ found.text ++ ", expected " ++ expected
  | .wrongLength length expected =>
      "invalid length " ++ toString length ++ ", expected " ++ expected
  | .missingField name => "missing field `" ++ name ++ "`"
  | .duplicateField name => "duplicate field `" ++ name ++ "`"
  | .refused reason => reason

/-- Why reading stopped. -/
inductive Cause where
  | fault (f : Fault)
  | rejection (r : Rejection)
  deriving DecidableEq, Repr

/-- The text of a cause, without its place. -/
def Cause.message : Cause → String
  | .fault f => f.message
  | .rejection r => r.message

/-- A step from a value into one of its parts. -/
inductive Step where
  | index (i : Nat)
  | key (name : String)
  deriving DecidableEq, Repr

/-- A step behind others, as messages show it. -/
def Step.text : Step → String
  | .index i => "[" ++ toString i ++ "]"
  | .key name => "." ++ name

/-- Why a document could not be read, and where. -/
structure Problem where
  cause : Cause
  place : Option Place
  deriving DecidableEq, Repr

/-- The text of a problem, with its place if it has one. -/
def Problem.message (problem : Problem) : String :=
  match problem.place with
  | none => problem.cause.message
  | some place =>
      problem.cause.message ++ " at line " ++ toString place.line ++ " column "
        ++ toString place.column

/-- A problem on the way: the cursor at which reading stopped, and the steps from the outermost
value to the part that was being read. -/
structure Failure where
  problem : Problem
  cursor : Cursor
  path : List Step
  deriving DecidableEq, Repr

namespace Cursor

/-- The fault at the cursor's own place. -/
def fault (cursor : Cursor) (fault : Fault) : Failure :=
  ⟨⟨.fault fault, some cursor.place⟩, cursor, []⟩

/-- The fault at the next byte. -/
def faultAhead (cursor : Cursor) (fault : Fault) : Failure :=
  ⟨⟨.fault fault, some cursor.ahead⟩, cursor, []⟩

/-- The rejection at the cursor's own place. -/
def rejection (cursor : Cursor) (rejection : Rejection) : Failure :=
  ⟨⟨.rejection rejection, some cursor.place⟩, cursor, []⟩

/-- The rejection without a place. -/
def looseRejection (cursor : Cursor) (rejection : Rejection) : Failure :=
  ⟨⟨.rejection rejection, none⟩, cursor, []⟩

end Cursor

namespace Failure

/-- The failure seen from outside the part that `step` leads to. -/
def under (step : Step) (failure : Failure) : Failure :=
  { failure with path := step :: failure.path }

/-- The failure of a list or an object whose end is then looked for: a rejection without a place
is placed where that search stops. -/
def settle (close : Cursor → Except Failure Cursor) (failure : Failure) : Failure :=
  match failure.problem.place with
  | some _ => failure
  | none =>
      let stop :=
        match close failure.cursor with
        | .ok cursor => cursor
        | .error later => later.cursor
      ⟨⟨failure.problem.cause, some stop.place⟩, stop, failure.path⟩

end Failure

end TypedJson.Json
