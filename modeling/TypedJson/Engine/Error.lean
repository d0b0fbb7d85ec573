import TypedJson.Descriptor.Printer
import TypedJson.Json.Failure
import TypedJson.Value.Basic

/-!
Why a tree could not be read as a type, and why a value could not be written as one. Both kinds
of error carry the path from the outermost node to the node that is at fault.
-/

namespace TypedJson

/-- A path from the outermost node to a node inside it. -/
abbrev Path := List Json.Step

/-- A path, as messages show it. -/
def Path.text (path : Path) : String :=
  "$" ++ String.join (path.map Json.Step.text)

/-- What was expected at a node: a shape, a named type, or a key of some shape. -/
inductive Expected where
  | shape (descriptor : Descriptor)
  | type (name : String)
  | key (descriptor : Descriptor)
  deriving DecidableEq, Repr

/-- What was expected, as messages name it. -/
def Expected.text : Expected → String
  | .shape descriptor => descriptor.text
  | .type name => name
  | .key descriptor => descriptor.text ++ " key"

/-- Why a tree could not be read as a type. -/
inductive ReadCause where
  | mismatch (expected : Expected) (found : Kind)
  | unknownType (name : String)
  | unknownProperty (typeName property : String)
  | unbound (parameter : String)
  | missingArgument (typeName parameter : String)
  | adapter (typeName reason : String)
  deriving DecidableEq, Repr

/-- Why a tree could not be read as a type, and at which node. -/
structure ReadError where
  path : Path
  cause : ReadCause
  deriving DecidableEq, Repr

namespace ReadError

/-- The error seen from outside the part that `step` leads to. -/
def under (step : Json.Step) (e : ReadError) : ReadError :=
  ⟨step :: e.path, e.cause⟩

/-- The text of a reading error. -/
def message (e : ReadError) : String :=
  let place := e.path.text
  match e.cause with
  | .mismatch expected found =>
      "expected " ++ expected.text ++ " at " ++ place ++ ", found " ++ found.text
  | .unknownType name => "unknown type `" ++ name ++ "` at " ++ place
  | .unknownProperty typeName property =>
      "unknown property `" ++ property ++ "` for type `" ++ typeName ++ "` at " ++ place
  | .unbound parameter => "type variable `$" ++ parameter ++ "` is not bound at " ++ place
  | .missingArgument typeName parameter =>
      "type `" ++ typeName ++ "` needs an argument for `" ++ parameter ++ "` at " ++ place
  | .adapter typeName reason =>
      "adapter for `" ++ typeName ++ "` rejected the value at " ++ place ++ ": " ++ reason

end ReadError

/-- Why a value could not be written as a type. -/
inductive WriteCause where
  | mismatch (expected : Expected) (found : Kind)
  | unsupportedType (tag : String)
  | unknownType (name : String)
  | nonFinite
  | unbound (parameter : String)
  | missingArgument (typeName parameter : String)
  | adapter (typeName reason : String)
  deriving DecidableEq, Repr

/-- Why a value could not be written as a type, and at which node. -/
structure WriteError where
  path : Path
  cause : WriteCause
  deriving DecidableEq, Repr

namespace WriteError

/-- The error seen from outside the part that `step` leads to. -/
def under (step : Json.Step) (e : WriteError) : WriteError :=
  ⟨step :: e.path, e.cause⟩

/-- The text of a writing error. -/
def message (e : WriteError) : String :=
  let place := e.path.text
  match e.cause with
  | .mismatch expected found =>
      "expected " ++ expected.text ++ " at " ++ place ++ ", found " ++ found.text
  | .unsupportedType tag => "no adapter registered for custom type `" ++ tag ++ "` at " ++ place
  | .unknownType name => "unknown type `" ++ name ++ "` at " ++ place
  | .nonFinite => "non-finite number at " ++ place ++ " cannot be written as JSON"
  | .unbound parameter => "type variable `$" ++ parameter ++ "` is not bound at " ++ place
  | .missingArgument typeName parameter =>
      "type `" ++ typeName ++ "` needs an argument for `" ++ parameter ++ "` at " ++ place
  | .adapter typeName reason =>
      "adapter for `" ++ typeName ++ "` failed at " ++ place ++ ": " ++ reason

end WriteError

end TypedJson
