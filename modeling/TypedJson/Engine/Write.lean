import TypedJson.Descriptor.Bind
import TypedJson.Engine.Basic
import TypedJson.Engine.Error
import TypedJson.Engine.Read

/-!
Writing a value as a type. Like reading, this takes the value apart and looks up what a schema
says about a field by name. A value whose type is not given is written by its own shape, a custom
value through the adapter that its tag names.
-/

namespace TypedJson.Engine

/-- A binary number, which has to be finite. -/
def writeFloat (x : Binary64) : Except WriteError Json :=
  match Json.ofBinary64? x with
  | some json => .ok json
  | none => .error ⟨[], .nonFinite⟩

/-- A custom value through an adapter. -/
def writeCustom (adapter : Adapter) (custom : Custom) : Except WriteError Json :=
  match adapter.write custom with
  | .ok json => .ok json
  | .error reason => .error ⟨[], .adapter adapter.name reason⟩

mutual
/-- Writes a value by its own shape. -/
def writeShape (engine : Engine) : Value → Except WriteError Json
  | .null => .ok .null
  | .bool b => .ok (.bool b)
  | .integer n => .ok (.ofInt64 n)
  | .unsigned n => .ok (.ofUInt64 n)
  | .float x => writeFloat x
  | .string s => .ok (.string s)
  | .array items => (writeShapes engine items 0).map .array
  | .map entries => (writeShapeMembers engine entries).map .object
  | .object _ fields => (writeShapeMembers engine fields).map .object
  | .custom custom =>
      match engine.registry.lookup custom.tag with
      | some (.adapter adapter) => writeCustom adapter custom
      | _ => .error ⟨[], .unsupportedType custom.tag⟩

/-- Writes the items of a list by their own shapes, from the given index on. -/
def writeShapes (engine : Engine) : List Value → Nat → Except WriteError (List Json)
  | [], _ => .ok []
  | item :: rest, index => do
      let json ← (writeShape engine item).mapError (WriteError.under (.index index))
      let items ← writeShapes engine rest (index + 1)
      .ok (json :: items)

/-- Writes entries or fields by their own shapes. -/
def writeShapeMembers (engine : Engine)
    : List (String × Value) → Except WriteError (List (String × Json))
  | [] => .ok []
  | (name, value) :: rest => do
      let json ← (writeShape engine value).mapError (WriteError.under (.key name))
      let members ← writeShapeMembers engine rest
      .ok ((name, json) :: members)
end

/-- A value that waits to be told its type and the bindings. -/
abbrev Waiting := Descriptor → Bindings → Except WriteError Json

/-- Writes the fields of a schema, in its order, from the members that are there and not null. -/
def writeFields (bindings : Bindings) (members : List (String × Option Waiting))
    : List (String × Descriptor) → Except WriteError (List (String × Json))
  | [] => .ok []
  | (field, type) :: rest =>
      match (members.lookup field).join with
      | none => writeFields bindings members rest
      | some waiting => do
          let json ← (waiting type bindings).mapError (WriteError.under (.key field))
          let written ← writeFields bindings members rest
          .ok ((field, json) :: written)

/-- Writes a value, which is not null, as the type of a name, given its members if it is a map or
an object. -/
def writeNamed (engine : Engine) (value : Value) (members : Option (List (String × Option Waiting)))
    (name : String) (bindings : Bindings)
    : Except WriteError Json :=
  match engine.registry.lookup name with
  | none => .error ⟨[], .unknownType name⟩
  | some (.adapter adapter) =>
      match value with
      | .custom custom => writeCustom adapter custom
      | _ => .error ⟨[], .mismatch (.type name) value.kind⟩
  | some (.object schema) =>
      match missingArgument? schema bindings with
      | some parameter => .error ⟨[], .missingArgument name parameter⟩
      | none =>
          match members with
          | none => .error ⟨[], .mismatch (.type name) value.kind⟩
          | some members => (writeFields bindings members schema.fields).map .object

mutual
/-- Writes a value as a type, under the given bindings. Integers are not written as floats,
which they would not be when they are read again. -/
def writeNode (engine : Engine) (value : Value) (type : Descriptor) (bindings : Bindings)
    : Except WriteError Json :=
  if value.isNull then .ok .null
  else
    match type.resolve bindings with
    | .error parameter => .error ⟨[], .unbound parameter⟩
    | .ok (type, bindings) =>
        let mismatch : Except WriteError Json :=
          .error ⟨[], .mismatch (.shape type) value.kind⟩
        let members : Unit → Option (List (String × Option Waiting)) := fun _ =>
          match value with
          | .map entries => some (waitingMembers engine entries)
          | .object _ fields => some (waitingMembers engine fields)
          | _ => none
        match type with
        | .bytes | .any => engine.writeShape value
        | .bool =>
            match value with
            | .bool b => .ok (.bool b)
            | _ => mismatch
        | .integer =>
            match value with
            | .integer n => .ok (.ofInt64 n)
            | .unsigned n => .ok (.ofUInt64 n)
            | _ => mismatch
        | .float =>
            match value with
            | .float x => writeFloat x
            | _ => mismatch
        | .string =>
            match value with
            | .string s => .ok (.string s)
            | _ => mismatch
        | .list item =>
            match value with
            | .array items => (writeItems engine items 0 item bindings).map .array
            | _ => mismatch
        | .map _ type =>
            match value with
            | .map entries => (writeEntries engine entries type bindings).map .object
            | _ => mismatch
        | .named name => engine.writeNamed value (members ()) name []
        | .generic name arguments =>
            match Descriptor.bindArguments bindings arguments with
            | .error parameter => .error ⟨[], .unbound parameter⟩
            | .ok bound => engine.writeNamed value (members ()) name bound
        | .var parameter => .error ⟨[], .unbound parameter⟩
termination_by structural value

/-- Writes the items of a list from the given index on. -/
def writeItems (engine : Engine) (items : List Value) (index : Nat) (type : Descriptor)
    (bindings : Bindings)
    : Except WriteError (List Json) :=
  match items with
  | [] => .ok []
  | item :: rest => do
      let json ← (writeNode engine item type bindings).mapError (WriteError.under (.index index))
      let written ← writeItems engine rest (index + 1) type bindings
      .ok (json :: written)
termination_by structural items

/-- Writes the entries of a map. -/
def writeEntries (engine : Engine) (entries : List (String × Value)) (type : Descriptor)
    (bindings : Bindings)
    : Except WriteError (List (String × Json)) :=
  match entries with
  | [] => .ok []
  | (name, value) :: rest => do
      let json ← (writeNode engine value type bindings).mapError (WriteError.under (.key name))
      let written ← writeEntries engine rest type bindings
      .ok ((name, json) :: written)
termination_by structural entries

/-- The entries of a map or fields of an object as values that wait for their types, those that
are null left empty. -/
def waitingMembers (engine : Engine) (members : List (String × Value))
    : List (String × Option Waiting) :=
  match members with
  | [] => []
  | (name, value) :: rest =>
      let node : Waiting := fun type bindings => writeNode engine value type bindings
      (name, if value.isNull then none else some node) :: waitingMembers engine rest
termination_by structural members
end

/-- Writes a value as a type. -/
def write (engine : Engine) (value : Value) (type : Descriptor) : Except WriteError Json :=
  engine.writeNode value type []

end TypedJson.Engine
