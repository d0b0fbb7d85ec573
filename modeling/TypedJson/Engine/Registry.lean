import TypedJson.Descriptor.Basic
import TypedJson.Json.Basic
import TypedJson.Value.Basic

/-!
What an engine knows about type names. A name stands for an object schema, which says how a
record is read field by field, or for an adapter, which reads and writes one custom type.
-/

namespace TypedJson

/-- A record type: fields in order, whose types may refer to the type's parameters. No two fields
have one name. -/
structure Schema where
  name : String
  parameters : List String := []
  fields : List (String × Descriptor) := []
  distinct : Members.Distinct fields := by simp [Members.Distinct]
  deriving DecidableEq, Repr

namespace Schema

/-- The schema with one more type parameter. -/
def addParameter (parameter : String) (schema : Schema) : Schema :=
  { schema with parameters := schema.parameters ++ [parameter] }

/-- The schema with a field of the given type; an earlier field of that name keeps its place. -/
def addField (name : String) (type : Descriptor) (schema : Schema) : Schema :=
  { schema with
    fields := Members.put name type schema.fields
    distinct := Members.distinct_put name type schema.distinct }

/-- The schema with the given fields instead of its own; of two with one name the later one gives
the type and the earlier one the place. -/
def withFields (fields : List (String × Descriptor)) (schema : Schema) : Schema :=
  { schema with fields := Members.ofList fields, distinct := Members.distinct_ofList fields }

end Schema

/-- Reads and writes one custom type. Either direction may refuse, with a reason. -/
structure Adapter where
  name : String
  read : Json → Except String Custom
  write : Custom → Except String Json

/-- A type that custom values can hold: how it is held, and the name that messages give it. -/
structure Carrier (α : Type) where
  typeName : String
  hold : α → Payload
  held? : Payload → Option α

/-- The adapter of two functions on a type that custom values can hold. What it reads is tagged
with its own name; a value that holds something else is refused. -/
def Adapter.ofFunctions {α : Type} (name : String) (carrier : Carrier α)
    (read : Json → Except String α) (write : α → Except String Json)
    : Adapter where
  name := name
  read json := (read json).map fun content => ⟨name, carrier.hold content⟩
  write custom :=
    match carrier.held? custom.payload with
    | some content => write content
    | none => .error ("value tagged `" ++ custom.tag ++ "` is not a " ++ carrier.typeName)

/-- What a name stands for. -/
inductive Entry where
  | adapter (a : Adapter)
  | object (schema : Schema)

/-- The name that an entry is registered under. -/
def Entry.name : Entry → String
  | .adapter a => a.name
  | .object schema => schema.name

/-- Entries that are registered together, in order. -/
abbrev Extension := List Entry

/-- The entries of an engine by name. -/
abbrev Registry := Directory Entry

/-- The registry with one more entry, which replaces an earlier one of its name. -/
def Registry.register (entry : Entry) (registry : Registry) : Registry :=
  Directory.insert entry.name entry registry

end TypedJson
