import TypedJson.Descriptor.Document
import TypedJson.Engine.Registry
import TypedJson.Typed.Record

/-!
Schemas in documents: an object with the schema's name, its type parameters, which are left out
when there are none, and its fields, each with the textual form of its type.
-/

namespace TypedJson.Schema

/-- How schemas are read. -/
def layout : Typed.Layout Schema where
  title := "struct ObjectSchema"
  fields :=
    [.of "name" true Typed.string Typed.treeString fun name schema => { schema with name },
     .of "params" false (Typed.list Typed.string) (Typed.treeList Typed.treeString)
       fun parameters schema => { schema with parameters },
     .of "fields" true (Typed.members Descriptor.reader)
       (Typed.treeMembers Descriptor.treeReader) withFields]
  empty := { name := "" }

/-- The tree of a schema. -/
def toJson (schema : Schema) : Json :=
  let parameters :=
    if schema.parameters.isEmpty then []
    else [("params", Json.array (schema.parameters.map .string))]
  .object
    ([("name", .string schema.name)] ++ parameters
      ++ [("fields", .object (schema.fields.map fun field => (field.1, field.2.toJson)))])

end TypedJson.Schema
