import TypedJson.Engine.Registry
import TypedJson.Text.Quoted

/-!
Engines: a registry of type names together with two flags. A builder collects registrations;
building hands them over to an engine and leaves the builder with its flags alone.
-/

namespace TypedJson

/-- What documents are read and written with. A strict engine refuses properties that a schema
does not declare; a pretty one writes indented documents. -/
structure Engine where
  registry : Registry := []
  strict : Bool := false
  pretty : Bool := false

namespace Engine

/-- The name stands for something. -/
def isRegistered (engine : Engine) (name : String) : Bool :=
  (engine.registry.lookup name).isSome

/-- The engine in one line, its type names in order. -/
def describe (engine : Engine) : String :=
  "JsonEngine \x7b types: [" ++ String.intercalate ", " (engine.registry.names.map Text.quoted)
    ++ "], fail_on_unknown_properties: " ++ toString engine.strict
    ++ ", pretty_print: " ++ toString engine.pretty ++ " \x7d"

/-- Registrations and flags for an engine to come. -/
structure Builder where
  registry : Registry := []
  strict : Bool := false
  pretty : Bool := false

namespace Builder

/-- The builder with one more entry, which replaces an earlier one of its name. -/
def register (entry : Entry) (builder : Builder) : Builder :=
  { builder with registry := Registry.register entry builder.registry }

/-- Registers what an extension brings, in order. -/
def extend (extension : Extension) (builder : Builder) : Builder :=
  extension.foldl (fun builder entry => builder.register entry) builder

/-- The engine of what has been collected, and the builder without its registrations. -/
def build (builder : Builder) : Engine × Builder :=
  (⟨builder.registry, builder.strict, builder.pretty⟩, { builder with registry := [] })

end Builder

end Engine

end TypedJson
