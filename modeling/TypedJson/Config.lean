import TypedJson.Charset.Basic
import TypedJson.Engine.Basic
import TypedJson.Typed.Record

/-!
The configuration of a codec. Every setting has a default, so that a document may give some of
them only.
-/

namespace TypedJson

/-- The settings of a codec. -/
structure Config where
  dismissNotFound : Bool := true
  defaultCharset : String := "UTF-8"
  strict : Bool := false
  pretty : Bool := false
  deriving DecidableEq, Repr

namespace Config

/-- The charset of bodies that declare none; UTF-8 when the setting names no known one. -/
def charset (config : Config) : Charset :=
  (Charset.ofLabel? config.defaultCharset).getD .utf8

/-- How configurations are read. -/
def layout : Typed.Layout Config where
  title := "struct CodecConfig"
  fields :=
    [.of "dismiss_404" false Typed.bool Typed.treeBool
       fun dismissNotFound config => { config with dismissNotFound },
     .of "default_charset" false Typed.string Typed.treeString
       fun defaultCharset config => { config with defaultCharset },
     .of "fail_on_unknown_properties" false Typed.bool Typed.treeBool
       fun strict config => { config with strict },
     .of "pretty_print" false Typed.bool Typed.treeBool
       fun pretty config => { config with pretty }]
  empty := {}

/-- The tree of a configuration. -/
def toJson (config : Config) : Json :=
  .object
    [("dismiss_404", .bool config.dismissNotFound),
     ("default_charset", .string config.defaultCharset),
     ("fail_on_unknown_properties", .bool config.strict),
     ("pretty_print", .bool config.pretty)]

end Config

/-- The engine of a configuration, with extensions applied in order. -/
def Engine.ofConfig (config : Config) (extensions : List Extension) : Engine :=
  let builder : Engine.Builder := { strict := config.strict, pretty := config.pretty }
  (extensions.foldl (fun builder extension => builder.extend extension) builder).build.1

end TypedJson
