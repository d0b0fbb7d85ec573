import TypedJson.Typed.Record

/-!
Zones: what the zone server keeps. A zone has a name, and an identifier from the moment on at
which it is kept.
-/

namespace TypedJson.Zones

/-- A zone. -/
structure Zone where
  name : String
  id : Option String := none
  deriving DecidableEq, Repr

namespace Zone

/-- How zones are read. -/
def layout : Typed.Layout Zone where
  title := "struct Zone"
  fields :=
    [.of "name" true Typed.string Typed.treeString fun name zone => { zone with name },
     .of "id" false (Typed.option Typed.string)
       (fun json =>
         if json.isNull then .ok none else (Typed.treeString json).map some)
       fun id zone => { zone with id }]
  empty := { name := "" }

/-- The tree of a zone; an identifier that is not there is left out. -/
def toJson (zone : Zone) : Json :=
  .object
    (("name", .string zone.name) ::
      match zone.id with
      | some id => [("id", .string id)]
      | none => [])

end Zone

end TypedJson.Zones
