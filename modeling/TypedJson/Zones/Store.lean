import TypedJson.Zones.Zone

/-!
The zones that are kept, in the order of their creation. Identifiers need not be distinct: the
first zone with one is found, and all zones with it are deleted together.
-/

namespace TypedJson.Zones

/-- The zones that are kept, and how many identifiers have been made for them. -/
structure Store where
  zones : List Zone := []
  generated : Nat := 0
  deriving DecidableEq, Repr

namespace Store

/-- Keeps a zone, which gets the next of the identifiers if it has none. -/
def create (identifiers : Nat → String) (zone : Zone) (store : Store) : Zone × Store :=
  match zone.id with
  | some _ => (zone, { store with zones := store.zones ++ [zone] })
  | none =>
      let zone := { zone with id := some (identifiers store.generated) }
      (zone, ⟨store.zones ++ [zone], store.generated + 1⟩)

/-- The first zone with an identifier. -/
def find? (id : String) (store : Store) : Option Zone :=
  store.zones.find? fun zone => zone.id == some id

/-- The store without the zones that have an identifier, if there are any. -/
def delete? (id : String) (store : Store) : Option Store :=
  let kept := store.zones.filter fun zone => zone.id != some id
  if kept.length < store.zones.length then some { store with zones := kept } else none

end Store

end TypedJson.Zones
