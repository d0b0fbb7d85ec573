import TypedJson.Engine.Registry

/-!
Extensions that come with the library: calendar dates and identifiers, each an adapter between
strings of a document and a custom type.
-/

namespace TypedJson

namespace Calendar

/-- Custom values hold dates. -/
def carrier : Carrier Date where
  typeName := "chrono::naive::date::NaiveDate"
  hold := .date
  held?
    | .date d => some d
    | _ => none

/-- The adapter between dates and strings of the given format. A tree that is no string is
refused with the given reason. -/
def adapter (name : String) (format : DateFormat) (reason : String) : Adapter :=
  .ofFunctions name carrier
    (fun json =>
      match json with
      | .string s => (Date.ofText format s.toList).mapError Date.ReadError.message
      | _ => .error reason)
    (fun date => .ok (.string (String.ofList (date.text format))))

/-- Dates as strings with dashes, under the name `LocalDate`. -/
def localDates : Extension :=
  [.adapter (adapter "LocalDate" .dashed "expected an ISO-8601 date string")]

end Calendar

namespace Uuid

/-- Custom values hold identifiers. -/
def carrier : Carrier Uuid where
  typeName := "uuid::Uuid"
  hold := .uuid
  held?
    | .uuid id => some id
    | _ => none

/-- Identifiers as strings of five groups, under the name `Uuid`. -/
def extension : Extension :=
  [.adapter
    (.ofFunctions "Uuid" carrier
      (fun json =>
        match json with
        | .string s => (ofText s.toList).mapError ReadError.message
        | _ => .error "expected a UUID string")
      (fun id => .ok (.string (String.ofList id.text))))]

end Uuid

end TypedJson
