import TypedJson.Descriptor.Parser
import TypedJson.Descriptor.Printer
import TypedJson.Typed.Scalar

/-!
Descriptors in documents: a descriptor is written as a string that holds its textual form.
-/

namespace TypedJson.Descriptor

/-- The descriptor of a string, or the rejection that gives the complaint about it. -/
def ofString (s : String) : Except Json.Rejection Descriptor :=
  (ofText s).mapError fun e => .refused e.message

/-- Reads a descriptor from a document. A complaint about its text has no place of its own. -/
def reader : Typed.TextReader Descriptor := fun depth cursor => do
  let (s, cursor) ← Typed.string depth cursor
  match ofString s with
  | .ok descriptor => .ok (descriptor, cursor)
  | .error rejection => .error (cursor.looseRejection rejection)

/-- Reads a descriptor from a tree. -/
def treeReader : Typed.TreeReader Descriptor := fun json => do
  ofString (← Typed.treeString json)

/-- The tree of a descriptor. -/
def toJson (descriptor : Descriptor) : Json :=
  .string descriptor.text

end TypedJson.Descriptor
