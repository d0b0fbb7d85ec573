import TypedJson.Typed.Scalar

/-!
Documents of statically typed values: what such a value writes is a tree, unless it is a map with
a key that is no string and cannot be written as one.
-/

namespace TypedJson.Typed

open Json

/-- A key of a statically typed map. -/
inductive Key where
  | string (s : String)
  | integer (n : Int)
  | bool (b : Bool)
  | bytes (body : List UInt8)
  deriving DecidableEq, Repr

/-- The string that a key is written as. -/
def Key.text : Key → Except Fault String
  | .string s => .ok s
  | .integer n => .ok (String.ofList (Text.integerText n))
  | .bool b => .ok (if b then "true" else "false")
  | .bytes _ => .error .keyNotString

/-- The tree of a map. -/
def writeMap (entries : List (Key × Json)) : Except Fault Json := do
  let members ← entries.mapM fun (key, json) => do .ok ((← key.text), json)
  .ok (.object members)

/-- The tree of a binary number; null when it is not finite. -/
def writeFloat (x : Binary64) : Json :=
  (Json.ofBinary64? x).getD .null

/-- The tree of an integer, which has to fit a word; null when it does not. -/
def writeInt (n : Int) : Json :=
  match WideInt.ofInt? n with
  | some i => .number (.integer i)
  | none => .null

/-- The tree of a byte sequence: the list of its bytes. -/
def writeBytes (bytes : List UInt8) : Json :=
  .array (bytes.map fun byte => .ofUInt64 byte.toUInt64)

end TypedJson.Typed
