import TypedJson.Members
import TypedJson.Number.Binary64
import TypedJson.Number.WideInt

/-!
JSON trees. A number is an integer of at most 64 bits or a finite binary number, never both:
`1` and `1.0` are different trees. The members of an object keep the order in which their names
first came.
-/

namespace TypedJson

/-- A number of a JSON tree. -/
inductive Number where
  | integer (n : WideInt)
  | real (x : Binary64) (finite : x.isFinite = true)
  deriving DecidableEq, Repr

/-- A JSON tree. -/
inductive Json where
  | null
  | bool (b : Bool)
  | number (n : Number)
  | string (s : String)
  | array (items : List Json)
  | object (members : List (String × Json))
  deriving Repr

namespace Json

instance : Inhabited Json := ⟨.null⟩

/-- The tree is null. -/
def isNull : Json → Bool
  | .null => true
  | _ => false

/-- The tree of an integer. -/
def ofUInt64 (n : UInt64) : Json :=
  .number (.integer (.ofUInt64 n))

/-- The tree of an integer. -/
def ofInt64 (n : Int64) : Json :=
  .number (.integer (.ofInt64 n))

/-- The tree of a finite number; there is none for the infinities and for not-a-number. -/
def ofBinary64? (x : Binary64) : Option Json :=
  if h : x.isFinite = true then some (.number (.real x h)) else none

end Json

/-- The number in the binary format nearest to a number of a tree. -/
def Number.toBinary64 : Number → Binary64
  | .integer n => .ofInt n.val
  | .real x _ => x

end TypedJson
