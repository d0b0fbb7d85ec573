import TypedJson.Calendar.Date
import TypedJson.Members
import TypedJson.Number.Binary64
import TypedJson.Uuid

/-!
Values: what a document is decoded to and encoded from. A value is a JSON tree with two
additions: records that know their type, and custom values that an adapter has made. Integers
stay integers: `12` is never the same value as `12.0`.
-/

namespace TypedJson

/-- What a custom value holds: a date, an identifier, or an amount in a unit of the host's own. -/
inductive Payload where
  | date (d : Calendar.Date)
  | uuid (id : Uuid)
  | amount (unit : String) (n : Int)
  deriving DecidableEq, Repr

/-- The text of a payload, as messages show it. -/
def Payload.text : Payload → String
  | .date d => String.ofList (d.text .dashed)
  | .uuid id => String.ofList id.text
  | .amount unit n => unit ++ "(" ++ String.ofList (Text.integerText n) ++ ")"

/-- A value that belongs to an adapter, tagged with the name of its type. -/
structure Custom where
  tag : String
  payload : Payload
  deriving DecidableEq, Repr

/-- The text of a custom value, as messages show it. -/
def Custom.text (custom : Custom) : String :=
  custom.tag ++ "(" ++ custom.payload.text ++ ")"

/-- A value. An integer may be held in an unsigned word even when a signed one has room for it. -/
inductive Value where
  | null
  | bool (b : Bool)
  | integer (n : Int64)
  | unsigned (n : UInt64)
  | float (x : Binary64)
  | string (s : String)
  | array (items : List Value)
  | map (entries : List (String × Value))
  | object (typeName : String) (fields : List (String × Value))
  | custom (c : Custom)
  deriving Repr

/-- What kind of thing a value or a JSON tree is, as messages name it. -/
inductive Kind where
  | null
  | bool
  | integer
  | float
  | string
  | array
  | map
  | object
  | custom
  | key
  deriving DecidableEq, Repr

/-- A kind, as messages name it. -/
def Kind.text : Kind → String
  | .null => "null"
  | .bool => "bool"
  | .integer => "integer"
  | .float => "float"
  | .string => "string"
  | .array => "array"
  | .map => "map"
  | .object => "object"
  | .custom => "custom value"
  | .key => "string key"

namespace Value

instance : Inhabited Value := ⟨.null⟩

/-- What kind of thing a value is. -/
def kind : Value → Kind
  | .null => .null
  | .bool _ => .bool
  | .integer _ | .unsigned _ => .integer
  | .float _ => .float
  | .string _ => .string
  | .array _ => .array
  | .map _ => .map
  | .object _ _ => .object
  | .custom _ => .custom

/-- The value is null. -/
def isNull : Value → Bool
  | .null => true
  | _ => false

/-- The truth value, if it is one. -/
def asBool? : Value → Option Bool
  | .bool b => some b
  | _ => none

/-- The number that an integer value holds. -/
def integral? : Value → Option Int
  | .integer n => some n.toInt
  | .unsigned n => some n.toNat
  | _ => none

/-- The integer, where a signed word has room for it. -/
def asInt64? (value : Value) : Option Int :=
  value.integral?.filter (· < 0x8000000000000000)

/-- The number, an integer rounded to the nearest in the binary format. -/
def asBinary64? : Value → Option Binary64
  | .float x => some x
  | .integer n => some (.ofInt n.toInt)
  | .unsigned n => some (.ofInt n.toNat)
  | _ => none

/-- The string, if it is one. -/
def asString? : Value → Option String
  | .string s => some s
  | _ => none

/-- The items, if it is an array. -/
def asArray? : Value → Option (List Value)
  | .array items => some items
  | _ => none

/-- The entries, if it is a map. -/
def asMap? : Value → Option (List (String × Value))
  | .map entries => some entries
  | _ => none

/-- The type name, if it is an object. -/
def objectType? : Value → Option String
  | .object typeName _ => some typeName
  | _ => none

/-- The entries of a map or the fields of an object. -/
def members? : Value → Option (List (String × Value))
  | .map entries => some entries
  | .object _ fields => some fields
  | _ => none

/-- The value under a name of a map or an object. -/
def get? (value : Value) (name : String) : Option Value :=
  value.members?.bind (·.lookup name)

/-- An unsigned number, in a signed word where there is room for it. -/
def ofUInt64 (n : UInt64) : Value :=
  if n.toNat < 0x8000000000000000 then .integer (Int64.ofNat n.toNat) else .unsigned n

end Value

end TypedJson
