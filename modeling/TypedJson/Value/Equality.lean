import TypedJson.Value.Basic

/-!
When two values are the same. Integers are compared as numbers, whatever word holds them; binary
numbers by their own equality, in which not-a-number differs from itself; maps without regard to
order; objects by type and by the fields that are not null, in any order.
-/

namespace TypedJson.Value

/-- How many fields are not null. -/
def presentCount (fields : List (String × Value)) : Nat :=
  (fields.filter fun field => !field.2.isNull).length

mutual
/-- The two values are the same. -/
def same : Value → Value → Bool
  | .null, .null => true
  | .bool a, .bool b => a == b
  | .integer a, b => (Value.integer a).integral? == b.integral?
  | .unsigned a, b => (Value.unsigned a).integral? == b.integral?
  | .float a, .float b => a.same b
  | .string a, .string b => a == b
  | .array a, .array b => sameItems a b
  | .map a, .map b => a.length == b.length && sameEntries a b
  | .object a fields, .object b others =>
      a == b && presentCount fields == presentCount others && sameFields fields others
  | .custom a, .custom b => a == b
  | _, _ => false

/-- The two lists are the same, item by item. -/
def sameItems : List Value → List Value → Bool
  | [], [] => true
  | a :: as, b :: bs => same a b && sameItems as bs
  | _, _ => false

/-- Every entry has the same value under its name in `others`. -/
def sameEntries : List (String × Value) → List (String × Value) → Bool
  | [], _ => true
  | (name, value) :: rest, others =>
      (match others.lookup name with
        | some other => same value other
        | none => false) && sameEntries rest others

/-- Every field that is not null has the same value under its name in `others`. -/
def sameFields : List (String × Value) → List (String × Value) → Bool
  | [], _ => true
  | (name, value) :: rest, others =>
      (value.isNull ||
        match others.lookup name with
        | some other => same value other
        | none => false) && sameFields rest others
end

end TypedJson.Value
