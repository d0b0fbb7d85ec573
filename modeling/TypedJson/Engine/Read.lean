import TypedJson.Descriptor.Bind
import TypedJson.Engine.Key

/-!
Reading a tree as a type. The tree is taken apart node by node; what a schema says about a field
is looked up by the field's name among the members that the object really has, so that reading
ends whatever the schemas say about each other.
-/

namespace TypedJson

/-- The value of a number: an integer in the narrowest word, or a binary number. -/
def Number.toValue : Number → Value
  | .integer n =>
      if n.isSigned then .integer (Int64.ofInt n.val) else .unsigned (UInt64.ofNat n.val.toNat)
  | .real x _ => .float x

namespace Json

/-- What kind of thing a tree is. -/
def kind : Json → Kind
  | .null => .null
  | .bool _ => .bool
  | .number (.integer _) => .integer
  | .number (.real _ _) => .float
  | .string _ => .string
  | .array _ => .array
  | .object _ => .object

mutual
/-- The value of a tree that no type is known for: objects become maps. -/
def toValue : Json → Value
  | .null => .null
  | .bool b => .bool b
  | .number n => n.toValue
  | .string s => .string s
  | .array items => .array (toValues items)
  | .object members => .map (toEntries members)

/-- The values of the items of a list. -/
def toValues : List Json → List Value
  | [] => []
  | item :: rest => toValue item :: toValues rest

/-- The entries of a map. -/
def toEntries : List (String × Json) → List (String × Value)
  | [] => []
  | (name, value) :: rest => (name, toValue value) :: toEntries rest
end

end Json

/-- The shape that a descriptor stands for, with the bindings for the parameters inside it: a
parameter is replaced by what it stands for, which has no parameters of its own. The error is the
parameter that stands for nothing. -/
def Descriptor.resolve (bindings : Bindings)
    : Descriptor → Except String (Descriptor × Bindings)
  | .var parameter =>
      match bindings.lookup parameter with
      | none => .error parameter
      | some (.var inner) => .error inner
      | some bound => .ok (bound, [])
  | descriptor => .ok (descriptor, bindings)

namespace Engine

/-- A node that waits to be told its type and the bindings. -/
abbrev Pending := Descriptor → Bindings → Except ReadError Value

/-- The first parameter of a schema that has no argument. -/
def missingArgument? (schema : Schema) (bindings : Bindings) : Option String :=
  schema.parameters.find? fun parameter => (bindings.lookup parameter).isNone

/-- The first property that a schema does not declare. -/
def undeclared? {α : Type} (schema : Schema) (members : List (String × α)) : Option String :=
  (members.map Prod.fst).find? fun property => (schema.fields.lookup property).isNone

/-- Reads the fields of a schema, in its order, from the members that are there and not null. -/
def readFields (bindings : Bindings) (members : List (String × Option Pending))
    : List (String × Descriptor) → Except ReadError (List (String × Value))
  | [] => .ok []
  | (field, type) :: rest =>
      match (members.lookup field).join with
      | none => readFields bindings members rest
      | some pending => do
          let value ← (pending type bindings).mapError (ReadError.under (.key field))
          let values ← readFields bindings members rest
          .ok ((field, value) :: values)

/-- Reads a node as a schema says, given the node's members if it is an object. -/
def readObject (engine : Engine) (name : String) (schema : Schema) (bindings : Bindings)
    (found : Kind) (members : Option (List (String × Option Pending)))
    : Except ReadError Value :=
  match missingArgument? schema bindings with
  | some parameter => .error ⟨[], .missingArgument name parameter⟩
  | none =>
      match members with
      | none => .error ⟨[], .mismatch (.type name) found⟩
      | some members =>
          match if engine.strict then undeclared? schema members else none with
          | some property => .error ⟨[], .unknownProperty schema.name property⟩
          | none => (readFields bindings members schema.fields).map (.object name)

/-- Reads a node, which is not null, as the type of a name. -/
def readNamed (engine : Engine) (json : Json) (members : Option (List (String × Option Pending)))
    (name : String) (bindings : Bindings)
    : Except ReadError Value :=
  match engine.registry.lookup name with
  | none => .error ⟨[], .unknownType name⟩
  | some (.adapter adapter) =>
      match adapter.read json with
      | .ok custom => .ok (.custom custom)
      | .error reason => .error ⟨[], .adapter name reason⟩
  | some (.object schema) => engine.readObject name schema bindings json.kind members

mutual
/-- Reads a node as a type, under the given bindings. -/
def readNode (engine : Engine) (json : Json) (type : Descriptor) (bindings : Bindings)
    : Except ReadError Value :=
  if json.isNull then .ok .null
  else
    match type.resolve bindings with
    | .error parameter => .error ⟨[], .unbound parameter⟩
    | .ok (type, bindings) =>
        let mismatch : Except ReadError Value :=
          .error ⟨[], .mismatch (.shape type) json.kind⟩
        let members : Unit → Option (List (String × Option Pending)) := fun _ =>
          match json with
          | .object members => some (pendingMembers engine members)
          | _ => none
        match type with
        | .bytes | .any => .ok json.toValue
        | .bool =>
            match json with
            | .bool b => .ok (.bool b)
            | _ => mismatch
        | .integer =>
            match json with
            | .number (.integer n) => .ok (Number.integer n).toValue
            | _ => mismatch
        | .float =>
            match json with
            | .number n => .ok (.float n.toBinary64)
            | _ => mismatch
        | .string =>
            match json with
            | .string s => .ok (.string s)
            | _ => mismatch
        | .list item =>
            match json with
            | .array items => (readItems engine items 0 item bindings).map .array
            | _ => mismatch
        | .map key value =>
            match json with
            | .object members => (readEntries engine members key value bindings).map .map
            | _ => mismatch
        | .named name => engine.readNamed json (members ()) name []
        | .generic name arguments =>
            match Descriptor.bindArguments bindings arguments with
            | .error parameter => .error ⟨[], .unbound parameter⟩
            | .ok bound => engine.readNamed json (members ()) name bound
        | .var parameter => .error ⟨[], .unbound parameter⟩
termination_by structural json

/-- Reads the items of a list from the given index on. -/
def readItems (engine : Engine) (items : List Json) (index : Nat) (type : Descriptor)
    (bindings : Bindings)
    : Except ReadError (List Value) :=
  match items with
  | [] => .ok []
  | item :: rest => do
      let value ← (readNode engine item type bindings).mapError (ReadError.under (.index index))
      let values ← readItems engine rest (index + 1) type bindings
      .ok (value :: values)
termination_by structural items

/-- Reads the entries of a map, each key before its value. -/
def readEntries (engine : Engine) (members : List (String × Json)) (key type : Descriptor)
    (bindings : Bindings)
    : Except ReadError (List (String × Value)) :=
  match members with
  | [] => .ok []
  | (name, json) :: rest => do
      (engine.checkKey name key bindings).mapError fun cause => ⟨[.key name], cause⟩
      let value ← (readNode engine json type bindings).mapError (ReadError.under (.key name))
      let values ← readEntries engine rest key type bindings
      .ok ((name, value) :: values)
termination_by structural members

/-- The members of an object as nodes that wait for their types, those that are null left
empty. -/
def pendingMembers (engine : Engine) (members : List (String × Json))
    : List (String × Option Pending) :=
  match members with
  | [] => []
  | (name, json) :: rest =>
      let node : Pending := fun type bindings => readNode engine json type bindings
      (name, if json.isNull then none else some node) :: pendingMembers engine rest
termination_by structural members
end

/-- Reads a tree as a type. -/
def read (engine : Engine) (json : Json) (type : Descriptor) : Except ReadError Value :=
  engine.readNode json type []

end Engine

end TypedJson
