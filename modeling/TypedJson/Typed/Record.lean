import TypedJson.Typed.Scalar

/-!
Records: types with named fields, read from objects and also from lists that give the fields in
their order. One layout says how a record is read from a document and from a tree. Members that
no field is named for are passed over.
-/

namespace TypedJson.Typed

open Json

/-- A field of a record that is put together in a state of type `σ`. -/
structure Field (σ : Type) where
  name : String
  required : Bool
  text : TextReader (σ → σ)
  tree : TreeReader (σ → σ)

namespace Field

/-- The field whose value is put into the state by `set`. -/
def of {σ α : Type} (name : String) (required : Bool) (text : TextReader α) (tree : TreeReader α)
    (set : α → σ → σ)
    : Field σ where
  name := name
  required := required
  text depth cursor := (text depth cursor).map fun (value, cursor) => (set value, cursor)
  tree json := (tree json).map set

end Field

/-- How a record is read: its title, its fields in order, and what it is before any is read. -/
structure Layout (σ : Type) where
  title : String
  fields : List (Field σ)
  empty : σ

namespace Layout

variable {σ : Type} (layout : Layout σ)

/-- The field with a name. -/
def field? (name : String) : Option (Field σ) :=
  layout.fields.find? fun field => field.name == name

/-- The first required field that has not been read. -/
def missing? (seen : List String) : Option String :=
  (layout.fields.find? fun field => field.required && !seen.contains field.name).map Field.name

/-- The rejection of a list that ends at the given field. -/
def tooShort (index : Nat) : Rejection :=
  .wrongLength index
    (layout.title ++ " with " ++ toString layout.fields.length
      ++ if layout.fields.length = 1 then " element" else " elements")

/-- Reads one member of an object, from its opening quote on, into the names seen so far and the
state. -/
def member (depth : Nat) (state : List String × σ) : Reader (List String × σ) := fun cursor => do
  let (name, cursor) ← Token.string cursor.advance
  match layout.field? name with
  | none =>
      let ((), cursor) ← Reader.memberValue name Skip.value cursor
      .ok (state, cursor)
  | some field =>
      if state.1.contains name then .error (cursor.looseRejection (.duplicateField name))
      else
        let (set, cursor) ← Reader.memberValue name (field.text depth) cursor
        .ok ((name :: state.1, set state.2), cursor)

/-- Reads the members of an object, which have to give every required field. -/
def readMembers (depth : Nat) : Reader σ := fun cursor => do
  let ((seen, state), cursor) ←
    Reader.members ([], layout.empty) (layout.member depth) cursor
  match layout.missing? seen with
  | none => .ok (state, cursor)
  | some name => .error (cursor.looseRejection (.missingField name))

/-- Reads the items of a list as the fields from the given index on. -/
def readItemsFrom (depth : Nat) : List (Field σ) → Nat → σ → Reader σ
  | [], _, state, cursor => .ok (state, cursor)
  | field :: fields, index, state, cursor =>
      match Reader.nextItem (index == 0) cursor with
      | .error failure => .error (failure.under (.index index))
      | .ok (.finished cursor) =>
          if (field :: fields).any (·.required) then
            let offset := ((field :: fields).takeWhile fun f => !f.required).length
            .error (cursor.looseRejection (layout.tooShort (index + offset)))
          else .ok (state, cursor)
      | .ok (.part cursor) => do
          let (set, cursor) ←
            (field.text depth cursor).mapError (Failure.under (.index index))
          readItemsFrom depth fields (index + 1) (set state) cursor

/-- Reads a record from a document. -/
def read : TextReader σ := fun depth => atValue fun cursor =>
  match cursor.rest with
  | some '\x7b' :: _ => enclosed Reader.closeObject layout.readMembers depth cursor
  | some '[' :: _ =>
      enclosed Reader.closeList
        (fun depth => layout.readItemsFrom depth layout.fields 0 layout.empty) depth cursor
  | _ => wrongType layout.title cursor

/-- Reads the members of an object of a tree into the names seen so far and the state. -/
def readTreeMembers
    : List (String × Json) → List String × σ → Except Rejection (List String × σ)
  | [], state => .ok state
  | (name, json) :: rest, state =>
      match layout.field? name with
      | none => readTreeMembers rest state
      | some field => do
          let set ← field.tree json
          readTreeMembers rest (name :: state.1, set state.2)

/-- Reads the items of a list of a tree as the fields from the given index on; `count` is the
length of the list. -/
def readTreeItems (count : Nat)
    : List (Field σ) → List Json → Nat → σ → Except Rejection σ
  | [], [], _, state => .ok state
  | [], _ :: _, _, _ => .error (.wrongLength count "fewer elements in array")
  | field :: fields, [], index, state =>
      if (field :: fields).any (·.required) then
        let offset := ((field :: fields).takeWhile fun f => !f.required).length
        .error (layout.tooShort (index + offset))
      else .ok state
  | field :: fields, json :: rest, index, state => do
      let set ← field.tree json
      readTreeItems count fields rest (index + 1) (set state)

/-- Reads a record from a tree. -/
def readTree : TreeReader σ
  | .object members => do
      let (seen, state) ← layout.readTreeMembers members ([], layout.empty)
      match layout.missing? seen with
      | none => .ok state
      | some name => .error (.missingField name)
  | .array items => layout.readTreeItems items.length layout.fields items 0 layout.empty
  | json => .error (.wrongType (foundTree json) layout.title)

end Layout

end TypedJson.Typed
