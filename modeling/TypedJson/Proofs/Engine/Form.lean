import TypedJson.Engine.Write
import TypedJson.Proofs.Engine.Parts
import TypedJson.Proofs.Outcome

/-!
What a descriptor asks of a node, once its parameters are replaced and its name is looked up.
Reading and writing a node both begin by finding this form, and then succeed exactly in the ways
listed here for each form, given what reading and writing do with the node's parts.
-/

namespace TypedJson

-----------------------------------------------------------------------------------------
-- Forms
-----------------------------------------------------------------------------------------

/-- What is asked of a node: its own shape, a shape with descriptors for its parts and the
bindings for these, an adapter, or the fields of a schema. -/
inductive Form where
  | natural
  | bool
  | integer
  | float
  | string
  | list (item : Descriptor) (bindings : Bindings)
  | map (key value : Descriptor) (bindings : Bindings)
  | adapter (name : String) (a : Adapter)
  | record (name : String) (schema : Schema) (bindings : Bindings)

/-- The form says what is asked of the parts of a node. -/
def Form.hasParts : Form → Bool
  | .list .. | .map .. | .record .. => true
  | _ => false

namespace Engine

/-- The form that a name stands for, unless the name is unknown or its schema lacks an argument. -/
def formOfName? (engine : Engine) (name : String) (bindings : Bindings) : Option Form :=
  match engine.registry.lookup name with
  | none => none
  | some (.adapter a) => some (.adapter name a)
  | some (.object schema) =>
      match missingArgument? schema bindings with
      | some _ => none
      | none => some (.record name schema bindings)

/-- The form that a descriptor stands for under the given bindings. -/
def form? (engine : Engine) (type : Descriptor) (bindings : Bindings) : Option Form :=
  match type.resolve bindings with
  | .error _ => none
  | .ok (shape, bindings) =>
      match shape with
      | .bytes | .any => some .natural
      | .bool => some .bool
      | .integer => some .integer
      | .float => some .float
      | .string => some .string
      | .list item => some (.list item bindings)
      | .map key value => some (.map key value bindings)
      | .named name => engine.formOfName? name []
      | .generic name arguments =>
          match Descriptor.bindArguments bindings arguments with
          | .error _ => none
          | .ok bound => engine.formOfName? name bound
      | .var _ => none

theorem form?_any (engine : Engine) (bindings : Bindings)
    : engine.form? .any bindings = some .natural :=
  rfl

theorem lookup_of_form?_adapter {engine : Engine} {type : Descriptor} {bindings : Bindings}
    {name : String} {a : Adapter}
    (form : engine.form? type bindings = some (.adapter name a))
    : engine.registry.lookup name = some (.adapter a) := by
  have hn : ∀ known bound, engine.formOfName? known bound = some (.adapter name a) →
      engine.registry.lookup name = some (.adapter a) := by
    intro known bound h
    simp only [formOfName?] at h
    split at h
    · cases h
    · next hl =>
        cases h
        exact hl
    · split at h <;> cases h
  simp only [form?] at form
  split at form
  · cases form
  · split at form <;> try cases form
    · exact hn _ _ form
    · split at form
      · cases form
      · exact hn _ _ form

end Engine

namespace Form

/-- A node, which is not null, is read as a value in the way that the form asks for. -/
def Reads (engine : Engine) : Form → Json → Value → Prop
  | .natural, json, value => json.toValue = value
  | .bool, json, value => ∃ b, json = .bool b ∧ value = .bool b
  | .integer, json, value => ∃ n, json = .number (.integer n) ∧ value = (Number.integer n).toValue
  | .float, json, value => ∃ n : Number, json = .number n ∧ value = .float n.toBinary64
  | .string, json, value => ∃ s, json = .string s ∧ value = .string s
  | .list type bindings, json, value =>
      ∃ items values, json = .array items ∧ value = .array values
        ∧ List.Forall₂ (fun item v => engine.readNode item type bindings = .ok v) items values
  | .map key type bindings, json, value =>
      ∃ members entries, json = .object members ∧ value = .map entries
        ∧ List.Forall₂ (fun member entry => entry.1 = member.1
            ∧ engine.checkKey member.1 key bindings = .ok ()
            ∧ engine.readNode member.2 type bindings = .ok entry.2) members entries
  | .adapter _ a, json, value => ∃ custom, a.read json = .ok custom ∧ value = .custom custom
  | .record name schema bindings, json, value =>
      ∃ members parts, json = .object members ∧ value = .object name (parts.map Part.member)
        ∧ (engine.strict = true → Engine.undeclared? schema members = none)
        ∧ List.Forall₂ (Part.Related fun type node v => engine.readNode node type bindings = .ok v)
            (schema.parts Json.isNull members) parts

/-- A value, which is not null, is written as a tree in the way that the form asks for. -/
def Writes (engine : Engine) : Form → Value → Json → Prop
  | .natural, value, json => engine.writeShape value = .ok json
  | .bool, value, json => ∃ b, value = .bool b ∧ json = .bool b
  | .integer, value, json =>
      (∃ n, value = .integer n ∧ json = .ofInt64 n) ∨ ∃ n, value = .unsigned n ∧ json = .ofUInt64 n
  | .float, value, json => ∃ x, value = .float x ∧ Json.ofBinary64? x = some json
  | .string, value, json => ∃ s, value = .string s ∧ json = .string s
  | .list type bindings, value, json =>
      ∃ items nodes, value = .array items ∧ json = .array nodes
        ∧ List.Forall₂ (fun item node => engine.writeNode item type bindings = .ok node) items nodes
  | .map _ type bindings, value, json =>
      ∃ entries members, value = .map entries ∧ json = .object members
        ∧ List.Forall₂ (fun entry member => member.1 = entry.1
            ∧ engine.writeNode entry.2 type bindings = .ok member.2) entries members
  | .adapter _ a, value, json => ∃ custom, value = .custom custom ∧ a.write custom = .ok json
  | .record _ schema bindings, value, json =>
      ∃ entries, value.members? = some entries
        ∧ ∃ parts, json = .object (parts.map Part.member)
          ∧ List.Forall₂
              (Part.Related fun type v node => engine.writeNode v type bindings = .ok node)
              (schema.parts Value.isNull entries) parts

end Form

namespace Engine

variable (engine : Engine)

-----------------------------------------------------------------------------------------
-- Reading by form
-----------------------------------------------------------------------------------------

theorem readItems_eq_ok_iff (items : List Json) (index : Nat) (type : Descriptor)
    (bindings : Bindings) (values : List Value)
    : engine.readItems items index type bindings = .ok values ↔
        List.Forall₂ (fun item v => engine.readNode item type bindings = .ok v) items values :=
  walk_eq_ok_iff (engine.readItems · · type bindings) (fun _ => rfl) (fun _ _ _ => rfl)
    (fun _ _ _ => mapError_eq_ok_iff) items index values

theorem readEntries_eq_ok_iff (members : List (String × Json)) (key type : Descriptor)
    (bindings : Bindings) (entries : List (String × Value))
    : engine.readEntries members key type bindings = .ok entries ↔
        List.Forall₂ (fun member entry => entry.1 = member.1
          ∧ engine.checkKey member.1 key bindings = .ok ()
          ∧ engine.readNode member.2 type bindings = .ok entry.2) members entries := by
  have step : ∀ name json value,
      ((engine.checkKey name key bindings).mapError (fun cause => ⟨[.key name], cause⟩) >>=
          fun _ => (engine.readNode json type bindings).mapError (ReadError.under (.key name)))
        = .ok value
      ↔ engine.checkKey name key bindings = .ok ()
        ∧ engine.readNode json type bindings = .ok value := by
    intro name json value
    simp only [bind_eq_ok_iff, mapError_eq_ok_iff]
    exact ⟨fun ⟨_, h⟩ => h, fun h => ⟨(), h⟩⟩
  exact entries_eq_ok_iff (engine.readEntries · key type bindings) rfl
    (fun _ _ _ => (bind_assoc _ _ _).symm) step members entries

theorem lookup_pendingMembers (members : List (String × Json)) (name : String)
    : ((pendingMembers engine members).lookup name).join =
        (members.lookup name).bind fun json =>
          if json.isNull then none
          else some fun type bindings => readNode engine json type bindings := by
  induction members with
  | nil => simp [pendingMembers]
  | cons member rest ih =>
      obtain ⟨first, json⟩ := member
      simp only [pendingMembers, Members.lookup_cons_ite]
      split
      · simp
      · exact ih

theorem undeclared?_pendingMembers (schema : Schema) (members : List (String × Json))
    : undeclared? schema (pendingMembers engine members) = undeclared? schema members := by
  have h : (pendingMembers engine members).map Prod.fst = members.map Prod.fst := by
    induction members with
    | nil => simp [pendingMembers]
    | cons member rest ih => simp [pendingMembers, ih]
  rw [undeclared?, undeclared?, h]

theorem readFields_eq_ok_iff (bindings : Bindings) (members : List (String × Json))
    (fields : List (String × Descriptor)) (values : List (String × Value))
    : readFields bindings (pendingMembers engine members) fields = .ok values ↔
        ∃ parts, values = parts.map Part.member
          ∧ List.Forall₂
              (Part.Related fun type node v => engine.readNode node type bindings = .ok v)
              (Part.pick Json.isNull members fields) parts := by
  induction fields generalizing values with
  | nil =>
      simp only [readFields, Part.pick, List.filterMap_nil, List.forall₂_nil_left_iff,
        Except.ok.injEq]
      constructor
      · exact fun h => ⟨[], h.symm, rfl⟩
      · intro given
        rcases given with ⟨_, rfl, rfl⟩
        rfl
  | cons head rest ih =>
      obtain ⟨field, type⟩ := head
      simp only [readFields, lookup_pendingMembers, Part.pick, List.filterMap_cons]
      cases hl : members.lookup field with
      | none => simpa [Part.pick] using ih values
      | some json =>
          cases hn : json.isNull with
          | true => simpa [hn, Part.pick] using ih values
          | false =>
              simp only [hn, Option.bind_some, Bool.false_eq_true, if_false, bind_eq_ok_iff,
                mapError_eq_ok_iff, ih, Except.ok.injEq, List.forall₂_cons_left_iff]
              constructor
              · intro given
                rcases given with ⟨value, hv, _, ⟨parts, rfl, hp⟩, rfl⟩
                exact ⟨⟨field, type, value⟩ :: parts, rfl, _, parts, ⟨rfl, rfl, hv⟩, hp, rfl⟩
              · intro given
                rcases given with ⟨_, rfl, ⟨_, _, value⟩, parts, ⟨rfl, rfl, hv⟩, hp, rfl⟩
                exact ⟨value, hv, _, ⟨parts, rfl, hp⟩, rfl⟩

theorem readNode_null (type : Descriptor) (bindings : Bindings)
    : engine.readNode .null type bindings = .ok .null := by
  simp [readNode, Json.isNull]

/-- A record is read when no argument is missing, no property is refused and its parts are read. -/
theorem readObject_eq_ok_iff (name : String) (schema : Schema) (bindings : Bindings) (found : Kind)
    (members : List (String × Json)) (value : Value)
    : engine.readObject name schema bindings found (some (pendingMembers engine members))
          = .ok value ↔
        missingArgument? schema bindings = none
          ∧ ∃ parts, value = .object name (parts.map Part.member)
            ∧ (engine.strict = true → undeclared? schema members = none)
            ∧ List.Forall₂
                (Part.Related fun type node v => engine.readNode node type bindings = .ok v)
                (schema.parts Json.isNull members) parts := by
  simp only [readObject, undeclared?_pendingMembers]
  cases missingArgument? schema bindings with
  | some parameter => simp
  | none =>
      have hs : (if engine.strict = true then undeclared? schema members else none) = none ↔
          (engine.strict = true → undeclared? schema members = none) := by
        cases engine.strict <;> simp
      cases hu : if engine.strict = true then undeclared? schema members else none with
      | some property =>
          simp only [reduceCtorEq, true_and, false_iff]
          intro given
          rcases given with ⟨_, _, h, _⟩
          rw [hs.mpr h] at hu
          cases hu
      | none =>
          simp only [map_eq_ok_iff, readFields_eq_ok_iff, true_and]
          constructor
          · intro given
            rcases given with ⟨_, ⟨parts, rfl, hp⟩, rfl⟩
            exact ⟨parts, rfl, hs.mp hu, hp⟩
          · intro given
            rcases given with ⟨parts, rfl, _, hp⟩
            exact ⟨_, ⟨parts, rfl, hp⟩, rfl⟩

theorem readNamed_eq_ok_iff (json : Json) (name : String) (bindings : Bindings) (value : Value)
    : engine.readNamed json
          (match json with
            | .object members => some (pendingMembers engine members)
            | _ => none)
          name bindings = .ok value ↔
        ∃ form, engine.formOfName? name bindings = some form ∧ form.Reads engine json value := by
  simp only [readNamed, formOfName?]
  cases engine.registry.lookup name with
  | none => simp
  | some entry =>
      cases entry with
      | adapter a =>
          simp only [Option.some.injEq, exists_eq_left', Form.Reads]
          cases a.read json <;> simp [@eq_comm _ _ value]
      | object schema =>
          cases json with
          | object members =>
              simp only [readObject_eq_ok_iff]
              cases missingArgument? schema bindings with
              | some parameter => simp
              | none => simp [Form.Reads]
          | _ =>
              simp only [readObject]
              cases missingArgument? schema bindings <;> simp [Form.Reads]

/-- A node other than null is read exactly in the way of its type's form. -/
theorem readNode_eq_ok_iff {json : Json} (present : json.isNull = false) (type : Descriptor)
    (bindings : Bindings) (value : Value)
    : engine.readNode json type bindings = .ok value ↔
        ∃ form, engine.form? type bindings = some form ∧ form.Reads engine json value := by
  rw [readNode.eq_def, if_neg (by simp [present])]
  simp only [form?]
  cases type.resolve bindings with
  | error parameter => simp
  | ok resolved =>
      obtain ⟨shape, bindings⟩ := resolved
      cases shape with
      | bytes | any => simp [Form.Reads]
      | bool =>
          cases json with
          | bool b => cases b <;> simp [Form.Reads, @eq_comm _ _ value]
          | _ => simp [Form.Reads]
      | integer =>
          cases json with
          | number n => cases n <;> simp [Form.Reads, @eq_comm _ _ value]
          | _ => simp [Form.Reads]
      | float => cases json <;> simp [Form.Reads, @eq_comm _ _ value]
      | string => cases json <;> simp [Form.Reads, @eq_comm _ _ value]
      | list item =>
          cases json with
          | array items =>
              simp [Form.Reads, map_eq_ok_iff, readItems_eq_ok_iff, @eq_comm _ _ value, and_comm]
          | _ => simp [Form.Reads]
      | map key type =>
          cases json with
          | object members =>
              simp [Form.Reads, map_eq_ok_iff, readEntries_eq_ok_iff, @eq_comm _ _ value, and_comm]
          | _ => simp [Form.Reads]
      | named name => exact engine.readNamed_eq_ok_iff json name [] value
      | generic name arguments =>
          dsimp only
          cases Descriptor.bindArguments bindings arguments with
          | error parameter => simp
          | ok bound => exact engine.readNamed_eq_ok_iff json name bound value
      | var parameter => simp

-----------------------------------------------------------------------------------------
-- Writing by form
-----------------------------------------------------------------------------------------

theorem writeFloat_eq_ok_iff (x : Binary64) (json : Json)
    : writeFloat x = .ok json ↔ Json.ofBinary64? x = some json := by
  simp only [writeFloat]
  cases Json.ofBinary64? x <;> simp

theorem writeCustom_eq_ok_iff (a : Adapter) (custom : Custom) (json : Json)
    : writeCustom a custom = .ok json ↔ a.write custom = .ok json := by
  simp only [writeCustom]
  cases a.write custom <;> simp

theorem writeItems_eq_ok_iff (items : List Value) (index : Nat) (type : Descriptor)
    (bindings : Bindings) (nodes : List Json)
    : engine.writeItems items index type bindings = .ok nodes ↔
        List.Forall₂ (fun item node => engine.writeNode item type bindings = .ok node)
          items nodes :=
  walk_eq_ok_iff (engine.writeItems · · type bindings) (fun _ => rfl) (fun _ _ _ => rfl)
    (fun _ _ _ => mapError_eq_ok_iff) items index nodes

theorem writeEntries_eq_ok_iff (entries : List (String × Value)) (type : Descriptor)
    (bindings : Bindings) (members : List (String × Json))
    : engine.writeEntries entries type bindings = .ok members ↔
        List.Forall₂ (fun entry member => member.1 = entry.1
          ∧ engine.writeNode entry.2 type bindings = .ok member.2) entries members :=
  entries_eq_ok_iff (engine.writeEntries · type bindings) rfl (fun _ _ _ => rfl)
    (fun _ _ _ => mapError_eq_ok_iff) entries members

theorem lookup_waitingMembers (members : List (String × Value)) (name : String)
    : ((waitingMembers engine members).lookup name).join =
        (members.lookup name).bind fun value =>
          if value.isNull then none
          else some fun type bindings => writeNode engine value type bindings := by
  induction members with
  | nil => simp [waitingMembers]
  | cons member rest ih =>
      obtain ⟨first, value⟩ := member
      simp only [waitingMembers, Members.lookup_cons_ite]
      split
      · simp
      · exact ih

theorem writeFields_eq_ok_iff (bindings : Bindings) (members : List (String × Value))
    (fields : List (String × Descriptor)) (nodes : List (String × Json))
    : writeFields bindings (waitingMembers engine members) fields = .ok nodes ↔
        ∃ parts, nodes = parts.map Part.member
          ∧ List.Forall₂
              (Part.Related fun type v node => engine.writeNode v type bindings = .ok node)
              (Part.pick Value.isNull members fields) parts := by
  induction fields generalizing nodes with
  | nil =>
      simp only [writeFields, Part.pick, List.filterMap_nil, List.forall₂_nil_left_iff,
        Except.ok.injEq]
      constructor
      · exact fun h => ⟨[], h.symm, rfl⟩
      · intro given
        rcases given with ⟨_, rfl, rfl⟩
        rfl
  | cons head rest ih =>
      obtain ⟨field, type⟩ := head
      simp only [writeFields, lookup_waitingMembers, Part.pick, List.filterMap_cons]
      cases hl : members.lookup field with
      | none => simpa [Part.pick] using ih nodes
      | some value =>
          cases hn : value.isNull with
          | true => simpa [hn, Part.pick] using ih nodes
          | false =>
              simp only [hn, Option.bind_some, Bool.false_eq_true, if_false, bind_eq_ok_iff,
                mapError_eq_ok_iff, ih, Except.ok.injEq, List.forall₂_cons_left_iff]
              constructor
              · intro given
                rcases given with ⟨node, hw, _, ⟨parts, rfl, hp⟩, rfl⟩
                exact ⟨⟨field, type, node⟩ :: parts, rfl, _, parts, ⟨rfl, rfl, hw⟩, hp, rfl⟩
              · intro given
                rcases given with ⟨_, rfl, ⟨_, _, node⟩, parts, ⟨rfl, rfl, hw⟩, hp, rfl⟩
                exact ⟨node, hw, _, ⟨parts, rfl, hp⟩, rfl⟩

theorem writeNode_null (type : Descriptor) (bindings : Bindings)
    : engine.writeNode .null type bindings = .ok .null := by
  simp [writeNode, Value.isNull]

theorem waiting_eq_members? (value : Value)
    : (match value with
        | .map entries => some (waitingMembers engine entries)
        | .object _ fields => some (waitingMembers engine fields)
        | _ => none) = value.members?.map (waitingMembers engine) := by
  cases value <;> rfl

theorem writeNamed_eq_ok_iff (value : Value) (name : String) (bindings : Bindings) (json : Json)
    : engine.writeNamed value
          (match value with
            | .map entries => some (waitingMembers engine entries)
            | .object _ fields => some (waitingMembers engine fields)
            | _ => none)
          name bindings = .ok json ↔
        ∃ form, engine.formOfName? name bindings = some form ∧ form.Writes engine value json := by
  rw [waiting_eq_members?]
  simp only [writeNamed, formOfName?]
  cases engine.registry.lookup name with
  | none => simp
  | some entry =>
      cases entry with
      | adapter a =>
          simp only [Option.some.injEq, exists_eq_left', Form.Writes]
          cases value <;> simp [writeCustom_eq_ok_iff]
      | object schema =>
          dsimp only
          cases missingArgument? schema bindings with
          | some parameter => simp
          | none =>
              simp only [Option.some.injEq, exists_eq_left', Form.Writes]
              cases value.members? with
              | none => simp
              | some entries =>
                  simp only [Option.map_some, map_eq_ok_iff, writeFields_eq_ok_iff,
                    Option.some.injEq, exists_eq_left']
                  constructor
                  · intro given
                    rcases given with ⟨_, ⟨parts, rfl, hp⟩, rfl⟩
                    exact ⟨parts, rfl, hp⟩
                  · intro given
                    rcases given with ⟨parts, rfl, hp⟩
                    exact ⟨_, ⟨parts, rfl, hp⟩, rfl⟩

/-- A value other than null is written exactly in the way of its type's form. -/
theorem writeNode_eq_ok_iff {value : Value} (present : value.isNull = false) (type : Descriptor)
    (bindings : Bindings) (json : Json)
    : engine.writeNode value type bindings = .ok json ↔
        ∃ form, engine.form? type bindings = some form ∧ form.Writes engine value json := by
  rw [writeNode.eq_def, if_neg (by simp [present])]
  simp only [form?]
  cases type.resolve bindings with
  | error parameter => simp
  | ok resolved =>
      obtain ⟨shape, bindings⟩ := resolved
      cases shape with
      | bytes | any => simp [Form.Writes]
      | bool =>
          cases value with
          | bool b => cases b <;> simp [Form.Writes, @eq_comm _ _ json]
          | _ => simp [Form.Writes]
      | integer => cases value <;> simp [Form.Writes, @eq_comm _ _ json]
      | float => cases value <;> simp [Form.Writes, writeFloat_eq_ok_iff]
      | string => cases value <;> simp [Form.Writes, @eq_comm _ _ json]
      | list item =>
          cases value with
          | array items =>
              simp [Form.Writes, map_eq_ok_iff, writeItems_eq_ok_iff, @eq_comm _ _ json, and_comm]
          | _ => simp [Form.Writes]
      | map key type =>
          cases value with
          | map entries =>
              simp [Form.Writes, map_eq_ok_iff, writeEntries_eq_ok_iff, @eq_comm _ _ json, and_comm]
          | _ => simp [Form.Writes]
      | named name => exact engine.writeNamed_eq_ok_iff value name [] json
      | generic name arguments =>
          dsimp only
          cases Descriptor.bindArguments bindings arguments with
          | error parameter => simp
          | ok bound => exact engine.writeNamed_eq_ok_iff value name bound json
      | var parameter => simp

end Engine

end TypedJson
