import TypedJson.Proofs.Engine.Steps

/-!
How one step of reading or writing fails: in a part of the node, which is found by one step from
it, or because of the node itself. Each way has a name here, and whatever is proved of errors by
induction takes its cases from these.
-/

namespace TypedJson

namespace Form

-----------------------------------------------------------------------------------------
-- Parts by the steps that lead to them
-----------------------------------------------------------------------------------------

/-- The form asks for the part of a node to which the step leads, with its type and bindings. -/
inductive ReadsPart : Form → Json → Json.Step → Json → Descriptor → Bindings → Prop where
  | item {type : Descriptor} {bindings : Bindings} {items : List Json} {index : Nat} {node : Json}
    (found : items[index]? = some node)
    : ReadsPart (.list type bindings) (.array items) (.index index) node type bindings
  | entry {key type : Descriptor} {bindings : Bindings} {members : List (String × Json)}
    {name : String} {node : Json} (mem : (name, node) ∈ members)
    : ReadsPart (.map key type bindings) (.object members) (.key name) node type bindings
  | field {name : String} {schema : Schema} {bindings : Bindings}
    {members : List (String × Json)} {part : Part Json}
    (mem : part ∈ schema.parts Json.isNull members)
    : ReadsPart (.record name schema bindings) (.object members) (.key part.name) part.node
        part.type bindings

/-- The form asks for the part of a value to which the step leads, with its type and bindings. -/
inductive WritesPart : Form → Value → Json.Step → Value → Descriptor → Bindings → Prop where
  | item {type : Descriptor} {bindings : Bindings} {items : List Value} {index : Nat}
    {value : Value} (found : items[index]? = some value)
    : WritesPart (.list type bindings) (.array items) (.index index) value type bindings
  | entry {key type : Descriptor} {bindings : Bindings} {entries : List (String × Value)}
    {name : String} {value : Value} (mem : (name, value) ∈ entries)
    : WritesPart (.map key type bindings) (.map entries) (.key name) value type bindings
  | field {name : String} {schema : Schema} {bindings : Bindings} {value : Value}
    {members : List (String × Value)} {part : Part Value} (given : value.members? = some members)
    (mem : part ∈ schema.parts Value.isNull members)
    : WritesPart (.record name schema bindings) value (.key part.name) part.node part.type bindings

variable {form : Form} {step : Json.Step} {type : Descriptor} {bindings : Bindings}

theorem ReadsPart.child {json child : Json} (h : form.ReadsPart json step child type bindings)
    : json.Child step child := by
  cases h with
  | item found => exact .item found
  | entry mem => exact .member mem
  | field mem => exact .member (Members.mem_of_lookup (Part.mem_pick.mp mem).2.1)

theorem ReadsPart.mem_readParts {json child : Json}
    (h : form.ReadsPart json step child type bindings)
    : (child, type, bindings) ∈ form.readParts json := by
  cases h with
  | item found => exact List.mem_map.mpr ⟨_, List.mem_of_getElem? found, rfl⟩
  | entry mem => exact List.mem_map.mpr ⟨_, mem, rfl⟩
  | field mem => exact List.mem_map.mpr ⟨_, mem, rfl⟩

theorem WritesPart.child {value child : Value}
    (h : form.WritesPart value step child type bindings)
    : value.Child step child := by
  cases h with
  | item found => exact .item found
  | entry mem => exact .entry mem
  | field given mem => exact .of_members? given (Members.mem_of_lookup (Part.mem_pick.mp mem).2.1)

theorem WritesPart.mem_writeParts {value child : Value}
    (h : form.WritesPart value step child type bindings)
    : (child, type, bindings) ∈ form.writeParts value := by
  cases h with
  | item found => exact List.mem_map.mpr ⟨_, List.mem_of_getElem? found, rfl⟩
  | entry mem => exact List.mem_map.mpr ⟨_, mem, rfl⟩
  | @field name schema bindings value members part given mem =>
      exact List.mem_map.mpr ⟨part, by simpa [given] using mem, rfl⟩

-----------------------------------------------------------------------------------------
-- Kinds that fit
-----------------------------------------------------------------------------------------

/-- The node is of a kind that the form can be read from. -/
def readsFrom : Form → Json → Bool
  | .natural, _ | .adapter .., _ => true
  | .bool, .bool _ => true
  | .integer, .number (.integer _) => true
  | .float, .number _ => true
  | .string, .string _ => true
  | .list .., .array _ => true
  | .map .., .object _ => true
  | .record .., .object _ => true
  | _, _ => false

/-- The value is of a kind that the form can be written from. -/
def writesFrom : Form → Value → Bool
  | .natural, _ => true
  | .bool, .bool _ => true
  | .integer, .integer _ | .integer, .unsigned _ => true
  | .float, .float _ => true
  | .string, .string _ => true
  | .list .., .array _ => true
  | .map .., .map _ => true
  | .adapter .., .custom _ => true
  | .record .., value => value.members?.isSome
  | _, _ => false

-----------------------------------------------------------------------------------------
-- Reading
-----------------------------------------------------------------------------------------

variable {engine : Engine}

/-- The reading of a node fails: in a part, for the name of a member of a map, for a property that
is not declared, in an adapter, or because the node is of another kind than the form asks for. -/
inductive ReadFails (engine : Engine) (walk : Walker Json Value ReadError)
    : Form → Json → ReadError → Prop where
  | part {form : Form} {json child : Json} {step : Json.Step} {type : Descriptor}
    {bindings : Bindings} {e : ReadError}
    (asked : form.ReadsPart json step child type bindings)
    (failed : walk child type bindings = .error e)
    : ReadFails engine walk form json (e.under step)
  | key {key type : Descriptor} {bindings : Bindings} {members : List (String × Json)}
    {name : String} {cause : ReadCause} (mem : name ∈ members.map Prod.fst)
    (refused : engine.checkKey name key bindings = .error cause)
    : ReadFails engine walk (.map key type bindings) (.object members) ⟨[.key name], cause⟩
  | undeclared {name property : String} {schema : Schema} {bindings : Bindings}
    {members : List (String × Json)} (strict : engine.strict = true)
    (found : Engine.undeclared? schema members = some property)
    : ReadFails engine walk (.record name schema bindings) (.object members)
        ⟨[], .unknownProperty schema.name property⟩
  | adapter {name reason : String} {a : Adapter} {json : Json}
    (refused : a.read json = .error reason)
    : ReadFails engine walk (.adapter name a) json ⟨[], .adapter name reason⟩
  | mismatch {form : Form} {json : Json} (misfit : form.readsFrom json = false)
    : ReadFails engine walk form json ⟨[], .mismatch form.expected json.kind⟩

theorem readFails_of_readWith {walk : Walker Json Value ReadError} {json : Json} {e : ReadError}
    (h : form.readWith engine walk json = .error e)
    : form.ReadFails engine walk json e := by
  cases form with
  | list type bindings =>
      cases json with
      | array items =>
          obtain ⟨node, index, found, e', he, rfl⟩ :=
            Walker.exists_of_items_eq_error (map_eq_error_iff.mp h)
          exact .part (.item found) he
      | _ => cases h; exact .mismatch rfl
  | map key type bindings =>
      cases json with
      | object members =>
          obtain ⟨⟨name, node⟩, hm, hk | ⟨e', he, rfl⟩⟩ :=
            Walker.exists_of_entries_eq_error (map_eq_error_iff.mp h)
          · obtain ⟨cause, hc, rfl⟩ := mapError_eq_error_iff.mp hk
            exact .key (List.mem_map_of_mem hm) hc
          · exact .part (.entry hm) he
      | _ => cases h; exact .mismatch rfl
  | record name schema bindings =>
      cases json with
      | object members =>
          simp only [readWith] at h
          split at h
          · next property found =>
              cases h
              cases strict : engine.strict with
              | false => simp [strict] at found
              | true => exact .undeclared strict (by simpa [strict] using found)
          · obtain ⟨field, hm, e', he, rfl⟩ :=
              Walker.exists_of_fields_eq_error (map_eq_error_iff.mp h)
            exact .part (.field hm) he
      | _ => cases h; exact .mismatch rfl
  | adapter name a =>
      simp only [readWith] at h
      split at h
      · cases h
      · next refused => cases h; exact .adapter refused
  | natural => cases h
  | integer =>
      cases json with
      | number n =>
          cases n with
          | integer n => cases h
          | real x shown => cases h; exact .mismatch rfl
      | _ => cases h; exact .mismatch rfl
  | bool | float | string => cases json <;> cases h <;> exact .mismatch rfl

end Form

-----------------------------------------------------------------------------------------
-- Writing
-----------------------------------------------------------------------------------------

namespace Engine

variable {engine : Engine}

theorem writeFloat_eq_error_iff {x : Binary64} {e : WriteError}
    : writeFloat x = .error e ↔ x.isFinite = false ∧ ⟨[], .nonFinite⟩ = e := by
  by_cases h : x.isFinite = true <;> simp [writeFloat, Json.ofBinary64?, h]

theorem writeCustom_eq_error_iff {a : Adapter} {custom : Custom} {e : WriteError}
    : writeCustom a custom = .error e ↔
        ∃ reason, a.write custom = .error reason ∧ ⟨[], .adapter a.name reason⟩ = e := by
  simp only [writeCustom]
  cases a.write custom <;> simp

/-- The writing of a value by its own shape fails: inside, because a number is not finite, because
no adapter is registered for a custom value, or in its adapter. -/
inductive ShapeFails (engine : Engine) : Value → WriteError → Prop where
  | part {value child : Value} {step : Json.Step} {e : WriteError} (first : value.Child step child)
    (failed : engine.writeShape child = .error e)
    : ShapeFails engine value (e.under step)
  | float {x : Binary64} (notFinite : x.isFinite = false)
    : ShapeFails engine (.float x) ⟨[], .nonFinite⟩
  | unsupported {custom : Custom}
    (unregistered : ∀ a, engine.registry.lookup custom.tag ≠ some (.adapter a))
    : ShapeFails engine (.custom custom) ⟨[], .unsupportedType custom.tag⟩
  | adapter {custom : Custom} {a : Adapter} {reason : String}
    (registered : engine.registry.lookup custom.tag = some (.adapter a))
    (refused : a.write custom = .error reason)
    : ShapeFails engine (.custom custom) ⟨[], .adapter a.name reason⟩

theorem exists_of_writeShapeMembers_eq_error {members : List (String × Value)} {e : WriteError}
    (h : (engine.writeShapeMembers members).map Json.object = .error e)
    : ∃ name child e', (name, child) ∈ members ∧ engine.writeShape child = .error e'
        ∧ e'.under (.key name) = e := by
  rw [writeShapeMembers_eq_entries] at h
  obtain ⟨⟨name, child⟩, hm, hk | ⟨e', he, rfl⟩⟩ :=
    Walker.exists_of_entries_eq_error (map_eq_error_iff.mp h)
  · cases hk
  · exact ⟨name, child, e', hm, he, rfl⟩

theorem shapeFails_of_writeShape {value : Value} {e : WriteError}
    (h : engine.writeShape value = .error e)
    : engine.ShapeFails value e := by
  cases value with
  | array items =>
      rw [writeShape, writeShapes_eq_items] at h
      have hitems : engine.shapeWalker.items WriteError.under .any [] items = .error e :=
        map_eq_error_iff.mp h
      obtain ⟨node, index, found, e', he, rfl⟩ := Walker.exists_of_items_eq_error hitems
      exact .part (.item found) he
  | map entries =>
      obtain ⟨name, child, e', hm, he, rfl⟩ := exists_of_writeShapeMembers_eq_error h
      exact .part (.entry hm) he
  | object typeName fields =>
      obtain ⟨name, child, e', hm, he, rfl⟩ := exists_of_writeShapeMembers_eq_error h
      exact .part (.field hm) he
  | float x =>
      obtain ⟨notFinite, rfl⟩ := writeFloat_eq_error_iff.mp h
      exact .float notFinite
  | custom custom =>
      rw [writeShape] at h
      split at h
      · next a registered =>
          obtain ⟨reason, refused, rfl⟩ := writeCustom_eq_error_iff.mp h
          exact .adapter registered refused
      · next unregistered =>
          cases h
          exact .unsupported fun a ha => unregistered a ha
  | _ => cases h

end Engine

namespace Form

variable {engine : Engine} {form : Form}

/-- The writing of a value fails: in a part, by its own shape, because a number is not finite, in
an adapter, or because the value is of another kind than the form asks for. -/
inductive WriteFails (engine : Engine) (walk : Walker Value Json WriteError)
    : Form → Value → WriteError → Prop where
  | part {form : Form} {value child : Value} {step : Json.Step} {type : Descriptor}
    {bindings : Bindings} {e : WriteError}
    (asked : form.WritesPart value step child type bindings)
    (failed : walk child type bindings = .error e)
    : WriteFails engine walk form value (e.under step)
  | shape {value : Value} {e : WriteError} (failed : engine.ShapeFails value e)
    : WriteFails engine walk .natural value e
  | float {x : Binary64} (notFinite : x.isFinite = false)
    : WriteFails engine walk .float (.float x) ⟨[], .nonFinite⟩
  | adapter {name reason : String} {a : Adapter} {custom : Custom}
    (refused : a.write custom = .error reason)
    : WriteFails engine walk (.adapter name a) (.custom custom) ⟨[], .adapter a.name reason⟩
  | mismatch {form : Form} {value : Value} (misfit : form.writesFrom value = false)
    : WriteFails engine walk form value ⟨[], .mismatch form.expected value.kind⟩

theorem writeFails_of_writeWith {walk : Walker Value Json WriteError} {value : Value}
    {e : WriteError} (h : form.writeWith engine walk value = .error e)
    : form.WriteFails engine walk value e := by
  cases form with
  | natural => exact .shape (Engine.shapeFails_of_writeShape h)
  | list type bindings =>
      cases value with
      | array items =>
          obtain ⟨node, index, found, e', he, rfl⟩ :=
            Walker.exists_of_items_eq_error (map_eq_error_iff.mp h)
          exact .part (.item found) he
      | _ => cases h; exact .mismatch rfl
  | map key type bindings =>
      cases value with
      | map entries =>
          obtain ⟨⟨name, node⟩, hm, hk | ⟨e', he, rfl⟩⟩ :=
            Walker.exists_of_entries_eq_error (map_eq_error_iff.mp h)
          · cases hk
          · exact .part (.entry hm) he
      | _ => cases h; exact .mismatch rfl
  | record name schema bindings =>
      simp only [writeWith] at h
      split at h
      · next entries given =>
          obtain ⟨field, hm, e', he, rfl⟩ :=
            Walker.exists_of_fields_eq_error (map_eq_error_iff.mp h)
          exact .part (.field given hm) he
      · next missing =>
          cases h
          exact .mismatch (by simp [writesFrom, missing])
  | adapter name a =>
      cases value with
      | custom custom =>
          obtain ⟨reason, refused, rfl⟩ := Engine.writeCustom_eq_error_iff.mp h
          exact .adapter refused
      | _ => cases h; exact .mismatch rfl
  | float =>
      cases value with
      | float x =>
          obtain ⟨notFinite, rfl⟩ := Engine.writeFloat_eq_error_iff.mp h
          exact .float notFinite
      | _ => cases h; exact .mismatch rfl
  | bool | integer | string => cases value <;> cases h <;> exact .mismatch rfl

end Form

end TypedJson
