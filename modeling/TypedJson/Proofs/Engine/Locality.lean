import TypedJson.Proofs.Engine.Gap
import TypedJson.Proofs.Engine.Untyped

/-!
Registrations are local. Reading and writing as a type look up no names but those that are reached
from the type, through the fields of schemas, and the tags of the custom values that are written.
So engines that agree on these names read and write alike, errors included.
-/

namespace TypedJson

/-- The tag is that of some custom value inside. -/
inductive Value.Bears (tag : String) : Value → Prop where
  | custom (payload : Payload) : Bears tag (.custom ⟨tag, payload⟩)
  | inside {value child : Value} (mem : child ∈ value.children) (bears : Bears tag child)
    : Bears tag value

namespace Engine

/-- The name stands in the type, or in a field of a schema whose name is reached. -/
inductive ReachesName (engine : Engine) (type : Descriptor) : String → Prop where
  | here {name : String} (mentions : type.Mentions name) : ReachesName engine type name
  | field {name inner : String} {schema : Schema} {field : String × Descriptor}
    (reached : ReachesName engine type name)
    (registered : engine.registry.lookup name = some (.object schema))
    (declared : field ∈ schema.fields) (mentions : field.2.Mentions inner)
    : ReachesName engine type inner

/-- The two engines have the same entry, or none, under each of the names. -/
def AgreeOn (engine other : Engine) (names : String → Prop) : Prop :=
  ∀ name, names name → other.registry.lookup name = engine.registry.lookup name

/-- What the fields of a schema name is among the names if the schema's own name is. -/
def FieldsIn (engine : Engine) (names : String → Prop) : Prop :=
  ∀ name schema, names name → engine.registry.lookup name = some (.object schema) →
    ∀ field ∈ schema.fields, field.2.Everywhere (Descriptor.NamesIn names)

theorem fieldsIn_reachesName (engine : Engine) (type : Descriptor)
    : engine.FieldsIn (engine.ReachesName type) :=
  fun _ _ reached registered _ declared =>
    Descriptor.everywhere_namesIn_iff.mpr fun _ mentions =>
      .field reached registered declared mentions

/-- What is reached is the least that the type and the fields of schemas ask for, by induction on
how a name is reached. -/
theorem ReachesName.mem {engine : Engine} {names : String → Prop} {type : Descriptor}
    {name : String} (fields : engine.FieldsIn names)
    (within : type.Everywhere (Descriptor.NamesIn names)) (reached : engine.ReachesName type name)
    : names name := by
  induction reached with
  | here mentions => exact Descriptor.everywhere_namesIn_iff.mp within _ mentions
  | field _ registered declared mentions ih =>
      exact Descriptor.everywhere_namesIn_iff.mp (fields _ _ ih registered _ declared) _ mentions

-----------------------------------------------------------------------------------------
-- Types within names
-----------------------------------------------------------------------------------------

/-- The type, and what the bindings give for parameters, name nothing but these names. -/
structure Within (names : String → Prop) (type : Descriptor) (bindings : Bindings) : Prop where
  type : type.Everywhere (Descriptor.NamesIn names)
  bound : ∀ pair ∈ bindings, pair.2.Everywhere (Descriptor.NamesIn names)

variable {engine other : Engine} {names : String → Prop} {type : Descriptor} {bindings : Bindings}

theorem Within.part (within : Within names type bindings) {part : Descriptor}
    (mem : part ∈ type.parts)
    : Within names part bindings :=
  ⟨within.type.inside mem, within.bound⟩

theorem Within.resolve (within : Within names type bindings) {shape : Descriptor}
    {inner : Bindings} (resolved : type.resolve bindings = .ok (shape, inner))
    : Within names shape inner := by
  rcases resolve_cases resolved with ⟨rfl, rfl⟩ | ⟨_, rfl, hl, rfl⟩
  · exact within
  · exact ⟨within.bound _ (Members.mem_of_lookup hl), fun _ hm => absurd hm List.not_mem_nil⟩

/-- What stands for the parameters of a schema names nothing but these names. -/
theorem Within.bindArguments {name : String} {arguments bound : List (String × Descriptor)}
    (within : Within names (.generic name arguments) bindings)
    (hb : Descriptor.bindArguments bindings arguments = .ok bound)
    : ∀ pair ∈ bound, pair.2.Everywhere (Descriptor.NamesIn names) := by
  intro pair' hm
  obtain ⟨pair, hp, _, hd⟩ :=
    exists_of_forall₂_right (Descriptor.bindArguments_eq_ok_iff.mp hb) hm
  exact (within.type.argument hp).bind_namesIn within.bound hd

/-- Whatever is asked of the parts names nothing but these names again. -/
theorem Within.of_hands (fields : engine.FieldsIn names) (within : Within names type bindings)
    {form : Form} (known : engine.form? type bindings = some form) {type' : Descriptor}
    {bindings' : Bindings} (hands : form.Hands type' bindings')
    : Within names type' bindings' := by
  cases hands with
  | item =>
      have inner := within.resolve (resolve_of_form?_list known)
      exact inner.part (by simp [Descriptor.parts])
  | entry =>
      have inner := within.resolve (resolve_of_form?_map known)
      exact inner.part (by simp [Descriptor.parts])
  | field declared =>
      obtain ⟨hl, _, ⟨_, hr, rfl⟩ | ⟨arguments, inner, hr, hb⟩⟩ := resolve_of_form?_record known
      · have hname := (within.resolve hr).type.here _ _ rfl
        exact ⟨fields _ _ hname hl _ declared, fun _ hm => absurd hm List.not_mem_nil⟩
      · have inner := within.resolve hr
        exact ⟨fields _ _ (inner.type.here _ _ rfl) hl _ declared, inner.bindArguments hb⟩

-----------------------------------------------------------------------------------------
-- Agreement in one step
-----------------------------------------------------------------------------------------

theorem askedOfName_congr {name : String}
    (same : other.registry.lookup name = engine.registry.lookup name)
    : other.askedOfName name bindings = engine.askedOfName name bindings := by
  simp only [askedOfName, same]

/-- Engines that agree on the names ask the same of every type within them. -/
theorem Within.asked_congr (agree : engine.AgreeOn other names)
    (within : Within names type bindings)
    : other.asked type bindings = engine.asked type bindings := by
  simp only [asked]
  cases hr : type.resolve bindings with
  | error parameter => rfl
  | ok resolved =>
      obtain ⟨shape, inner⟩ := resolved
      have here := (within.resolve hr).type.here
      cases shape with
      | named name => exact askedOfName_congr (agree name (here _ _ rfl))
      | generic name arguments =>
          dsimp only
          cases Descriptor.bindArguments inner arguments with
          | error parameter => rfl
          | ok bound => exact askedOfName_congr (agree name (here _ _ rfl))
      | _ => rfl

theorem acceptsKey_congr (agree : engine.AgreeOn other names)
    (within : type.Everywhere (Descriptor.NamesIn names)) (key : String)
    : other.acceptsKey key type = engine.acceptsKey key type := by
  cases type with
  | named name => simp only [acceptsKey, agree name (within.here _ _ rfl)]
  | _ => rfl

/-- Engines that agree on the names accept the same keys. -/
theorem Within.checkKey_congr (agree : engine.AgreeOn other names)
    (within : Within names type bindings) (key : String)
    : other.checkKey key type bindings = engine.checkKey key type bindings := by
  cases type with
  | var parameter =>
      simp only [checkKey]
      cases hl : bindings.lookup parameter with
      | none => rfl
      | some bound =>
          have hbound := acceptsKey_congr agree (within.bound _ (Members.mem_of_lookup hl)) key
          cases bound with
          | var inner => rfl
          | _ => simp only [hbound]
  | _ => simp only [checkKey, acceptsKey_congr agree within.type key]

end Engine

namespace Form

variable {engine other : Engine} {form : Form}

/-- Reading in the way of a form looks up names in the engine for keys alone. -/
theorem readWith_congr_engine (strict : other.strict = engine.strict)
    (keys : ∀ key type bindings, form = .map key type bindings →
      ∀ name, other.checkKey name key bindings = engine.checkKey name key bindings)
    (part : Walker Json Value ReadError) (json : Json)
    : form.readWith other part json = form.readWith engine part json := by
  cases form with
  | map key type bindings =>
      cases json with
      | object members => simp only [readWith, keys key type bindings rfl]
      | _ => rfl
  | record name schema bindings =>
      cases json with
      | object members => simp only [readWith, strict]
      | _ => rfl
  | integer =>
      cases json with
      | number n => cases n <;> rfl
      | _ => rfl
  | _ => cases json <;> rfl

/-- Writing in the way of a form looks up names in the engine only by the value's own shape. -/
theorem writeWith_congr_engine {value : Value}
    (shape : other.writeShape value = engine.writeShape value)
    (part : Walker Value Json WriteError)
    : form.writeWith other part value = form.writeWith engine part value := by
  cases form with
  | natural => exact shape
  | _ => cases value <;> rfl

end Form

-----------------------------------------------------------------------------------------
-- Agreement of whole runs
-----------------------------------------------------------------------------------------

namespace Engine

variable {engine other : Engine} {names : String → Prop} {type : Descriptor} {bindings : Bindings}

/-- Engines that agree on the names read a tree alike as a type within them, by induction on the
tree: the parts are read as types within the names. -/
theorem Within.readNode_congr (strict : other.strict = engine.strict)
    (agree : engine.AgreeOn other names) (fields : engine.FieldsIn names)
    (within : Within names type bindings) (json : Json)
    : other.readNode json type bindings = engine.readNode json type bindings := by
  induction json using Json.byChildren generalizing type bindings with
  | step json ih =>
      cases hn : json.isNull with
      | true => rw [Json.eq_null_of_isNull hn, readNode_null, readNode_null]
      | false =>
          rw [readNode_eq hn, readNode_eq hn, within.asked_congr agree]
          cases hasked : engine.asked type bindings with
          | error gap => rfl
          | ok form =>
              have known := form?_of_asked hasked
              have keys : ∀ key type' inner, form = .map key type' inner →
                  ∀ name, other.checkKey name key inner = engine.checkKey name key inner := by
                rintro key type' inner rfl name
                have hmap := within.resolve (resolve_of_form?_map known)
                exact (hmap.part (by simp [Descriptor.parts])).checkKey_congr agree name
              dsimp only
              rw [Form.readWith_congr_engine strict keys]
              refine Form.readWith_congr fun part hm => ?_
              obtain ⟨child, hands⟩ := Form.mem_readParts hm
              exact ih part.1 child (within.of_hands fields known hands)

/-- Engines that agree on the tags of custom values write a value alike by its own shape, by
induction on the value. -/
theorem writeShape_congr {value : Value} (tags : engine.AgreeOn other fun tag => value.Bears tag)
    : other.writeShape value = engine.writeShape value := by
  induction value using Value.byChildren with
  | step value ih =>
      have below : ∀ child ∈ value.children, other.writeShape child = engine.writeShape child :=
        fun child hm => ih child hm fun tag bears => tags tag (.inside hm bears)
      have entries : ∀ members : List (String × Value),
          (∀ entry ∈ members, entry.2 ∈ value.children) →
          other.writeShapeMembers members = engine.writeShapeMembers members := by
        intro members mem
        rw [writeShapeMembers_eq_entries, writeShapeMembers_eq_entries]
        exact Walker.entries_congr fun entry he => below entry.2 (mem entry he)
      cases value with
      | array items =>
          have hitems : other.shapeWalker.items WriteError.under .any [] items
              = engine.shapeWalker.items WriteError.under .any [] items :=
            Walker.items_congr below
          rw [writeShape, writeShape, writeShapes_eq_items, writeShapes_eq_items]
          exact congrArg (Except.map Json.array) hitems
      | map members =>
          rw [writeShape, writeShape, entries members fun _ hm => List.mem_map_of_mem hm]
      | object name members =>
          rw [writeShape, writeShape, entries members fun _ hm => List.mem_map_of_mem hm]
      | custom custom =>
          obtain ⟨tag, payload⟩ := custom
          rw [writeShape, writeShape, tags tag (.custom payload)]
      | _ => rfl

/-- Engines that agree on the names and on the tags of custom values write a value alike as a type
within the names, by induction on the value. -/
theorem Within.writeNode_congr (agree : engine.AgreeOn other names)
    (fields : engine.FieldsIn names) (within : Within names type bindings) {value : Value}
    (tags : engine.AgreeOn other fun tag => value.Bears tag)
    : other.writeNode value type bindings = engine.writeNode value type bindings := by
  induction value using Value.byChildren generalizing type bindings with
  | step value ih =>
      cases hn : value.isNull with
      | true => rw [Value.eq_null_of_isNull hn, writeNode_null, writeNode_null]
      | false =>
          rw [writeNode_eq hn, writeNode_eq hn, within.asked_congr agree]
          cases hasked : engine.asked type bindings with
          | error gap => rfl
          | ok form =>
              dsimp only
              rw [Form.writeWith_congr_engine (writeShape_congr tags)]
              refine Form.writeWith_congr fun part hm => ?_
              obtain ⟨child, hands⟩ := Form.mem_writeParts hm
              exact ih part.1 child (within.of_hands fields (form?_of_asked hasked) hands)
                fun tag bears => tags tag (.inside child bears)

/-- Without bindings a type is within what is reached from it. -/
theorem within_reachesName (engine : Engine) (type : Descriptor)
    : Within (engine.ReachesName type) type [] where
  type := Descriptor.everywhere_namesIn_iff.mpr fun _ mentions => .here mentions
  bound := fun _ hm => absurd hm List.not_mem_nil

/-- Another entry changes nothing under other names. -/
theorem agreeOn_register (engine : Engine) {entry : Entry} (other : ¬ names entry.name)
    : engine.AgreeOn { engine with registry := Registry.register entry engine.registry }
        names := by
  intro name hname
  show (Registry.register entry engine.registry).lookup name = _
  rw [Registry.register, Directory.lookup_insert, if_neg]
  rintro rfl
  exact other hname

/-- Two engines that agree on every name that is reached from a type read every tree alike as this
type, errors included, and write every value alike if they agree on the tags in it. So an entry
whose name is not reached changes nothing. -/
theorem read_and_write_of_agreeOn (engine : Engine) (type : Descriptor)
    : (∀ other : Engine, other.strict = engine.strict →
          engine.AgreeOn other (engine.ReachesName type) →
          (∀ json, other.read json type = engine.read json type)
            ∧ ∀ value, engine.AgreeOn other (fun tag => value.Bears tag) →
                other.write value type = engine.write value type)
        ∧ ∀ entry : Entry, ¬ engine.ReachesName type entry.name →
            let more := { engine with registry := Registry.register entry engine.registry }
            (∀ json, more.read json type = engine.read json type)
              ∧ ∀ value : Value, ¬ value.Bears entry.name →
                  more.write value type = engine.write value type := by
  have fields := engine.fieldsIn_reachesName type
  have within := engine.within_reachesName type
  refine ⟨fun other strict agree => ⟨within.readNode_congr strict agree fields, fun value tags =>
    within.writeNode_congr agree fields tags⟩, fun entry unreached => ?_⟩
  have agree := engine.agreeOn_register unreached
  exact ⟨within.readNode_congr rfl agree fields, fun value untagged =>
    within.writeNode_congr agree fields (engine.agreeOn_register untagged)⟩

-----------------------------------------------------------------------------------------
-- Pages of identifiers
-----------------------------------------------------------------------------------------

/-- Dates as strings without dashes. -/
def compactDates : Entry :=
  .adapter (Calendar.adapter "LocalDate" .compact "expected a date")

/-- The library with compact dates in the place of its own. -/
def compactLibrary : Engine :=
  { library with registry := Registry.register compactDates library.registry }

/-- Pages of identifiers. -/
def pageOfUuids : Descriptor := .generic "Page" [("T", .named "Uuid")]

/-- A page with one identifier. -/
def uuidsValue : Value :=
  .object "Page" [("items", .array [.custom ⟨"Uuid", .uuid ⟨1⟩⟩])]

/-- Pages of identifiers reach the names of pages and of identifiers alone. -/
theorem not_reachesName_pageOfUuids : ¬ library.ReachesName pageOfUuids "LocalDate" := by
  intro reached
  let names : String → Prop := fun name => name = "Page" ∨ name = "Uuid"
  have page : ∀ argument : Descriptor, argument.Everywhere (Descriptor.NamesIn names) →
      (Descriptor.generic "Page" [("T", argument)]).Everywhere (Descriptor.NamesIn names) := by
    intro argument h
    refine .intro ?_ fun part hm => ?_
    · rintro name arguments reference
      cases reference
      exact .inl rfl
    · obtain rfl := List.mem_singleton.mp hm
      exact h
  have parameter : (Descriptor.var "T").Everywhere (Descriptor.NamesIn names) := .leaf nofun rfl
  have fields : library.FieldsIn names := by
    rintro name schema (rfl | rfl) registered field declared
    · obtain rfl : Codec.pageSchema = schema := Entry.object.inj (Option.some.inj registered)
      rcases List.mem_pair.mp declared with rfl | rfl
      · refine .intro nofun fun part hm => ?_
        obtain rfl := List.mem_singleton.mp hm
        exact parameter
      · exact page _ parameter
    · cases Option.some.inj registered
  have uuid : (Descriptor.named "Uuid").Everywhere (Descriptor.NamesIn names) := by
    refine .leaf ?_ rfl
    rintro name arguments reference
    cases reference
    exact .inr rfl
  have h : names "LocalDate" := reached.mem fields (page _ uuid)
  exact absurd h (by decide)

theorem eq_of_bears_uuidsValue {tag : String} (bears : uuidsValue.Bears tag) : tag = "Uuid" := by
  cases bears with
  | inside mem bears =>
      obtain rfl := List.mem_singleton.mp mem
      cases bears with
      | inside mem bears =>
          obtain rfl := List.mem_singleton.mp mem
          cases bears with
          | custom payload => rfl
          | inside mem _ => cases mem

/-- Compact dates change nothing for pages of identifiers, though they do for pages of dates. -/
theorem read_and_write_of_agreeOn_uuids
    : library.AgreeOn compactLibrary (library.ReachesName pageOfUuids)
        ∧ library.AgreeOn compactLibrary (fun tag => uuidsValue.Bears tag)
        ∧ ¬ library.ReachesName pageOfUuids "LocalDate"
        ∧ (∀ json, compactLibrary.read json pageOfUuids = library.read json pageOfUuids)
        ∧ compactLibrary.write uuidsValue pageOfUuids = library.write uuidsValue pageOfUuids
        ∧ library.write datesValue pageOfDates = .ok datesTree
        ∧ compactLibrary.write datesValue pageOfDates
          = .ok (.object [("items", .array [.string "20240229", .null]),
              ("next", .object [("items", .array [])])]) := by
  have agree : library.AgreeOn compactLibrary (library.ReachesName pageOfUuids) :=
    library.agreeOn_register not_reachesName_pageOfUuids
  have tags : library.AgreeOn compactLibrary fun tag => uuidsValue.Bears tag :=
    library.agreeOn_register fun bears => absurd (eq_of_bears_uuidsValue bears) (by decide)
  obtain ⟨agreed, registered⟩ := read_and_write_of_agreeOn library pageOfUuids
  exact ⟨agree, tags, not_reachesName_pageOfUuids,
    (registered compactDates not_reachesName_pageOfUuids).1,
    (agreed compactLibrary rfl agree).2 uuidsValue tags, rfl, rfl⟩

end Engine

end TypedJson
