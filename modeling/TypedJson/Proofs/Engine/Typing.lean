import TypedJson.Proofs.Codec
import TypedJson.Proofs.Descriptor.Instantiate
import TypedJson.Proofs.Engine.Steps

/-!
What reading gives is of the type that was asked for, and is held in the one way in which values
are read. Types are judged without bindings here: where the fields of a generic record are read
under the record's arguments, their values are of the types that the arguments make of them.
-/

namespace TypedJson

namespace Engine

/-- Every adapter tags what it reads with the name that it is registered under. -/
def AdaptersTag (engine : Engine) : Prop :=
  ∀ name a, engine.registry.lookup name = some (.adapter a) →
    ∀ json custom, a.read json = .ok custom → custom.tag = name

/-- The value is of the type, which stands for itself. Null is of every type. -/
inductive HasType (engine : Engine) : Descriptor → Value → Prop where
  | null {type : Descriptor} : HasType engine type .null
  | any {value : Value} (plain : value.Plain) : HasType engine .any value
  | bytes {value : Value} (plain : value.Plain) : HasType engine .bytes value
  | bool (b : Bool) : HasType engine .bool (.bool b)
  | integer (n : Int64) : HasType engine .integer (.integer n)
  | unsigned (n : UInt64) : HasType engine .integer (.unsigned n)
  | float (x : Binary64) : HasType engine .float (.float x)
  | string (s : String) : HasType engine .string (.string s)
  | list {item : Descriptor} {items : List Value}
    (below : ∀ value ∈ items, HasType engine item value)
    : HasType engine (.list item) (.array items)
  | map {key item : Descriptor} {entries : List (String × Value)}
    (accepted : ∀ entry ∈ entries, engine.acceptsKey entry.1 key = true)
    (below : ∀ entry ∈ entries, HasType engine item entry.2)
    : HasType engine (.map key item) (.map entries)
  | custom {type : Descriptor} {name : String} {arguments : Bindings} {a : Adapter}
    {json : Json} {c : Custom} (reference : type.reference? = some (name, arguments))
    (registered : engine.registry.lookup name = some (.adapter a))
    (read : a.read json = .ok c) (tag : c.tag = name)
    : HasType engine type (.custom c)
  | object {type : Descriptor} {name : String} {arguments : Bindings} {schema : Schema}
    {fields : List (String × Value)} (reference : type.reference? = some (name, arguments))
    (registered : engine.registry.lookup name = some (.object schema))
    (supplied : ∀ parameter ∈ schema.parameters, (arguments.lookup parameter).isSome = true)
    (order : (fields.map Prod.fst).Sublist (schema.fields.map Prod.fst))
    (below : ∀ field ∈ fields, ∀ declared, (field.1, declared) ∈ schema.fields →
      HasType engine (declared.instantiate arguments) field.2)
    : HasType engine type (.object name fields)

end Engine

/-- The value is held as reading holds it: an integer in the unsigned word only if the signed one
has no room for it, a float that is finite, and a record without null fields. -/
def Value.IsCanonical : Value → Prop
  | .unsigned n => 0x8000000000000000 ≤ n.toNat
  | .float x => x.isFinite = true
  | .object _ fields => ∀ field ∈ fields, field.2.isNull = false
  | _ => True

-----------------------------------------------------------------------------------------
-- Adapters
-----------------------------------------------------------------------------------------

/-- The adapter tags what it reads with its own name. -/
def Adapter.Tags (a : Adapter) : Prop :=
  ∀ json custom, a.read json = .ok custom → custom.tag = a.name

theorem Adapter.tags_ofFunctions {α : Type} (name : String) (carrier : Carrier α)
    (read : Json → Except String α) (write : α → Except String Json)
    : (ofFunctions name carrier read write).Tags := by
  intro json custom h
  obtain ⟨content, _, rfl⟩ := map_eq_ok_iff.mp h
  rfl

namespace Engine

/-- The adapters of an engine that a configuration describes tag by their names if those of its
extensions do. -/
theorem adaptersTag_ofConfig (config : Config) {extensions : List Extension}
    (tag : ∀ extension ∈ extensions, ∀ a, .adapter a ∈ extension → a.Tags)
    : (ofConfig config extensions).AdaptersTag := by
  intro name a registered
  obtain ⟨extension, he, ha, rfl⟩ := brought_of_ofConfig registered
  exact tag extension he a ha

end Engine

-----------------------------------------------------------------------------------------
-- Forms of types
-----------------------------------------------------------------------------------------

/-- The form is what the type asks for, once bindings have made it a type that stands for
itself. -/
inductive Form.Asks (engine : Engine) : Descriptor → Form → Prop where
  | any : Asks engine .any .natural
  | bytes : Asks engine .bytes .natural
  | bool : Asks engine .bool .bool
  | integer : Asks engine .integer .integer
  | float : Asks engine .float .float
  | string : Asks engine .string .string
  | list (item : Descriptor) (inner : Bindings)
    : Asks engine (.list (item.instantiate inner)) (.list item inner)
  | map (key item : Descriptor) (inner : Bindings)
    : Asks engine (.map (key.instantiate inner) (item.instantiate inner)) (.map key item inner)
  | adapter {type : Descriptor} {name : String} {arguments : Bindings} {a : Adapter}
    (reference : type.reference? = some (name, arguments))
    (registered : engine.registry.lookup name = some (.adapter a))
    : Asks engine type (.adapter name a)
  | record {type : Descriptor} {name : String} {arguments : Bindings} {schema : Schema}
    (reference : type.reference? = some (name, arguments))
    (registered : engine.registry.lookup name = some (.object schema))
    (given : Engine.missingArgument? schema arguments = none)
    : Asks engine type (.record name schema arguments)

namespace Engine

variable {engine : Engine} {type : Descriptor} {bindings : Bindings}

theorem asks_of_formOfName? {name : String} {arguments : Bindings} {form : Form}
    (reference : type.reference? = some (name, arguments))
    (known : engine.formOfName? name arguments = some form)
    : form.Asks engine type := by
  simp only [formOfName?] at known
  split at known
  · cases known
  · next a hl =>
      obtain rfl := Option.some.inj known
      exact .adapter reference hl
  · next schema hl =>
      split at known
      · cases known
      · next given =>
          obtain rfl := Option.some.inj known
          exact .record reference hl given

/-- A type and what it is resolved to have one instance. -/
theorem instantiate_of_resolve {shape : Descriptor} {inner : Bindings}
    (resolved : type.resolve bindings = .ok (shape, inner))
    : type.instantiate bindings = shape.instantiate inner := by
  rcases resolve_cases resolved with ⟨rfl, rfl⟩ | ⟨parameter, rfl, hl, rfl⟩
  · rfl
  · rw [Descriptor.instantiate, hl, Option.getD_some, Descriptor.instantiate_nil]

/-- What is asked of a node is what the instance of its type asks for. -/
theorem asks_of_form? {form : Form} (known : engine.form? type bindings = some form)
    : form.Asks engine (type.instantiate bindings) := by
  simp only [form?] at known
  cases hr : type.resolve bindings with
  | error parameter =>
      rw [hr] at known
      cases known
  | ok resolved =>
      obtain ⟨shape, inner⟩ := resolved
      rw [hr] at known
      rw [instantiate_of_resolve hr]
      cases shape with
      | var parameter => cases known
      | named name => exact asks_of_formOfName? rfl known
      | generic name arguments =>
          dsimp only at known
          cases hb : Descriptor.bindArguments inner arguments with
          | error parameter =>
              rw [hb] at known
              cases known
          | ok bound =>
              rw [hb] at known
              rw [Descriptor.instantiate, Descriptor.instantiateArguments_of_bindArguments hb]
              exact asks_of_formOfName? rfl known
      | _ =>
          obtain rfl := Option.some.inj known
          constructor

/-- A key passes the check of a key type just when the instance of the key type accepts it. -/
theorem checkKey_eq_ok_iff {key : String}
    : engine.checkKey key type bindings = .ok () ↔
        engine.acceptsKey key (type.instantiate bindings) = true := by
  have plain : ∀ {d : Descriptor} {b : Bindings}, (∀ parameter, d ≠ .var parameter) →
      (engine.checkKey key d b = .ok () ↔ engine.acceptsKey key d = true) := by
    intro d b hvar
    rw [checkKey_of_not_var key hvar]
    split <;> simp_all
  cases type with
  | var parameter =>
      rw [Descriptor.instantiate]
      cases hl : bindings.lookup parameter with
      | none => simp [checkKey, hl, acceptsKey]
      | some bound =>
          cases bound with
          | var inner => simp [checkKey, hl, acceptsKey]
          | _ =>
              rw [checkKey_var key hl]
              exact plain (by simp)
  | _ => exact plain (by simp)

-----------------------------------------------------------------------------------------
-- Types of what is read
-----------------------------------------------------------------------------------------

/-- A part that was read is a declared field other than null, and has what is known of whatever is
read of a member. -/
theorem holds_of_related {P : Descriptor → Value → Prop} {schema : Schema} {bound : Bindings}
    {members : List (String × Json)} {parts : List (Part Value)}
    (related : List.Forall₂
      (Part.Related fun type node v => engine.readNode node type bound = .ok v)
      (schema.parts Json.isNull members) parts)
    (holds : ∀ member ∈ members, ∀ {type v},
      engine.readNode member.2 type bound = .ok v → P type v)
    {part : Part Value} (mem : part ∈ parts)
    : part.field ∈ schema.fields ∧ part.node.isNull = false ∧ P part.type part.node := by
  obtain ⟨old, ho, hr⟩ := exists_of_forall₂_right related mem
  obtain ⟨hf, hl, hpresent⟩ := Part.mem_pick.mp ho
  have hfield : part.field = old.field := by simp [Part.field, hr.name, hr.type]
  refine ⟨hfield ▸ hf, (isNull_of_readNode hr.node).trans hpresent, ?_⟩
  rw [hr.type]
  exact holds _ (Members.mem_of_lookup hl) hr.node

/-- What is read has the type that the bindings make of the type it is read as, by induction on
the tree: the parts of a node are read as types whose instances the node's own type prescribes. -/
theorem hasType_of_readNode (tags : engine.AdaptersTag) {json : Json} {value : Value}
    (read : engine.readNode json type bindings = .ok value)
    : engine.HasType (type.instantiate bindings) value := by
  induction json using Json.byChildren generalizing type bindings value with
  | step json ih =>
      cases hn : json.isNull with
      | true =>
          rw [Json.eq_null_of_isNull hn, readNode_null] at read
          obtain rfl := Except.ok.inj read
          exact .null
      | false =>
          obtain ⟨form, known, reads⟩ :=
            (engine.readNode_eq_ok_iff hn type bindings value).mp read
          have asks := asks_of_form? known
          generalize type.instantiate bindings = asked at asks ⊢
          cases asks with
          | any =>
              obtain rfl : json.toValue = value := reads
              exact .any json.plain_toValue
          | bytes =>
              obtain rfl : json.toValue = value := reads
              exact .bytes json.plain_toValue
          | bool =>
              obtain ⟨b, _, rfl⟩ := reads
              exact .bool b
          | integer =>
              obtain ⟨n, _, rfl⟩ := reads
              rcases Number.toValue_integer n with ⟨i, hv, _⟩ | ⟨u, hv, _⟩
              · rw [hv]
                exact .integer i
              · rw [hv]
                exact .unsigned u
          | float =>
              obtain ⟨n, _, rfl⟩ := reads
              exact .float _
          | string =>
              obtain ⟨s, _, rfl⟩ := reads
              exact .string s
          | list item inner =>
              obtain ⟨items, values, rfl, rfl, hr⟩ := reads
              refine .list fun v hv => ?_
              obtain ⟨node, hm, hread⟩ := exists_of_forall₂_right hr hv
              exact ih node hm hread
          | map key item inner =>
              obtain ⟨members, entries, rfl, rfl, hr⟩ := reads
              refine .map (fun entry he => ?_) fun entry he => ?_
              · obtain ⟨member, _, hname, hkey, _⟩ := exists_of_forall₂_right hr he
                rw [hname]
                exact checkKey_eq_ok_iff.mp hkey
              · obtain ⟨member, hm, _, _, hread⟩ := exists_of_forall₂_right hr he
                exact ih member.2 (List.mem_map_of_mem hm) hread
          | adapter reference registered =>
              obtain ⟨custom, ha, rfl⟩ := reads
              exact .custom reference registered ha (tags _ _ registered json custom ha)
          | record reference registered given =>
              obtain ⟨members, parts, rfl, rfl, _, hr⟩ := reads
              refine .object reference registered (fun parameter hp => ?_)
                (Schema.members_sublist_of_related hr) ?_
              · simpa using List.find?_eq_none.mp given parameter hp
              · intro field hf declared hd
                obtain ⟨part, hp, rfl⟩ := List.mem_map.mp hf
                obtain ⟨hpart, _, hasType⟩ := holds_of_related hr
                  (fun member hm _ _ => ih member.2 (List.mem_map_of_mem hm)) hp
                -- One name has one type in a schema.
                obtain rfl : declared = part.type := Members.eq_of_mem (Schema.distinct _) hd hpart
                exact hasType

-----------------------------------------------------------------------------------------
-- How it is held
-----------------------------------------------------------------------------------------

end Engine

theorem Number.isCanonical_toValue (n : Number) : n.toValue.Everywhere Value.IsCanonical := by
  cases n with
  | integer n =>
      obtain ⟨val, lower, upper⟩ := n
      by_cases hs : val < 0x8000000000000000
      · have hv : (Number.integer ⟨val, lower, upper⟩).toValue = .integer (Int64.ofInt val) := by
          simp [toValue, WideInt.isSigned, hs]
        rw [hv]
        exact .leaf trivial rfl
      · have hv : (Number.integer ⟨val, lower, upper⟩).toValue
            = .unsigned (UInt64.ofNat val.toNat) := by
          simp [toValue, WideInt.isSigned, hs]
        have hn : (UInt64.ofNat val.toNat).toNat = val.toNat :=
          UInt64.toNat_ofNat_of_lt' (by simp only [UInt64.size]; omega)
        rw [hv]
        refine .leaf ?_ rfl
        show 0x8000000000000000 ≤ (UInt64.ofNat val.toNat).toNat
        omega
  | real x finite => exact .leaf finite rfl

/-- What is read without a type is held as reading holds values, by induction on the tree. -/
theorem Json.isCanonical_toValue (json : Json) : json.toValue.Everywhere Value.IsCanonical := by
  induction json using Json.byChildren with
  | step json ih =>
      cases json with
      | null | bool b | string s => exact .leaf trivial rfl
      | number n => exact n.isCanonical_toValue
      | array items =>
          rw [toValue, toValues_eq_map]
          refine .intro trivial fun child hc => ?_
          obtain ⟨item, hm, rfl⟩ := List.mem_map.mp hc
          exact ih item hm
      | object members =>
          rw [toValue, toEntries_eq_map]
          refine .intro trivial fun child hc => ?_
          obtain ⟨_, he, rfl⟩ := List.mem_map.mp hc
          obtain ⟨member, hm, rfl⟩ := List.mem_map.mp he
          exact ih member.2 (List.mem_map_of_mem hm)

namespace Engine

variable {engine : Engine} {type : Descriptor} {bindings : Bindings}

/-- Whatever is read is held as reading holds values, by induction on the tree. -/
theorem isCanonical_of_readNode {json : Json} {value : Value}
    (read : engine.readNode json type bindings = .ok value)
    : value.Everywhere Value.IsCanonical := by
  induction json using Json.byChildren generalizing type bindings value with
  | step json ih =>
      cases hn : json.isNull with
      | true =>
          rw [Json.eq_null_of_isNull hn, readNode_null] at read
          obtain rfl := Except.ok.inj read
          exact .leaf trivial rfl
      | false =>
          obtain ⟨form, _, reads⟩ := (engine.readNode_eq_ok_iff hn type bindings value).mp read
          cases form with
          | natural =>
              obtain rfl : json.toValue = value := reads
              exact json.isCanonical_toValue
          | bool | string =>
              obtain ⟨_, _, rfl⟩ := reads
              exact .leaf trivial rfl
          | integer =>
              obtain ⟨n, _, rfl⟩ := reads
              exact Number.isCanonical_toValue (.integer n)
          | float =>
              obtain ⟨n, _, rfl⟩ := reads
              exact .leaf n.isFinite_toBinary64 rfl
          | list item inner =>
              obtain ⟨items, values, rfl, rfl, hr⟩ := reads
              refine .intro trivial fun v hv => ?_
              obtain ⟨node, hm, hread⟩ := exists_of_forall₂_right hr hv
              exact ih node hm hread
          | map key item inner =>
              obtain ⟨members, entries, rfl, rfl, hr⟩ := reads
              refine .intro trivial fun v hv => ?_
              obtain ⟨entry, he, rfl⟩ := List.mem_map.mp hv
              obtain ⟨member, hm, _, _, hread⟩ := exists_of_forall₂_right hr he
              exact ih member.2 (List.mem_map_of_mem hm) hread
          | adapter name a =>
              obtain ⟨custom, _, rfl⟩ := reads
              exact .leaf trivial rfl
          | record name schema bound =>
              obtain ⟨members, parts, rfl, rfl, _, hr⟩ := reads
              have fields : ∀ field ∈ parts.map Part.member, field.2.isNull = false
                  ∧ field.2.Everywhere Value.IsCanonical := by
                intro field hf
                obtain ⟨part, hp, rfl⟩ := List.mem_map.mp hf
                exact (holds_of_related hr
                  (fun member hm _ _ => ih member.2 (List.mem_map_of_mem hm)) hp).2
              refine .intro (fun field hf => (fields field hf).1) fun v hv => ?_
              obtain ⟨field, hf, rfl⟩ := List.mem_map.mp hv
              exact (fields field hf).2

end Engine

-----------------------------------------------------------------------------------------
-- Types of what is decoded
-----------------------------------------------------------------------------------------

namespace Decoder

variable {decoder : Decoder} {response : Http.Response} {type : Descriptor} {decoded : Decoded}

/-- As bytes a response decodes to its body, or to no bytes. -/
theorem exists_bytes_of_decode (h : decoder.decode response .bytes = .ok decoded)
    : ∃ body, decoded.orEmpty .bytes = .bytes body := by
  simp only [decode] at h
  split at h
  · obtain rfl := Except.ok.inj h
    exact ⟨[], rfl⟩
  · next payload _ =>
      obtain rfl := Except.ok.inj h
      exact ⟨payload, rfl⟩

/-- As any other type it decodes to nothing, or to a value that was read from some tree. -/
theorem exists_read_of_decode (typed : type ≠ .bytes)
    (h : decoder.decode response type = .ok decoded)
    : decoded = .absent
      ∨ ∃ json value, decoder.engine.read json type = .ok value ∧ decoded = .value value := by
  have hbytes : type.isBytes = false := by cases type <;> simp_all [Descriptor.isBytes]
  simp only [decode, hbytes, Decoded.empty] at h
  split at h
  · exact .inl (Except.ok.inj h).symm
  · obtain ⟨value, hread, hvalue⟩ := map_eq_ok_iff.mp h
    obtain ⟨json, _, hread⟩ := bind_eq_ok_iff.mp hread
    exact .inr ⟨json, value, mapError_eq_ok_iff.mp hread, hvalue.symm⟩

/-- The empty value of a type is of the type. -/
theorem exists_orEmpty_absent (engine : Engine) (typed : type ≠ .bytes)
    : ∃ value, Decoded.absent.orEmpty type = .value value ∧ engine.HasType type value
        ∧ value.Everywhere Value.IsCanonical := by
  cases type with
  | bytes => exact absurd rfl typed
  | list item => exact ⟨.array [], rfl, .list nofun, .leaf trivial rfl⟩
  | map key item => exact ⟨.map [], rfl, .map nofun nofun, .leaf trivial rfl⟩
  | _ => exact ⟨.null, rfl, .null, .leaf trivial rfl⟩

/-- A response decodes to bytes just when bytes are asked for, and otherwise to a value of the type
that is asked for, held as reading holds values. -/
theorem hasType_of_decode (tags : decoder.engine.AdaptersTag)
    (h : decoder.decode response type = .ok decoded)
    : ((∃ body, decoded.orEmpty type = .bytes body) ↔ type = .bytes)
      ∧ (type ≠ .bytes → ∃ value, decoded.orEmpty type = .value value
          ∧ decoder.engine.HasType type value ∧ value.Everywhere Value.IsCanonical) := by
  have typed : type ≠ .bytes → ∃ value, decoded.orEmpty type = .value value
      ∧ decoder.engine.HasType type value ∧ value.Everywhere Value.IsCanonical := by
    intro typed
    rcases exists_read_of_decode typed h with rfl | ⟨json, value, hread, rfl⟩
    · exact exists_orEmpty_absent decoder.engine typed
    · have hasType := Engine.hasType_of_readNode tags hread
      rw [Descriptor.instantiate_nil] at hasType
      exact ⟨value, rfl, hasType, Engine.isCanonical_of_readNode hread⟩
  refine ⟨⟨fun given => ?_, ?_⟩, typed⟩
  · by_contra hne
    obtain ⟨body, hb⟩ := given
    obtain ⟨value, hv, _⟩ := typed hne
    cases hb.symm.trans hv
  · rintro rfl
    exact exists_bytes_of_decode h

end Decoder

-----------------------------------------------------------------------------------------
-- Pages of dates
-----------------------------------------------------------------------------------------

/-- An engine with pages, dates and identifiers. -/
def library : Engine :=
  .ofConfig {} [Calendar.localDates, Uuid.extension, [.object Codec.pageSchema]]

theorem adaptersTag_library : library.AdaptersTag := by
  refine Engine.adaptersTag_ofConfig _ fun extension he a ha => ?_
  simp only [List.mem_cons, List.not_mem_nil, or_false] at he
  rcases he with rfl | rfl | rfl
  · obtain rfl := Entry.adapter.inj (List.mem_singleton.mp ha)
    exact Adapter.tags_ofFunctions _ _ _ _
  · obtain rfl := Entry.adapter.inj (List.mem_singleton.mp ha)
    exact Adapter.tags_ofFunctions _ _ _ _
  · cases List.mem_singleton.mp ha

/-- A page with a date and null, and an empty page behind it. -/
def datesTree : Json :=
  .object
    [("items", .array [.string "2024-02-29", .null]), ("next", .object [("items", .array [])])]

/-- The two pages as a value. -/
def datesValue : Value :=
  .object "Page"
    [("items", .array [.custom ⟨"LocalDate", .date leapDay⟩, .null]),
      ("next", .object "Page" [("items", .array [])])]

theorem read_datesTree : library.read datesTree pageOfDates = .ok datesValue := by
  rfl

/-- The pages are decoded to a value of their type. -/
theorem hasType_of_decode_dates
    : library.AdaptersTag
        ∧ (Codec.ofEngine {} library).decoder.decode
            (Codec.bareResponse (library.bytesOf datesTree)) pageOfDates
          = .ok (.value datesValue)
        ∧ pageOfDates ≠ .bytes
        ∧ library.HasType pageOfDates datesValue
        ∧ datesValue.Everywhere Value.IsCanonical := by
  have distinct : datesTree.Distinct := by simp [datesTree, Json.Distinct, Members.Distinct]
  have decode : (Codec.ofEngine {} library).decoder.decode
        (Codec.bareResponse (library.bytesOf datesTree)) pageOfDates
      = .ok (.value datesValue) := by
    rw [(Codec.decode_of_carries distinct (Codec.carries_bareResponse _) rfl).1 (by decide),
      read_datesTree]
    rfl
  have payload : pageOfDates ≠ .bytes := by simp [pageOfDates]
  obtain ⟨_, typed⟩ := Decoder.hasType_of_decode adaptersTag_library decode
  obtain ⟨value, hv, hasType, canonical⟩ := typed payload
  obtain rfl : datesValue = value := Decoded.value.inj hv
  exact ⟨adaptersTag_library, decode, payload, hasType, canonical⟩

end TypedJson
