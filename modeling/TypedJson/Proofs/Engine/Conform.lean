import TypedJson.Proofs.Engine.Distinct
import TypedJson.Proofs.Engine.Registry
import TypedJson.Proofs.Tree.Same

/-!
Values that conform to a type. Such a value is written, and what is written is read as an equal
value: integers may come back in another word and records without their null fields, but nothing
else changes.
-/

namespace TypedJson

/-- The value is one that a document holds without any type: it has no object, no custom value and
no float but finite ones. -/
inductive Value.Plain : Value → Prop where
  | null : Plain .null
  | bool (b : Bool) : Plain (.bool b)
  | integer (n : Int64) : Plain (.integer n)
  | unsigned (n : UInt64) : Plain (.unsigned n)
  | float {x : Binary64} (finite : x.isFinite = true) : Plain (.float x)
  | string (s : String) : Plain (.string s)
  | array {items : List Value} (below : ∀ item ∈ items, Plain item) : Plain (.array items)
  | map {entries : List (String × Value)} (below : ∀ entry ∈ entries, Plain entry.2)
    : Plain (.map entries)

/-- What the adapter writes of a custom value with the tag is not null, and is read as that very
value. Values with another tag are left out: an adapter of two functions writes them as well, but
reads its own tag back. -/
def Adapter.Inverts (tag : String) (a : Adapter) : Prop :=
  ∀ custom json, custom.tag = tag → a.write custom = .ok json →
    json.isNull = false ∧ a.read json = .ok custom

namespace Engine

/-- The value conforms to the type under the bindings. Null conforms to every type. A field that a
record holds must be declared unless it is null. -/
inductive Conforms (engine : Engine) : Value → Descriptor → Bindings → Prop where
  | null {type : Descriptor} {bindings : Bindings} : Conforms engine .null type bindings
  | natural {type : Descriptor} {bindings : Bindings} {value : Value}
    (form : engine.form? type bindings = some .natural) (plain : value.Plain)
    : Conforms engine value type bindings
  | bool {type : Descriptor} {bindings : Bindings} (form : engine.form? type bindings = some .bool)
    (b : Bool)
    : Conforms engine (.bool b) type bindings
  | integer {type : Descriptor} {bindings : Bindings}
    (form : engine.form? type bindings = some .integer) (n : Int64)
    : Conforms engine (.integer n) type bindings
  | unsigned {type : Descriptor} {bindings : Bindings}
    (form : engine.form? type bindings = some .integer) (n : UInt64)
    : Conforms engine (.unsigned n) type bindings
  | float {type : Descriptor} {bindings : Bindings} {x : Binary64}
    (form : engine.form? type bindings = some .float) (finite : x.isFinite = true)
    : Conforms engine (.float x) type bindings
  | string {type : Descriptor} {bindings : Bindings}
    (form : engine.form? type bindings = some .string) (s : String)
    : Conforms engine (.string s) type bindings
  | list {type item : Descriptor} {bindings inner : Bindings} {items : List Value}
    (form : engine.form? type bindings = some (.list item inner))
    (below : ∀ value ∈ items, Conforms engine value item inner)
    : Conforms engine (.array items) type bindings
  | map {type key item : Descriptor} {bindings inner : Bindings}
    {entries : List (String × Value)}
    (form : engine.form? type bindings = some (.map key item inner))
    (accepted : ∀ entry ∈ entries, engine.checkKey entry.1 key inner = .ok ())
    (below : ∀ entry ∈ entries, Conforms engine entry.2 item inner)
    : Conforms engine (.map entries) type bindings
  | custom {type : Descriptor} {bindings : Bindings} {name : String} {a : Adapter} {c : Custom}
    {json : Json} (form : engine.form? type bindings = some (.adapter name a))
    (tag : c.tag = name) (accepted : a.write c = .ok json)
    : Conforms engine (.custom c) type bindings
  | object {type : Descriptor} {bindings inner : Bindings} {name : String} {schema : Schema}
    {fields : List (String × Value)}
    (form : engine.form? type bindings = some (.record name schema inner))
    (declared : ∀ field ∈ fields, field.2.isNull = false → field.1 ∈ schema.fields.map Prod.fst)
    (below : ∀ field ∈ fields, ∀ type, schema.fields.lookup field.1 = some type →
      Conforms engine field.2 type inner)
    : Conforms engine (.object name fields) type bindings

/-- Every adapter inverts on the custom values that are tagged with the name it stands under. -/
def AdaptersInvert (engine : Engine) : Prop :=
  ∀ name a, engine.registry.lookup name = some (.adapter a) → a.Inverts name

/-- The value is written as the first of the two, which is read as the second, and that equals the
value. -/
structure Returned (engine : Engine) (type : Descriptor) (bindings : Bindings) (value : Value)
    (out : Json × Value) : Prop where
  write : engine.writeNode value type bindings = .ok out.1
  read : engine.readNode out.1 type bindings = .ok out.2
  same : value.Same out.2

variable {engine : Engine} {type : Descriptor} {bindings inner : Bindings}

theorem Returned.isNull {value : Value} {out : Json × Value}
    (h : engine.Returned type bindings value out)
    : out.1.isNull = value.isNull :=
  (isNull_of_readNode h.read).symm.trans h.same.isNull

theorem returned_of_form {form : Form} {value back : Value} {json : Json}
    (known : engine.form? type bindings = some form) (writes : form.Writes engine value json)
    (reads : form.Reads engine json back) (same : value.Same back) (present : json.isNull = false)
    : engine.Returned type bindings value (json, back) where
  write := by
    have hv : value.isNull = false := same.isNull.symm.trans (reads.isNull present)
    exact (engine.writeNode_eq_ok_iff hv type bindings json).mpr ⟨form, known, writes⟩
  read := (engine.readNode_eq_ok_iff present type bindings back).mpr ⟨form, known, reads⟩
  same := same

end Engine

-----------------------------------------------------------------------------------------
-- Integers and plain values
-----------------------------------------------------------------------------------------

/-- Integers are equal whatever word holds them. -/
theorem Value.same_of_integral? {a b : Value} {n : Int} (ha : a.integral? = some n)
    (hb : b.integral? = some n)
    : a.Same b := by
  cases a with
  | integer i =>
      obtain rfl := Option.some.inj ha
      cases b with
      | integer j =>
          obtain rfl := Int64.toInt_inj.mp (Option.some.inj hb)
          exact .integer j
      | unsigned v => exact .integer_unsigned (Option.some.inj hb).symm
      | _ => cases hb
  | unsigned u =>
      obtain rfl := Option.some.inj ha
      cases b with
      | integer j => exact .unsigned_integer (Option.some.inj hb)
      | unsigned v =>
          obtain rfl := UInt64.toNat_inj.mp (Int.ofNat_inj.mp (Option.some.inj hb))
          exact .unsigned v
      | _ => cases hb
  | _ => cases ha

theorem Number.integral?_toValue (n : WideInt)
    : (Number.integer n).toValue.integral? = some n.val := by
  rcases Number.toValue_integer n with ⟨i, hv, hj⟩ | ⟨u, hv, hj⟩
  · obtain rfl := Number.integer.inj (Json.number.inj hj)
    rw [hv]
    rfl
  · obtain rfl := Number.integer.inj (Json.number.inj hj)
    rw [hv]
    rfl

theorem Value.same_toValue_ofInt64 (n : Int64) : (integer n).Same (Json.ofInt64 n).toValue :=
  same_of_integral? rfl (Number.integral?_toValue (.ofInt64 n))

theorem Value.same_toValue_ofUInt64 (n : UInt64) : (unsigned n).Same (Json.ofUInt64 n).toValue :=
  same_of_integral? rfl (Number.integral?_toValue (.ofUInt64 n))

/-- What is read without a type is plain, by induction on the tree. -/
theorem Json.plain_toValue (json : Json) : json.toValue.Plain := by
  induction json using Json.byChildren with
  | step json ih =>
      cases json with
      | null => exact .null
      | bool b => exact .bool b
      | number n =>
          cases n with
          | integer n =>
              rcases Number.toValue_integer n with ⟨i, hv, _⟩ | ⟨u, hv, _⟩
              · rw [toValue, hv]
                exact .integer i
              · rw [toValue, hv]
                exact .unsigned u
          | real x finite => exact .float finite
      | string s => exact .string s
      | array items =>
          rw [toValue, toValues_eq_map]
          exact .array (List.forall_mem_map.mpr ih)
      | object members =>
          rw [toValue, toEntries_eq_map]
          refine .map (List.forall_mem_map.mpr fun member hm => ?_)
          exact ih member.2 (List.mem_map_of_mem hm)

/-- A plain value is written by its shape as a tree whose value is equal to it, by induction on
the way in which it is plain. -/
theorem Value.Plain.exists_writeShape (engine : Engine) {value : Value} (plain : value.Plain)
    : ∃ json, engine.writeShape value = .ok json ∧ value.Same json.toValue := by
  induction plain with
  | null => exact ⟨.null, rfl, .null⟩
  | bool b => exact ⟨.bool b, rfl, .bool b⟩
  | integer n => exact ⟨.ofInt64 n, rfl, Value.same_toValue_ofInt64 n⟩
  | unsigned n => exact ⟨.ofUInt64 n, rfl, Value.same_toValue_ofUInt64 n⟩
  | @float x finite =>
      have hx : Json.ofBinary64? x = some (.number (.real x finite)) :=
        Json.ofBinary64?_eq_some_iff.mpr ⟨finite, rfl⟩
      exact ⟨_, (Engine.writeFloat_eq_ok_iff x _).mpr hx, .float (Binary64.same_self finite)⟩
  | string s => exact ⟨.string s, rfl, .string s⟩
  | @array items below ih =>
      obtain ⟨nodes, h⟩ := exists_forall₂_iff.mpr ih
      refine ⟨.array nodes, ?_, ?_⟩
      · exact (engine.writeShape_array_eq_ok_iff items _).mpr ⟨nodes, rfl, h.imp fun _ _ h => h.1⟩
      · rw [Json.toValue, Json.toValues_eq_map]
        exact .array (List.forall₂_map_right_iff.mpr (h.imp fun _ _ h => h.2))
  | @map entries below ih =>
      obtain ⟨members, h⟩ : ∃ members : List (String × Json), List.Forall₂
          (fun entry member => member.1 = entry.1 ∧ engine.writeShape entry.2 = .ok member.2
            ∧ entry.2.Same member.2.toValue) entries members := by
        apply exists_forall₂_iff.mpr
        intro entry he
        obtain ⟨json, h⟩ := ih entry he
        exact ⟨(entry.1, json), rfl, h⟩
      refine ⟨.object members, ?_, ?_⟩
      · refine (engine.writeShape_map_eq_ok_iff entries _).mpr ⟨members, rfl, ?_⟩
        exact h.imp fun _ _ h => ⟨h.1, h.2.1⟩
      · rw [Json.toValue, Json.toEntries_eq_map]
        refine .map (Members.lookup_of_forall₂ (List.forall₂_map_right_iff.mpr ?_))
        exact h.imp fun _ _ h => ⟨h.1, h.2.2⟩

/-- The parts of a record are its fields but for those that are null, when all others are
declared. -/
theorem Schema.lookup_parts {schema : Schema} {fields : List (String × Value)}
    (declared : ∀ field ∈ fields, field.2.isNull = false → field.1 ∈ schema.fields.map Prod.fst)
    (name : String)
    : ((schema.parts Value.isNull fields).map Part.member).lookup name
        = Value.present? fields name := by
  have distinct : Members.Distinct ((schema.parts Value.isNull fields).map Part.member) := by
    have h : List.Forall₂ (Part.Related fun _ _ _ => True) (schema.parts Value.isNull fields)
        (schema.parts Value.isNull fields) := List.forall₂_same.mpr fun _ _ => ⟨rfl, rfl, trivial⟩
    exact distinct_of_related h
  apply Option.ext
  intro value
  rw [Members.lookup_eq_some_iff distinct, Value.present?_eq_some_iff]
  constructor
  · intro hm
    obtain ⟨part, hp, he⟩ := List.mem_map.mp hm
    obtain ⟨rfl, rfl⟩ := Prod.mk.inj he
    exact (Part.mem_pick.mp hp).2
  · intro given
    rcases given with ⟨hl, hn⟩
    obtain ⟨field, hf, rfl⟩ := List.mem_map.mp (declared _ (Members.mem_of_lookup hl) hn)
    exact List.mem_map.mpr ⟨⟨field.1, field.2, value⟩, Part.mem_pick.mpr ⟨hf, hl, hn⟩, rfl⟩

-----------------------------------------------------------------------------------------
-- Adapters of two functions
-----------------------------------------------------------------------------------------

/-- An adapter of two functions inverts on the values with its own name if the functions do and if
what is held is held in one way only. -/
theorem Adapter.inverts_ofFunctions {α : Type} {name : String} {carrier : Carrier α}
    {read : Json → Except String α} {write : α → Except String Json}
    (exact : ∀ payload content, carrier.held? payload = some content →
      carrier.hold content = payload)
    (inverse : ∀ content json, write content = .ok json →
      json.isNull = false ∧ read json = .ok content)
    : (ofFunctions name carrier read write).Inverts name := by
  rintro ⟨_, payload⟩ json rfl accepted
  simp only [ofFunctions] at accepted
  split at accepted
  · next content held =>
      obtain ⟨present, back⟩ := inverse content json accepted
      refine ⟨present, ?_⟩
      simp only [ofFunctions, back, Except.map, exact payload content held]
  · cases accepted

namespace Engine

/-- The adapters of an engine that a configuration describes invert if those of its extensions
do. -/
theorem adaptersInvert_ofConfig (config : Config) {extensions : List Extension}
    (inverts : ∀ extension ∈ extensions, ∀ a, .adapter a ∈ extension → a.Inverts a.name)
    : (ofConfig config extensions).AdaptersInvert := by
  intro name a registered
  obtain ⟨extension, he, ha, rfl⟩ := brought_of_ofConfig registered
  exact inverts extension he a ha

variable {engine : Engine} {type : Descriptor} {bindings inner : Bindings}

-----------------------------------------------------------------------------------------
-- Values with parts
-----------------------------------------------------------------------------------------

theorem exists_returned_list {item : Descriptor} {items : List Value}
    (form : engine.form? type bindings = some (.list item inner))
    (below : ∀ value ∈ items, ∃ out, engine.Returned item inner value out)
    : ∃ out, engine.Returned type bindings (.array items) out := by
  obtain ⟨outs, h⟩ := exists_forall₂_iff.mpr below
  have writes : (Form.list item inner).Writes engine (.array items) (.array (outs.map Prod.fst)) :=
    ⟨items, _, rfl, rfl, List.forall₂_map_right_iff.mpr (h.imp fun _ _ h => h.write)⟩
  have reads : (Form.list item inner).Reads engine (.array (outs.map Prod.fst))
      (.array (outs.map Prod.snd)) := by
    refine ⟨_, _, rfl, rfl, ?_⟩
    rw [List.forall₂_map_left_iff, List.forall₂_map_right_iff, List.forall₂_same]
    intro out ho
    obtain ⟨_, _, hr⟩ := exists_of_forall₂_right h ho
    exact hr.read
  have same : (Value.array items).Same (.array (outs.map Prod.snd)) :=
    .array (List.forall₂_map_right_iff.mpr (h.imp fun _ _ h => h.same))
  exact ⟨_, returned_of_form form writes reads same rfl⟩

theorem exists_returned_map {key item : Descriptor} {entries : List (String × Value)}
    (form : engine.form? type bindings = some (.map key item inner))
    (accepted : ∀ entry ∈ entries, engine.checkKey entry.1 key inner = .ok ())
    (below : ∀ entry ∈ entries, ∃ out, engine.Returned item inner entry.2 out)
    : ∃ out, engine.Returned type bindings (.map entries) out := by
  obtain ⟨outs, h⟩ : ∃ outs : List (String × Json × Value), List.Forall₂
      (fun entry out => out.1 = entry.1 ∧ engine.Returned item inner entry.2 out.2) entries
      outs := by
    apply exists_forall₂_iff.mpr
    intro entry he
    obtain ⟨out, h⟩ := below entry he
    exact ⟨(entry.1, out), rfl, h⟩
  have writes : (Form.map key item inner).Writes engine (.map entries)
      (.object (outs.map fun out => (out.1, out.2.1))) :=
    ⟨entries, _, rfl, rfl,
      List.forall₂_map_right_iff.mpr (h.imp fun _ _ h => ⟨h.1, h.2.write⟩)⟩
  have reads : (Form.map key item inner).Reads engine
      (.object (outs.map fun out => (out.1, out.2.1)))
      (.map (outs.map fun out => (out.1, out.2.2))) := by
    refine ⟨_, _, rfl, rfl, ?_⟩
    rw [List.forall₂_map_left_iff, List.forall₂_map_right_iff, List.forall₂_same]
    intro out ho
    obtain ⟨entry, he, hname, hr⟩ := exists_of_forall₂_right h ho
    exact ⟨rfl, hname ▸ accepted entry he, hr.read⟩
  have same : (Value.map entries).Same (.map (outs.map fun out => (out.1, out.2.2))) := by
    refine .map (Members.lookup_of_forall₂ (List.forall₂_map_right_iff.mpr ?_))
    exact h.imp fun _ _ h => ⟨h.1, h.2.same⟩
  exact ⟨_, returned_of_form form writes reads same rfl⟩

/-- A record comes back with the declared fields that are not null, in the order of the schema. -/
theorem exists_returned_record {name : String} {schema : Schema} {fields : List (String × Value)}
    (form : engine.form? type bindings = some (.record name schema inner))
    (declared : ∀ field ∈ fields, field.2.isNull = false → field.1 ∈ schema.fields.map Prod.fst)
    (below : ∀ field ∈ fields, ∀ type, schema.fields.lookup field.1 = some type →
      ∃ out, engine.Returned type inner field.2 out)
    : ∃ out, engine.Returned type bindings (.object name fields) out := by
  obtain ⟨outs, h⟩ : ∃ outs : List (Part (Json × Value)), List.Forall₂
      (Part.Related fun type value out => engine.Returned type inner value out)
      (schema.parts Value.isNull fields) outs := by
    apply exists_forall₂_iff.mpr
    intro part hp
    obtain ⟨hf, hl, _⟩ := Part.mem_pick.mp hp
    obtain ⟨out, hr⟩ := below _ (Members.mem_of_lookup hl) part.type
      (Members.lookup_of_mem schema.distinct hf)
    exact ⟨⟨part.name, part.type, out⟩, rfl, rfl, hr⟩
  have written : List.Forall₂
      (Part.Related fun type value node => engine.writeNode value type inner = .ok node)
      (schema.parts Value.isNull fields) (outs.map (Part.map Prod.fst)) :=
    List.forall₂_map_right_iff.mpr (h.imp fun _ _ h => ⟨h.name, h.type, h.node.write⟩)
  have hout : ∀ out ∈ outs,
      engine.readNode out.node.1 out.type inner = .ok out.node.2
        ∧ out.node.1.isNull = false ∧ out.node.2.isNull = false := by
    intro out ho
    obtain ⟨part, hp, hr⟩ := exists_of_forall₂_right h ho
    have hn := (Part.mem_pick.mp hp).2.2
    rw [hr.type]
    exact ⟨hr.node.read, hr.node.isNull.trans hn, hr.node.same.isNull.trans hn⟩
  -- Nothing was written as null, so the written tree has just the parts that the value has.
  have hparts : schema.parts Json.isNull ((outs.map (Part.map Prod.fst)).map Part.member)
      = outs.map (Part.map Prod.fst) := by
    apply Schema.parts_of_related written
    rw [List.forall_mem_map]
    exact fun out ho => (hout out ho).2.1
  have writes : (Form.record name schema inner).Writes engine (.object name fields)
      (.object ((outs.map (Part.map Prod.fst)).map Part.member)) :=
    ⟨fields, rfl, _, rfl, written⟩
  have reads : (Form.record name schema inner).Reads engine
      (.object ((outs.map (Part.map Prod.fst)).map Part.member))
      (.object name ((outs.map (Part.map Prod.snd)).map Part.member)) := by
    refine ⟨_, _, rfl, rfl, fun _ => ?_, ?_⟩
    · rw [undeclared?_eq_none_iff]
      exact fun name hname => Schema.name_mem_of_related written hname
    · rw [hparts, List.forall₂_map_left_iff, List.forall₂_map_right_iff, List.forall₂_same]
      exact fun out ho => ⟨rfl, rfl, (hout out ho).1⟩
  have same : (Value.object name fields).Same
      (.object name ((outs.map (Part.map Prod.snd)).map Part.member)) := by
    refine .object fun name => ?_
    rw [← Schema.lookup_parts declared, Value.present?_eq_lookup]
    · refine Members.lookup_of_forall₂ ?_ name
      rw [List.map_map, List.forall₂_map_left_iff, List.forall₂_map_right_iff]
      exact h.imp fun _ _ h => ⟨h.name, h.node.same⟩
    · rw [List.map_map, List.forall_mem_map]
      exact fun out ho => (hout out ho).2.2
  exact ⟨_, returned_of_form form writes reads same rfl⟩

-----------------------------------------------------------------------------------------
-- Values that conform
-----------------------------------------------------------------------------------------

/-- A value that conforms to a type is written and read back as an equal one, by induction on the
way in which it conforms. -/
theorem exists_returned (adapters : engine.AdaptersInvert) {value : Value}
    (conforms : engine.Conforms value type bindings)
    : ∃ out, engine.Returned type bindings value out := by
  induction conforms with
  | null => exact ⟨(.null, .null), engine.writeNode_null _ _, engine.readNode_null _ _, .null⟩
  | @natural type bindings value form plain =>
      cases hn : value.isNull with
      | true =>
          obtain rfl := Value.eq_null_of_isNull hn
          exact ⟨(.null, .null), engine.writeNode_null _ _, engine.readNode_null _ _, .null⟩
      | false =>
          obtain ⟨json, writes, same⟩ := plain.exists_writeShape engine
          have present : json.isNull = false :=
            (Json.isNull_toValue json).symm.trans (same.isNull.trans hn)
          exact ⟨_, returned_of_form form writes rfl same present⟩
  | bool form b => exact ⟨_, returned_of_form form ⟨b, rfl, rfl⟩ ⟨b, rfl, rfl⟩ (.bool b) rfl⟩
  | integer form n =>
      exact ⟨_, returned_of_form form (.inl ⟨n, rfl, rfl⟩) ⟨_, rfl, rfl⟩
        (Value.same_toValue_ofInt64 n) rfl⟩
  | unsigned form n =>
      exact ⟨_, returned_of_form form (.inr ⟨n, rfl, rfl⟩) ⟨_, rfl, rfl⟩
        (Value.same_toValue_ofUInt64 n) rfl⟩
  | @float type bindings x form finite =>
      have hx : Json.ofBinary64? x = some (.number (.real x finite)) :=
        Json.ofBinary64?_eq_some_iff.mpr ⟨finite, rfl⟩
      exact ⟨_, returned_of_form form ⟨x, rfl, hx⟩ ⟨_, rfl, rfl⟩
        (.float (Binary64.same_self finite)) rfl⟩
  | string form s => exact ⟨_, returned_of_form form ⟨s, rfl, rfl⟩ ⟨s, rfl, rfl⟩ (.string s) rfl⟩
  | list form _ ih => exact exists_returned_list form ih
  | map form accepted _ ih => exact exists_returned_map form accepted ih
  | @custom type bindings name a c json form tag accepted =>
      obtain ⟨present, hread⟩ := adapters name a (lookup_of_form?_adapter form) c json tag accepted
      exact ⟨_, returned_of_form form ⟨c, rfl, accepted⟩ ⟨c, hread, rfl⟩ (.custom c) present⟩
  | object form declared _ ih => exact exists_returned_record form declared ih

end Engine

end TypedJson
