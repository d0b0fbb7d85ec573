import TypedJson.Proofs.Engine.Natural

/-!
Normal trees. Reading a tree as a type and writing what was read changes it in three ways only:
where a schema is read its members become the declared ones that are there, in the schema's
order; where a float is read an integer becomes a binary number; where an adapter is read the
node becomes what the adapter writes. The normal tree reads as the same value.
-/

namespace TypedJson

/-- The number as a binary number. -/
def Number.asReal (n : Number) : Number :=
  .real n.toBinary64 n.isFinite_toBinary64

/-- The tree that an adapter writes for what it reads, or the tree itself if it does neither. -/
def Adapter.rewrite (a : Adapter) (json : Json) : Json :=
  match a.read json with
  | .error _ => json
  | .ok custom =>
      match a.write custom with
      | .error _ => json
      | .ok written => written

namespace Engine

/-- The normal tree of a node as a type: numbers read as floats are binary numbers, adapters have
rewritten their nodes, records have their parts alone, and all else is as it was. -/
def normal (engine : Engine) (json : Json) (type : Descriptor) (bindings : Bindings) : Json :=
  if json.isNull then json
  else
    match engine.form? type bindings, json with
    | some .float, .number n => .number n.asReal
    | some (.list type bindings), .array items =>
        .array (items.map fun item => engine.normal item type bindings)
    | some (.map _ type bindings), .object members =>
        .object (members.map fun member => (member.1, engine.normal member.2 type bindings))
    | some (.adapter _ a), json => a.rewrite json
    | some (.record _ schema bindings), .object members =>
        .object ((schema.parts Json.isNull members).attach.map fun part =>
          (part.1.name, engine.normal part.1.node part.1.type bindings))
    | _, json => json
termination_by sizeOf json
decreasing_by
  · have := List.sizeOf_lt_of_mem ‹_ ∈ items›
    simp only [Json.array.sizeOf_spec]
    omega
  · have := sizeOf_snd_lt_of_mem ‹_ ∈ members›
    simp only [Json.object.sizeOf_spec]
    omega
  · have hm := Members.mem_of_lookup (Part.mem_pick.mp part.2).2.1
    have := sizeOf_snd_lt_of_mem hm
    simp only [Json.object.sizeOf_spec] at this ⊢
    omega

/-- Every adapter writes what it has read, as a tree other than null from which it reads the same
custom value. -/
def AdaptersSettle (engine : Engine) : Prop :=
  ∀ name a, engine.registry.lookup name = some (.adapter a) →
    ∀ json custom, a.read json = .ok custom →
      ∃ written, a.write custom = .ok written ∧ written.isNull = false
        ∧ a.read written = .ok custom

variable {engine : Engine} {type : Descriptor} {bindings inner : Bindings}

-----------------------------------------------------------------------------------------
-- The normal tree form by form
-----------------------------------------------------------------------------------------

theorem normal_null (engine : Engine) (type : Descriptor) (bindings : Bindings)
    : engine.normal .null type bindings = .null := by
  rw [normal.eq_def]
  rfl

theorem normal_natural (form : engine.form? type bindings = some .natural) (json : Json)
    : engine.normal json type bindings = json := by
  rw [normal.eq_def, form, ite_self]

theorem normal_bool (form : engine.form? type bindings = some .bool) (json : Json)
    : engine.normal json type bindings = json := by
  rw [normal.eq_def, form, ite_self]

theorem normal_integer (form : engine.form? type bindings = some .integer) (json : Json)
    : engine.normal json type bindings = json := by
  rw [normal.eq_def, form, ite_self]

theorem normal_string (form : engine.form? type bindings = some .string) (json : Json)
    : engine.normal json type bindings = json := by
  rw [normal.eq_def, form, ite_self]

theorem normal_float (form : engine.form? type bindings = some .float) (n : Number)
    : engine.normal (.number n) type bindings = .number n.asReal := by
  rw [normal.eq_def, form]
  rfl

theorem normal_list {item : Descriptor}
    (form : engine.form? type bindings = some (.list item inner))
    (items : List Json)
    : engine.normal (.array items) type bindings
        = .array (items.map fun node => engine.normal node item inner) := by
  rw [normal.eq_def, form]
  rfl

theorem normal_map {key value : Descriptor}
    (form : engine.form? type bindings = some (.map key value inner))
    (members : List (String × Json))
    : engine.normal (.object members) type bindings
        = .object (members.map fun member => (member.1, engine.normal member.2 value inner)) := by
  rw [normal.eq_def, form]
  rfl

theorem normal_adapter {name : String} {a : Adapter}
    (form : engine.form? type bindings = some (.adapter name a)) {json : Json}
    (present : json.isNull = false)
    : engine.normal json type bindings = a.rewrite json := by
  rw [normal.eq_def, if_neg (by simp [present]), form]

/-- The part of a record with a normal node. -/
def normalPart (engine : Engine) (bindings : Bindings) (part : Part Json) : Part Json :=
  { part with node := engine.normal part.node part.type bindings }

theorem normal_record {name : String} {schema : Schema}
    (form : engine.form? type bindings = some (.record name schema inner))
    (members : List (String × Json))
    : engine.normal (.object members) type bindings
        = .object (((schema.parts Json.isNull members).map (engine.normalPart inner)).map
            Part.member) := by
  rw [normal.eq_def, form, List.map_map]
  simp [Json.isNull, Part.member, normalPart]

-----------------------------------------------------------------------------------------
-- Reading, writing and reading again
-----------------------------------------------------------------------------------------

/-- What a node is read as is written as its normal tree, which is read as the same. -/
def Settles (engine : Engine) (json : Json) : Prop :=
  ∀ type bindings value, engine.readNode json type bindings = .ok value →
    engine.writeNode value type bindings = .ok (engine.normal json type bindings)
      ∧ engine.readNode (engine.normal json type bindings) type bindings = .ok value

theorem settles_list {item : Descriptor} {items : List Json} {value : Value}
    (settled : ∀ node ∈ items, engine.Settles node)
    (reads : (Form.list item inner).Reads engine (.array items) value)
    : (Form.list item inner).Writes engine value
          (.array (items.map fun node => engine.normal node item inner))
        ∧ (Form.list item inner).Reads engine
          (.array (items.map fun node => engine.normal node item inner)) value := by
  obtain ⟨_, values, hi, rfl, hr⟩ := reads
  obtain rfl := Json.array.inj hi
  refine ⟨⟨values, _, rfl, rfl, ?_⟩, _, values, rfl, rfl, ?_⟩
  · rw [List.forall₂_map_right_iff]
    exact (forall₂_imp_of_mem hr fun node hm v _ h => (settled node hm _ _ v h).1).flip
  · rw [List.forall₂_map_left_iff]
    exact forall₂_imp_of_mem hr fun node hm v _ h => (settled node hm _ _ v h).2

theorem settles_map {key item : Descriptor} {members : List (String × Json)} {value : Value}
    (settled : ∀ member ∈ members, engine.Settles member.2)
    (reads : (Form.map key item inner).Reads engine (.object members) value)
    : (Form.map key item inner).Writes engine value
          (.object (members.map fun member => (member.1, engine.normal member.2 item inner)))
        ∧ (Form.map key item inner).Reads engine
          (.object (members.map fun member => (member.1, engine.normal member.2 item inner)))
          value := by
  obtain ⟨_, entries, hm, rfl, hr⟩ := reads
  obtain rfl := Json.object.inj hm
  refine ⟨⟨entries, _, rfl, rfl, ?_⟩, _, entries, rfl, rfl, ?_⟩
  · rw [List.forall₂_map_right_iff]
    refine (forall₂_imp_of_mem hr fun member hm entry _ h => ?_).flip
    exact ⟨h.1.symm, (settled member hm _ _ _ h.2.2).1⟩
  · rw [List.forall₂_map_left_iff]
    apply forall₂_imp_of_mem hr
    intro member hm entry _ h
    exact ⟨h.1, h.2.1, (settled member hm _ _ _ h.2.2).2⟩

/-- Records settle when their parts do: what is written has just the parts that were read. -/
theorem settles_record {name : String} {schema : Schema}
    {members : List (String × Json)} {value : Value}
    (settled : ∀ member ∈ members, engine.Settles member.2)
    (reads : (Form.record name schema inner).Reads engine (.object members) value)
    : (Form.record name schema inner).Writes engine value
          (.object (((schema.parts Json.isNull members).map (engine.normalPart inner)).map
            Part.member))
        ∧ (Form.record name schema inner).Reads engine
          (.object (((schema.parts Json.isNull members).map (engine.normalPart inner)).map
            Part.member)) value := by
  obtain ⟨_, parts, hm, rfl, hstrict, hr⟩ := reads
  obtain rfl := Json.object.inj hm
  have hpart : ∀ old ∈ schema.parts Json.isNull members, ∀ new : Part Value,
      Part.Related (fun type node v => engine.readNode node type inner = .ok v) old new →
        new.node.isNull = false
          ∧ engine.writeNode new.node old.type inner
              = .ok (engine.normal old.node old.type inner)
          ∧ engine.readNode (engine.normal old.node old.type inner) old.type inner
              = .ok new.node := by
    intro old ho new h
    obtain ⟨_, hl, hn⟩ := Part.mem_pick.mp ho
    have hs := settled _ (Members.mem_of_lookup hl) old.type inner new.node h.node
    exact ⟨(isNull_of_readNode h.node).trans hn, hs⟩
  have hvalues : ∀ new ∈ parts, new.node.isNull = false := by
    intro new hnew
    obtain ⟨old, ho, h⟩ := exists_of_forall₂_right hr hnew
    exact (hpart old ho new h).1
  -- The written parts are those of the value, the parts read again those of the written tree.
  have hw : List.Forall₂
      (Part.Related fun type v node => engine.writeNode v type inner = .ok node) parts
      ((schema.parts Json.isNull members).map (engine.normalPart inner)) := by
    rw [List.forall₂_map_right_iff]
    refine (forall₂_imp_of_mem hr fun old ho new _ h => ?_).flip
    exact ⟨h.name.symm, h.type.symm, h.type ▸ (hpart old ho new h).2.1⟩
  have hb : List.Forall₂
      (Part.Related fun type node v => engine.readNode node type inner = .ok v)
      ((schema.parts Json.isNull members).map (engine.normalPart inner)) parts := by
    rw [List.forall₂_map_left_iff]
    exact forall₂_imp_of_mem hr fun old ho new _ h => ⟨h.name, h.type, (hpart old ho new h).2.2⟩
  have hparts : schema.parts Value.isNull (parts.map Part.member) = parts :=
    Schema.parts_of_related hr hvalues
  refine ⟨⟨_, rfl, _, rfl, by rw [hparts]; exact hw⟩, _, parts, rfl, rfl, ?_, ?_⟩
  · intro _
    rw [undeclared?_eq_none_iff]
    exact fun name hname => Schema.name_mem_of_related (hparts ▸ hw) hname
  · have hnodes : ∀ new ∈ (schema.parts Json.isNull members).map (engine.normalPart inner),
        new.node.isNull = false := by
      intro new hnew
      obtain ⟨old, ho, h⟩ := exists_of_forall₂_left hb hnew
      rw [← isNull_of_readNode h.node]
      exact hvalues old ho
    rw [Schema.parts_of_related (hparts ▸ hw) hnodes]
    exact hb

/-- Every tree settles, by induction on its children and cases on the form of its type. -/
theorem settles (adapters : engine.AdaptersSettle) (json : Json) : engine.Settles json := by
  induction json using Json.byChildren with
  | step json ih =>
      intro type bindings value hr
      cases hn : json.isNull with
      | true =>
          obtain rfl := Json.eq_null_of_isNull hn
          rw [readNode_null] at hr
          obtain rfl := Except.ok.inj hr
          rw [normal_null]
          exact ⟨engine.writeNode_null type bindings, engine.readNode_null type bindings⟩
      | false =>
          obtain ⟨form, hf, reads⟩ := (engine.readNode_eq_ok_iff hn type bindings value).mp hr
          have hv := reads.isNull hn
          suffices h : form.Writes engine value (engine.normal json type bindings)
              ∧ form.Reads engine (engine.normal json type bindings) value
              ∧ (engine.normal json type bindings).isNull = false from
            ⟨(engine.writeNode_eq_ok_iff hv type bindings _).mpr ⟨form, hf, h.1⟩,
              (engine.readNode_eq_ok_iff h.2.2 type bindings value).mpr ⟨form, hf, h.2.1⟩⟩
          cases form with
          | natural =>
              obtain rfl : json.toValue = value := reads
              rw [normal_natural hf]
              exact ⟨engine.writeShape_toValue json, rfl, hn⟩
          | bool =>
              obtain ⟨b, rfl, rfl⟩ := reads
              rw [normal_bool hf]
              exact ⟨⟨b, rfl, rfl⟩, ⟨b, rfl, rfl⟩, rfl⟩
          | integer =>
              obtain ⟨n, rfl, rfl⟩ := reads
              rw [normal_integer hf]
              refine ⟨?_, ⟨n, rfl, rfl⟩, rfl⟩
              rcases Number.toValue_integer n with ⟨i, hi, hj⟩ | ⟨u, hu, hj⟩
              · exact .inl ⟨i, hi, hj.symm⟩
              · exact .inr ⟨u, hu, hj.symm⟩
          | float =>
              obtain ⟨n, rfl, rfl⟩ := reads
              rw [normal_float hf]
              exact ⟨⟨_, rfl, Json.ofBinary64?_eq_some_iff.mpr ⟨n.isFinite_toBinary64, rfl⟩⟩,
                ⟨n.asReal, rfl, rfl⟩, rfl⟩
          | string =>
              obtain ⟨s, rfl, rfl⟩ := reads
              rw [normal_string hf]
              exact ⟨⟨s, rfl, rfl⟩, ⟨s, rfl, rfl⟩, rfl⟩
          | list item inner =>
              obtain ⟨items, _, rfl, _⟩ := id reads
              rw [normal_list hf]
              obtain ⟨hw, hb⟩ := settles_list ih reads
              exact ⟨hw, hb, rfl⟩
          | map key item inner =>
              obtain ⟨members, _, rfl, _⟩ := id reads
              rw [normal_map hf]
              obtain ⟨hw, hb⟩ := settles_map
                (fun member hm => ih member.2 (List.mem_map_of_mem hm)) reads
              exact ⟨hw, hb, rfl⟩
          | adapter name a =>
              obtain ⟨custom, ha, rfl⟩ := reads
              obtain ⟨written, hw, hn', hb⟩ :=
                adapters name a (lookup_of_form?_adapter hf) json custom ha
              rw [normal_adapter hf hn, Adapter.rewrite, ha]
              dsimp only
              rw [hw]
              exact ⟨⟨custom, rfl, hw⟩, ⟨custom, hb, rfl⟩, hn'⟩
          | record name schema inner =>
              obtain ⟨members, _, rfl, _⟩ := id reads
              rw [normal_record hf]
              obtain ⟨hw, hb⟩ := settles_record
                (fun member hm => ih member.2 (List.mem_map_of_mem hm)) reads
              exact ⟨hw, hb, rfl⟩

/-- Whatever is read is written again, as its normal tree, and that reads as the very same value.
Normal trees are their own normal trees, and so is everything that is read without a type. -/
theorem write_of_read (adapters : engine.AdaptersSettle) {json : Json} {type : Descriptor}
    {value : Value} (read : engine.read json type = .ok value)
    : engine.write value type = .ok (engine.normal json type [])
        ∧ engine.read (engine.normal json type []) type = .ok value
        ∧ engine.normal (engine.normal json type []) type [] = engine.normal json type []
        ∧ engine.normal json .any [] = json := by
  obtain ⟨hw, hb⟩ := engine.settles adapters json type [] value read
  refine ⟨hw, hb, ?_, normal_natural (engine.form?_any []) json⟩
  -- Both are what the value is written as.
  exact Except.ok.inj ((settles adapters _ type [] value hb).1.symm.trans hw)

-----------------------------------------------------------------------------------------
-- A record with a float and an adapter
-----------------------------------------------------------------------------------------

/-- Whole degrees, as whole numbers of a document. -/
def celsius : Adapter where
  name := "Celsius"
  read
    | .number (.integer n) => .ok ⟨"Celsius", .amount "Celsius" n.val⟩
    | _ => .error "expected whole degrees"
  write custom :=
    match custom.payload with
    | .amount _ n =>
        match WideInt.ofInt? n with
        | some n => .ok (.number (.integer n))
        | none => .error "out of range"
    | _ => .error "expected an amount"

/-- An hour and a temperature. -/
def readingSchema : Schema where
  name := "Reading"
  fields := [("hour", .float), ("degrees", .named "Celsius")]

/-- An engine with a record that has a float and an adapter's type for its fields. -/
def weather : Engine where
  registry := [("Celsius", .adapter celsius), ("Reading", .object readingSchema)]

theorem adaptersSettle_weather : weather.AdaptersSettle := by
  intro name a registered json custom read
  have ha : a = celsius := by
    simp only [weather, Members.lookup_cons_ite, List.lookup_nil] at registered
    split at registered
    · exact (Entry.adapter.inj (Option.some.inj registered)).symm
    · split at registered <;> cases registered
  subst ha
  cases json with
  | number n =>
      cases n with
      | integer n =>
          obtain rfl := Except.ok.inj read
          have hn : WideInt.ofInt? n.val = some n := (WideInt.ofInt?_eq_some_iff n.val n).mpr rfl
          exact ⟨.number (.integer n), by simp [celsius, hn], rfl, rfl⟩
      | real x finite => cases read
  | _ => cases read

/-- A document with its members out of order, one of them unknown. -/
def weatherDocument : Json :=
  .object
    [("degrees", .number (.integer ⟨21, by omega, by omega⟩)), ("note", .bool true),
      ("hour", .number (.integer ⟨3, by omega, by omega⟩))]

/-- What the document is read as. -/
def weatherReading : Value :=
  .object "Reading"
    [("hour", .float (.ofInt 3)), ("degrees", .custom ⟨"Celsius", .amount "Celsius" 21⟩)]

theorem write_of_read_weather
    : weather.AdaptersSettle
        ∧ weather.read weatherDocument (.named "Reading") = .ok weatherReading
        ∧ weather.write weatherReading (.named "Reading")
            = .ok (.object
                [("hour", .number (Number.asReal (.integer ⟨3, by omega, by omega⟩))),
                  ("degrees", .number (.integer ⟨21, by omega, by omega⟩))]) := by
  have hr : weather.read weatherDocument (.named "Reading") = .ok weatherReading := rfl
  have hw := (write_of_read adaptersSettle_weather hr).1
  refine ⟨adaptersSettle_weather, hr, hw.trans (congrArg Except.ok ?_)⟩
  have hrecord : weather.form? (.named "Reading") []
      = some (.record "Reading" readingSchema []) := rfl
  have hhour : weather.form? .float [] = some .float := rfl
  have hdegrees : weather.form? (.named "Celsius") [] = some (.adapter "Celsius" celsius) := rfl
  refine (normal_record hrecord _).trans (congrArg Json.object ?_)
  apply congrArg₂ List.cons (congrArg (Prod.mk "hour") (normal_float hhour _))
  exact congrArg (fun node => [("degrees", node)]) (normal_adapter hdegrees rfl)

end Engine

end TypedJson
