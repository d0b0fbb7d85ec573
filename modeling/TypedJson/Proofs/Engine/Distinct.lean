import TypedJson.Proofs.Engine.Natural

/-!
Distinct names on the way through an engine. What is read of a tree in which no object has two
members of one name is a value of that kind, and what is written for such a value is such a tree.
-/

namespace TypedJson

-----------------------------------------------------------------------------------------
-- Reading
-----------------------------------------------------------------------------------------

/-- A tree with distinct names has such a value, by induction on its children. -/
theorem Json.Distinct.toValue {json : Json} (distinct : json.Distinct) : json.toValue.Distinct := by
  induction json using Json.byChildren with
  | step json ih =>
      cases json with
      | null | bool b | string s => simp [Json.toValue, Value.Distinct]
      | number n =>
          cases n with
          | integer n =>
              rcases Number.toValue_integer n with ⟨_, h, _⟩ | ⟨_, h, _⟩ <;>
                simp [Json.toValue, h, Value.Distinct]
          | real x finite => simp [Json.toValue, Number.toValue, Value.Distinct]
      | array items =>
          rw [Json.Distinct] at distinct
          rw [Json.toValue, Value.Distinct, Json.toValues_eq_map, List.forall_mem_map]
          exact fun item hi => ih item hi (distinct item hi)
      | object members =>
          rw [Json.Distinct] at distinct
          rw [Json.toValue, Value.Distinct, Json.toEntries_eq_map, List.forall_mem_map]
          refine ⟨?_, fun member hm => ih member.2 (List.mem_map_of_mem hm) (distinct.2 member hm)⟩
          rw [Members.Distinct, List.map_map]
          exact distinct.1

namespace Engine

variable {engine : Engine} {type : Descriptor} {bindings : Bindings}

/-- A tree with distinct names is read as a value with distinct names, by induction on its
children and cases on the form of the type. -/
theorem distinct_of_readNode {json : Json} {value : Value} (distinct : json.Distinct)
    (read : engine.readNode json type bindings = .ok value)
    : value.Distinct := by
  induction json using Json.byChildren generalizing value type bindings with
  | step json ih =>
      cases hn : json.isNull with
      | true =>
          rw [Json.eq_null_of_isNull hn, readNode_null] at read
          obtain rfl := Except.ok.inj read
          simp [Value.Distinct]
      | false =>
          obtain ⟨form, _, reads⟩ := (engine.readNode_eq_ok_iff hn type bindings value).mp read
          cases form with
          | natural =>
              obtain rfl : json.toValue = value := reads
              exact distinct.toValue
          | bool | string | float | adapter =>
              obtain ⟨_, _, rfl⟩ := reads
              simp [Value.Distinct]
          | integer =>
              obtain ⟨n, rfl, rfl⟩ := reads
              exact distinct.toValue
          | list item inner =>
              obtain ⟨items, values, rfl, rfl, hr⟩ := reads
              rw [Json.Distinct] at distinct
              rw [Value.Distinct]
              intro value hv
              obtain ⟨item, hi, h⟩ := exists_of_forall₂_right hr hv
              exact ih item hi (distinct item hi) h
          | map key item inner =>
              obtain ⟨members, entries, rfl, rfl, hr⟩ := reads
              rw [Json.Distinct] at distinct
              rw [Value.Distinct]
              refine ⟨distinct.1.of_forall₂ (fun _ _ h => h.1) hr, fun entry he => ?_⟩
              obtain ⟨member, hm, h⟩ := exists_of_forall₂_right hr he
              exact ih member.2 (List.mem_map_of_mem hm) (distinct.2 member hm) h.2.2
          | record name schema inner =>
              obtain ⟨members, parts, rfl, rfl, _, hr⟩ := reads
              rw [Json.Distinct] at distinct
              rw [Value.Distinct, List.forall_mem_map]
              refine ⟨Schema.distinct_of_related hr, fun part hp => ?_⟩
              obtain ⟨old, ho, h⟩ := exists_of_forall₂_right hr hp
              have hm := Members.mem_of_lookup (Part.mem_pick.mp ho).2.1
              exact ih old.node (List.mem_map_of_mem hm) (distinct.2 _ hm) h.node

-----------------------------------------------------------------------------------------
-- Writing
-----------------------------------------------------------------------------------------

/-- What adapters write are trees with distinct names, as all trees have whose objects keep their
members by name. -/
def AdaptersDistinct (engine : Engine) : Prop :=
  ∀ name a, engine.registry.lookup name = some (.adapter a) →
    ∀ custom json, a.write custom = .ok json → json.Distinct

theorem distinct_of_members {entries : List (String × Value)} {members : List (String × Json)}
    {R : Value → Json → Prop} (distinct : Members.Distinct entries)
    (written : List.Forall₂ (fun entry member => member.1 = entry.1 ∧ R entry.2 member.2) entries
      members)
    (below : ∀ entry ∈ entries, ∀ json, R entry.2 json → json.Distinct)
    : (Json.object members).Distinct := by
  rw [Json.Distinct]
  refine ⟨distinct.of_forall₂ (fun _ _ h => h.1) written, fun member hm => ?_⟩
  obtain ⟨entry, he, h⟩ := exists_of_forall₂_right written hm
  exact below entry he member.2 h.2

theorem distinct_of_items {items : List Value} {nodes : List Json} {R : Value → Json → Prop}
    (written : List.Forall₂ R items nodes)
    (below : ∀ item ∈ items, ∀ json, R item json → json.Distinct)
    : (Json.array nodes).Distinct := by
  rw [Json.Distinct]
  intro node hn
  obtain ⟨item, hi, h⟩ := exists_of_forall₂_right written hn
  exact below item hi node h

/-- A value with distinct names is written by its shape as a tree with distinct names, by
induction on its children. -/
theorem distinct_of_writeShape (adapters : engine.AdaptersDistinct) {value : Value} {json : Json}
    (distinct : value.Distinct) (write : engine.writeShape value = .ok json)
    : json.Distinct := by
  induction value using Value.byChildren generalizing json with
  | step value ih =>
      cases value with
      | null | bool | string | integer | unsigned =>
          obtain rfl := Except.ok.inj write
          simp [Json.Distinct, Json.ofInt64, Json.ofUInt64]
      | float x =>
          have hx := (writeFloat_eq_ok_iff x json).mp write
          obtain ⟨_, rfl⟩ := Json.ofBinary64?_eq_some_iff.mp hx
          simp [Json.Distinct]
      | array items =>
          obtain ⟨nodes, rfl, hw⟩ := (engine.writeShape_array_eq_ok_iff items json).mp write
          rw [Value.Distinct] at distinct
          exact distinct_of_items hw fun item hi json => ih item hi (distinct item hi)
      | map entries =>
          obtain ⟨members, rfl, hw⟩ := (engine.writeShape_map_eq_ok_iff entries json).mp write
          rw [Value.Distinct] at distinct
          exact distinct_of_members (R := (engine.writeShape · = .ok ·)) distinct.1 hw
            fun entry he json => ih entry.2 (List.mem_map_of_mem he) (distinct.2 entry he)
      | object typeName fields =>
          obtain ⟨members, rfl, hw⟩ :=
            (engine.writeShape_object_eq_ok_iff typeName fields json).mp write
          rw [Value.Distinct] at distinct
          exact distinct_of_members (R := (engine.writeShape · = .ok ·)) distinct.1 hw
            fun field hf json => ih field.2 (List.mem_map_of_mem hf) (distinct.2 field hf)
      | custom custom =>
          simp only [writeShape] at write
          split at write
          · next a hl =>
              exact adapters _ a hl custom json ((writeCustom_eq_ok_iff a custom json).mp write)
          · cases write

/-- A value with distinct names is written as a tree with distinct names, by induction on its
children and cases on the form of the type. -/
theorem distinct_of_writeNode (adapters : engine.AdaptersDistinct) {value : Value} {json : Json}
    (distinct : value.Distinct) (write : engine.writeNode value type bindings = .ok json)
    : json.Distinct := by
  induction value using Value.byChildren generalizing json type bindings with
  | step value ih =>
      cases hn : value.isNull with
      | true =>
          rw [Value.eq_null_of_isNull hn, writeNode_null] at write
          obtain rfl := Except.ok.inj write
          simp [Json.Distinct]
      | false =>
          obtain ⟨form, hf, writes⟩ := (engine.writeNode_eq_ok_iff hn type bindings json).mp write
          cases form with
          | natural => exact distinct_of_writeShape adapters distinct writes
          | bool | string =>
              obtain ⟨_, _, rfl⟩ := writes
              simp [Json.Distinct]
          | integer =>
              rcases writes with ⟨_, _, rfl⟩ | ⟨_, _, rfl⟩ <;>
                simp [Json.Distinct, Json.ofInt64, Json.ofUInt64]
          | float =>
              obtain ⟨x, _, hx⟩ := writes
              obtain ⟨_, rfl⟩ := Json.ofBinary64?_eq_some_iff.mp hx
              simp [Json.Distinct]
          | adapter name a =>
              obtain ⟨custom, _, hw⟩ := writes
              exact adapters name a (lookup_of_form?_adapter hf) custom json hw
          | list item inner =>
              obtain ⟨items, nodes, rfl, rfl, hw⟩ := writes
              rw [Value.Distinct] at distinct
              exact distinct_of_items hw fun item hi json => ih item hi (distinct item hi)
          | map key item inner =>
              obtain ⟨entries, members, rfl, rfl, hw⟩ := writes
              rw [Value.Distinct] at distinct
              exact distinct_of_members (R := (engine.writeNode · item inner = .ok ·)) distinct.1 hw
                fun entry he json => ih entry.2 (List.mem_map_of_mem he) (distinct.2 entry he)
          | record name schema inner =>
              obtain ⟨entries, hm, parts, rfl, hw⟩ := writes
              rw [Json.Distinct, List.forall_mem_map]
              refine ⟨Schema.distinct_of_related hw, fun part hp => ?_⟩
              obtain ⟨old, ho, h⟩ := exists_of_forall₂_right hw hp
              have hmem := Members.mem_of_lookup (Part.mem_pick.mp ho).2.1
              exact ih old.node (Value.mem_children_of_members? hm hmem)
                (distinct.of_mem_members? hm hmem) h.node

end Engine

end TypedJson
