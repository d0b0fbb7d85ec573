import TypedJson.Proofs.Engine.Typing

/-!
Writing without a type. A value that was read as a type is written by its own shape just as it is
written as that type: its records have the declared fields in their order and none that is null,
and its custom values bear the names of their adapters.
-/

namespace TypedJson.Engine

variable {engine : Engine} {type : Descriptor} {bindings : Bindings}

theorem writeNode_any (engine : Engine) (value : Value) (bindings : Bindings)
    : engine.writeNode value .any bindings = engine.writeShape value := by
  cases value <;> rfl

theorem writeNode_bytes (engine : Engine) (value : Value) (bindings : Bindings)
    : engine.writeNode value .bytes bindings = engine.writeShape value := by
  cases value <;> rfl

-----------------------------------------------------------------------------------------
-- Containers
-----------------------------------------------------------------------------------------

theorem writeWith_list_eq_writeShape {item : Descriptor} {items : List Value}
    (same : ∀ v ∈ items, engine.writeNode v item bindings = engine.writeShape v)
    : (Form.list item bindings).writeWith engine engine.writeNode (.array items)
        = engine.writeShape (.array items) := by
  have h : Walker.items WriteError.under engine.writeNode item bindings items
      = Walker.items WriteError.under engine.shapeWalker item bindings items :=
    Walker.items_congr same
  rw [Form.writeWith, h, writeShape, writeShapes_eq_items]
  rfl

theorem writeWith_map_eq_writeShape {key item : Descriptor} {entries : List (String × Value)}
    (same : ∀ entry ∈ entries,
      engine.writeNode entry.2 item bindings = engine.writeShape entry.2)
    : (Form.map key item bindings).writeWith engine engine.writeNode (.map entries)
        = engine.writeShape (.map entries) := by
  have h : Walker.entries WriteError.under engine.writeNode (fun _ => .ok ()) item bindings entries
      = Walker.entries WriteError.under engine.shapeWalker (fun _ => .ok ()) .any [] entries :=
    Walker.entries_congr same
  rw [Form.writeWith, h, writeShape, writeShapeMembers_eq_entries]

/-- A record that is all parts of its schema, in their order, is written the same by its fields
as it is by its entries. -/
theorem writeWith_record_eq_writeShape {name : String} {schema : Schema}
    {parts : List (Part Value)}
    (all : schema.parts Value.isNull (parts.map Part.member) = parts)
    (same : ∀ part ∈ parts,
      engine.writeNode part.node part.type bindings = engine.writeShape part.node)
    : (Form.record name schema bindings).writeWith engine engine.writeNode
          (.object name (parts.map Part.member))
        = engine.writeShape (.object name (parts.map Part.member)) := by
  have h : Walker.fields WriteError.under engine.writeNode bindings parts
      = Walker.entries WriteError.under engine.shapeWalker (fun _ => .ok ()) .any []
          (parts.map Part.member) := by
    refine Agrees.eq (Agrees.mapM ?_)
    rw [List.forall₂_map_right_iff, List.forall₂_same]
    intro part hp
    exact Walker.agrees_member (fun step _ _ he => congrArg (WriteError.under step) he)
      (.of_eq (fun _ => rfl) (same part hp))
  rw [writeShape, writeShapeMembers_eq_entries, ← h]
  simp only [Form.writeWith, Value.members?, all]

-----------------------------------------------------------------------------------------
-- What was read
-----------------------------------------------------------------------------------------

/-- What was read as a type is written as that type as it is by its own shape, by induction on the
tree. -/
theorem writeNode_of_readNode (tags : engine.AdaptersTag) {json : Json} {value : Value}
    (read : engine.readNode json type bindings = .ok value)
    : engine.writeNode value type bindings = engine.writeShape value := by
  induction json using Json.byChildren generalizing type bindings value with
  | step json ih =>
      cases hn : json.isNull with
      | true =>
          rw [Json.eq_null_of_isNull hn, readNode_null] at read
          obtain rfl := Except.ok.inj read
          exact engine.writeNode_null type bindings
      | false =>
          obtain ⟨form, known, reads⟩ :=
            (engine.readNode_eq_ok_iff hn type bindings value).mp read
          rw [engine.writeNode_of_form (reads.isNull hn) known]
          cases form with
          | natural => rfl
          | bool | string | float =>
              obtain ⟨_, _, rfl⟩ := reads
              rfl
          | integer =>
              obtain ⟨n, _, rfl⟩ := reads
              rcases Number.toValue_integer n with ⟨i, hv, _⟩ | ⟨u, hv, _⟩ <;> rw [hv] <;> rfl
          | list item inner =>
              obtain ⟨items, values, rfl, rfl, hr⟩ := reads
              refine writeWith_list_eq_writeShape fun v hv => ?_
              obtain ⟨node, hm, hread⟩ := exists_of_forall₂_right hr hv
              exact ih node hm hread
          | map key item inner =>
              obtain ⟨members, entries, rfl, rfl, hr⟩ := reads
              refine writeWith_map_eq_writeShape fun entry he => ?_
              obtain ⟨member, hm, _, _, hread⟩ := exists_of_forall₂_right hr he
              exact ih member.2 (List.mem_map_of_mem hm) hread
          | adapter name a =>
              obtain ⟨custom, ha, rfl⟩ := reads
              have registered := lookup_of_form?_adapter known
              rw [writeShape, tags name a registered json custom ha, registered]
              rfl
          | record name schema bound =>
              obtain ⟨members, parts, rfl, rfl, _, hr⟩ := reads
              have part : ∀ part ∈ parts, part.node.isNull = false
                  ∧ engine.writeNode part.node part.type bound = engine.writeShape part.node :=
                fun part hp => (holds_of_related hr
                  (fun member hm _ _ => ih member.2 (List.mem_map_of_mem hm)) hp).2
              exact writeWith_record_eq_writeShape
                (Schema.parts_of_related hr fun p hp => (part p hp).1) fun p hp => (part p hp).2

/-- What was read as a type is written, or refused, alike as that type, as anything and as bytes;
so it is encoded alike too. -/
theorem write_eq_of_read (tags : engine.AdaptersTag) {json : Json} {value : Value}
    (read : engine.read json type = .ok value)
    : engine.write value type = engine.write value .any
        ∧ engine.write value .bytes = engine.write value .any
        ∧ ∀ request, (Encoder.mk engine).encode value type request
              = (Encoder.mk engine).encode value .any request
            ∧ (Encoder.mk engine).encode value .bytes request
              = (Encoder.mk engine).encode value .any request := by
  have typed : engine.write value type = engine.write value .any :=
    (writeNode_of_readNode tags read).trans (engine.writeNode_any value []).symm
  have bytes : engine.write value .bytes = engine.write value .any :=
    (engine.writeNode_bytes value []).trans (engine.writeNode_any value []).symm
  refine ⟨typed, bytes, fun request => ⟨?_, ?_⟩⟩
  · simp only [Encoder.encode, writeBytes, typed]
  · simp only [Encoder.encode, writeBytes, bytes]

/-- Pages of dates are written alike with and without their type. -/
theorem write_eq_of_read_dates
    : library.AdaptersTag
        ∧ library.read datesTree pageOfDates = .ok datesValue
        ∧ library.write datesValue pageOfDates = library.write datesValue .any
        ∧ library.write datesValue .any = .ok datesTree := by
  obtain ⟨typed, _, _⟩ := write_eq_of_read adaptersTag_library read_datesTree
  exact ⟨adaptersTag_library, read_datesTree, typed, rfl⟩

end TypedJson.Engine
