import TypedJson.Proofs.Engine.Form
import TypedJson.Proofs.Number.Binary64

/-!
Values by their own shape. A tree that is read without a type and written without one is the tree
again, and what is null stays null in either direction.
-/

namespace TypedJson

-----------------------------------------------------------------------------------------
-- Numbers
-----------------------------------------------------------------------------------------

theorem Json.ofBinary64?_eq_some_iff {x : Binary64} {json : Json}
    : Json.ofBinary64? x = some json ↔ ∃ h : x.isFinite = true, json = .number (.real x h) := by
  unfold Json.ofBinary64?
  split
  · next h => simp [h, eq_comm]
  · next h => simp [h]

theorem Number.isFinite_toBinary64 (n : Number) : n.toBinary64.isFinite = true := by
  cases n with
  | integer n => exact Binary64.isFinite_ofInt n
  | real x finite => exact finite

/-- The integer of a tree in the word that holds it: that word gives the integer back. -/
theorem Number.toValue_integer (n : WideInt)
    : (∃ i : Int64, (Number.integer n).toValue = .integer i ∧ Json.ofInt64 i = .number (.integer n))
      ∨ ∃ u : UInt64, (Number.integer n).toValue = .unsigned u
          ∧ Json.ofUInt64 u = .number (.integer n) := by
  obtain ⟨val, lower, upper⟩ := n
  by_cases hs : val < 0x8000000000000000
  · refine .inl ⟨Int64.ofInt val, by simp [Number.toValue, WideInt.isSigned, hs], ?_⟩
    have hv : (Int64.ofInt val).toInt = val := Int64.toInt_ofInt_of_le lower hs
    simp [Json.ofInt64, WideInt.ofInt64, hv]
  · refine .inr ⟨UInt64.ofNat val.toNat, by simp [Number.toValue, WideInt.isSigned, hs], ?_⟩
    have hv : (UInt64.ofNat val.toNat).toNat = val.toNat :=
      UInt64.toNat_ofNat_of_lt' (by simp only [UInt64.size]; omega)
    have hn : ((val.toNat : Nat) : Int) = val := Int.toNat_of_nonneg (by omega)
    simp only [Json.ofUInt64, WideInt.ofUInt64, hv, hn]

theorem Json.isNull_toValue (json : Json) : json.toValue.isNull = json.isNull := by
  cases json with
  | number n =>
      cases n with
      | integer n => rcases Number.toValue_integer n with ⟨_, h, _⟩ | ⟨_, h, _⟩ <;>
          simp [toValue, h, Value.isNull, isNull]
      | real x finite => rfl
  | _ => rfl

theorem Json.eq_null_of_isNull {json : Json} (h : json.isNull = true) : json = .null := by
  cases json <;> simp_all [isNull]

theorem Value.eq_null_of_isNull {value : Value} (h : value.isNull = true) : value = .null := by
  cases value <;> simp_all [isNull]

theorem Json.toValues_eq_map (items : List Json) : toValues items = items.map toValue := by
  induction items with
  | nil => rfl
  | cons item rest ih => simp [toValues, ih]

theorem Json.toEntries_eq_map (members : List (String × Json))
    : toEntries members = members.map fun member => (member.1, member.2.toValue) := by
  induction members with
  | nil => rfl
  | cons member rest ih => simp [toEntries, ih]

namespace Engine

variable (engine : Engine)

theorem writeShapes_eq_ok_iff (items : List Value) (index : Nat) (nodes : List Json)
    : engine.writeShapes items index = .ok nodes ↔
        List.Forall₂ (fun item node => engine.writeShape item = .ok node) items nodes :=
  walk_eq_ok_iff engine.writeShapes (fun _ => rfl) (fun _ _ _ => rfl)
    (fun _ _ _ => mapError_eq_ok_iff) items index nodes

theorem writeShapeMembers_eq_ok_iff (entries : List (String × Value))
    (members : List (String × Json))
    : engine.writeShapeMembers entries = .ok members ↔
        List.Forall₂ (fun entry member => member.1 = entry.1
          ∧ engine.writeShape entry.2 = .ok member.2) entries members :=
  entries_eq_ok_iff engine.writeShapeMembers rfl (fun _ _ _ => rfl)
    (fun _ _ _ => mapError_eq_ok_iff) entries members

theorem writeShape_array_eq_ok_iff (items : List Value) (json : Json)
    : engine.writeShape (.array items) = .ok json ↔
        ∃ nodes, json = .array nodes
          ∧ List.Forall₂ (fun item node => engine.writeShape item = .ok node) items nodes := by
  simp only [writeShape, map_eq_ok_iff, writeShapes_eq_ok_iff]
  exact exists_congr fun nodes => and_comm.trans (and_congr_left fun _ => eq_comm)

theorem writeShape_map_eq_ok_iff (entries : List (String × Value)) (json : Json)
    : engine.writeShape (.map entries) = .ok json ↔
        ∃ members, json = .object members
          ∧ List.Forall₂ (fun entry member => member.1 = entry.1
              ∧ engine.writeShape entry.2 = .ok member.2) entries members := by
  simp only [writeShape, map_eq_ok_iff, writeShapeMembers_eq_ok_iff]
  exact exists_congr fun members => and_comm.trans (and_congr_left fun _ => eq_comm)

theorem writeShape_object_eq_ok_iff (typeName : String) (fields : List (String × Value))
    (json : Json)
    : engine.writeShape (.object typeName fields) = .ok json ↔
        ∃ members, json = .object members
          ∧ List.Forall₂ (fun field member => member.1 = field.1
              ∧ engine.writeShape field.2 = .ok member.2) fields members :=
  engine.writeShape_map_eq_ok_iff fields json

/-- What is read without a type is written as it was, by induction on the tree. -/
theorem writeShape_toValue (json : Json) : engine.writeShape json.toValue = .ok json := by
  induction json using Json.byChildren with
  | step json ih =>
      cases json with
      | null | bool b | string s => rfl
      | number n =>
          cases n with
          | integer n =>
              rcases Number.toValue_integer n with ⟨_, hv, hj⟩ | ⟨_, hv, hj⟩ <;>
                simp [Json.toValue, hv, writeShape, hj]
          | real x finite =>
              exact (writeFloat_eq_ok_iff x _).mpr (Json.ofBinary64?_eq_some_iff.mpr ⟨finite, rfl⟩)
      | array items =>
          rw [Json.toValue, writeShape_array_eq_ok_iff, Json.toValues_eq_map]
          refine ⟨items, rfl, ?_⟩
          rw [List.forall₂_map_left_iff, List.forall₂_same]
          exact ih
      | object members =>
          rw [Json.toValue, writeShape_map_eq_ok_iff, Json.toEntries_eq_map]
          refine ⟨members, rfl, ?_⟩
          rw [List.forall₂_map_left_iff, List.forall₂_same]
          exact fun member hm => ⟨rfl, ih member.2 (List.mem_map_of_mem hm)⟩

end Engine

namespace Form

/-- What is read of a node other than null is not null. -/
theorem Reads.isNull {engine : Engine} {form : Form} {json : Json} {value : Value}
    (h : form.Reads engine json value) (present : json.isNull = false)
    : value.isNull = false := by
  cases form with
  | natural =>
      obtain rfl : json.toValue = value := h
      rw [Json.isNull_toValue, present]
  | bool | string | float =>
      obtain ⟨_, _, rfl⟩ := h
      rfl
  | integer =>
      obtain ⟨n, rfl, rfl⟩ := h
      exact Json.isNull_toValue (.number (.integer n))
  | list | map =>
      obtain ⟨_, _, _, rfl, _⟩ := h
      rfl
  | record =>
      obtain ⟨_, _, _, rfl, _⟩ := h
      rfl
  | adapter =>
      obtain ⟨_, _, rfl⟩ := h
      rfl

end Form

namespace Engine

variable {engine : Engine} {type : Descriptor} {bindings : Bindings}

theorem isNull_of_readNode {json : Json} {value : Value}
    (h : engine.readNode json type bindings = .ok value)
    : value.isNull = json.isNull := by
  cases hn : json.isNull with
  | true =>
      rw [Json.eq_null_of_isNull hn, readNode_null] at h
      rw [← Except.ok.inj h]
      rfl
  | false =>
      obtain ⟨form, _, hr⟩ := (engine.readNode_eq_ok_iff hn type bindings value).mp h
      exact hr.isNull hn

/-- The properties of an object are all declared when they stand among the schema's names. -/
theorem undeclared?_eq_none_iff {α : Type} {schema : Schema} {members : List (String × α)}
    : undeclared? schema members = none ↔
        ∀ name ∈ members.map Prod.fst, name ∈ schema.fields.map Prod.fst := by
  simp only [undeclared?, List.find?_eq_none]
  apply forall₂_congr
  intro name _
  rw [← Members.lookup_isSome_iff]
  cases schema.fields.lookup name <;> simp

end Engine

end TypedJson
