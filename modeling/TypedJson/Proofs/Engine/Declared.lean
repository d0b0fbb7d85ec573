import TypedJson.Codec
import TypedJson.Proofs.Engine.Blame
import TypedJson.Proofs.Tree.Same

/-!
What a schema sees of a record. Two values may differ, wherever a schema says how a value is
written, in everything but the declared fields that are there and not null: the writer goes
through the fields of the schema, not through those of the value. So what is written of the two is
the same, or they are refused for the same reason at the same place.
-/

namespace TypedJson

/-- Two options are related when they hold something together and what they hold is related. -/
theorem option_rel_of_isSome {α : Type} {R : α → α → Prop} {x? y? : Option α}
    (present : x?.isSome = y?.isSome) (related : ∀ x y, x? = some x → y? = some y → R x y)
    : Option.Rel R x? y? := by
  cases x? with
  | none =>
      cases y? with
      | none => exact .none
      | some y => cases present
  | some x =>
      cases y? with
      | none => cases present
      | some y => exact .some (related x y rfl rfl)

namespace Engine

-----------------------------------------------------------------------------------------
-- Values with the same declared fields
-----------------------------------------------------------------------------------------

/-- The two values are the same as far as they are written as the type: identical, or lists or
maps of such values, or two records, be they objects or maps, in which the same declared fields
are there and not null and are such values in turn. A record whose schema lacks an argument is not
looked into. -/
inductive DeclaredAlike (engine : Engine) : Descriptor → Bindings → Value → Value → Prop where
  | same (type : Descriptor) (bindings : Bindings) (value : Value)
    : DeclaredAlike engine type bindings value value
  | list {type item : Descriptor} {bindings inner : Bindings} {as bs : List Value}
    (asked : engine.asked type bindings = .ok (.list item inner))
    (length : as.length = bs.length)
    (items : ∀ pair ∈ as.zip bs, DeclaredAlike engine item inner pair.1 pair.2)
    : DeclaredAlike engine type bindings (.array as) (.array bs)
  | map {type key item : Descriptor} {bindings inner : Bindings} {as bs : List (String × Value)}
    (asked : engine.asked type bindings = .ok (.map key item inner))
    (length : as.length = bs.length) (names : ∀ pair ∈ as.zip bs, pair.2.1 = pair.1.1)
    (entries : ∀ pair ∈ as.zip bs, DeclaredAlike engine item inner pair.1.2 pair.2.2)
    : DeclaredAlike engine type bindings (.map as) (.map bs)
  | record {type : Descriptor} {bindings inner : Bindings} {name : String} {schema : Schema}
    {a b : Value} {as bs : List (String × Value)}
    (asked : engine.asked type bindings = .ok (.record name schema inner))
    (left : a.members? = some as) (right : b.members? = some bs)
    (present : ∀ field ∈ schema.fields,
      (Value.present? as field.1).isSome = (Value.present? bs field.1).isSome)
    (fields : ∀ field ∈ schema.fields, ∀ x y, Value.present? as field.1 = some x →
      Value.present? bs field.1 = some y → DeclaredAlike engine field.2 inner x y)
    : DeclaredAlike engine type bindings a b
  | lacking {type : Descriptor} {bindings : Bindings} {name parameter : String} {a b : Value}
    {as bs : List (String × Value)}
    (asked : engine.asked type bindings = .error (.missingArgument name parameter))
    (left : a.members? = some as) (right : b.members? = some bs)
    : DeclaredAlike engine type bindings a b

variable {engine : Engine} {type : Descriptor} {bindings : Bindings}

/-- Values with the same declared fields are written alike, by induction on how they are the same:
of a record only the parts that the schema picks are written, and they are picked alike. -/
theorem writeNode_eq_of_declaredAlike {a b : Value} (h : engine.DeclaredAlike type bindings a b)
    : engine.writeNode a type bindings = engine.writeNode b type bindings := by
  induction h with
  | same => rfl
  | @list type item bindings inner as bs asked length items ih =>
      have hitems : List.Forall₂
          (fun a b => engine.writeNode a item inner = engine.writeNode b item inner) as bs :=
        List.forall₂_iff_zip.mpr ⟨length, fun hm => ih _ hm⟩
      have hw : Walker.items WriteError.under engine.writeNode item inner as = _ :=
        Walker.items_eq_of_forall₂ hitems
      rw [writeNode_eq rfl, writeNode_eq rfl, asked]
      simp only [Form.writeWith, hw]
  | @map type key item bindings inner as bs asked length names entries ih =>
      have hentries : List.Forall₂ (fun a b => b.1 = a.1
          ∧ engine.writeNode a.2 item inner = engine.writeNode b.2 item inner) as bs :=
        List.forall₂_iff_zip.mpr ⟨length, fun hm => ⟨names _ hm, ih _ hm⟩⟩
      have hw : Walker.entries WriteError.under engine.writeNode (fun _ => .ok ()) item inner as
          = _ := Walker.entries_eq_of_forall₂ hentries
      rw [writeNode_eq rfl, writeNode_eq rfl, asked]
      simp only [Form.writeWith, hw]
  | @record type bindings inner name schema a b as bs asked left right present fields ih =>
      have hparts : List.Forall₂ (Part.Related fun type x y =>
            engine.writeNode x type inner = engine.writeNode y type inner)
          (schema.parts Value.isNull as) (schema.parts Value.isNull bs) :=
        Part.related_pick fun field hm => option_rel_of_isSome (present field hm) (ih field hm)
      have hw : Walker.fields WriteError.under engine.writeNode inner
          (schema.parts Value.isNull as) = _ := Walker.fields_eq_of_related hparts
      have leftPresent := Value.isNull_of_members? left
      have rightPresent := Value.isNull_of_members? right
      rw [writeNode_eq leftPresent, writeNode_eq rightPresent, asked]
      simp only [Form.writeWith, left, right, hw]
  | lacking asked left right =>
      have leftPresent := Value.isNull_of_members? left
      have rightPresent := Value.isNull_of_members? right
      rw [writeNode_eq leftPresent, writeNode_eq rightPresent, asked]

-----------------------------------------------------------------------------------------
-- What is written of a record
-----------------------------------------------------------------------------------------

/-- What is inside a value that is written by its own shape is written at the same step. -/
theorem exists_child_of_writeShape {value child : Value} {step : Json.Step} {json : Json}
    (first : value.Child step child) (write : engine.writeShape value = .ok json)
    : ∃ target, json.Child step target ∧ engine.writeShape child = .ok target := by
  cases first with
  | item found =>
      obtain ⟨nodes, rfl, items⟩ := (engine.writeShape_array_eq_ok_iff _ _).mp write
      obtain ⟨target, ht, written⟩ := exists_getElem?_of_forall₂ items found
      exact ⟨target, .item ht, written⟩
  | entry mem =>
      obtain ⟨members, rfl, entries⟩ := (engine.writeShape_map_eq_ok_iff _ _).mp write
      obtain ⟨⟨name, target⟩, ht, rfl, written⟩ := exists_of_forall₂_left entries mem
      exact ⟨target, .member ht, written⟩
  | field mem =>
      obtain ⟨members, rfl, fields⟩ := (engine.writeShape_object_eq_ok_iff _ _ _).mp write
      obtain ⟨⟨name, target⟩, ht, rfl, written⟩ := exists_of_forall₂_left fields mem
      exact ⟨target, .member ht, written⟩

/-- A part of a value is written at the same step, as its own type. -/
theorem exists_child_of_writes {form : Form} {value child : Value} {step : Json.Step}
    {json : Json} (first : form.WritesPart value step child type bindings)
    (writes : form.Writes engine value json)
    : ∃ target, json.Child step target ∧ engine.writeNode child type bindings = .ok target := by
  cases first with
  | item found =>
      obtain ⟨_, nodes, hv, rfl, items⟩ := writes
      cases hv
      obtain ⟨target, ht, written⟩ := exists_getElem?_of_forall₂ items found
      exact ⟨target, .item ht, written⟩
  | entry mem =>
      obtain ⟨_, members, hv, rfl, entries⟩ := writes
      cases hv
      obtain ⟨⟨name, target⟩, ht, rfl, written⟩ := exists_of_forall₂_left entries mem
      exact ⟨target, .member ht, written⟩
  | field given mem =>
      obtain ⟨_, hv, parts, rfl, fields⟩ := writes
      cases given.symm.trans hv
      obtain ⟨part, hm, related⟩ := exists_of_forall₂_left fields mem
      have hin : part.member ∈ parts.map Part.member := List.mem_map_of_mem hm
      rw [Part.member, related.name] at hin
      exact ⟨part.node, .member hin, related.node⟩

/-- A value that is asked for inside another one is written at the same path, by induction on the
path. -/
theorem exists_reaches_of_asksValue {value node : Value} {path : Path} {type' : Descriptor}
    {bindings' : Bindings} {json : Json}
    (place : engine.AsksValue value type bindings path node type' bindings')
    (write : engine.writeNode value type bindings = .ok json)
    : ∃ target, json.Reaches path target ∧ engine.writeNode node type' bindings' = .ok target := by
  induction place generalizing json with
  | here => exact ⟨json, .here json, write⟩
  | inside asked first _ ih =>
      have present := first.child.isNull
      obtain ⟨form, known, writes⟩ := (engine.writeNode_eq_ok_iff present _ _ _).mp write
      cases (form?_of_asked asked).symm.trans known
      obtain ⟨child, hc, written⟩ := exists_child_of_writes first writes
      obtain ⟨target, reaches, result⟩ := ih written
      exact ⟨target, .inside hc reaches, result⟩
  | shape asked first _ ih =>
      have present := first.isNull
      obtain ⟨form, known, writes⟩ := (engine.writeNode_eq_ok_iff present _ _ _).mp write
      cases (form?_of_asked asked).symm.trans known
      obtain ⟨child, hc, written⟩ := exists_child_of_writeShape first writes
      obtain ⟨target, reaches, result⟩ := ih ((engine.writeNode_any _ []).trans written)
      exact ⟨target, .inside hc reaches, result⟩

/-- What is written of a record has declared fields only, in the order of the schema. -/
theorem exists_members_of_record {value : Value} {name : String} {schema : Schema}
    {inner : Bindings} {json : Json} (present : value.isNull = false)
    (asked : engine.asked type bindings = .ok (.record name schema inner))
    (write : engine.writeNode value type bindings = .ok json)
    : ∃ members, json = .object members
        ∧ (members.map Prod.fst).Sublist (schema.fields.map Prod.fst) := by
  obtain ⟨form, known, writes⟩ := (engine.writeNode_eq_ok_iff present _ _ _).mp write
  cases (form?_of_asked asked).symm.trans known
  obtain ⟨_, _, parts, rfl, fields⟩ := writes
  exact ⟨_, rfl, Schema.members_sublist_of_related fields⟩

-----------------------------------------------------------------------------------------
-- Main results
-----------------------------------------------------------------------------------------

/-- What is written through schemas depends on the declared fields that are there and not null, and
on nothing else of a record: two values that have these alike are written as the same tree and as
the same bytes, or refused with the same error. Wherever a record is written, at any depth, its
members stand in the order of the schema's fields. -/
theorem write_of_declaredAlike (engine : Engine) (type : Descriptor)
    : (∀ a b, engine.DeclaredAlike type [] a b →
        engine.write a type = engine.write b type
          ∧ engine.writeBytes a type = engine.writeBytes b type)
      ∧ ∀ value json, engine.write value type = .ok json →
        ∀ path node type' bindings name schema inner,
          engine.AsksValue value type [] path node type' bindings → node.isNull = false →
          engine.asked type' bindings = .ok (.record name schema inner) →
          ∃ members, json.Reaches path (.object members)
            ∧ (members.map Prod.fst).Sublist (schema.fields.map Prod.fst) := by
  constructor
  · intro a b alike
    have same : engine.write a type = engine.write b type := writeNode_eq_of_declaredAlike alike
    exact ⟨same, by rw [writeBytes, writeBytes, same]⟩
  · intro value json write path node type' bindings name schema inner place present asked
    obtain ⟨target, reaches, written⟩ := exists_reaches_of_asksValue place write
    obtain ⟨members, rfl, order⟩ := exists_members_of_record present asked written
    exact ⟨members, reaches, order⟩

/-- Two things of one type. -/
def pairSchema : Schema where
  name := "Pair"
  parameters := ["T"]
  fields := [("first", .var "T"), ("second", .var "T")]

/-- An engine for pairs. -/
def pairs : Engine where
  registry := [("Pair", .object pairSchema)]

/-- A pair as a record of another type, with its fields in another order. -/
def turnedPair : Value :=
  .object "Couple" [("second", .bool false), ("first", .bool true)]

/-- The same pair as a map, with a note and a null field. -/
def notedPair : Value :=
  .map [("first", .bool true), ("note", .string "!"), ("third", .null), ("second", .bool false)]

theorem declaredAlike_pair
    : pairs.DeclaredAlike (.generic "Pair" [("T", .bool)]) [] turnedPair notedPair := by
  refine .record rfl rfl rfl (by decide) ?_
  intro field declared x y left right
  simp only [pairSchema, List.mem_cons, List.not_mem_nil, or_false] at declared
  rcases declared with rfl | rfl
  · cases left
    cases right
    exact .same _ _ _
  · cases left
    cases right
    exact .same _ _ _

/-- The pairs are written as one, in a list too. -/
theorem write_of_declaredAlike_pairs
    : pairs.DeclaredAlike (.list (.generic "Pair" [("T", .bool)])) []
          (.array [turnedPair]) (.array [notedPair])
        ∧ pairs.write (.array [turnedPair]) (.list (.generic "Pair" [("T", .bool)]))
            = pairs.write (.array [notedPair]) (.list (.generic "Pair" [("T", .bool)]))
        ∧ ∃ members,
            (Json.array [.object [("first", .bool true), ("second", .bool false)]]).Reaches
                [.index 0] (.object members)
              ∧ (members.map Prod.fst).Sublist ["first", "second"] := by
  have all := write_of_declaredAlike pairs (.list (.generic "Pair" [("T", .bool)]))
  have alike : pairs.DeclaredAlike (.list (.generic "Pair" [("T", .bool)])) []
      (.array [turnedPair]) (.array [notedPair]) := by
    refine .list rfl rfl fun pair mem => ?_
    obtain rfl := List.mem_singleton.mp mem
    exact declaredAlike_pair
  have write : pairs.write (.array [notedPair]) (.list (.generic "Pair" [("T", .bool)]))
      = .ok (.array [.object [("first", .bool true), ("second", .bool false)]]) := rfl
  have place : pairs.AsksValue (.array [notedPair]) (.list (.generic "Pair" [("T", .bool)])) []
      [.index 0] notedPair (.generic "Pair" [("T", .bool)]) [] :=
    .inside rfl (.item rfl) (.here _ _ _)
  exact ⟨alike, (all.1 _ _ alike).1, all.2 _ _ write _ _ _ _ "Pair" pairSchema _ place rfl rfl⟩

end Engine

end TypedJson
