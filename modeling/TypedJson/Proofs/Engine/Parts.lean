import TypedJson.Engine.Registry
import TypedJson.Proofs.Tree.Basic

/-!
The parts of a record: the declared fields, in the order of the schema, for which the members of
an object give a node other than null. Reading and writing go through the same parts, once of a
tree and once of a value.
-/

namespace TypedJson

/-- A declared field with the node that is there for it. -/
structure Part (α : Type) where
  name : String
  type : Descriptor
  node : α

namespace Part

variable {α β : Type}

/-- The part as a member of what it is a part of. -/
def member (part : Part α) : String × α :=
  (part.name, part.node)

/-- The part as the schema declares it. -/
def field (part : Part α) : String × Descriptor :=
  (part.name, part.type)

/-- The part with its node replaced. -/
def map (f : α → β) (part : Part α) : Part β :=
  { part with node := f part.node }

/-- The parts that members give for some declared fields. -/
def pick (isNull : α → Bool) (members : List (String × α)) (fields : List (String × Descriptor))
    : List (Part α) :=
  fields.filterMap fun field =>
    (members.lookup field.1).bind fun node =>
      if isNull node then none else some ⟨field.1, field.2, node⟩

/-- The two parts are of one field and their nodes are related at its type. -/
structure Related (R : Descriptor → α → β → Prop) (a : Part α) (b : Part β) : Prop where
  name : b.name = a.name
  type : b.type = a.type
  node : R a.type a.node b.node

variable {isNull : α → Bool} {members : List (String × α)} {fields : List (String × Descriptor)}

/-- The first field gives a part if a member is there for it and is not null. -/
theorem pick_cons (isNull : α → Bool) (members : List (String × α)) (field : String × Descriptor)
    (rest : List (String × Descriptor))
    : pick isNull members (field :: rest)
        = (((members.lookup field.1).filter fun node => !isNull node).map
            (Part.mk field.1 field.2)).toList
          ++ pick isNull members rest := by
  simp only [pick, List.filterMap_cons]
  cases members.lookup field.1 with
  | none => rfl
  | some node => cases hn : isNull node <;> simp [Option.filter_some, hn]

theorem mem_pick {part : Part α}
    : part ∈ pick isNull members fields ↔
        part.field ∈ fields
          ∧ members.lookup part.name = some part.node
          ∧ isNull part.node = false := by
  simp only [pick, List.mem_filterMap, Option.bind_eq_some_iff, field]
  constructor
  · intro given
    rcases given with ⟨⟨name, type⟩, hf, node, hl, hp⟩
    cases hn : isNull node with
    | true => simp [hn] at hp
    | false =>
        simp only [hn, Bool.false_eq_true, if_false, Option.some.injEq] at hp
        subst hp
        exact ⟨hf, hl, hn⟩
  · intro given
    rcases given with ⟨hf, hl, hn⟩
    exact ⟨_, hf, part.node, hl, by simp [hn]⟩

/-- Parts stand in the order of the schema, by induction on the fields. -/
theorem fields_pick_sublist
    : ((pick isNull members fields).map field).Sublist fields := by
  induction fields with
  | nil => simp [pick]
  | cons head rest ih =>
      simp only [pick, List.filterMap_cons]
      split
      · exact ih.cons head
      · next part hp =>
          obtain ⟨node, _, hp⟩ := Option.bind_eq_some_iff.mp hp
          cases hn : isNull node with
          | true => simp [hn] at hp
          | false =>
              simp only [hn, Bool.false_eq_true, if_false, Option.some.injEq] at hp
              subst hp
              exact ih.cons_cons head

/-- Parts that are listed as the members of something are its parts again, by induction on the
way in which they lie among the fields. -/
theorem pick_members {parts : List (Part α)} (sub : (parts.map field).Sublist fields)
    (distinct : Members.Distinct fields) (present : ∀ part ∈ parts, isNull part.node = false)
    : pick isNull (parts.map member) fields = parts := by
  generalize he : parts.map field = chosen at sub
  induction sub generalizing parts with
  | slnil =>
      obtain rfl := List.map_eq_nil_iff.mp he
      rfl
  | @cons chosen rest head sub ih =>
      have hd : head.1 ∉ rest.map Prod.fst ∧ Members.Distinct rest := List.nodup_cons.mp distinct
      have hl : (parts.map member).lookup head.1 = none := by
        rw [Members.lookup_eq_none_iff]
        intro hm
        have hn : (parts.map member).map Prod.fst = chosen.map Prod.fst := by
          rw [← he]
          simp [member, field]
        rw [hn] at hm
        exact hd.1 ((sub.map Prod.fst).subset hm)
      simp only [pick, List.filterMap_cons, hl, Option.bind_none]
      exact ih hd.2 present he
  | @cons_cons chosen rest head sub ih =>
      obtain ⟨part, others, rfl, hp, hc⟩ := List.map_eq_cons_iff.mp he
      subst hp hc
      have hd : part.name ∉ rest.map Prod.fst ∧ Members.Distinct rest :=
        List.nodup_cons.mp distinct
      have hn := present part (by simp)
      have hr : pick isNull ((part :: others).map member) rest
          = pick isNull (others.map member) rest := by
        apply List.filterMap_congr
        intro field hf
        have hne : field.1 ≠ part.name := by
          intro h
          exact hd.1 (h ▸ List.mem_map_of_mem hf)
        simp [member, Members.lookup_cons_ite, hne]
      have hh : pick isNull ((part :: others).map member) (part.field :: rest)
          = part :: pick isNull ((part :: others).map member) rest := by
        simp [pick, member, field, hn]
      rw [hh, hr, ih hd.2 (fun p hp => present p (by simp [hp])) rfl]

/-- Two lists of members that give related nodes for the same fields give related parts, by
induction on the fields. -/
theorem related_pick {isNull' : β → Bool} {R : Descriptor → α → β → Prop}
    {others : List (String × β)}
    (alike : ∀ field ∈ fields, Option.Rel (R field.2)
      ((members.lookup field.1).filter fun node => !isNull node)
      ((others.lookup field.1).filter fun node => !isNull' node))
    : List.Forall₂ (Related R) (pick isNull members fields) (pick isNull' others fields) := by
  induction fields with
  | nil => exact .nil
  | cons field rest ih =>
      have hr := ih fun other hm => alike other (by simp [hm])
      have hf := alike field (by simp)
      rw [pick_cons, pick_cons]
      generalize (members.lookup field.1).filter _ = x?, (others.lookup field.1).filter _ = y?
        at hf
      cases hf with
      | none => exact hr
      | some h => exact .cons ⟨rfl, rfl, h⟩ hr

/-- Related parts are declared alike. -/
theorem fields_eq_of_related {R : Descriptor → α → β → Prop} {others : List (Part β)}
    {parts : List (Part α)} (h : List.Forall₂ (Related R) parts others)
    : others.map field = parts.map field := by
  induction h with
  | nil => rfl
  | cons hab _ ih => simp [field, hab.name, hab.type, ih]

end Part

namespace Schema

variable {α β : Type}

/-- The parts of a record of this type with the given members. -/
def parts (isNull : α → Bool) (members : List (String × α)) (schema : Schema) : List (Part α) :=
  Part.pick isNull members schema.fields

variable {isNull : α → Bool} {isNull' : β → Bool} {members : List (String × α)} {schema : Schema}

/-- A record that is put together from what the parts of another one became has just these
parts, unless one of them became null. -/
theorem parts_of_related {R : Descriptor → α → β → Prop} {parts : List (Part β)}
    (related : List.Forall₂ (Part.Related R) (schema.parts isNull members) parts)
    (present : ∀ part ∈ parts, isNull' part.node = false)
    : schema.parts isNull' (parts.map Part.member) = parts := by
  refine Part.pick_members ?_ schema.distinct present
  rw [Part.fields_eq_of_related related]
  exact Part.fields_pick_sublist

/-- The members that are put together from parts stand in the order of the schema. -/
theorem members_sublist_of_related {R : Descriptor → α → β → Prop} {parts : List (Part β)}
    (related : List.Forall₂ (Part.Related R) (schema.parts isNull members) parts)
    : ((parts.map Part.member).map Prod.fst).Sublist (schema.fields.map Prod.fst) := by
  have hs : (parts.map Part.field).Sublist schema.fields := by
    rw [Part.fields_eq_of_related related]
    exact Part.fields_pick_sublist
  have hn : (parts.map Part.member).map Prod.fst = (parts.map Part.field).map Prod.fst := by
    simp [Part.member, Part.field]
  exact hn ▸ hs.map Prod.fst

/-- The members that are put together from parts are all declared. -/
theorem name_mem_of_related {R : Descriptor → α → β → Prop} {parts : List (Part β)}
    (related : List.Forall₂ (Part.Related R) (schema.parts isNull members) parts)
    {name : String} (h : name ∈ (parts.map Part.member).map Prod.fst)
    : name ∈ schema.fields.map Prod.fst :=
  (members_sublist_of_related related).subset h

theorem distinct_of_related {R : Descriptor → α → β → Prop} {parts : List (Part β)}
    (related : List.Forall₂ (Part.Related R) (schema.parts isNull members) parts)
    : Members.Distinct (parts.map Part.member) :=
  (members_sublist_of_related related).nodup schema.distinct

/-- What a part became is a part of the new record, unless it became null. -/
theorem mem_parts_of_related {R : Descriptor → α → β → Prop} {parts : List (Part β)}
    (related : List.Forall₂ (Part.Related R) (schema.parts isNull members) parts)
    {part : Part β} (h : part ∈ parts) (present : isNull' part.node = false)
    : part ∈ schema.parts isNull' (parts.map Part.member) := by
  obtain ⟨old, ho, hr⟩ := exists_of_forall₂_right related h
  refine Part.mem_pick.mpr ⟨?_, ?_, present⟩
  · have hf : part.field = old.field := by simp [Part.field, hr.name, hr.type]
    exact hf ▸ (Part.mem_pick.mp ho).1
  · exact Members.lookup_of_mem (distinct_of_related related) (List.mem_map_of_mem h)

/-- Whatever its parts became, the parts of the new record are among these. -/
theorem mem_of_mem_parts {R : Descriptor → α → β → Prop} {parts : List (Part β)}
    (related : List.Forall₂ (Part.Related R) (schema.parts isNull members) parts)
    {part : Part β} (h : part ∈ schema.parts isNull' (parts.map Part.member))
    : part ∈ parts := by
  obtain ⟨hf, hl, _⟩ := Part.mem_pick.mp h
  obtain ⟨found, hm, he⟩ := List.mem_map.mp (Members.mem_of_lookup hl)
  obtain ⟨hname, hnode⟩ := Prod.mk.inj he
  obtain ⟨old, ho, hr⟩ := exists_of_forall₂_right related hm
  have hfound : (part.name, found.type) ∈ schema.fields := by
    rw [← hname, hr.name, hr.type]
    exact (Part.mem_pick.mp ho).1
  -- One name has one type in a schema.
  have htype : part.type = found.type := Members.eq_of_mem schema.distinct hf hfound
  obtain ⟨name, type, node⟩ := part
  obtain rfl : found.name = name := hname
  obtain rfl : found.node = node := hnode
  obtain rfl : type = found.type := htype
  exact hm

end Schema

end TypedJson
