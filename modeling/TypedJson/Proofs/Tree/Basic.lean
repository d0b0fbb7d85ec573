import Mathlib.Data.List.Forall2
import TypedJson.Engine.Error

/-!
Trees and values by what they hold: look-up by a name among members with distinct names,
induction in which items and members come before what holds them, the places inside a tree, and
the trees and values all of whose members have distinct names.
-/

namespace TypedJson

-----------------------------------------------------------------------------------------
-- Members with distinct names
-----------------------------------------------------------------------------------------

namespace Members

variable {α β : Type} {members : List (String × α)} {name : String}

theorem mem_of_lookup {value : α} (h : members.lookup name = some value)
    : (name, value) ∈ members := by
  obtain ⟨before, after, rfl, _⟩ := List.lookup_eq_some_iff.mp h
  simp

/-- Among distinct names a member is what its name looks up, by list induction. -/
theorem lookup_of_mem (distinct : Distinct members) {value : α} (h : (name, value) ∈ members)
    : members.lookup name = some value := by
  induction members with
  | nil => simp at h
  | cons head rest ih =>
      obtain ⟨first, old⟩ := head
      have hd : first ∉ rest.map Prod.fst ∧ Distinct rest := List.nodup_cons.mp distinct
      rcases List.mem_cons.mp h with he | hm
      · obtain ⟨rfl, rfl⟩ := Prod.mk.inj he
        simp
      · have hne : name ≠ first := by
          intro he
          subst he
          exact hd.1 (List.mem_map_of_mem hm)
        rw [lookup_cons_ite, if_neg hne]
        exact ih hd.2 hm

theorem lookup_eq_some_iff (distinct : Distinct members) {value : α}
    : members.lookup name = some value ↔ (name, value) ∈ members :=
  ⟨mem_of_lookup, lookup_of_mem distinct⟩

theorem lookup_isSome_iff : (members.lookup name).isSome ↔ name ∈ members.map Prod.fst := by
  simp only [List.lookup_isSome_iff, List.mem_map, beq_iff_eq]
  exact exists_congr fun _ => and_congr_right fun _ => eq_comm

theorem lookup_eq_none_iff : members.lookup name = none ↔ name ∉ members.map Prod.fst := by
  rw [← lookup_isSome_iff]
  exact Option.not_isSome_iff_eq_none.symm

/-- Two members of one name among distinct names are one member. -/
theorem eq_of_mem (distinct : Distinct members) {a b : α} (ha : (name, a) ∈ members)
    (hb : (name, b) ∈ members)
    : a = b :=
  Option.some.inj ((lookup_of_mem distinct ha).symm.trans (lookup_of_mem distinct hb))

theorem Distinct.sublist {part : List (String × α)} (distinct : Distinct members)
    (h : part.Sublist members)
    : Distinct part :=
  (h.map Prod.fst).nodup distinct

theorem put_of_not_mem (h : name ∉ members.map Prod.fst) (value : α)
    : put name value members = members ++ [(name, value)] := by
  induction members with
  | nil => rfl
  | cons head rest ih =>
      obtain ⟨first, old⟩ := head
      simp only [List.map_cons, List.mem_cons, not_or] at h
      rw [put, if_neg (Ne.symm h.1), ih h.2, List.cons_append]

theorem not_mem_of_distinct_append {value : α} (distinct : Distinct (members ++ [(name, value)]))
    : name ∉ members.map Prod.fst := by
  rw [Distinct, List.map_append, List.nodup_append] at distinct
  exact fun hm => distinct.2.2 name hm name (by simp) rfl

/-- Pairs of different names are members as they are, by induction on the pairs. -/
theorem foldl_put {pairs : List (String × α)} (distinct : Distinct (members ++ pairs))
    : pairs.foldl (fun members pair => put pair.1 pair.2 members) members = members ++ pairs := by
  induction pairs generalizing members with
  | nil => exact (List.append_nil members).symm
  | cons pair rest ih =>
      have happend : members ++ pair :: rest = (members ++ [pair]) ++ rest := by simp
      rw [happend] at distinct ⊢
      have fresh : pair.1 ∉ members.map Prod.fst :=
        not_mem_of_distinct_append (distinct.sublist (List.sublist_append_left _ _))
      rw [List.foldl_cons, put_of_not_mem fresh, ih distinct]

theorem ofList_of_distinct (distinct : Distinct members) : ofList members = members :=
  have distinct : Distinct ([] ++ members) := distinct
  foldl_put distinct

/-- The names of two lists of members agree, one by one. -/
theorem names_eq_of_forall₂ {R : String × α → String × β → Prop} {others : List (String × β)}
    (names : ∀ a b, R a b → b.1 = a.1) (h : List.Forall₂ R members others)
    : others.map Prod.fst = members.map Prod.fst := by
  induction h with
  | nil => rfl
  | cons hab _ ih => simp [names _ _ hab, ih]

theorem Distinct.of_forall₂ {R : String × α → String × β → Prop} {others : List (String × β)}
    (distinct : Distinct members) (names : ∀ a b, R a b → b.1 = a.1)
    (h : List.Forall₂ R members others)
    : Distinct others := by
  rw [Distinct, names_eq_of_forall₂ names h]
  exact distinct

end Members

/-- In a list related to another one by one, every element has its counterpart. -/
theorem exists_of_forall₂_right {α β : Type} {R : α → β → Prop} {as : List α} {bs : List β}
    (h : List.Forall₂ R as bs) {b : β} (hb : b ∈ bs)
    : ∃ a ∈ as, R a b := by
  induction h with
  | nil => simp at hb
  | @cons a b' as bs hab _ ih =>
      rcases List.mem_cons.mp hb with rfl | hb
      · exact ⟨a, by simp, hab⟩
      · obtain ⟨a', ha', hr⟩ := ih hb
        exact ⟨a', List.mem_cons_of_mem a ha', hr⟩

theorem exists_of_forall₂_left {α β : Type} {R : α → β → Prop} {as : List α} {bs : List β}
    (h : List.Forall₂ R as bs) {a : α} (ha : a ∈ as)
    : ∃ b ∈ bs, R a b :=
  exists_of_forall₂_right (List.Forall₂.flip h) ha

theorem exists_getElem?_of_forall₂ {α β : Type} {R : α → β → Prop} {as : List α} {bs : List β}
    (h : List.Forall₂ R as bs) {index : Nat} {a : α} (found : as[index]? = some a)
    : ∃ b, bs[index]? = some b ∧ R a b := by
  induction h generalizing index with
  | nil => cases found
  | cons hab _ ih =>
      cases index with
      | zero =>
          obtain rfl := Option.some.inj found
          exact ⟨_, rfl, hab⟩
      | succ index => exact ih found

/-- Lists that are related one by one are so with the positions of their elements. -/
theorem forall₂_zipIdx {α β : Type} {R : α → β → Prop} {as : List α} {bs : List β}
    (h : List.Forall₂ R as bs) (index : Nat)
    : List.Forall₂ (fun a b => b.2 = a.2 ∧ R a.1 b.1) (as.zipIdx index) (bs.zipIdx index) := by
  induction h generalizing index with
  | nil => exact .nil
  | cons hab _ ih => exact .cons ⟨rfl, hab⟩ (ih (index + 1))

/-- A relation one by one may use what is known of the elements. -/
theorem forall₂_imp_of_mem {α β : Type} {R S : α → β → Prop} {as : List α} {bs : List β}
    (h : List.Forall₂ R as bs) (imp : ∀ a ∈ as, ∀ b ∈ bs, R a b → S a b)
    : List.Forall₂ S as bs := by
  induction h with
  | nil => exact .nil
  | cons hab _ ih =>
      refine .cons (imp _ (by simp) _ (by simp) hab) (ih fun a ha b hb => ?_)
      exact imp a (by simp [ha]) b (by simp [hb])

/-- Relatives can be chosen one by one for a whole list when every element has one, by list
induction. -/
theorem exists_forall₂_iff {α β : Type} {R : α → β → Prop} {as : List α}
    : (∃ bs, List.Forall₂ R as bs) ↔ ∀ a ∈ as, ∃ b, R a b := by
  constructor
  · intro given a ha
    rcases given with ⟨bs, h⟩
    obtain ⟨b, _, hr⟩ := exists_of_forall₂_left h ha
    exact ⟨b, hr⟩
  · intro h
    induction as with
    | nil => exact ⟨[], .nil⟩
    | cons a rest ih =>
        obtain ⟨b, hb⟩ := h a (by simp)
        obtain ⟨bs, hbs⟩ := ih fun a ha => h a (by simp [ha])
        exact ⟨b :: bs, .cons hb hbs⟩

/-- A member's part is smaller than the list that it stands in. -/
theorem sizeOf_snd_lt_of_mem {α : Type} [SizeOf α] {member : String × α}
    {members : List (String × α)} (h : member ∈ members)
    : sizeOf member.2 < sizeOf members := by
  have hs := List.sizeOf_lt_of_mem h
  obtain ⟨name, part⟩ := member
  simp only [Prod.mk.sizeOf_spec] at hs
  simp only
  omega

-----------------------------------------------------------------------------------------
-- Induction by children
-----------------------------------------------------------------------------------------

/-- The items of a list, the values of an object's members. -/
def Json.children : Json → List Json
  | .array items => items
  | .object members => members.map Prod.snd
  | _ => []

theorem Json.sizeOf_lt_of_mem_children {json child : Json} (h : child ∈ json.children)
    : sizeOf child < sizeOf json := by
  cases json with
  | array items =>
      have hm : child ∈ items := h
      have := List.sizeOf_lt_of_mem hm
      simp only [Json.array.sizeOf_spec]
      omega
  | object members =>
      obtain ⟨member, hm, rfl⟩ := List.mem_map.mp h
      have := sizeOf_snd_lt_of_mem hm
      simp only [Json.object.sizeOf_spec]
      omega
  | _ => simp [Json.children] at h

/-- Induction on a tree, in which its items and member values come before it. -/
@[elab_as_elim]
theorem Json.byChildren {motive : Json → Prop}
    (step : ∀ json, (∀ child ∈ json.children, motive child) → motive json) (json : Json)
    : motive json :=
  step json fun child _ => byChildren step child
termination_by sizeOf json
decreasing_by exact Json.sizeOf_lt_of_mem_children ‹_›

/-- The items of an array, the values of a map's entries or of an object's fields. -/
def Value.children : Value → List Value
  | .array items => items
  | .map members | .object _ members => members.map Prod.snd
  | _ => []

theorem Value.sizeOf_lt_of_mem_children {value child : Value} (h : child ∈ value.children)
    : sizeOf child < sizeOf value := by
  cases value with
  | array items =>
      have hm : child ∈ items := h
      have := List.sizeOf_lt_of_mem hm
      simp only [Value.array.sizeOf_spec]
      omega
  | map members | object _ members =>
      obtain ⟨member, hm, rfl⟩ := List.mem_map.mp h
      have := sizeOf_snd_lt_of_mem hm
      simp only [Value.map.sizeOf_spec, Value.object.sizeOf_spec]
      omega
  | _ => simp [Value.children] at h

/-- Induction on a value, in which its items, entries and fields come before it. -/
@[elab_as_elim]
theorem Value.byChildren {motive : Value → Prop}
    (step : ∀ value, (∀ child ∈ value.children, motive child) → motive value) (value : Value)
    : motive value :=
  step value fun child _ => byChildren step child
termination_by sizeOf value
decreasing_by exact Value.sizeOf_lt_of_mem_children ‹_›

theorem Value.isNull_of_members? {value : Value} {members : List (String × Value)}
    (h : value.members? = some members)
    : value.isNull = false := by
  cases value <;> first | rfl | cases h

theorem Value.mem_children_of_members? {value : Value} {members : List (String × Value)}
    (hm : value.members? = some members) {member : String × Value} (h : member ∈ members)
    : member.2 ∈ value.children := by
  cases value with
  | map entries | object _ entries =>
      obtain rfl : entries = members := Option.some.inj hm
      exact List.mem_map_of_mem h
  | _ => simp [Value.members?] at hm

-----------------------------------------------------------------------------------------
-- Places in a tree and in a value
-----------------------------------------------------------------------------------------

namespace Json

/-- The step leads from a tree to a tree inside it. -/
inductive Child : Json → Step → Json → Prop where
  | item {items : List Json} {index : Nat} {item : Json} (found : items[index]? = some item)
    : Child (.array items) (.index index) item
  | member {members : List (String × Json)} {name : String} {json : Json}
    (mem : (name, json) ∈ members)
    : Child (.object members) (.key name) json

/-- The path leads from a tree to a tree inside it. -/
inductive Reaches : Json → Path → Json → Prop where
  | here (json : Json) : Reaches json [] json
  | inside {json child target : Json} {step : Step} {path : Path} (first : json.Child step child)
    (rest : child.Reaches path target)
    : Reaches json (step :: path) target

theorem Child.mem_children {json child : Json} {step : Step} (h : json.Child step child)
    : child ∈ json.children := by
  cases h with
  | item found => exact List.mem_of_getElem? found
  | member mem => exact List.mem_map_of_mem mem

theorem Reaches.snoc {json node child : Json} {path : Path} {step : Step}
    (h : json.Reaches path node) (last : node.Child step child)
    : json.Reaches (path ++ [step]) child := by
  induction h with
  | here => exact .inside last (.here child)
  | inside first _ ih => exact .inside first (ih last)

end Json

namespace Value

/-- The step leads from a value to a value inside it. -/
inductive Child : Value → Json.Step → Value → Prop where
  | item {items : List Value} {index : Nat} {item : Value} (found : items[index]? = some item)
    : Child (.array items) (.index index) item
  | entry {entries : List (String × Value)} {name : String} {value : Value}
    (mem : (name, value) ∈ entries)
    : Child (.map entries) (.key name) value
  | field {typeName name : String} {fields : List (String × Value)} {value : Value}
    (mem : (name, value) ∈ fields)
    : Child (.object typeName fields) (.key name) value

/-- The path leads from a value to a value inside it. -/
inductive Reaches : Value → Path → Value → Prop where
  | here (value : Value) : Reaches value [] value
  | inside {value child target : Value} {step : Json.Step} {path : Path}
    (first : value.Child step child) (rest : child.Reaches path target)
    : Reaches value (step :: path) target

theorem Child.mem_children {value child : Value} {step : Json.Step} (h : value.Child step child)
    : child ∈ value.children := by
  cases h with
  | item found => exact List.mem_of_getElem? found
  | entry mem | field mem => exact List.mem_map_of_mem mem

theorem Child.isNull {value child : Value} {step : Json.Step} (h : value.Child step child)
    : value.isNull = false := by
  cases h <;> rfl

theorem Child.of_members? {value child : Value} {members : List (String × Value)} {name : String}
    (hm : value.members? = some members) (mem : (name, child) ∈ members)
    : value.Child (.key name) child := by
  cases value with
  | map entries =>
      obtain rfl : entries = members := Option.some.inj hm
      exact .entry mem
  | object typeName fields =>
      obtain rfl : fields = members := Option.some.inj hm
      exact .field mem
  | _ => cases hm

end Value

-----------------------------------------------------------------------------------------
-- Distinct names throughout
-----------------------------------------------------------------------------------------

/-- No object of the tree has two members of one name. -/
def Json.Distinct : Json → Prop
  | .array items => ∀ item ∈ items, item.Distinct
  | .object members => Members.Distinct members ∧ ∀ member ∈ members, member.2.Distinct
  | _ => True
decreasing_by
  · have := List.sizeOf_lt_of_mem ‹_ ∈ items›
    simp only [Json.array.sizeOf_spec]
    omega
  · have := sizeOf_snd_lt_of_mem ‹_ ∈ members›
    simp only [Json.object.sizeOf_spec]
    omega

/-- No map and no object inside the value has two entries of one name. -/
def Value.Distinct : Value → Prop
  | .array items => ∀ item ∈ items, item.Distinct
  | .map entries => Members.Distinct entries ∧ ∀ entry ∈ entries, entry.2.Distinct
  | .object _ fields => Members.Distinct fields ∧ ∀ field ∈ fields, field.2.Distinct
  | _ => True
decreasing_by
  · have := List.sizeOf_lt_of_mem ‹_ ∈ items›
    simp only [Value.array.sizeOf_spec]
    omega
  · have := sizeOf_snd_lt_of_mem ‹_ ∈ entries›
    simp only [Value.map.sizeOf_spec]
    omega
  · have := sizeOf_snd_lt_of_mem ‹_ ∈ fields›
    simp only [Value.object.sizeOf_spec]
    omega

theorem Value.Distinct.of_mem_members? {value : Value} (distinct : value.Distinct)
    {members : List (String × Value)} (hm : value.members? = some members)
    {member : String × Value} (h : member ∈ members)
    : member.2.Distinct := by
  cases value with
  | map entries | object _ entries =>
      obtain rfl : entries = members := Option.some.inj hm
      rw [Value.Distinct] at distinct
      exact distinct.2 member h
  | _ => simp [Value.members?] at hm

theorem Value.Distinct.of_mem_children {value : Value} (distinct : value.Distinct) {child : Value}
    (mem : child ∈ value.children)
    : child.Distinct := by
  cases value with
  | array items =>
      rw [Value.Distinct] at distinct
      exact distinct child mem
  | map members | object _ members =>
      obtain ⟨member, hm, rfl⟩ := List.mem_map.mp mem
      exact distinct.of_mem_members? rfl hm
  | _ => cases mem

-----------------------------------------------------------------------------------------
-- Conditions on everything inside
-----------------------------------------------------------------------------------------

/-- The condition holds of the value and of every value inside it. -/
inductive Value.Everywhere (p : Value → Prop) : Value → Prop where
  | intro {value : Value} (here : p value) (inside : ∀ child ∈ value.children, Everywhere p child)
    : Everywhere p value

namespace Value.Everywhere

variable {p : Value → Prop} {value : Value}

theorem here (h : value.Everywhere p) : p value := by
  cases h with
  | intro here _ => exact here

theorem inside (h : value.Everywhere p) {child : Value} (mem : child ∈ value.children)
    : child.Everywhere p := by
  cases h with
  | intro _ inside => exact inside child mem

theorem leaf (here : p value) (empty : value.children = []) : value.Everywhere p :=
  .intro here (by rw [empty]; exact fun _ mem => absurd mem List.not_mem_nil)

end Value.Everywhere

end TypedJson
