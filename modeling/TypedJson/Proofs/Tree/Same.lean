import Mathlib.Data.List.Perm.Subperm
import TypedJson.Proofs.Number.Binary64
import TypedJson.Proofs.Tree.Basic
import TypedJson.Value.Equality

/-!
Equal values and equal trees. The members of two records or documents are alike when every name
stands for the same in both; for members with distinct names that is what counting them and
looking each one up decides.
-/

namespace TypedJson

-----------------------------------------------------------------------------------------
-- Members that are alike
-----------------------------------------------------------------------------------------

/-- A relation between two options may use what is known of what they hold. -/
theorem rel_imp {α β : Type} {R S : α → β → Prop} {x? : Option α} {y? : Option β}
    (h : Option.Rel R x? y?) (imp : ∀ x, x? = some x → ∀ y, y? = some y → R x y → S x y)
    : Option.Rel S x? y? := by
  cases h with
  | none => exact .none
  | some hr => exact .some (imp _ rfl _ rfl hr)

theorem rel_congr {α β : Type} {R S : α → β → Prop} {x? : Option α} {y? : Option β}
    (h : ∀ x, x? = some x → ∀ y, y? = some y → (R x y ↔ S x y))
    : Option.Rel R x? y? ↔ Option.Rel S x? y? :=
  ⟨fun hr => rel_imp hr fun x hx y hy => (h x hx y hy).mp,
    fun hs => rel_imp hs fun x hx y hy => (h x hx y hy).mpr⟩

namespace Members

variable {α β : Type} {as : List (String × α)} {bs : List (String × β)}

theorem lookup_filter (distinct : Distinct as) (p : α → Bool) (name : String)
    : (as.filter fun a => p a.2).lookup name = (as.lookup name).filter p := by
  induction as with
  | nil => rfl
  | cons head rest ih =>
      obtain ⟨first, value⟩ := head
      have hd : first ∉ rest.map Prod.fst ∧ Distinct rest := List.nodup_cons.mp distinct
      by_cases hn : name = first
      · subst hn
        have hl : rest.lookup name = none := lookup_eq_none_iff.mpr hd.1
        cases hp : p value <;> simp [hp, ih hd.2, hl, Option.filter]
      · cases hp : p value <;> simp [hp, lookup_cons_ite, hn, ih hd.2]

/-- Members with distinct names are alike when there are as many of them and each has its
counterpart: names that are not repeated and as many as others, among which they are, are these
others. -/
theorem alike_iff {R : α → β → Prop} (da : Distinct as) (db : Distinct bs)
    : (as.length = bs.length ∧ ∀ a ∈ as, ∃ b, bs.lookup a.1 = some b ∧ R a.2 b) ↔
        ∀ name, Option.Rel R (as.lookup name) (bs.lookup name) := by
  constructor
  · intro given name
    rcases given with ⟨hlen, h⟩
    have hsub : as.map Prod.fst ⊆ bs.map Prod.fst := by
      intro n hn
      obtain ⟨a, ha, rfl⟩ := List.mem_map.mp hn
      obtain ⟨b, hb, _⟩ := h a ha
      exact lookup_isSome_iff.mp (by simp [hb])
    have hperm : (as.map Prod.fst).Perm (bs.map Prod.fst) :=
      (da.subperm hsub).perm_of_length_le (by simp [hlen])
    cases hl : as.lookup name with
    | none =>
        have hn : name ∉ bs.map Prod.fst := fun hm =>
          lookup_eq_none_iff.mp hl (hperm.mem_iff.mpr hm)
        rw [lookup_eq_none_iff.mpr hn]
        exact .none
    | some a =>
        obtain ⟨b, hb, hr⟩ := h _ (mem_of_lookup hl)
        rw [hb]
        exact .some hr
  · intro h
    have hmem : ∀ name, name ∈ as.map Prod.fst ↔ name ∈ bs.map Prod.fst := by
      intro name
      rw [← lookup_isSome_iff, ← lookup_isSome_iff]
      have hrel := h name
      revert hrel
      cases as.lookup name <;> cases bs.lookup name <;> simp
    have hperm : (as.map Prod.fst).Perm (bs.map Prod.fst) :=
      (List.perm_ext_iff_of_nodup da db).mpr hmem
    refine ⟨by simpa using hperm.length_eq, fun a ha => ?_⟩
    have hrel := h a.1
    rw [lookup_of_mem da ha] at hrel
    cases hb : bs.lookup a.1 with
    | none => rw [hb] at hrel; cases hrel
    | some b =>
        rw [hb] at hrel
        cases hrel with
        | some hr => exact ⟨b, rfl, hr⟩

/-- Members that are related one by one are related by name. -/
theorem lookup_of_forall₂ {R : α → β → Prop}
    (h : List.Forall₂ (fun a b => b.1 = a.1 ∧ R a.2 b.2) as bs) (name : String)
    : Option.Rel R (as.lookup name) (bs.lookup name) := by
  induction h with
  | nil => exact .none
  | @cons a b as bs hab _ ih =>
      obtain ⟨first, value⟩ := a
      obtain ⟨_, other⟩ := b
      obtain ⟨rfl, hr⟩ := hab
      simp only [lookup_cons_ite]
      split
      · exact .some hr
      · exact ih

/-- Members with the same distinct names in the same order are related by name just when they are
one by one, by list induction. -/
theorem forall₂_iff_lookup {R : α → β → Prop} (names : bs.map Prod.fst = as.map Prod.fst)
    (distinct : Distinct as)
    : List.Forall₂ (fun a b => R a.2 b.2) as bs ↔
        ∀ name, Option.Rel R (as.lookup name) (bs.lookup name) := by
  induction as generalizing bs with
  | nil =>
      obtain rfl : bs = [] := by simpa using names
      exact iff_of_true .nil fun _ => .none
  | cons a rest ih =>
      cases bs with
      | nil => simp at names
      | cons b others =>
          obtain ⟨first, value⟩ := a
          obtain ⟨_, other⟩ := b
          simp only [List.map_cons, List.cons.injEq] at names
          obtain ⟨rfl, hn⟩ := names
          rename_i first
          have hd : first ∉ rest.map Prod.fst ∧ Distinct rest := List.nodup_cons.mp distinct
          rw [List.forall₂_cons, ih hn hd.2]
          simp only [lookup_cons_ite]
          constructor
          · intro given name
            rcases given with ⟨hr, h⟩
            split
            · exact .some hr
            · exact h name
          · intro h
            refine ⟨?_, fun name => ?_⟩
            · have hr := h first
              simpa using hr
            · by_cases he : name = first
              · subst he
                rw [lookup_eq_none_iff.mpr hd.1, lookup_eq_none_iff.mpr (hn ▸ hd.1)]
                exact .none
              · simpa [he] using h name

end Members

-----------------------------------------------------------------------------------------
-- Equal values
-----------------------------------------------------------------------------------------

namespace Value

variable {as bs : List (String × Value)}

theorem sameItems_iff {as bs : List Value}
    : sameItems as bs = true ↔ List.Forall₂ (fun a b => a.same b = true) as bs := by
  induction as generalizing bs with
  | nil => cases bs <;> simp [sameItems]
  | cons a rest ih => cases bs <;> simp [sameItems, ih]

theorem sameEntries_iff
    : sameEntries as bs = true ↔
        ∀ a ∈ as, ∃ b, bs.lookup a.1 = some b ∧ a.2.same b = true := by
  induction as with
  | nil => simp [sameEntries]
  | cons head rest ih =>
      obtain ⟨name, value⟩ := head
      simp only [sameEntries, Bool.and_eq_true, ih, List.forall_mem_cons]
      cases bs.lookup name <;> simp

theorem sameFields_iff
    : sameFields as bs = true ↔
        ∀ a ∈ as, a.2.isNull = false → ∃ b, bs.lookup a.1 = some b ∧ a.2.same b = true := by
  induction as with
  | nil => simp [sameFields]
  | cons head rest ih =>
      obtain ⟨name, value⟩ := head
      simp only [sameFields, Bool.and_eq_true, ih, List.forall_mem_cons]
      cases value.isNull <;> cases bs.lookup name <;> simp

theorem isNull_of_same {a b : Value} (h : a.same b = true) : b.isNull = a.isNull := by
  cases a <;> cases b <;> simp_all [same, isNull, integral?]

/-- What a name stands for, unless that is null. -/
def present? (members : List (String × Value)) (name : String) : Option Value :=
  (members.lookup name).filter fun value => !value.isNull

theorem present?_eq_some_iff {value : Value} {name : String}
    : present? as name = some value ↔ as.lookup name = some value ∧ value.isNull = false := by
  simp [present?, Option.filter_eq_some_iff]

theorem present?_eq_lookup {members : List (String × Value)}
    (present : ∀ member ∈ members, member.2.isNull = false) (name : String)
    : present? members name = members.lookup name := by
  apply Option.ext
  intro value
  rw [present?_eq_some_iff]
  exact ⟨And.left, fun h => ⟨h, present _ (Members.mem_of_lookup h)⟩⟩

theorem mem_of_present? {value : Value} {name : String} (h : present? as name = some value)
    : (name, value) ∈ as :=
  Members.mem_of_lookup (present?_eq_some_iff.mp h).1

/-- The two values are equal: integers as numbers, members by name whatever their order, and of
objects only the fields that are not null. -/
inductive Same : Value → Value → Prop where
  | null : Same .null .null
  | bool (b : Bool) : Same (.bool b) (.bool b)
  | integer (n : Int64) : Same (.integer n) (.integer n)
  | unsigned (n : UInt64) : Same (.unsigned n) (.unsigned n)
  | integer_unsigned {n : Int64} {u : UInt64} (number : n.toInt = u.toNat)
    : Same (.integer n) (.unsigned u)
  | unsigned_integer {u : UInt64} {n : Int64} (number : n.toInt = u.toNat)
    : Same (.unsigned u) (.integer n)
  | float {x y : Binary64} (number : x.same y = true) : Same (.float x) (.float y)
  | string (s : String) : Same (.string s) (.string s)
  | array {as bs : List Value} (items : List.Forall₂ Same as bs) : Same (.array as) (.array bs)
  | map {as bs : List (String × Value)}
    (entries : ∀ name, Option.Rel Same (as.lookup name) (bs.lookup name))
    : Same (.map as) (.map bs)
  | object {typeName : String} {as bs : List (String × Value)}
    (fields : ∀ name, Option.Rel Same (present? as name) (present? bs name))
    : Same (.object typeName as) (.object typeName bs)
  | custom (c : Custom) : Same (.custom c) (.custom c)

theorem Same.isNull {a b : Value} (h : a.Same b) : b.isNull = a.isNull := by
  cases h <;> rfl

theorem Same.bool_iff {x y : Bool} : (Value.bool x).Same (Value.bool y) ↔ x = y :=
  ⟨fun | .bool _ => rfl, fun h => h ▸ .bool x⟩

theorem Same.integer_iff {n m : Int64} : (Value.integer n).Same (Value.integer m) ↔ n = m :=
  ⟨fun | .integer _ => rfl, fun h => h ▸ .integer n⟩

theorem Same.unsigned_iff {u v : UInt64} : (Value.unsigned u).Same (Value.unsigned v) ↔ u = v :=
  ⟨fun | .unsigned _ => rfl, fun h => h ▸ .unsigned u⟩

theorem Same.integer_unsigned_iff {n : Int64} {u : UInt64}
    : (Value.integer n).Same (Value.unsigned u) ↔ n.toInt = u.toNat :=
  ⟨fun | .integer_unsigned h => h, .integer_unsigned⟩

theorem Same.unsigned_integer_iff {u : UInt64} {n : Int64}
    : (Value.unsigned u).Same (Value.integer n) ↔ n.toInt = u.toNat :=
  ⟨fun | .unsigned_integer h => h, .unsigned_integer⟩

theorem Same.float_iff {x y : Binary64} : (Value.float x).Same (Value.float y) ↔ x.same y = true :=
  ⟨fun | .float h => h, .float⟩

theorem Same.string_iff {s t : String} : (Value.string s).Same (Value.string t) ↔ s = t :=
  ⟨fun | .string _ => rfl, fun h => h ▸ .string s⟩

theorem Same.array_iff {as bs : List Value}
    : (Value.array as).Same (Value.array bs) ↔ List.Forall₂ Same as bs :=
  ⟨fun | .array items => items, .array⟩

theorem Same.map_iff
    : (Value.map as).Same (Value.map bs) ↔
        ∀ name, Option.Rel Same (as.lookup name) (bs.lookup name) :=
  ⟨fun | .map entries => entries, .map⟩

theorem Same.object_iff {s t : String}
    : (Value.object s as).Same (Value.object t bs) ↔
        s = t ∧ ∀ name, Option.Rel Same (present? as name) (present? bs name) :=
  ⟨fun | .object fields => ⟨rfl, fields⟩, fun ⟨h, fields⟩ => h ▸ .object fields⟩

theorem Same.custom_iff {c d : Custom} : (Value.custom c).Same (Value.custom d) ↔ c = d :=
  ⟨fun | .custom _ => rfl, fun h => h ▸ .custom c⟩

theorem same_map_iff (da : Members.Distinct as) (db : Members.Distinct bs)
    : (map as).same (map bs) = true ↔
        ∀ name, Option.Rel (fun a b => a.same b = true) (as.lookup name) (bs.lookup name) := by
  rw [← Members.alike_iff da db]
  simp only [same, Bool.and_eq_true, beq_iff_eq, sameEntries_iff]

/-- Objects are equal when their fields are alike, but for those that are null. -/
theorem same_object_iff {a b : String} (da : Members.Distinct as) (db : Members.Distinct bs)
    : (object a as).same (object b bs) = true ↔
        a = b ∧ ∀ name,
          Option.Rel (fun a b => a.same b = true) (present? as name) (present? bs name) := by
  let keep := fun field : String × Value => !field.2.isNull
  have hl : ∀ {members : List (String × Value)}, Members.Distinct members → ∀ name,
      (members.filter keep).lookup name = present? members name :=
    fun distinct name => Members.lookup_filter distinct (fun value => !value.isNull) name
  have hrel := Members.alike_iff (R := fun a b => Value.same a b = true)
    (da.sublist List.filter_sublist : Members.Distinct (as.filter keep))
    (db.sublist List.filter_sublist : Members.Distinct (bs.filter keep))
  simp only [hl da, hl db] at hrel
  rw [← hrel]
  simp only [same, Bool.and_eq_true, beq_iff_eq, sameFields_iff, presentCount, and_assoc]
  refine and_congr_right fun _ => and_congr_right fun _ => ?_
  constructor
  · intro h field hf
    obtain ⟨hm, hn⟩ := List.mem_filter.mp hf
    have hn : field.2.isNull = false := by simpa [keep] using hn
    obtain ⟨b, hb, hs⟩ := h field hm hn
    exact ⟨b, present?_eq_some_iff.mpr ⟨hb, (isNull_of_same hs).trans hn⟩, hs⟩
  · intro h field hm hn
    obtain ⟨b, hb, hs⟩ := h field (List.mem_filter.mpr ⟨hm, by simp [keep, hn]⟩)
    exact ⟨b, (present?_eq_some_iff.mp hb).1, hs⟩

/-- What the comparison of two values decides, by induction on what the first one holds. -/
theorem same_iff {a b : Value} (da : a.Distinct) (db : b.Distinct)
    : a.same b = true ↔ a.Same b := by
  induction a using Value.byChildren generalizing b with
  | step a ih =>
      cases a with
      | null =>
          cases b with
          | null => exact iff_of_true (by simp [same]) .null
          | _ => exact iff_of_false (by simp [same]) (fun h => by cases h)
      | bool x =>
          cases b with
          | bool y => rw [Same.bool_iff, same, beq_iff_eq]
          | _ => exact iff_of_false (by simp [same]) (fun h => by cases h)
      | integer n =>
          cases b with
          | integer m => simp [same, integral?, Same.integer_iff, Int64.toInt_inj]
          | unsigned u => simp [same, integral?, Same.integer_unsigned_iff]
          | _ => exact iff_of_false (by simp [same, integral?]) (fun h => by cases h)
      | unsigned u =>
          cases b with
          | integer n => simp [same, integral?, Same.unsigned_integer_iff, @eq_comm _ n.toInt]
          | unsigned v =>
              simp [same, integral?, Same.unsigned_iff, UInt64.toNat_inj]
          | _ => exact iff_of_false (by simp [same, integral?]) (fun h => by cases h)
      | float x =>
          cases b with
          | float y => rw [Same.float_iff, same]
          | _ => exact iff_of_false (by simp [same]) (fun h => by cases h)
      | string x =>
          cases b with
          | string y => rw [Same.string_iff, same, beq_iff_eq]
          | _ => exact iff_of_false (by simp [same]) (fun h => by cases h)
      | array as =>
          cases b with
          | array bs =>
              rw [Value.Distinct] at da db
              rw [Same.array_iff, same, sameItems_iff]
              constructor
              · exact fun h => forall₂_imp_of_mem h fun a ha b hb hab =>
                  (ih a ha (da a ha) (db b hb)).mp hab
              · exact fun h => forall₂_imp_of_mem h fun a ha b hb hab =>
                  (ih a ha (da a ha) (db b hb)).mpr hab
          | _ => exact iff_of_false (by simp [same]) (fun h => by cases h)
      | map as =>
          cases b with
          | map bs =>
              rw [Value.Distinct] at da db
              rw [Same.map_iff, same_map_iff da.1 db.1]
              apply forall_congr'
              intro name
              apply rel_congr
              intro x hx y hy
              have hx := Members.mem_of_lookup hx
              have hy := Members.mem_of_lookup hy
              exact ih x (List.mem_map_of_mem hx) (da.2 (name, x) hx) (db.2 (name, y) hy)
          | _ => exact iff_of_false (by simp [same]) (fun h => by cases h)
      | object s as =>
          cases b with
          | object t bs =>
              rw [Value.Distinct] at da db
              rw [Same.object_iff, same_object_iff da.1 db.1]
              apply and_congr_right
              intro _
              apply forall_congr'
              intro name
              apply rel_congr
              intro x hx y hy
              have hx := mem_of_present? hx
              have hy := mem_of_present? hy
              exact ih x (List.mem_map_of_mem hx) (da.2 (name, x) hx) (db.2 (name, y) hy)
          | _ => exact iff_of_false (by simp [same]) (fun h => by cases h)
      | custom c =>
          cases b with
          | custom d => rw [Same.custom_iff, same, beq_iff_eq]
          | _ => exact iff_of_false (by simp [same]) (fun h => by cases h)

end Value

-----------------------------------------------------------------------------------------
-- Equal trees
-----------------------------------------------------------------------------------------

/-- The two trees are equal as documents: numbers of one kind by value, members whatever their
order. -/
inductive Json.Same : Json → Json → Prop where
  | null : Same .null .null
  | bool (b : Bool) : Same (.bool b) (.bool b)
  | integer (n : WideInt) : Same (.number (.integer n)) (.number (.integer n))
  | real {x y : Binary64} {hx : x.isFinite = true} {hy : y.isFinite = true}
    (number : x.same y = true)
    : Same (.number (.real x hx)) (.number (.real y hy))
  | string (s : String) : Same (.string s) (.string s)
  | array {as bs : List Json} (items : List.Forall₂ Same as bs) : Same (.array as) (.array bs)
  | object {as bs : List (String × Json)}
    (members : ∀ name, Option.Rel Same (as.lookup name) (bs.lookup name))
    : Same (.object as) (.object bs)

/-- Every tree is equal to itself, by induction on its children. -/
theorem Json.Same.refl (json : Json) : json.Same json := by
  induction json using Json.byChildren with
  | step json ih =>
      cases json with
      | null => exact .null
      | bool b => exact .bool b
      | string s => exact .string s
      | number n =>
          cases n with
          | integer n => exact .integer n
          | real x finite => exact .real (Binary64.same_self finite)
      | array items => exact .array (List.forall₂_same.mpr ih)
      | object members =>
          refine .object fun name => ?_
          cases hl : members.lookup name with
          | none => exact .none
          | some child =>
              exact .some (ih child (List.mem_map_of_mem (Members.mem_of_lookup hl)))

theorem Json.same_array_iff {as bs : List Json}
    : (array as).Same (array bs) ↔ List.Forall₂ Same as bs :=
  ⟨fun | .array items => items, .array⟩

theorem Json.same_object_iff {as bs : List (String × Json)}
    : (object as).Same (object bs) ↔
        ∀ name, Option.Rel Same (as.lookup name) (bs.lookup name) :=
  ⟨fun | .object members => members, .object⟩

end TypedJson
