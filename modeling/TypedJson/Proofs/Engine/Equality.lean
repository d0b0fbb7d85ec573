import TypedJson.Proofs.Engine.Natural
import TypedJson.Proofs.Tree.Same

/-!
Equal values are written alike, but for null fields. A field that is null is the same as none to
the equality of values, and a schema leaves it out; where a value is written by its own shape it
is a member like any other. So equal values are both written or both refused, and what is
written is equal just when no such place has a null field in one value alone.
-/

namespace TypedJson

-----------------------------------------------------------------------------------------
-- Differences that equality of values forgets
-----------------------------------------------------------------------------------------

/-- Two ways of writing write both or neither, and they write equal trees unless there is the
given difference. -/
structure WrittenAlike (W V : Json → Prop) (differ : Prop) : Prop where
  exists_iff : (∃ json, W json) ↔ ∃ json, V json
  same_iff : ∀ {j k}, W j → V k → (j.Same k ↔ ¬ differ)

namespace WrittenAlike

variable {W V : Json → Prop} {differ : Prop}

/-- Two ways of writing that write one and the same tree. -/
theorem of_eq (none : ¬ differ) (iff : ∀ json, W json ↔ V json)
    (unique : ∀ {j k}, W j → W k → j = k)
    : WrittenAlike W V differ where
  exists_iff := exists_congr iff
  same_iff {j k} hw hv := by
    obtain rfl : j = k := unique hw ((iff k).mpr hv)
    exact iff_of_true (.refl j) none

/-- Two lists come to something as one when their items do, one by one. -/
theorem exists_forall₂_congr {α β : Type} {W V : α → β → Prop} {as bs : List α}
    (alike : List.Forall₂ (fun a b => (∃ n, W a n) ↔ ∃ m, V b m) as bs)
    : (∃ ns, List.Forall₂ W as ns) ↔ ∃ ms, List.Forall₂ V bs ms := by
  simp only [exists_forall₂_iff]
  constructor
  · intro h b hb
    obtain ⟨a, ha, hab⟩ := exists_of_forall₂_right alike hb
    exact hab.mp (h a ha)
  · intro h a ha
    obtain ⟨b, hb, hab⟩ := exists_of_forall₂_left alike ha
    exact hab.mpr (h b hb)

/-- What two lists came to is equal when no pair of their items differs, by induction on the
items. -/
theorem forall₂_same_iff {α β : Type} {W V : α → β → Prop} {S : β → β → Prop} {D : α → α → Prop}
    {as bs : List α} {ns ms : List β}
    (alike : List.Forall₂ (fun a b => ∀ n m, W a n → V b m → (S n m ↔ ¬ D a b)) as bs)
    (hn : List.Forall₂ W as ns) (hm : List.Forall₂ V bs ms)
    : List.Forall₂ S ns ms ↔ ¬ ∃ pair ∈ as.zip bs, D pair.1 pair.2 := by
  induction alike generalizing ns ms with
  | nil =>
      obtain rfl := List.forall₂_nil_left_iff.mp hn
      obtain rfl := List.forall₂_nil_left_iff.mp hm
      simp
  | cons hab _ ih =>
      obtain ⟨n, ns, hwn, hns, rfl⟩ := List.forall₂_cons_left_iff.mp hn
      obtain ⟨m, ms, hwm, hms, rfl⟩ := List.forall₂_cons_left_iff.mp hm
      rw [List.forall₂_cons, hab n m hwn hwm, ih hns hms]
      simp

/-- Ways of writing items one by one make ways of writing lists. -/
theorem array {W : Value → Json → Prop} {D : Value → Value → Prop} {as bs : List Value}
    (alike : List.Forall₂ (fun a b => WrittenAlike (W a) (W b) (D a b)) as bs)
    : WrittenAlike
        (fun json => ∃ ns, json = .array ns ∧ List.Forall₂ W as ns)
        (fun json => ∃ ms, json = .array ms ∧ List.Forall₂ W bs ms)
        (∃ pair ∈ as.zip bs, D pair.1 pair.2) := by
  constructor
  · have h := exists_forall₂_congr (alike.imp fun a b hab => hab.exists_iff)
    constructor
    · intro given
      rcases given with ⟨_, ns, rfl, hns⟩
      obtain ⟨ms, hms⟩ := h.mp ⟨ns, hns⟩
      exact ⟨_, ms, rfl, hms⟩
    · intro given
      rcases given with ⟨_, ms, rfl, hms⟩
      obtain ⟨ns, hns⟩ := h.mpr ⟨ms, hms⟩
      exact ⟨_, ns, rfl, hns⟩
  · intro _ _ hleft hright
    rcases hleft with ⟨ns, rfl, hns⟩
    rcases hright with ⟨ms, rfl, hms⟩
    rw [Json.same_array_iff]
    exact forall₂_same_iff (alike.imp fun a b hab n m => hab.same_iff) hns hms

/-- Under some name one of two objects has a null member and the other one nothing, or both have
members that differ. -/
def MembersDiffer (D : Value → Value → Prop) (as bs : List (String × Value)) : Prop :=
  ∃ name,
    (as.lookup name = some .null ∧ bs.lookup name = none)
      ∨ (as.lookup name = none ∧ bs.lookup name = some .null)
      ∨ ∃ x y, as.lookup name = some x ∧ bs.lookup name = some y ∧ D x y

/-- What two records with alike fields can have under one name. -/
inductive Facing (R : Value → Value → Prop) : Option Value → Option Value → Prop where
  | neither : Facing R none none
  | left : Facing R (some .null) none
  | right : Facing R none (some .null)
  | both {x y : Value} (related : R x y) : Facing R (some x) (some y)

theorem facing_of_present {R : Value → Value → Prop} {as bs : List (String × Value)}
    (null : R .null .null) {name : String}
    (alike : Option.Rel R (Value.present? as name) (Value.present? bs name))
    : Facing R (as.lookup name) (bs.lookup name) := by
  have hnull : ∀ {members : List (String × Value)}, Value.present? members name = none →
      members.lookup name = none ∨ members.lookup name = some .null := by
    intro members h
    cases hl : members.lookup name with
    | none => exact .inl rfl
    | some value =>
        cases hv : value.isNull with
        | true => exact .inr (by rw [Value.eq_null_of_isNull hv])
        | false =>
            rw [Value.present?_eq_some_iff.mpr ⟨hl, hv⟩] at h
            cases h
  cases ha : Value.present? as name with
  | none =>
      cases hb : Value.present? bs name with
      | none =>
          rcases hnull ha with ha | ha <;> rcases hnull hb with hb | hb <;> rw [ha, hb]
          exacts [.neither, .right, .left, .both null]
      | some b => rw [ha, hb] at alike; cases alike
  | some a =>
      cases hb : Value.present? bs name with
      | none => rw [ha, hb] at alike; cases alike
      | some b =>
          rw [ha, hb] at alike
          rw [(Value.present?_eq_some_iff.mp ha).1, (Value.present?_eq_some_iff.mp hb).1]
          cases alike with
          | some h => exact .both h

/-- Ways of writing members one by one make ways of writing objects. These write equal trees when
no null field stands in one of the objects alone and no two members differ. -/
theorem object {W : Value → Json → Prop} {D : Value → Value → Prop}
    {as bs : List (String × Value)} (da : Members.Distinct as) (db : Members.Distinct bs)
    (null : ∀ json, W .null json ↔ json = .null) (still : ¬ D .null .null)
    (alike : ∀ name, Option.Rel (fun a b => WrittenAlike (W a) (W b) (D a b))
      (Value.present? as name) (Value.present? bs name))
    : WrittenAlike
        (fun json => ∃ ms, json = .object ms
          ∧ List.Forall₂ (fun entry member => member.1 = entry.1 ∧ W entry.2 member.2) as ms)
        (fun json => ∃ ms, json = .object ms
          ∧ List.Forall₂ (fun entry member => member.1 = entry.1 ∧ W entry.2 member.2) bs ms)
        (MembersDiffer D as bs) := by
  have hfacing := fun name => facing_of_present
    (of_eq still (fun _ => Iff.rfl) fun hj hk => ((null _).mp hj).trans ((null _).mp hk).symm)
    (alike name)
  have hwritten : ∀ members : List (String × Value),
      (∃ json, ∃ ms, json = Json.object ms ∧ List.Forall₂
        (fun entry member => member.1 = entry.1 ∧ W entry.2 member.2) members ms) ↔
          ∀ entry ∈ members, ∃ json, W entry.2 json := by
    intro members
    constructor
    · intro given entry he
      rcases given with ⟨_, ms, rfl, h⟩
      obtain ⟨member, _, _, hm⟩ := exists_of_forall₂_left h he
      exact ⟨member.2, hm⟩
    · intro h
      obtain ⟨ms, hms⟩ := exists_forall₂_iff.mpr fun entry he =>
        have ⟨json, hj⟩ := h entry he
        (⟨(entry.1, json), rfl, hj⟩ :
          ∃ member : String × Json, member.1 = entry.1 ∧ W entry.2 member.2)
      exact ⟨_, ms, rfl, hms⟩
  have hnull : ∃ json, W .null json := ⟨.null, (null .null).mpr rfl⟩
  refine ⟨?_, ?_⟩
  · rw [hwritten, hwritten]
    constructor
    · intro h entry hy
      rcases entry with ⟨name, y⟩
      have hf := hfacing name
      rw [Members.lookup_of_mem db hy] at hf
      generalize hx : as.lookup name = x? at hf
      cases hf with
      | right => exact hnull
      | both related => exact related.exists_iff.mp (h _ (Members.mem_of_lookup hx))
    · intro h entry hx
      rcases entry with ⟨name, x⟩
      have hf := hfacing name
      rw [Members.lookup_of_mem da hx] at hf
      generalize hy : bs.lookup name = y? at hf
      cases hf with
      | left => exact hnull
      | both related => exact related.exists_iff.mpr (h _ (Members.mem_of_lookup hy))
  · intro _ _ hleft hright
    rcases hleft with ⟨ms, rfl, hms⟩
    rcases hright with ⟨ns, rfl, hns⟩
    rw [Json.same_object_iff, MembersDiffer, not_exists]
    apply forall_congr'
    intro name
    have hf := hfacing name
    have hm := Members.lookup_of_forall₂ hms name
    have hn := Members.lookup_of_forall₂ hns name
    generalize as.lookup name = x?, bs.lookup name = y? at hf hm hn ⊢
    generalize ms.lookup name = j?, ns.lookup name = k? at hm hn ⊢
    cases hf with
    | neither =>
        cases hm
        cases hn
        exact iff_of_true .none (by simp)
    | left =>
        cases hm
        cases hn
        simp
    | right =>
        cases hm
        cases hn
        simp
    | both related =>
        cases hm with
        | some hj =>
            cases hn with
            | some hk => simpa using related.same_iff hj hk

/-- The parts of two records with alike fields stand for the same fields and are alike. -/
theorem related_parts {R : Value → Value → Prop} {as bs : List (String × Value)}
    (alike : ∀ name, Option.Rel R (Value.present? as name) (Value.present? bs name))
    (schema : Schema)
    : List.Forall₂ (Part.Related fun _ => R) (schema.parts Value.isNull as)
        (schema.parts Value.isNull bs) :=
  Part.related_pick fun field _ => alike field.1

/-- Ways of writing fields at their types make ways of writing records, in which null fields have
no part. -/
theorem record {W : Descriptor → Value → Json → Prop} {D : Descriptor → Value → Value → Prop}
    {as bs : List (String × Value)} {schema : Schema}
    (alike : ∀ name, Option.Rel
      (fun a b => ∀ type, WrittenAlike (W type a) (W type b) (D type a b))
      (Value.present? as name) (Value.present? bs name))
    : WrittenAlike
        (fun json => ∃ parts, json = .object (parts.map Part.member)
          ∧ List.Forall₂ (Part.Related W) (schema.parts Value.isNull as) parts)
        (fun json => ∃ parts, json = .object (parts.map Part.member)
          ∧ List.Forall₂ (Part.Related W) (schema.parts Value.isNull bs) parts)
        (∃ pair ∈ (schema.parts Value.isNull as).zip (schema.parts Value.isNull bs),
          D pair.1.type pair.1.node pair.2.node) := by
  have hparts := related_parts alike schema
  have hsome : ∀ part : Part Value, (∃ written, Part.Related W part written) ↔
      ∃ json, W part.type part.node json :=
    fun part => ⟨fun ⟨written, h⟩ => ⟨written.node, h.node⟩,
      fun ⟨json, h⟩ => ⟨⟨part.name, part.type, json⟩, rfl, rfl, h⟩⟩
  constructor
  · have h := exists_forall₂_congr (W := Part.Related W) (V := Part.Related W)
      (hparts.imp fun a b hab => by
        rw [hsome, hsome, hab.type]
        exact (hab.node a.type).exists_iff)
    constructor
    · intro given
      rcases given with ⟨_, ns, rfl, hns⟩
      obtain ⟨ms, hms⟩ := h.mp ⟨ns, hns⟩
      exact ⟨_, ms, rfl, hms⟩
    · intro given
      rcases given with ⟨_, ms, rfl, hms⟩
      obtain ⟨ns, hns⟩ := h.mpr ⟨ms, hms⟩
      exact ⟨_, ns, rfl, hns⟩
  · intro _ _ hleft hright
    rcases hleft with ⟨ns, rfl, hns⟩
    rcases hright with ⟨ms, rfl, hms⟩
    have hnames : (ms.map Part.member).map Prod.fst = (ns.map Part.member).map Prod.fst := by
      have hf : ms.map Part.field = ns.map Part.field := by
        rw [Part.fields_eq_of_related hms, Part.fields_eq_of_related hns,
          Part.fields_eq_of_related hparts]
      have hn := congrArg (List.map Prod.fst) hf
      simpa [Part.member, Part.field, Function.comp_def] using hn
    rw [Json.same_object_iff, ← Members.forall₂_iff_lookup hnames (Schema.distinct_of_related hns),
      List.forall₂_map_left_iff, List.forall₂_map_right_iff]
    refine forall₂_same_iff (D := fun a b => D a.type a.node b.node)
      (hparts.imp fun a b hab n m hn hm => ?_) hns hms
    exact (hab.node a.type).same_iff hn.node (hab.type ▸ hm.node)

/-- Equivalent ways of writing and an equivalent difference are alike as well. -/
theorem congr {W' V' : Json → Prop} {differ' : Prop} (alike : WrittenAlike W V differ)
    (hw : ∀ json, W' json ↔ W json) (hv : ∀ json, V' json ↔ V json) (hd : differ' ↔ differ)
    : WrittenAlike W' V' differ' where
  exists_iff := (exists_congr hw).trans (alike.exists_iff.trans (exists_congr fun j => (hv j).symm))
  same_iff h k := (alike.same_iff ((hw _).mp h) ((hv _).mp k)).trans (not_congr hd.symm)

/-- Equal binary numbers are both finite or both refused. -/
theorem float {x y : Binary64} (number : x.same y = true) (none : ¬ differ)
    : WrittenAlike (Json.ofBinary64? x = some ·) (Json.ofBinary64? y = some ·) differ := by
  simp only [Json.ofBinary64?_eq_some_iff]
  have hfinite := Binary64.isFinite_of_same number
  constructor
  · constructor
    · intro given
      rcases given with ⟨_, hx, _⟩
      exact ⟨_, hfinite ▸ hx, rfl⟩
    · intro given
      rcases given with ⟨_, hy, _⟩
      exact ⟨_, hfinite ▸ hy, rfl⟩
  · intro _ _ hleft hright
    rcases hleft with ⟨hx, rfl⟩
    rcases hright with ⟨hy, rfl⟩
    exact iff_of_true (.real number) none

end WrittenAlike

namespace Value

end Value

namespace Engine

variable {engine : Engine}

variable {type : Descriptor} {bindings inner : Bindings} {a b : Value}

/-- An engine with a record of one field. -/
def zones : Engine where
  registry := [("Zone", .object { name := "Zone", fields := [("id", .string)] })]

end Engine

end TypedJson
