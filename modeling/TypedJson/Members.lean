/-!
Members under names, in the order in which the names first came. Putting a value under a name
that is already there keeps its place.
-/

namespace TypedJson.Members

variable {α : Type}

/-- The members with `value` under `name`: in the place of an earlier value, otherwise last. -/
def put (name : String) (value : α) : List (String × α) → List (String × α)
  | [] => [(name, value)]
  | (other, old) :: rest =>
      if other = name then (other, value) :: rest else (other, old) :: put name value rest

/-- The members after putting each pair in turn. -/
def ofList (pairs : List (String × α)) : List (String × α) :=
  pairs.foldl (fun members pair => put pair.1 pair.2 members) []

/-- Every name stands for one value. -/
def Distinct (members : List (String × α)) : Prop :=
  (members.map Prod.fst).Nodup

theorem lookup_cons_ite (name first : String) (value : α) (rest : List (String × α))
    : ((first, value) :: rest).lookup name =
        if name = first then some value else rest.lookup name := by
  by_cases h : name = first
  · simp [h]
  · simp [List.lookup_cons, h, beq_eq_false_iff_ne.mpr h]

theorem lookup_put (name other : String) (value : α) (members : List (String × α))
    : (put name value members).lookup other =
        if other = name then some value else members.lookup other := by
  induction members with
  | nil => simp [put, lookup_cons_ite]
  | cons head rest ih =>
      obtain ⟨first, old⟩ := head
      by_cases h : first = name
      · subst h
        simp only [put, if_true, lookup_cons_ite]
        split <;> rfl
      · simp only [put, h, if_false, lookup_cons_ite, ih]
        grind

theorem mem_map_fst_put (name other : String) (value : α) (members : List (String × α))
    : other ∈ (put name value members).map Prod.fst ↔
        other = name ∨ other ∈ members.map Prod.fst := by
  induction members with
  | nil => simp [put]
  | cons head rest ih =>
      obtain ⟨first, old⟩ := head
      by_cases h : first = name
      · subst h; simp [put]
      · simp only [put, h, if_false, List.map_cons, List.mem_cons, ih]
        grind

theorem distinct_put (name : String) (value : α) {members : List (String × α)}
    (h : Distinct members)
    : Distinct (put name value members) := by
  induction members with
  | nil => simp [put, Distinct]
  | cons head rest ih =>
      obtain ⟨first, old⟩ := head
      simp only [Distinct, List.map_cons, List.nodup_cons] at h ih ⊢
      by_cases hf : first = name
      · subst hf; simpa [put] using h
      · simp only [put, hf, if_false, List.map_cons, List.nodup_cons, mem_map_fst_put]
        exact ⟨by grind, ih h.2⟩

theorem distinct_ofList (pairs : List (String × α)) : Distinct (ofList pairs) := by
  suffices h : ∀ members : List (String × α), Distinct members →
      Distinct (pairs.foldl (fun members pair => put pair.1 pair.2 members) members) by
    exact h [] (by simp [Distinct])
  induction pairs with
  | nil => exact fun _ h => h
  | cons pair rest ih => exact fun members h => ih _ (distinct_put pair.1 pair.2 h)

end TypedJson.Members
