import TypedJson.Proofs.Tree.Same

/-!
Equality of values as a relation. It is symmetric and transitive, and a value is equal to itself
unless something inside it is not a number. Two objects of one type whose present fields are the
same in any order are equal to the same values.
-/

namespace TypedJson

-----------------------------------------------------------------------------------------
-- Relations between options and between lists
-----------------------------------------------------------------------------------------

section Relations

variable {α : Type} {R : α → α → Prop}

theorem rel_self_iff {x? : Option α} : Option.Rel R x? x? ↔ ∀ x, x? = some x → R x x := by
  constructor
  · rintro h x rfl
    cases h with
    | some hr => exact hr
  · intro h
    cases x? with
    | none => exact .none
    | some x => exact .some (h x rfl)

theorem rel_flip {x? y? : Option α} (h : Option.Rel R x? y?)
    : Option.Rel (fun y x => R x y) y? x? := by
  cases h with
  | none => exact .none
  | some hr => exact .some hr

/-- Two relations between options make one, which may use what is known of the first of them. -/
theorem rel_trans {S T : α → α → Prop} {x? y? z? : Option α} (first : Option.Rel R x? y?)
    (second : Option.Rel S y? z?) (imp : ∀ x, x? = some x → ∀ y z, R x y → S y z → T x z)
    : Option.Rel T x? z? := by
  cases first with
  | none =>
      cases second with
      | none => exact .none
  | some hr =>
      cases second with
      | some hs => exact .some (imp _ rfl _ _ hr hs)

/-- Two relations one by one make one, which may use what is known of the first list. -/
theorem forall₂_trans_of_mem {S T : α → α → Prop} {as bs cs : List α}
    (first : List.Forall₂ R as bs) (second : List.Forall₂ S bs cs)
    (imp : ∀ a ∈ as, ∀ b c, R a b → S b c → T a c)
    : List.Forall₂ T as cs := by
  induction first generalizing cs with
  | nil =>
      cases second with
      | nil => exact .nil
  | cons hr _ ih =>
      cases second with
      | cons hs rest =>
          exact .cons (imp _ (by simp) _ _ hr hs) (ih rest fun a ha => imp a (by simp [ha]))

end Relations

-----------------------------------------------------------------------------------------
-- Symmetric and transitive
-----------------------------------------------------------------------------------------

namespace Value

/-- By induction on what the first value holds. -/
theorem Same.symm {a b : Value} (h : a.Same b) : b.Same a := by
  induction a using Value.byChildren generalizing b with
  | step a ih =>
      cases h with
      | null => exact .null
      | bool x => exact .bool x
      | integer n => exact .integer n
      | unsigned u => exact .unsigned u
      | integer_unsigned number => exact .unsigned_integer number
      | unsigned_integer number => exact .integer_unsigned number
      | float number => exact .float (Binary64.same_comm _ _ ▸ number)
      | string s => exact .string s
      | custom c => exact .custom c
      | array items =>
          have flipped := forall₂_imp_of_mem items fun x hx _ _ hxy => ih x hx hxy
          exact .array (List.Forall₂.flip flipped)
      | map entries =>
          refine .map fun name => rel_flip (rel_imp (entries name) fun x hx _ _ hxy => ?_)
          exact ih x (List.mem_map_of_mem (Members.mem_of_lookup hx)) hxy
      | object fields =>
          refine .object fun name => rel_flip (rel_imp (fields name) fun x hx _ _ hxy => ?_)
          exact ih x (List.mem_map_of_mem (mem_of_present? hx)) hxy

/-- By induction on what the first value holds. -/
theorem Same.trans {a b c : Value} (first : a.Same b) (second : b.Same c) : a.Same c := by
  induction a using Value.byChildren generalizing b c with
  | step a ih =>
      cases first with
      | null | bool | integer | unsigned | string | custom => exact second
      | integer_unsigned number =>
          cases second with
          | unsigned => exact .integer_unsigned number
          | unsigned_integer number' =>
              obtain rfl := Int64.toInt_inj.mp (number.trans number'.symm)
              exact .integer _
      | unsigned_integer number =>
          cases second with
          | integer => exact .unsigned_integer number
          | integer_unsigned number' =>
              obtain rfl := UInt64.toNat_inj.mp (Int.ofNat.inj (number.symm.trans number'))
              exact .unsigned _
      | float number =>
          cases second with
          | float number' => exact .float (Binary64.same_trans number number')
      | array items =>
          cases second with
          | array items' =>
              exact .array (forall₂_trans_of_mem items items' fun x hx _ _ hxy hyz =>
                ih x hx hxy hyz)
      | map entries =>
          cases second with
          | map entries' =>
              refine .map fun name => rel_trans (entries name) (entries' name) ?_
              intro x hx _ _ hxy hyz
              exact ih x (List.mem_map_of_mem (Members.mem_of_lookup hx)) hxy hyz
      | object fields =>
          cases second with
          | object fields' =>
              refine .object fun name => rel_trans (fields name) (fields' name) ?_
              intro x hx _ _ hxy hyz
              exact ih x (List.mem_map_of_mem (mem_of_present? hx)) hxy hyz

-----------------------------------------------------------------------------------------
-- Equal to itself
-----------------------------------------------------------------------------------------

/-- The value is not a binary number that stands for no number. -/
def NotNaN : Value → Prop
  | .float x => x.isNaN = false
  | _ => True

/-- A value is equal to itself when it is not itself not-a-number and all that it holds is equal to
itself. -/
theorem same_self_step {value : Value} (distinct : value.Distinct)
    : value.Same value ↔
        value.NotNaN ∧ ∀ child ∈ value.children, child.Same child := by
  cases value with
  | null => exact iff_of_true .null ⟨trivial, nofun⟩
  | bool b => exact iff_of_true (.bool b) ⟨trivial, nofun⟩
  | integer n => exact iff_of_true (.integer n) ⟨trivial, nofun⟩
  | unsigned u => exact iff_of_true (.unsigned u) ⟨trivial, nofun⟩
  | string s => exact iff_of_true (.string s) ⟨trivial, nofun⟩
  | custom c => exact iff_of_true (.custom c) ⟨trivial, nofun⟩
  | float x =>
      rw [Same.float_iff, Binary64.same_self_iff]
      exact ⟨fun h => ⟨h, nofun⟩, And.left⟩
  | array items =>
      rw [Same.array_iff, List.forall₂_same]
      exact ⟨fun h => ⟨trivial, h⟩, And.right⟩
  | map entries =>
      rw [Value.Distinct] at distinct
      simp only [Same.map_iff, rel_self_iff, Members.lookup_eq_some_iff distinct.1,
        NotNaN, children, List.forall_mem_map, true_and, Prod.forall]
  | object typeName fields =>
      rw [Value.Distinct] at distinct
      simp only [Same.object_iff, rel_self_iff, present?_eq_some_iff,
        Members.lookup_eq_some_iff distinct.1, NotNaN, children, List.forall_mem_map,
        true_and, Prod.forall]
      refine forall_congr' fun name => forall_congr' fun value => ?_
      constructor
      · intro h mem
        cases null : value.isNull with
        | true => cases value <;> simp_all [isNull, Same.null]
        | false => exact h ⟨mem, null⟩
      · exact fun h present => h present.1

/-- A value is equal to itself when no binary number in it is not-a-number, by induction on what it
holds. -/
theorem same_self_iff_everywhere {value : Value} (distinct : value.Distinct)
    : value.Same value ↔ value.Everywhere NotNaN := by
  induction value using Value.byChildren with
  | step value ih =>
      rw [same_self_step distinct]
      constructor
      · rintro ⟨here, inside⟩
        exact .intro here fun child mem =>
          (ih child mem (distinct.of_mem_children mem)).mp (inside child mem)
      · intro h
        exact ⟨h.here, fun child mem =>
          (ih child mem (distinct.of_mem_children mem)).mpr (h.inside mem)⟩

-----------------------------------------------------------------------------------------
-- Objects by their present fields
-----------------------------------------------------------------------------------------

/-- The fields that are not null, in their order. -/
def presentFields (fields : List (String × Value)) : List (String × Value) :=
  fields.filter fun field => !field.2.isNull

/-- A name stands for the same among fields that differ in order and in null fields only. -/
theorem present?_eq_of_perm {as bs : List (String × Value)} (da : Members.Distinct as)
    (db : Members.Distinct bs) (perm : (presentFields as).Perm (presentFields bs))
    (name : String)
    : present? as name = present? bs name := by
  have hl : ∀ {members : List (String × Value)}, Members.Distinct members →
      present? members name = (presentFields members).lookup name := fun distinct =>
    (Members.lookup_filter distinct (fun value => !value.isNull) name).symm
  have da' : Members.Distinct (presentFields as) := da.sublist List.filter_sublist
  have db' : Members.Distinct (presentFields bs) := db.sublist List.filter_sublist
  rw [hl da, hl db]
  apply Option.ext
  intro value
  rw [Members.lookup_eq_some_iff da', Members.lookup_eq_some_iff db', perm.mem_iff]

theorem same_object_congr {typeName : String} {as bs : List (String × Value)}
    (da : (object typeName as).Distinct) (db : (object typeName bs).Distinct)
    (perm : (presentFields as).Perm (presentFields bs)) {other : Value} (distinct : other.Distinct)
    : (object typeName as).same other = (object typeName bs).same other := by
  rw [Bool.eq_iff_iff, same_iff da distinct, same_iff db distinct]
  rw [Value.Distinct] at da db
  have alike := present?_eq_of_perm da.1 db.1 perm
  cases other with
  | object name fields => simp only [Same.object_iff, alike]
  | _ => exact iff_of_false (fun h => by cases h) (fun h => by cases h)

-----------------------------------------------------------------------------------------
-- The comparison of values
-----------------------------------------------------------------------------------------

theorem same_comm {a b : Value} (da : a.Distinct) (db : b.Distinct) : a.same b = b.same a := by
  rw [Bool.eq_iff_iff, same_iff da db, same_iff db da]
  exact ⟨Same.symm, Same.symm⟩

theorem same_iff_of_integral? {a b : Value} {n : Int} (integral : a.integral? = some n)
    : a.same b = true ↔ b.integral? = some n := by
  cases a with
  | integer | unsigned => rw [same, integral, beq_iff_eq, eq_comm]
  | _ => cases integral

/-- The comparison is symmetric and transitive, and a value is the same as itself unless something
in it is not a number. Objects of one type are the same as the same values, on either side, when
they differ only in the order of their fields and in fields that are null. An integer is the same
as just the values that hold the same integer, in whichever word. -/
theorem same_partialEquivalence
    : (∀ a b : Value, a.Distinct → b.Distinct → a.same b = b.same a)
        ∧ (∀ a b c : Value, a.Distinct → b.Distinct → c.Distinct →
            a.same b = true → b.same c = true → a.same c = true)
        ∧ (∀ a : Value, a.Distinct → (a.same a = true ↔ a.Everywhere NotNaN))
        ∧ (∀ typeName as bs other, (object typeName as).Distinct →
            (object typeName bs).Distinct → other.Distinct →
            (presentFields as).Perm (presentFields bs) →
            (object typeName as).same other = (object typeName bs).same other
              ∧ other.same (object typeName as) = other.same (object typeName bs))
        ∧ ∀ (a b : Value) n, a.integral? = some n →
            (a.same b = true ↔ b.integral? = some n) := by
  refine ⟨fun a b => same_comm, ?_, ?_, ?_, fun a b n => same_iff_of_integral?⟩
  · intro a b c da db dc first second
    have hab := (same_iff da db).mp first
    have hbc := (same_iff db dc).mp second
    exact (same_iff da dc).mpr (hab.trans hbc)
  · intro a distinct
    rw [same_iff distinct distinct, same_self_iff_everywhere distinct]
  · intro typeName as bs other da db distinct perm
    have alike := same_object_congr da db perm distinct
    exact ⟨alike, by rw [same_comm distinct da, same_comm distinct db, alike]⟩

/-- A reading with a count and a ratio. -/
def reading : Value :=
  .object "Reading" [("count", .integer 5), ("ratio", .float ⟨0x3FF0000000000000⟩)]

/-- The reading with its fields in another order and with a null one among them. -/
def notedReading : Value :=
  .object "Reading"
    [("ratio", .float ⟨0x3FF0000000000000⟩), ("note", .null), ("count", .integer 5)]

/-- A list of a reading whose ratio is not a number. -/
def brokenReadings : Value :=
  .array [.map [("ratio", .float ⟨0x7FF8000000000000⟩)]]

theorem everywhere_reading : reading.Everywhere NotNaN := by
  refine .intro trivial fun child mem => ?_
  rcases List.mem_pair.mp mem with rfl | rfl
  · exact .leaf trivial rfl
  · exact .leaf (by simp [NotNaN, Binary64.isNaN, Binary64.exponentField]) rfl

theorem not_everywhere_brokenReadings : ¬ brokenReadings.Everywhere NotNaN := by
  intro h
  have map := h.inside (List.mem_singleton.mpr rfl)
  have ratio : NotNaN (.float ⟨0x7FF8000000000000⟩) :=
    (map.inside (List.mem_singleton.mpr rfl)).here
  simp [NotNaN, Binary64.isNaN, Binary64.exponentField, Binary64.fraction] at ratio

/-- The two readings are the same as each other and as themselves, the broken ones are not; five is
the same in either word, and the greatest unsigned integer is not minus one. -/
theorem same_partialEquivalence_readings
    : reading.Distinct ∧ notedReading.Distinct ∧ brokenReadings.Distinct
        ∧ notedReading.same reading = true ∧ reading.same notedReading = true
        ∧ notedReading.same notedReading = true
        ∧ brokenReadings.same brokenReadings = false
        ∧ (integer 5).same (unsigned 5) = true
        ∧ (unsigned 0xFFFFFFFFFFFFFFFF).same (integer (-1)) = false := by
  obtain ⟨symm, trans, self, object, integral⟩ := same_partialEquivalence
  have dr : reading.Distinct := by
    simp [reading, Value.Distinct, Members.Distinct]
  have dn : notedReading.Distinct := by
    simp [notedReading, Value.Distinct, Members.Distinct]
  have db : brokenReadings.Distinct := by
    simp [brokenReadings, Value.Distinct, Members.Distinct]
  have perm : (presentFields
        [("count", integer 5), ("ratio", float ⟨0x3FF0000000000000⟩)]).Perm
      (presentFields
        [("ratio", float ⟨0x3FF0000000000000⟩), ("note", null), ("count", integer 5)]) :=
    .swap _ _ _
  have alike : reading.same reading = notedReading.same reading :=
    (object "Reading" _ _ reading dr dn dr perm).1
  have left : notedReading.same reading = true :=
    alike.symm.trans ((self reading dr).mpr everywhere_reading)
  have right : reading.same notedReading = true := (symm reading notedReading dr dn).trans left
  refine ⟨dr, dn, db, left, right, trans _ _ _ dn dr dn left right, ?_, ?_, ?_⟩
  · rw [Bool.eq_false_iff, ne_eq, self brokenReadings db]
    exact not_everywhere_brokenReadings
  · exact (integral (integer 5) (unsigned 5) 5 rfl).mpr rfl
  · rw [Bool.eq_false_iff, ne_eq, integral (unsigned 0xFFFFFFFFFFFFFFFF) (integer (-1)) _ rfl]
    decide

end Value

end TypedJson
