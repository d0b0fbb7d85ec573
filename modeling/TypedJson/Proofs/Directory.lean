import Mathlib.Data.String.Basic
import TypedJson.Directory
import TypedJson.Proofs.Tree.Basic

/-!
Directories as sorted lists. Putting entries into a directory one after the other keeps it in
order, and a list that is in order already is the directory of its own pairs.
-/

namespace TypedJson.Directory

variable {α : Type} {directory : Directory α} {name : String} {entry : α}

theorem mem_names_insert {other : String}
    : other ∈ (insert name entry directory).map Prod.fst ↔
        other = name ∨ other ∈ directory.map Prod.fst := by
  rw [← Members.lookup_isSome_iff, lookup_insert, ← Members.lookup_isSome_iff]
  by_cases h : other = name <;> simp [h]

/-- A new name adds its entry and changes no other, by induction on the directory. -/
theorem mem_insert (fresh : directory.lookup name = none) {pair : String × α}
    : pair ∈ insert name entry directory ↔ pair = (name, entry) ∨ pair ∈ directory := by
  induction directory with
  | nil => simp [insert]
  | cons head rest ih =>
      obtain ⟨first, old⟩ := head
      rw [Members.lookup_cons_ite] at fresh
      split at fresh
      · cases fresh
      · next hne =>
          by_cases hl : name < first
          · simp [insert, hl]
          · simp only [insert, hl, hne, if_false, List.mem_cons, ih fresh]
            exact or_left_comm

theorem ordered_insert (ordered : Ordered directory) : Ordered (insert name entry directory) := by
  induction directory with
  | nil => simp [insert, Ordered]
  | cons head rest ih =>
      obtain ⟨first, old⟩ := head
      obtain ⟨hfirst, hrest⟩ := List.pairwise_cons.mp ordered
      by_cases hl : name < first
      · simp only [insert, hl, if_true]
        refine List.pairwise_cons.mpr ⟨?_, ordered⟩
        intro pair hp
        rcases List.mem_cons.mp hp with rfl | hp
        · exact hl
        · exact lt_trans hl (hfirst pair hp)
      · by_cases he : name = first
        · subst he
          simp only [insert, lt_irrefl, if_false, if_true]
          exact List.pairwise_cons.mpr ⟨hfirst, hrest⟩
        · simp only [insert, hl, he, if_false]
          refine List.pairwise_cons.mpr ⟨?_, ih hrest⟩
          intro pair hp
          have hlt : first < name := lt_of_le_of_ne (not_lt.mp hl) (Ne.symm he)
          rcases mem_names_insert.mp (List.mem_map_of_mem hp) with hn | hn
          · simpa [hn] using hlt
          · obtain ⟨other, ho, hn⟩ := List.mem_map.mp hn
            exact hn ▸ hfirst other ho

/-- An entry whose name comes last goes to the end. -/
theorem insert_of_forall_lt (last : ∀ pair ∈ directory, pair.1 < name)
    : insert name entry directory = directory ++ [(name, entry)] := by
  induction directory with
  | nil => rfl
  | cons head rest ih =>
      obtain ⟨first, old⟩ := head
      have hfirst : first < name := last (first, old) (by simp)
      simp only [insert, not_lt_of_gt hfirst, Ne.symm (ne_of_lt hfirst), if_false,
        ih fun pair hp => last pair (by simp [hp]), List.cons_append]

/-- The directory with each pair put into it in turn. -/
def insertAll (pairs : List (String × α)) (directory : Directory α) : Directory α :=
  pairs.foldl (fun directory pair => insert pair.1 pair.2 directory) directory

theorem ofList_eq_insertAll (pairs : List (String × α)) : ofList pairs = insertAll pairs [] :=
  rfl

theorem insertAll_cons (pair : String × α) (pairs : List (String × α))
    (directory : Directory α)
    : insertAll (pair :: pairs) directory = insertAll pairs (insert pair.1 pair.2 directory) :=
  rfl

theorem ordered_insertAll {pairs : List (String × α)} (ordered : Ordered directory)
    : Ordered (insertAll pairs directory) := by
  induction pairs generalizing directory with
  | nil => exact ordered
  | cons pair rest ih => exact ih (ordered_insert ordered)

/-- None of the pairs has the name of another one or of an entry that is there. -/
def Fresh (pairs : List (String × α)) (directory : Directory α) : Prop :=
  Members.Distinct pairs ∧ ∀ pair ∈ pairs, directory.lookup pair.1 = none

theorem fresh_cons_iff {pair : String × α} {pairs : List (String × α)}
    : Fresh (pair :: pairs) directory ↔
        directory.lookup pair.1 = none ∧ Fresh pairs (insert pair.1 pair.2 directory) := by
  simp only [Fresh, Members.Distinct, List.map_cons, List.nodup_cons, List.forall_mem_cons,
    lookup_insert]
  constructor
  · intro given
    rcases given with ⟨⟨hn, hd⟩, hp, hr⟩
    refine ⟨hp, hd, fun other ho => ?_⟩
    have hne : other.1 ≠ pair.1 := fun he => hn (he ▸ List.mem_map_of_mem ho)
    rw [if_neg hne]
    exact hr other ho
  · intro given
    rcases given with ⟨hp, hd, hr⟩
    have hne : ∀ other ∈ pairs, other.1 ≠ pair.1 ∧ directory.lookup other.1 = none := by
      intro other ho
      have h := hr other ho
      split at h
      · cases h
      · next hne => exact ⟨hne, h⟩
    refine ⟨⟨fun hm => ?_, hd⟩, hp, fun other ho => (hne other ho).2⟩
    obtain ⟨other, ho, he⟩ := List.mem_map.mp hm
    exact (hne other ho).1 he

theorem mem_insertAll {pairs : List (String × α)} (fresh : Fresh pairs directory)
    {pair : String × α}
    : pair ∈ insertAll pairs directory ↔ pair ∈ pairs ∨ pair ∈ directory := by
  induction pairs generalizing directory with
  | nil => simp [insertAll]
  | cons first rest ih =>
      obtain ⟨hf, hr⟩ := fresh_cons_iff.mp fresh
      rw [insertAll_cons, ih hr, mem_insert hf, List.mem_cons]
      exact or_left_comm.trans (by simp [or_assoc])

theorem fresh_nil : Fresh ([] : List (String × α)) directory := by
  simp [Fresh, Members.Distinct]

theorem fresh_nil_iff {pairs : List (String × α)} : Fresh pairs [] ↔ Members.Distinct pairs := by
  simp [Fresh]

theorem mem_ofList {pairs : List (String × α)} (distinct : Members.Distinct pairs)
    {pair : String × α}
    : pair ∈ ofList pairs ↔ pair ∈ pairs := by
  rw [ofList_eq_insertAll, mem_insertAll (fresh_nil_iff.mpr distinct)]
  simp

/-- Pairs in order that come after what is there are only appended, by induction on the pairs. -/
theorem insertAll_of_ordered {pairs : List (String × α)} (ordered : Ordered (directory ++ pairs))
    : insertAll pairs directory = directory ++ pairs := by
  induction pairs generalizing directory with
  | nil => simp [insertAll]
  | cons pair rest ih =>
      have hlast : ∀ other ∈ directory, other.1 < pair.1 := by
        intro other ho
        exact (List.pairwise_append.mp ordered).2.2 other ho pair (by simp)
      rw [insertAll_cons, insert_of_forall_lt hlast, ih (by simpa using ordered)]
      simp

/-- A list that is in order is the directory of its own pairs. -/
theorem ofList_of_ordered (ordered : Ordered directory) : ofList directory = directory := by
  rw [ofList_eq_insertAll]
  exact insertAll_of_ordered ordered

theorem Ordered.distinct (ordered : Ordered directory) : Members.Distinct directory := by
  rw [Members.Distinct, List.nodup_iff_pairwise_ne, List.pairwise_map]
  exact ordered.imp fun h => ne_of_lt h

theorem Ordered.nodup (ordered : Ordered directory) : directory.Nodup := by
  refine List.Pairwise.imp (fun {a b} h he => ?_) ordered
  exact ne_of_lt h (congrArg Prod.fst he)

/-- Directories with the same entries are equal. -/
theorem Ordered.eq_of_lookup {other : Directory α} (first : Ordered directory)
    (second : Ordered other) (same : ∀ name, directory.lookup name = other.lookup name)
    : directory = other := by
  have perm : directory.Perm other := by
    rw [List.perm_ext_iff_of_nodup first.nodup second.nodup]
    intro pair
    rw [← Members.lookup_eq_some_iff first.distinct, same,
      Members.lookup_eq_some_iff second.distinct]
  exact perm.eq_of_pairwise (fun a b _ _ hab hba => absurd hba (lt_asymm hab)) first second

end TypedJson.Directory
