import TypedJson.Members

/-!
Directories: entries by name, kept in the code point order of the names, so that two directories
with the same entries are equal. A later entry under a name replaces the earlier one.
-/

namespace TypedJson

/-- Entries by name. -/
abbrev Directory (α : Type) := List (String × α)

namespace Directory

variable {α : Type}

/-- The directory with `entry` under `name`. -/
def insert (name : String) (entry : α) : Directory α → Directory α
  | [] => [(name, entry)]
  | (other, old) :: rest =>
      if name < other then (name, entry) :: (other, old) :: rest
      else if name = other then (name, entry) :: rest
      else (other, old) :: insert name entry rest

/-- The directory of the given pairs; of two under one name the later one stays. -/
def ofList (pairs : List (String × α)) : Directory α :=
  pairs.foldl (fun directory pair => insert pair.1 pair.2 directory) []

/-- The names, in code point order. -/
def names (directory : Directory α) : List String :=
  directory.map Prod.fst

/-- Every name comes before all later ones. -/
def Ordered (directory : Directory α) : Prop :=
  directory.Pairwise fun a b => a.1 < b.1

theorem lookup_insert (name other : String) (entry : α) (directory : Directory α)
    : (insert name entry directory).lookup other =
        if other = name then some entry else directory.lookup other := by
  induction directory with
  | nil => simp [insert, Members.lookup_cons_ite]
  | cons head rest ih =>
      obtain ⟨first, old⟩ := head
      by_cases hl : name < first
      · simp [insert, hl, Members.lookup_cons_ite]
      · by_cases he : name = first
        · subst he
          simp only [insert, hl, if_false, if_true, Members.lookup_cons_ite]
          grind
        · simp only [insert, hl, he, if_false, Members.lookup_cons_ite, ih]
          grind

end Directory

end TypedJson
