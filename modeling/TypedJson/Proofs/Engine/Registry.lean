import TypedJson.Config

/-!
Where the entries of an engine come from. What an engine of a configuration has under a name was
brought by one of its extensions, and stands under its own name.
-/

namespace TypedJson.Engine

variable {name : String} {entry found : Entry}

theorem Builder.brought_of_register {builder : Builder}
    (registered : (builder.register entry).registry.lookup name = some found)
    : (found = entry ∧ found.name = name) ∨ builder.registry.lookup name = some found := by
  have h : (Directory.insert entry.name entry builder.registry).lookup name = some found :=
    registered
  rw [Directory.lookup_insert] at h
  split at h
  · next hname =>
      obtain rfl := Option.some.inj h
      exact .inl ⟨rfl, hname.symm⟩
  · exact .inr h

/-- An entry that is there after an extension was there before it or is one that it brings, by
induction on what it brings. -/
theorem Builder.brought_of_extend {builder : Builder} {extension : Extension}
    (registered : (builder.extend extension).registry.lookup name = some found)
    : (found ∈ extension ∧ found.name = name) ∨ builder.registry.lookup name = some found := by
  induction extension generalizing builder with
  | nil => exact .inr registered
  | cons entry rest ih =>
      rcases ih registered with brought | before
      · exact .inl ⟨List.mem_cons_of_mem _ brought.1, brought.2⟩
      · rcases brought_of_register before with ⟨rfl, hname⟩ | before
        · exact .inl ⟨List.mem_cons_self, hname⟩
        · exact .inr before

/-- Every entry of an engine is one that an extension brings, by induction on the extensions. -/
theorem brought_of_ofConfig {config : Config} {extensions : List Extension}
    (registered : (ofConfig config extensions).registry.lookup name = some found)
    : ∃ extension ∈ extensions, found ∈ extension ∧ found.name = name := by
  suffices brought : ∀ builder : Builder,
      (extensions.foldl (fun builder extension => builder.extend extension)
        builder).registry.lookup name = some found →
      (∃ extension ∈ extensions, found ∈ extension ∧ found.name = name)
        ∨ builder.registry.lookup name = some found by
    rcases brought _ registered with brought | before
    · exact brought
    · cases before
  clear registered
  induction extensions with
  | nil => exact fun _ before => .inr before
  | cons extension rest ih =>
      intro builder registered
      rcases ih _ registered with ⟨other, mem, brought⟩ | before
      · exact .inl ⟨other, List.mem_cons_of_mem _ mem, brought⟩
      · rcases Builder.brought_of_extend before with brought | before
        · exact .inl ⟨extension, List.mem_cons_self, brought⟩
        · exact .inr before

end TypedJson.Engine
