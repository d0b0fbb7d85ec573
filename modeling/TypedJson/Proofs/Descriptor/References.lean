import TypedJson.Proofs.Descriptor.Instantiate
import TypedJson.Proofs.Descriptor.RoundTrip
import TypedJson.Proofs.Tree.Same

/-!
Binding as substitution. A descriptor refers to parameters in the order in which its textual form
shows them behind dollar marks. It is bound when all of them stand for something, and otherwise the
first one that does not is complained about; what is bound refers to what the parameters stand for
refers to, and to bind twice is to bind once to what was bound.
-/

namespace TypedJson.Descriptor

/-- The descriptor refers to the parameter, in an argument or a key type perhaps. -/
inductive Refers (name : String) : Descriptor → Prop where
  | here : Refers name (.var name)
  | inside {d part : Descriptor} (mem : part ∈ d.parts) (refers : Refers name part) : Refers name d

/-- Among the tokens a dollar mark stands before the parameter's name. -/
def Cites (tokens : List Token) (name : String) : Prop :=
  ∃ before slot after, tokens = before ++ .mark '$' :: slot :: after ∧ slot.Names name

/-- The text refers to the parameter, which satisfies the condition, and nowhere before to one that
does. -/
def CitesFirst (p : String → Prop) (text name : String) : Prop :=
  ∃ before slot after, Spells (before ++ .mark '$' :: slot :: after) text.toList
    ∧ slot.Names name ∧ p name ∧ ∀ other, Cites before other → ¬ p other

-----------------------------------------------------------------------------------------
-- References in order
-----------------------------------------------------------------------------------------

mutual
/-- The parameters that a descriptor refers to, in the order of its textual form. -/
def references : Descriptor → List String
  | .var name => [name]
  | .list item => references item
  | .map key value => references key ++ references value
  | .generic _ arguments => argumentReferences arguments
  | _ => []

/-- The parameters that the arguments of a generic type refer to, in order. -/
def argumentReferences : List (String × Descriptor) → List String
  | [] => []
  | (_, argument) :: rest => references argument ++ argumentReferences rest
end

theorem argumentReferences_eq (arguments : List (String × Descriptor))
    : argumentReferences arguments = arguments.flatMap fun argument => argument.2.references := by
  induction arguments with
  | nil => rfl
  | cons argument rest ih => rw [argumentReferences, ih, List.flatMap_cons]

/-- The references are those of what the descriptor is made of. -/
theorem references_eq {d : Descriptor} (h : ∀ name, d ≠ .var name)
    : d.references = d.parts.flatMap references := by
  cases d with
  | var name => exact absurd rfl (h name)
  | generic name arguments =>
      rw [references, argumentReferences_eq, parts, List.flatMap_map]
  | _ => simp [references, parts]

theorem mem_references_iff {name : String} {d : Descriptor}
    : name ∈ d.references ↔ d.Refers name := by
  constructor
  · intro mem
    induction d using byParts with
    | step d ih =>
        by_cases hvar : ∃ other, d = .var other
        · obtain ⟨other, rfl⟩ := hvar
          obtain rfl := List.mem_singleton.mp mem
          exact .here
        · rw [references_eq fun other he => hvar ⟨other, he⟩, List.mem_flatMap] at mem
          obtain ⟨part, hp, hm⟩ := mem
          exact .inside hp (ih part hp hm)
  · intro refers
    induction refers with
    | here => exact List.mem_singleton_self name
    | @inside d part hp _ ih =>
        have hvar : ∀ other, d ≠ .var other := by
          rintro other rfl
          cases hp
        rw [references_eq hvar]
        exact List.mem_flatMap.mpr ⟨part, hp, ih⟩

-----------------------------------------------------------------------------------------
-- References in the text
-----------------------------------------------------------------------------------------

/-- The name that a token is. -/
def Token.name? : Token → Option String
  | .mark _ => none
  | .word name | .quoted name => some name

theorem Token.name?_eq_some_iff {token : Token} {name : String}
    : token.name? = some name ↔ token.Names name := by
  constructor
  · intro h
    cases token with
    | mark c => cases h
    | word other =>
        obtain rfl := Option.some.inj h
        exact .word other
    | quoted other =>
        obtain rfl := Option.some.inj h
        exact .quoted other
  · intro names
    cases names <;> rfl

/-- The name that the first of the tokens is, if a dollar mark stands before them. -/
def citedNext (token : Token) (rest : List Token) : List String :=
  if token = .mark '$' then (rest.head?.bind Token.name?).toList else []

/-- The names behind the dollar marks, in order. -/
def cited : List Token → List String
  | [] => []
  | token :: rest => citedNext token rest ++ cited rest

theorem citedNext_of_ne {token : Token} (h : token ≠ .mark '$') (rest : List Token)
    : citedNext token rest = [] :=
  if_neg h

theorem citedNext_dollar {slot : Token} {name : String} (names : slot.Names name)
    (rest : List Token)
    : citedNext (.mark '$') (slot :: rest) = [name] := by
  rw [citedNext, if_pos rfl, List.head?_cons, Option.bind_some, Token.name?_eq_some_iff.mpr names]
  rfl

theorem citedNext_cases (token : Token) (rest : List Token)
    : citedNext token rest = []
        ∨ ∃ slot name after, token = .mark '$' ∧ rest = slot :: after ∧ slot.Names name := by
  rw [citedNext]
  split
  · next hdollar =>
      cases rest with
      | nil => exact .inl rfl
      | cons slot after =>
          cases hname : slot.name? with
          | none => exact .inl (by simp [hname])
          | some name =>
              exact .inr ⟨slot, name, after, hdollar, rfl, Token.name?_eq_some_iff.mp hname⟩
  · exact .inl rfl

/-- No mark is a name, so what stands before a mark can be looked at alone. -/
theorem citedNext_append_mark (token : Token) (before : List Token) (c : Char)
    (after : List Token)
    : citedNext token (before ++ .mark c :: after) = citedNext token before := by
  cases before <;> rfl

theorem cited_cons_name {slot : Token} {name : String} (names : slot.Names name)
    (rest : List Token)
    : cited (slot :: rest) = cited rest := by
  have hslot : slot ≠ .mark '$' := by
    rintro rfl
    cases names
  rw [cited, citedNext_of_ne hslot, List.nil_append]

theorem cited_cons_mark {c : Char} (h : c ≠ '$') (rest : List Token)
    : cited (.mark c :: rest) = cited rest := by
  rw [cited, citedNext_of_ne (fun he => h (Token.mark.inj he)), List.nil_append]

theorem cited_append_mark (before : List Token) (c : Char) (after : List Token)
    : cited (before ++ .mark c :: after) = cited before ++ cited (.mark c :: after) := by
  induction before with
  | nil => rfl
  | cons token rest ih =>
      rw [List.cons_append, cited, ih, citedNext_append_mark, ← List.append_assoc]
      rfl

theorem cited_reference {slot : Token} {name : String} (names : slot.Names name)
    (before after : List Token)
    : cited (before ++ .mark '$' :: slot :: after) = cited before ++ name :: cited after := by
  rw [cited_append_mark, cited, citedNext_dollar names, cited_cons_name names]
  rfl

/-- A name that is cited stands behind a dollar mark, by induction on the tokens. -/
theorem exists_of_cited {tokens : List Token} {earlier later : List String} {name : String}
    (h : cited tokens = earlier ++ name :: later)
    : ∃ before slot after, tokens = before ++ .mark '$' :: slot :: after ∧ slot.Names name
        ∧ cited before = earlier := by
  induction tokens generalizing earlier with
  | nil => simp [cited] at h
  | cons token rest ih =>
      rw [cited] at h
      have behind : ∀ more, cited rest = more ++ name :: later →
          earlier = citedNext token rest ++ more →
          ∃ before slot after, token :: rest = before ++ .mark '$' :: slot :: after
            ∧ slot.Names name ∧ cited before = earlier := by
        rintro more hmore rfl
        obtain ⟨before, slot, after, rfl, names, rfl⟩ := ih hmore
        exact ⟨token :: before, slot, after, rfl, names, by rw [cited, citedNext_append_mark]⟩
      rcases citedNext_cases token rest with hnone | ⟨slot, found, after, rfl, rfl, names⟩
      · rw [hnone, List.nil_append] at h
        exact behind earlier h (by rw [hnone]; rfl)
      · rw [citedNext_dollar names] at h
        cases earlier with
        | nil =>
            obtain ⟨rfl, _⟩ := List.cons.inj h
            exact ⟨[], slot, after, rfl, names, rfl⟩
        | cons first earlier =>
            obtain ⟨rfl, hrest⟩ := List.cons.inj h
            exact behind earlier hrest (by rw [citedNext_dollar names]; rfl)

theorem mem_cited_iff {tokens : List Token} {name : String}
    : name ∈ cited tokens ↔ Cites tokens name := by
  constructor
  · intro mem
    obtain ⟨earlier, later, h⟩ := List.append_of_mem mem
    obtain ⟨before, slot, after, ht, names, _⟩ := exists_of_cited h
    exact ⟨before, slot, after, ht, names⟩
  · rintro ⟨before, slot, after, rfl, names⟩
    rw [cited_reference names]
    simp

/-- One argument cites what its type refers to. -/
theorem cited_argument {name : String} {d : Descriptor}
    (type : ∀ more, cited (d.spelling ++ more) = d.references ++ cited more) (more : List Token)
    : cited (nameToken name :: .mark '=' :: (d.spelling ++ more))
        = d.references ++ cited more := by
  rw [cited_cons_name (names_nameToken name), cited_cons_mark (by decide), type]

theorem cited_moreSpelling {arguments : List (String × Descriptor)}
    (types : ∀ argument ∈ arguments, ∀ more,
      cited (argument.2.spelling ++ more) = argument.2.references ++ cited more)
    (more : List Token)
    : cited (moreSpelling arguments ++ more) = argumentReferences arguments ++ cited more := by
  induction arguments with
  | nil => rfl
  | cons argument rest ih =>
      obtain ⟨type, types⟩ := List.forall_mem_cons.mp types
      simp only [moreSpelling, List.cons_append, List.append_assoc, argumentReferences]
      rw [cited_cons_mark (by decide), cited_argument type, ih types]

theorem cited_argumentsSpelling {arguments : List (String × Descriptor)}
    (types : ∀ argument ∈ arguments, ∀ more,
      cited (argument.2.spelling ++ more) = argument.2.references ++ cited more)
    (more : List Token)
    : cited (argumentsSpelling arguments ++ more) = argumentReferences arguments ++ cited more := by
  cases arguments with
  | nil => rfl
  | cons argument rest =>
      obtain ⟨type, types⟩ := List.forall_mem_cons.mp types
      simp only [argumentsSpelling, List.cons_append, List.append_assoc, argumentReferences]
      rw [cited_argument type, cited_moreSpelling types]

/-- The tokens of a descriptor cite what it refers to, by induction on what it is made of. -/
theorem cited_spelling_append (d : Descriptor) (more : List Token)
    : cited (d.spelling ++ more) = d.references ++ cited more := by
  induction d using byParts generalizing more with
  | step d ih =>
      cases d with
      | list item =>
          simp only [spelling, List.cons_append, List.append_assoc, List.nil_append, references]
          rw [cited_cons_name (.word _), cited_cons_mark (by decide), ih item (by simp [parts]),
            cited_cons_mark (by decide)]
      | map key value =>
          simp only [spelling, List.cons_append, List.append_assoc, List.nil_append, references]
          rw [cited_cons_name (.word _), cited_cons_mark (by decide), ih key (by simp [parts]),
            cited_cons_mark (by decide), ih value (by simp [parts]), cited_cons_mark (by decide)]
      | generic name arguments =>
          simp only [spelling, List.cons_append, List.append_assoc, List.nil_append, references]
          rw [cited_cons_name (names_nameToken name), cited_cons_mark (by decide),
            cited_argumentsSpelling fun argument mem => ih argument.2 (List.mem_map_of_mem mem),
            cited_cons_mark (by decide)]
      | named name => exact cited_cons_name (names_nameToken name) more
      | var name => exact cited_reference (names_nameToken name) [] more
      | _ => exact cited_cons_name (.word _) more

theorem cited_spelling (d : Descriptor) : cited d.spelling = d.references := by
  have h := cited_spelling_append d []
  rwa [List.append_nil, cited, List.append_nil] at h

/-- The text refers first to what is first among the references. -/
theorem citesFirst_text_iff {p : String → Prop} {d : Descriptor} {name : String}
    : CitesFirst p d.text name ↔
        ∃ earlier later, d.references = earlier ++ name :: later ∧ p name
          ∧ ∀ other ∈ earlier, ¬ p other := by
  rw [← cited_spelling]
  constructor
  · rintro ⟨before, slot, after, spells, names, hname, first⟩
    rw [(spells_text d).unique spells]
    refine ⟨_, _, cited_reference names before after, hname, fun other mem => ?_⟩
    exact first other (mem_cited_iff.mp mem)
  · rintro ⟨earlier, later, h, hname, first⟩
    obtain ⟨before, slot, after, ht, names, rfl⟩ := exists_of_cited h
    refine ⟨before, slot, after, ht ▸ spells_text d, names, hname, fun other cites => ?_⟩
    exact first other (mem_cited_iff.mpr cites)

-----------------------------------------------------------------------------------------
-- Binding by references
-----------------------------------------------------------------------------------------

variable {b c composed : Bindings} {d : Descriptor}

/-- The first of the names that stands for nothing. -/
def firstUnbound? (b : Bindings) (names : List String) : Option String :=
  names.find? fun name => (b.lookup name).isNone

theorem bindArguments_eq {arguments : List (String × Descriptor)}
    (each : ∀ argument ∈ arguments, bind b argument.2
      = match firstUnbound? b argument.2.references with
        | some name => .error name
        | none => .ok (argument.2.instantiate b))
    : bindArguments b arguments
        = match firstUnbound? b (argumentReferences arguments) with
          | some name => .error name
          | none => .ok (instantiateArguments b arguments) := by
  induction arguments with
  | nil => rfl
  | cons argument rest ih =>
      obtain ⟨name, d⟩ := argument
      obtain ⟨type, each⟩ := List.forall_mem_cons.mp each
      simp only [bindArguments, type, ih each, argumentReferences, firstUnbound?, List.find?_append]
      cases d.references.find? fun name => (b.lookup name).isNone with
      | some name => rfl
      | none =>
          cases (argumentReferences rest).find? fun name => (b.lookup name).isNone <;> rfl

/-- A descriptor is bound to its instance unless a reference in it stands for nothing, the first of
which is complained about. By induction on what it is made of. -/
theorem bind_eq (b : Bindings) (d : Descriptor)
    : bind b d
        = match firstUnbound? b d.references with
          | some name => .error name
          | none => .ok (d.instantiate b) := by
  induction d using byParts with
  | step d ih =>
      cases d with
      | var name =>
          simp only [bind, references, firstUnbound?, List.find?_singleton, instantiate]
          cases b.lookup name <;> rfl
      | list item =>
          simp only [bind, ih item (by simp [parts]), references, instantiate]
          cases firstUnbound? b item.references <;> rfl
      | map key value =>
          simp only [bind, ih key (by simp [parts]), ih value (by simp [parts]), references,
            firstUnbound?, List.find?_append, instantiate]
          cases key.references.find? fun name => (b.lookup name).isNone with
          | some name => rfl
          | none => cases value.references.find? fun name => (b.lookup name).isNone <;> rfl
      | generic name arguments =>
          have hall := bindArguments_eq fun argument mem => ih argument.2 (List.mem_map_of_mem mem)
          simp only [bind, hall, references, instantiate]
          cases firstUnbound? b (argumentReferences arguments) <;> rfl
      | _ => rfl

theorem firstUnbound?_eq_none_iff {names : List String}
    : firstUnbound? b names = none ↔ ∀ name ∈ names, name ∈ b.names := by
  simp only [firstUnbound?, List.find?_eq_none, Bool.not_eq_true, Option.isNone_eq_false_iff,
    Members.lookup_isSome_iff, Directory.names]

theorem firstUnbound?_eq_some_iff {names : List String} {name : String}
    : firstUnbound? b names = some name ↔
        ∃ earlier later, names = earlier ++ name :: later ∧ name ∉ b.names
          ∧ ∀ other ∈ earlier, ¬ other ∉ b.names := by
  have hbound : ∀ other, (b.lookup other).isNone = true ↔ other ∉ b.names := fun other => by
    rw [Option.isNone_iff_eq_none, Members.lookup_eq_none_iff, Directory.names]
  simp only [firstUnbound?, List.find?_eq_some_iff_append, Bool.not_eq_true', ← hbound,
    Bool.not_eq_true]
  grind

theorem bind_eq_ok_iff_instantiate {bound : Descriptor}
    : bind b d = .ok bound ↔ (∀ name ∈ d.references, name ∈ b.names) ∧ d.instantiate b = bound := by
  rw [bind_eq, ← firstUnbound?_eq_none_iff]
  cases firstUnbound? b d.references <;> simp

theorem bind_eq_error_iff_firstUnbound? {name : String}
    : bind b d = .error name ↔ firstUnbound? b d.references = some name := by
  rw [bind_eq]
  cases firstUnbound? b d.references <;> simp

theorem references_instantiate (b : Bindings) (d : Descriptor)
    : (d.instantiate b).references
        = d.references.flatMap fun name => ((b.lookup name).getD (.var name)).references := by
  induction d using byParts with
  | step d ih =>
      cases d with
      | var name => simp [instantiate, references]
      | list item => simp [instantiate, references, ih item (by simp [parts])]
      | map key value =>
          simp [instantiate, references, ih key (by simp [parts]), ih value (by simp [parts])]
      | generic name arguments =>
          simp only [instantiate, instantiateArguments_eq_map, references, argumentReferences_eq,
            List.flatMap_map, List.flatMap_assoc]
          exact List.flatMap_congr fun argument mem => ih argument.2 (List.mem_map_of_mem mem)
      | _ => rfl

/-- Replacing twice is replacing once by what was replaced, by induction on the descriptor. -/
theorem instantiate_instantiate
    (each : ∀ name ∈ d.references, ((b.lookup name).getD (.var name)).instantiate c
      = (composed.lookup name).getD (.var name))
    : (d.instantiate b).instantiate c = d.instantiate composed := by
  induction d using byParts with
  | step d ih =>
      cases d with
      | var name => exact each name (by simp [references])
      | list item =>
          simp only [instantiate]
          rw [ih item (by simp [parts]) each]
      | map key value =>
          simp only [instantiate]
          rw [ih key (by simp [parts]) fun name mem => each name (List.mem_append_left _ mem),
            ih value (by simp [parts]) fun name mem => each name (List.mem_append_right _ mem)]
      | generic name arguments =>
          simp only [instantiate, instantiateArguments_eq_map, List.map_map]
          refine congrArg (generic name) (List.map_congr_left fun argument mem => ?_)
          apply congrArg (argument.1, ·)
          refine ih argument.2 (List.mem_map_of_mem mem) fun name hm => ?_
          refine each name ?_
          rw [references, argumentReferences_eq]
          exact List.mem_flatMap.mpr ⟨argument, mem, hm⟩
      | _ => rfl

-----------------------------------------------------------------------------------------
-- Binding as a substitution
-----------------------------------------------------------------------------------------

variable {bound : Descriptor}

/-- What stands for a parameter of something that is bound. -/
theorem exists_lookup_of_bind (h : bind b d = .ok bound) {parameter : String}
    (refers : d.Refers parameter)
    : ∃ stands, b.lookup parameter = some stands := by
  have known := (bind_eq_ok_iff_instantiate.mp h).1 parameter (mem_references_iff.mpr refers)
  exact Option.isSome_iff_exists.mp (Members.lookup_isSome_iff.mpr known)

theorem exists_bind_iff
    : (∃ bound, bind b d = .ok bound) ↔ ∀ name, d.Refers name → name ∈ b.names := by
  simp only [bind_eq_ok_iff_instantiate, mem_references_iff, exists_and_left, exists_eq',
    and_true]

theorem bind_eq_error_iff {name : String}
    : bind b d = .error name ↔ CitesFirst (· ∉ b.names) d.text name := by
  rw [bind_eq_error_iff_firstUnbound?, firstUnbound?_eq_some_iff, citesFirst_text_iff]

theorem refers_bound_iff (h : bind b d = .ok bound) {name : String}
    : bound.Refers name ↔
        ∃ parameter stands, d.Refers parameter ∧ b.lookup parameter = some stands
          ∧ stands.Refers name := by
  have hbound := (bind_eq_ok_iff_instantiate.mp h).2
  rw [← mem_references_iff, ← hbound, references_instantiate, List.mem_flatMap]
  constructor
  · rintro ⟨parameter, mem, hm⟩
    have refers := mem_references_iff.mp mem
    obtain ⟨stands, hl⟩ := exists_lookup_of_bind h refers
    rw [hl, Option.getD_some] at hm
    exact ⟨parameter, stands, refers, hl, mem_references_iff.mp hm⟩
  · rintro ⟨parameter, stands, refers, hl, hs⟩
    refine ⟨parameter, mem_references_iff.mpr refers, ?_⟩
    rw [hl, Option.getD_some]
    exact mem_references_iff.mpr hs

/-- What stands for each parameter in the descriptor, once it is bound, stands for the parameter in
the composed bindings. -/
def Composes (d : Descriptor) (b c composed : Bindings) : Prop :=
  ∀ parameter stands, d.Refers parameter → b.lookup parameter = some stands →
    ∃ final, bind c stands = .ok final ∧ composed.lookup parameter = some final

/-- To bind twice is to bind once under the composed bindings. -/
theorem bind_bind (h : bind b d = .ok bound) (composes : d.Composes b c composed)
    : ∃ final, bind c bound = .ok final ∧ bind composed d = .ok final := by
  have known : ∀ parameter ∈ d.references, parameter ∈ composed.names := by
    intro parameter mem
    have refers := mem_references_iff.mp mem
    obtain ⟨stands, hl⟩ := exists_lookup_of_bind h refers
    obtain ⟨final, _, hc⟩ := composes parameter stands refers hl
    exact Members.lookup_isSome_iff.mp (Option.isSome_iff_exists.mpr ⟨final, hc⟩)
  have again : ∀ name, bound.Refers name → name ∈ c.names := by
    intro name refers
    obtain ⟨parameter, stands, hp, hl, hs⟩ := (refers_bound_iff h).mp refers
    obtain ⟨final, hf, _⟩ := composes parameter stands hp hl
    exact exists_bind_iff.mp ⟨final, hf⟩ name hs
  obtain ⟨final, hf⟩ := exists_bind_iff.mpr again
  refine ⟨final, hf, bind_eq_ok_iff_instantiate.mpr ⟨known, ?_⟩⟩
  rw [← (bind_eq_ok_iff_instantiate.mp hf).2, ← (bind_eq_ok_iff_instantiate.mp h).2]
  refine (instantiate_instantiate fun parameter mem => ?_).symm
  have refers := mem_references_iff.mp mem
  obtain ⟨stands, hl⟩ := exists_lookup_of_bind h refers
  obtain ⟨final, hb, hc⟩ := composes parameter stands refers hl
  rw [hl, hc, Option.getD_some, Option.getD_some]
  exact (bind_eq_ok_iff_instantiate.mp hb).2

/-- Bindings that are bound one by one compose for every descriptor. -/
theorem composes_of_bindArguments (h : bindArguments c b = .ok composed)
    : d.Composes b c composed := by
  intro parameter stands _ hl
  have related : Option.Rel (fun stands final => bind c stands = .ok final)
      (b.lookup parameter) (composed.lookup parameter) :=
    Members.lookup_of_forall₂ (bindArguments_eq_ok_iff.mp h) parameter
  rw [hl] at related
  cases hc : composed.lookup parameter with
  | none =>
      rw [hc] at related
      cases related
  | some final =>
      rw [hc] at related
      cases related with
      | some hb => exact ⟨final, hb, rfl⟩

/-- What is bound cannot be bound further if what stands for one of the parameters cannot. -/
theorem exists_error_of_bind (h : bind b d = .ok bound) {parameter name : String}
    {stands : Descriptor} (refers : d.Refers parameter)
    (known : b.lookup parameter = some stands) (fails : bind c stands = .error name)
    : ∃ name, bind c bound = .error name := by
  cases hf : bind c bound with
  | error name => exact ⟨name, rfl⟩
  | ok final =>
      have bindable := exists_bind_iff.mpr fun name hs =>
        exists_bind_iff.mp ⟨final, hf⟩ name ((refers_bound_iff h).mpr ⟨_, _, refers, known, hs⟩)
      obtain ⟨_, hb⟩ := bindable
      cases hb.symm.trans fails

/-- Binding is a substitution. A descriptor is bound just when every parameter it refers to stands
for something; otherwise the one is complained about whose reference comes first in the text among
those that stand for nothing. What is bound refers to just the parameters that are referred to by
what stands for one of those in the descriptor. Bound further, it is the descriptor bound once to
what these stand for when that is bound further; and if that is not possible for one of them it
is not bound further. -/
theorem bind_substitutes (b : Bindings) (type : Descriptor)
    : ((∃ bound, bind b type = .ok bound) ↔ ∀ name, type.Refers name → name ∈ b.names)
        ∧ (∀ name, bind b type = .error name ↔ CitesFirst (· ∉ b.names) type.text name)
        ∧ ∀ bound, bind b type = .ok bound →
          (∀ name, bound.Refers name ↔
            ∃ parameter stands, type.Refers parameter ∧ b.lookup parameter = some stands
              ∧ stands.Refers name)
          ∧ (∀ c composed, type.Composes b c composed →
              ∃ final, bind c bound = .ok final ∧ bind composed type = .ok final)
          ∧ (∀ c, (∀ pair ∈ b, ∃ final, bind c pair.2 = .ok final) →
              ∃ composed, bindArguments c b = .ok composed ∧ type.Composes b c composed)
          ∧ ∀ c parameter stands name, type.Refers parameter → b.lookup parameter = some stands →
              bind c stands = .error name → ∃ name, bind c bound = .error name := by
  refine ⟨exists_bind_iff, fun _ => bind_eq_error_iff, fun bound h => ?_⟩
  refine ⟨fun _ => refers_bound_iff h, fun _ _ => bind_bind h, fun c each => ?_, ?_⟩
  · have hall : ∀ pair ∈ b, ∃ pair' : String × Descriptor,
        pair'.1 = pair.1 ∧ bind c pair.2 = .ok pair'.2 := by
      intro pair mem
      obtain ⟨final, hf⟩ := each pair mem
      exact ⟨(pair.1, final), rfl, hf⟩
    obtain ⟨composed, related⟩ := exists_forall₂_iff.mpr hall
    have hc := bindArguments_eq_ok_iff.mpr related
    exact ⟨composed, hc, composes_of_bindArguments hc⟩
  · exact fun _ _ _ _ refers known fails => exists_error_of_bind h refers known fails

/-- A table by keys of one type, with cells in columns of another; its name looks like a
reference. -/
def tableType : Descriptor :=
  .map (.var "K") (.generic "$C" [("column", .list (.var "X")), ("row", .var "K")])

/-- Keys are strings and cells are lists of some type, which is left open. -/
def tableBindings : Bindings :=
  [("K", .string), ("X", .list (.var "Y"))]

/-- The type of a table is bound and refers to what is left open then; it is bound further when that
stands for something, and only then. Without keys it is they that are complained about. -/
theorem bind_substitutes_tables
    : (∃ bound, bind tableBindings tableType = .ok bound ∧ bound.Refers "Y"
          ∧ (∃ final, bind [("Y", .integer)] bound = .ok final
              ∧ bind [("K", .string), ("X", .list .integer)] tableType = .ok final)
          ∧ ∃ name, bind [] bound = .error name)
        ∧ CitesFirst (· ∉ Directory.names ([("X", .integer)] : Bindings)) tableType.text "K" := by
  have all := bind_substitutes tableBindings tableType
  have column : tableType.Refers "X" := by
    rw [← mem_references_iff]
    decide
  have each : ∀ pair ∈ tableBindings, ∃ final, bind [("Y", .integer)] pair.2 = .ok final := by
    simp [tableBindings, bind, ok_bind]
  obtain ⟨bound, h⟩ : ∃ bound, bind tableBindings tableType = .ok bound := ⟨_, rfl⟩
  obtain ⟨refers, twice, composes, fails⟩ := all.2.2 bound h
  obtain ⟨composed, hc, composes⟩ := composes [("Y", .integer)] each
  obtain rfl : [("K", .string), ("X", .list .integer)] = composed := Except.ok.inj hc
  refine ⟨⟨bound, h, ?_, twice _ _ composes, ?_⟩, ?_⟩
  · exact (refers "Y").mpr ⟨"X", .list (.var "Y"), column, rfl, .inside (by simp [parts]) .here⟩
  · exact fails [] "X" (.list (.var "Y")) "Y" column rfl rfl
  · exact ((bind_substitutes [("X", .integer)] tableType).2.1 "K").mp rfl

end TypedJson.Descriptor
