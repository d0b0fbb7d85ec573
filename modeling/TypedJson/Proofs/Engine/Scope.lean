import TypedJson.Proofs.Descriptor.Parts
import TypedJson.Proofs.Engine.Failure

/-!
Names and parameters in scope. If every parameter is one of the schema it stands in, and every
name is registered and given the arguments that its schema needs, then neither reading nor writing
ever finds a name that is unknown, a parameter that stands for nothing, or an argument missing.
-/

namespace TypedJson

/-- The cause is a name or a parameter that nothing stands for. -/
def ReadCause.IsScope : ReadCause → Prop
  | .unknownType _ | .unbound _ | .missingArgument _ _ => True
  | _ => False

/-- The cause is a name or a parameter that nothing stands for. -/
def WriteCause.IsScope : WriteCause → Prop
  | .unknownType _ | .unbound _ | .missingArgument _ _ => True
  | _ => False

namespace Engine

-----------------------------------------------------------------------------------------
-- Scope
-----------------------------------------------------------------------------------------

/-- The name is registered, and if it is the name of a schema, the given arguments are all that
the schema needs. -/
def Supplies (engine : Engine) (name : String) (given : List String) : Prop :=
  match engine.registry.lookup name with
  | none => False
  | some (.adapter _) => True
  | some (.object schema) => ∀ parameter ∈ schema.parameters, parameter ∈ given

/-- What stands here is in scope, where the parameters are known. -/
def InScope (engine : Engine) (parameters : List String) : Descriptor → Prop
  | .var name => name ∈ parameters
  | .named name => engine.Supplies name []
  | .generic name arguments => engine.Supplies name (arguments.map Prod.fst)
  | _ => True

/-- The fields of every registered schema are in scope, where its parameters are known. -/
def FieldsInScope (engine : Engine) : Prop :=
  ∀ name schema, engine.registry.lookup name = some (.object schema) →
    ∀ field ∈ schema.fields, field.2.Everywhere (engine.InScope schema.parameters)

/-- The type is in scope where no parameters are known, and so are the fields of every schema
where its own parameters are. -/
structure WellScoped (engine : Engine) (type : Descriptor) : Prop where
  type : type.Everywhere (engine.InScope [])
  fields : engine.FieldsInScope

/-- The type is in scope under the bindings: these give a descriptor without parameters, in scope
itself, to every parameter that the type may use. -/
structure Covered (engine : Engine) (type : Descriptor) (bindings : Bindings) : Prop where
  exists_parameters : ∃ parameters, type.Everywhere (engine.InScope parameters)
    ∧ ∀ name ∈ parameters, ∃ d, bindings.lookup name = some d
        ∧ d.Everywhere (engine.InScope [])

variable {engine : Engine} {type : Descriptor} {bindings : Bindings}

theorem covered_of_everywhere (h : type.Everywhere (engine.InScope []))
    : engine.Covered type bindings :=
  ⟨[], h, fun _ hm => absurd hm List.not_mem_nil⟩

/-- A part of a type in scope is in scope. -/
theorem Covered.part (covered : engine.Covered type bindings) {part : Descriptor}
    (mem : part ∈ type.parts)
    : engine.Covered part bindings := by
  obtain ⟨parameters, h, covers⟩ := covered.exists_parameters
  exact ⟨parameters, h.inside mem, covers⟩

/-- A type in scope is resolved, to a type in scope that is no parameter. -/
theorem Covered.resolve (covered : engine.Covered type bindings)
    : ∃ shape inner, type.resolve bindings = .ok (shape, inner)
        ∧ engine.Covered shape inner ∧ ∀ name, shape ≠ .var name := by
  obtain ⟨parameters, h, covers⟩ := covered.exists_parameters
  cases type with
  | var name =>
      obtain ⟨d, hl, hd⟩ := covers name h.here
      cases d with
      | var inner => exact absurd hd.here List.not_mem_nil
      | _ =>
          exact ⟨_, [], by simp only [Descriptor.resolve, hl], covered_of_everywhere hd, by simp⟩
  | _ => exact ⟨_, bindings, rfl, covered, by simp⟩

/-- Binding a type in scope succeeds, with a type that is in scope without bindings. -/
theorem Covered.bind (covered : engine.Covered type bindings)
    : ∃ bound, Descriptor.bind bindings type = .ok bound
        ∧ bound.Everywhere (engine.InScope []) := by
  obtain ⟨parameters, h, covers⟩ := covered.exists_parameters
  obtain ⟨bound, hb⟩ : ∃ bound, Descriptor.bind bindings type = .ok bound := by
    refine Descriptor.exists_bind (fun name hn => ?_) h
    obtain ⟨d, hl, _⟩ := covers name hn
    exact Option.isSome_iff_exists.mpr ⟨d, hl⟩
  refine ⟨bound, hb, Descriptor.Everywhere.bind ?_ ?_ h hb⟩
  · intro name d hn hl
    obtain ⟨d', hl', hd⟩ := covers name hn
    obtain rfl := Option.some.inj (hl.symm.trans hl')
    exact hd
  · intro d d' hd hvar hb
    cases d with
    | var name => exact absurd rfl (hvar name)
    | list item =>
        obtain ⟨_, _, rfl⟩ := Descriptor.bind_list_eq_ok_iff.mp hb
        trivial
    | map key value =>
        obtain ⟨_, _, _, _, rfl⟩ := Descriptor.bind_map_eq_ok_iff.mp hb
        trivial
    | generic name arguments =>
        obtain ⟨bound, ha, rfl⟩ := Descriptor.bind_generic_eq_ok_iff.mp hb
        rw [InScope, Descriptor.names_of_bindArguments ha]
        exact hd
    | _ =>
        obtain rfl := Except.ok.inj hb
        exact hd

/-- Bindings for the arguments of a type in scope give every argument a descriptor in scope. -/
theorem Covered.bindArguments {name : String} {arguments : List (String × Descriptor)}
    (covered : engine.Covered (.generic name arguments) bindings)
    : ∃ bound, Descriptor.bindArguments bindings arguments = .ok bound
        ∧ ∀ pair ∈ bound, pair.2.Everywhere (engine.InScope []) := by
  have hall : ∀ pair ∈ arguments, ∃ pair' : String × Descriptor, (pair'.1 = pair.1
      ∧ Descriptor.bind bindings pair.2 = .ok pair'.2)
      ∧ pair'.2.Everywhere (engine.InScope []) := by
    intro pair hm
    obtain ⟨d, hd, hs⟩ := (covered.part (List.mem_map_of_mem hm)).bind
    exact ⟨(pair.1, d), ⟨rfl, hd⟩, hs⟩
  obtain ⟨bound, h⟩ := exists_forall₂_iff.mpr hall
  refine ⟨bound, Descriptor.bindArguments_eq_ok_iff.mpr (h.imp fun _ _ given => given.1), ?_⟩
  intro pair' hm
  obtain ⟨_, _, _, hs⟩ := exists_of_forall₂_right h hm
  exact hs

theorem exists_formOfName? {name : String}
    (supplies : engine.Supplies name (bindings.map Prod.fst))
    : ∃ form, engine.formOfName? name bindings = some form := by
  simp only [Supplies] at supplies
  split at supplies
  · exact absurd supplies id
  · next a hl => exact ⟨.adapter name a, by simp only [formOfName?, hl]⟩
  · next schema hl =>
      have given : missingArgument? schema bindings = none := by
        refine List.find?_eq_none.mpr fun parameter hm => ?_
        obtain ⟨d, hd⟩ := Option.isSome_iff_exists.mp
          (Members.lookup_isSome_iff.mpr (supplies parameter hm))
        simp [hd]
      exact ⟨.record name schema bindings, by simp only [formOfName?, hl, given]⟩

/-- Something definite is asked of every node whose type is in scope. -/
theorem Covered.exists_form (covered : engine.Covered type bindings)
    : ∃ form, engine.form? type bindings = some form := by
  obtain ⟨shape, inner, hr, hcovered, hvar⟩ := covered.resolve
  obtain ⟨parameters, h, _⟩ := hcovered.exists_parameters
  simp only [form?, hr]
  cases shape with
  | var name => exact absurd rfl (hvar name)
  | named name => exact exists_formOfName? h.here
  | generic name arguments =>
      obtain ⟨bound, hb, _⟩ := hcovered.bindArguments
      simp only [hb]
      apply exists_formOfName?
      rw [Descriptor.names_of_bindArguments hb]
      exact h.here
  | _ => exact ⟨_, rfl⟩

/-- The parameters of a schema that lacks no argument are bound to the arguments. -/
theorem covered_of_missingArgument? {schema : Schema}
    (given : missingArgument? schema bindings = none)
    (bound : ∀ pair ∈ bindings, pair.2.Everywhere (engine.InScope []))
    (h : type.Everywhere (engine.InScope schema.parameters))
    : engine.Covered type bindings := by
  refine ⟨schema.parameters, h, fun name hm => ?_⟩
  have hl : (bindings.lookup name).isNone = false := by
    simpa using List.find?_eq_none.mp given name hm
  obtain ⟨d, hd⟩ := Option.isSome_iff_exists.mp (Option.isNone_eq_false_iff.mp hl)
  exact ⟨d, hd, bound _ (Members.mem_of_lookup hd)⟩

/-- Whatever is asked of the parts is in scope again. -/
theorem Covered.of_hands (fields : engine.FieldsInScope) (covered : engine.Covered type bindings)
    {form : Form} (known : engine.form? type bindings = some form) {type' : Descriptor}
    {bindings' : Bindings} (hands : form.Hands type' bindings')
    : engine.Covered type' bindings' := by
  obtain ⟨shape, inner, hr, hcovered, _⟩ := covered.resolve
  cases hands with
  | item =>
      cases hr.symm.trans (resolve_of_form?_list known)
      exact hcovered.part (by simp [Descriptor.parts])
  | entry =>
      cases hr.symm.trans (resolve_of_form?_map known)
      exact hcovered.part (by simp [Descriptor.parts])
  | field declared =>
      obtain ⟨hl, given, h⟩ := resolve_of_form?_record known
      refine covered_of_missingArgument? given ?_ (fields _ _ hl _ declared)
      rcases h with ⟨_, _, rfl⟩ | ⟨arguments, inner', hr', hb⟩
      · exact fun _ hm => absurd hm List.not_mem_nil
      · cases hr.symm.trans hr'
        obtain ⟨bound, hb', hall⟩ := hcovered.bindArguments
        cases hb.symm.trans hb'
        exact hall

-----------------------------------------------------------------------------------------
-- No error of scope
-----------------------------------------------------------------------------------------

theorem not_isScope_of_checkKey {name : String} {cause : ReadCause}
    (covered : engine.Covered type bindings)
    (h : engine.checkKey name type bindings = .error cause)
    : ¬ cause.IsScope := by
  have plain : ∀ {type bindings}, (∀ parameter, type ≠ .var parameter) →
      engine.checkKey name type bindings = .error cause → ¬ cause.IsScope := by
    intro type bindings hvar h
    rw [checkKey_of_not_var name hvar] at h
    split at h
    · cases h
    · obtain rfl := Except.error.inj h
      exact id
  obtain ⟨parameters, hscope, covers⟩ := covered.exists_parameters
  cases type with
  | var parameter =>
      obtain ⟨d, hl, hd⟩ := covers parameter hscope.here
      have hvar : ∀ parameter, d ≠ .var parameter := by
        rintro parameter rfl
        exact absurd hd.here List.not_mem_nil
      rw [checkKey_var name hl] at h
      exact plain hvar h
  | _ =>
      refine plain ?_ h
      intro _ he
      cases he

/-- Reading a node in the way of a form fails for a cause of the node's own, for a key, or where
reading a part fails. -/
theorem not_isScope_of_readWith {form : Form} {part : Walker Json Value ReadError} {json : Json}
    {e : ReadError}
    (keys : ∀ key type bindings, form = .map key type bindings →
      ∀ name cause, engine.checkKey name key bindings = .error cause → ¬ cause.IsScope)
    (parts : ∀ asked ∈ form.readParts json, ∀ e,
      part asked.1 asked.2.1 asked.2.2 = .error e → ¬ e.cause.IsScope)
    (h : form.readWith engine part json = .error e)
    : ¬ e.cause.IsScope := by
  cases Form.readFails_of_readWith h with
  | part asked failed =>
      have inside := parts _ asked.mem_readParts _ failed
      exact inside
  | key _ refused => exact keys _ _ _ rfl _ _ refused
  | undeclared | adapter | mismatch => exact id

/-- By induction on the tree: where the type is in scope, something definite is asked of the node,
and its parts are read as types that are in scope again. -/
theorem not_isScope_of_readNode (fields : engine.FieldsInScope) (json : Json)
    (covered : engine.Covered type bindings) {e : ReadError}
    (h : engine.readNode json type bindings = .error e)
    : ¬ e.cause.IsScope := by
  induction json using Json.byChildren generalizing type bindings e with
  | step json ih =>
      cases hn : json.isNull with
      | true =>
          cases json with
          | null =>
              rw [readNode_null] at h
              cases h
          | _ => cases hn
      | false =>
          obtain ⟨form, known⟩ := covered.exists_form
          rw [engine.readNode_of_form hn known] at h
          refine not_isScope_of_readWith ?_ ?_ h
          · rintro key type' inner rfl name cause hk
            obtain ⟨shape, inner', hr, hcovered, _⟩ := covered.resolve
            cases hr.symm.trans (resolve_of_form?_map known)
            exact not_isScope_of_checkKey (hcovered.part (by simp [Descriptor.parts])) hk
          · rintro ⟨node, type', inner⟩ hm e he
            obtain ⟨child, hands⟩ := Form.mem_readParts hm
            exact ih node child (covered.of_hands fields known hands) he

/-- Writing a value by its own shape looks up no type and no parameter, by induction on the
value. -/
theorem not_isScope_of_shapeFails {value : Value} {e : WriteError}
    (h : engine.ShapeFails value e)
    : ¬ e.cause.IsScope := by
  induction value using Value.byChildren generalizing e with
  | step value ih =>
      cases h with
      | @part _ child step e' first failed =>
          have inside : ¬ e'.cause.IsScope :=
            ih child first.mem_children (shapeFails_of_writeShape failed)
          exact inside
      | float | unsupported | adapter => exact id

/-- Writing a value in the way of a form fails for a cause of the value's own, or where writing a
part fails. -/
theorem not_isScope_of_writeWith {form : Form} {part : Walker Value Json WriteError}
    {value : Value} {e : WriteError}
    (parts : ∀ asked ∈ form.writeParts value, ∀ e,
      part asked.1 asked.2.1 asked.2.2 = .error e → ¬ e.cause.IsScope)
    (h : form.writeWith engine part value = .error e)
    : ¬ e.cause.IsScope := by
  cases Form.writeFails_of_writeWith h with
  | part asked failed =>
      have inside := parts _ asked.mem_writeParts _ failed
      exact inside
  | shape failed => exact not_isScope_of_shapeFails failed
  | float | adapter | mismatch => exact id

/-- By induction on the value, as for reading. -/
theorem not_isScope_of_writeNode (fields : engine.FieldsInScope) (value : Value)
    (covered : engine.Covered type bindings) {e : WriteError}
    (h : engine.writeNode value type bindings = .error e)
    : ¬ e.cause.IsScope := by
  induction value using Value.byChildren generalizing type bindings e with
  | step value ih =>
      cases hn : value.isNull with
      | true =>
          cases value with
          | null =>
              rw [writeNode_null] at h
              cases h
          | _ => cases hn
      | false =>
          obtain ⟨form, known⟩ := covered.exists_form
          rw [engine.writeNode_of_form hn known] at h
          refine not_isScope_of_writeWith ?_ h
          rintro ⟨node, type', inner⟩ hm e he
          obtain ⟨child, hands⟩ := Form.mem_writeParts hm
          exact ih node child (covered.of_hands fields known hands) he

/-- Where the type and the fields of all schemas are in scope, no tree is refused and no value is
refused because of a name that is unknown, a parameter that is not bound or an argument that is
missing. -/
theorem not_isScope_of_wellScoped {type : Descriptor} (wellScoped : engine.WellScoped type)
    : (∀ json e, engine.read json type = .error e → ¬ e.cause.IsScope)
        ∧ ∀ value e, engine.write value type = .error e → ¬ e.cause.IsScope := by
  have covered : engine.Covered type [] := covered_of_everywhere wellScoped.type
  constructor
  · intro json e h
    exact not_isScope_of_readNode wellScoped.fields json covered h
  · intro value e h
    exact not_isScope_of_writeNode wellScoped.fields value covered h

/-- A box of something, with a box of lists of it inside, and so on. -/
def boxSchema : Schema where
  name := "Box"
  parameters := ["T"]
  fields := [("content", .var "T"), ("next", .generic "Box" [("T", .list (.var "T"))])]

/-- An engine for boxes. -/
def boxes : Engine where
  registry := [("Box", .object boxSchema)]

theorem supplies_box : boxes.Supplies "Box" ["T"] := by
  simp [Supplies, boxes, boxSchema]

theorem wellScoped_boxes : boxes.WellScoped (.generic "Box" [("T", .string)]) := by
  constructor
  · exact .intro supplies_box (by simpa [Descriptor.parts] using .leaf trivial rfl)
  · intro name schema known field declared
    have hname : (name, Entry.object schema) ∈ boxes.registry := Members.mem_of_lookup known
    obtain ⟨rfl, rfl⟩ : name = "Box" ∧ schema = boxSchema := by simpa [boxes] using hname
    have hvar : (Descriptor.var "T").Everywhere (boxes.InScope ["T"]) :=
      .leaf (by simp [InScope]) rfl
    have hlist : (Descriptor.list (.var "T")).Everywhere (boxes.InScope ["T"]) :=
      .intro trivial (by simpa [Descriptor.parts] using hvar)
    simp only [boxSchema, List.mem_cons, List.not_mem_nil, or_false] at declared
    rcases declared with rfl | rfl
    · exact hvar
    · refine .intro supplies_box fun part mem => ?_
      obtain rfl := List.mem_singleton.mp mem
      exact hlist

/-- Boxes are in scope though each holds a box of another type; a box may be refused, but not for
its types. -/
theorem not_isScope_of_wellScoped_boxes
    : boxes.WellScoped (.generic "Box" [("T", .string)])
        ∧ (∀ json e, boxes.read json (.generic "Box" [("T", .string)]) = .error e →
          ¬ e.cause.IsScope)
        ∧ ∀ value e, boxes.write value (.generic "Box" [("T", .string)]) = .error e →
          ¬ e.cause.IsScope :=
  ⟨wellScoped_boxes, not_isScope_of_wellScoped wellScoped_boxes⟩

end Engine

end TypedJson
