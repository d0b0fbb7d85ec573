import TypedJson.Proofs.Descriptor.Parts
import TypedJson.Proofs.Engine.Steps

/-!
Reading and writing under bindings. It comes to the same as putting what the parameters stand for
in their places first, and then reading and writing without bindings; only the shape that an
error names as expected may have been written with parameters or without.
-/

namespace TypedJson

open Descriptor (ClosedBindings)

-----------------------------------------------------------------------------------------
-- Errors but for what was expected
-----------------------------------------------------------------------------------------

/-- The causes are the same but for what was expected in place of the same thing found. -/
inductive ReadCause.Alike : ReadCause → ReadCause → Prop where
  | refl (cause : ReadCause) : Alike cause cause
  | mismatch (expected expected' : Expected) (found : Kind)
    : Alike (.mismatch expected found) (.mismatch expected' found)

/-- The errors are at the same place, and their causes are alike. -/
structure ReadError.Alike (e e' : ReadError) : Prop where
  path : e'.path = e.path
  cause : e.cause.Alike e'.cause

theorem ReadError.Alike.refl (e : ReadError) : e.Alike e :=
  ⟨rfl, .refl e.cause⟩

theorem ReadError.Alike.under (step : Json.Step) (e e' : ReadError) (h : e.Alike e')
    : (e.under step).Alike (e'.under step) :=
  ⟨congrArg (step :: ·) h.path, h.cause⟩

/-- The causes are the same but for what was expected in place of the same thing found. -/
inductive WriteCause.Alike : WriteCause → WriteCause → Prop where
  | refl (cause : WriteCause) : Alike cause cause
  | mismatch (expected expected' : Expected) (found : Kind)
    : Alike (.mismatch expected found) (.mismatch expected' found)

/-- The errors are at the same place, and their causes are alike. -/
structure WriteError.Alike (e e' : WriteError) : Prop where
  path : e'.path = e.path
  cause : e.cause.Alike e'.cause

theorem WriteError.Alike.refl (e : WriteError) : e.Alike e :=
  ⟨rfl, .refl e.cause⟩

theorem WriteError.Alike.under (step : Json.Step) (e e' : WriteError) (h : e.Alike e')
    : (e.under step).Alike (e'.under step) :=
  ⟨congrArg (step :: ·) h.path, h.cause⟩

-----------------------------------------------------------------------------------------
-- Schemas and their fields
-----------------------------------------------------------------------------------------

/-- The schema with the bindings put in the place of its parameters in every field. -/
structure Schema.Instance (b : Bindings) (schema flat : Schema) : Prop where
  name : flat.name = schema.name
  parameters : flat.parameters = []
  fields : Descriptor.bindArguments b schema.fields = .ok flat.fields

/-- The fields that have a node are the same ones after binding, by induction on the fields. -/
theorem Part.pick_bindArguments {α : Type} (isNull : α → Bool) (members : List (String × α))
    {b : Bindings} {fields bound : List (String × Descriptor)}
    (h : Descriptor.bindArguments b fields = .ok bound)
    : List.Forall₂ (fun part part' : Part α => part'.name = part.name ∧ part'.node = part.node
        ∧ Descriptor.bind b part.type = .ok part'.type)
        (Part.pick isNull members fields) (Part.pick isNull members bound) := by
  rw [Descriptor.bindArguments_eq_ok_iff] at h
  induction h with
  | nil => exact .nil
  | @cons field field' rest rest' head _ ih =>
      obtain ⟨hname, hd⟩ := head
      simp only [Part.pick, List.filterMap_cons, hname]
      cases members.lookup field.1 with
      | none => exact ih
      | some node =>
          cases hn : isNull node with
          | true => simpa [hn, Part.pick] using ih
          | false => simpa [hn, Part.pick] using ⟨hd, ih⟩

namespace Engine

variable {engine : Engine} {type bound : Descriptor} {b : Bindings}

-----------------------------------------------------------------------------------------
-- Binding first
-----------------------------------------------------------------------------------------

theorem readNode_congr (json : Json) {type' : Descriptor} {b' : Bindings}
    (same : type.resolve b = type'.resolve b')
    : engine.readNode json type b = engine.readNode json type' b' := by
  rw [readNode.eq_def, same, ← readNode.eq_def]

theorem readNode_generic_congr (json : Json) (name : String)
    {arguments arguments' : List (String × Descriptor)} {b' : Bindings}
    (same : Descriptor.bindArguments b arguments = Descriptor.bindArguments b' arguments')
    : engine.readNode json (.generic name arguments) b
        = engine.readNode json (.generic name arguments') b' := by
  rw [readNode.eq_def, readNode.eq_def]
  simp only [Descriptor.resolve, same]

/-- Nodes are read alike if what is asked of them is met alike. -/
theorem readNode_agrees {json : Json} {type' : Descriptor} {b' : Bindings} {form form' : Form}
    (known : engine.form? type b = some form) (known' : engine.form? type' b' = some form')
    (h : Agrees ReadError.Alike (form.readWith engine engine.readNode json)
      (form'.readWith engine engine.readNode json))
    : Agrees ReadError.Alike (engine.readNode json type b) (engine.readNode json type' b') := by
  cases hn : json.isNull with
  | true =>
      cases json with
      | null => exact .of_eq .refl (by rw [readNode_null, readNode_null])
      | _ => cases hn
  | false => rwa [engine.readNode_of_form hn known, engine.readNode_of_form hn known']

/-- A key is checked alike before and after binding; a type that only binding changes inside
accepts no key at all. -/
theorem checkKey_bind (closed : ClosedBindings b) (hb : Descriptor.bind b type = .ok bound)
    (name : String)
    : Agrees ReadCause.Alike (engine.checkKey name type b) (engine.checkKey name bound []) := by
  have hbound := Descriptor.Everywhere.here (closed.closed_of_bind hb)
  rw [checkKey_of_not_var name hbound]
  cases type with
  | var parameter =>
      have hl := Descriptor.bind_var_eq_ok_iff.mp hb
      rw [checkKey_var name hl, checkKey_of_not_var name hbound]
      exact .refl .refl _
  | list item =>
      obtain ⟨item', _, rfl⟩ := Descriptor.bind_list_eq_ok_iff.mp hb
      exact .error (.mismatch _ _ _)
  | map key value =>
      obtain ⟨key', value', _, _, rfl⟩ := Descriptor.bind_map_eq_ok_iff.mp hb
      exact .error (.mismatch _ _ _)
  | generic head arguments =>
      obtain ⟨arguments', _, rfl⟩ := Descriptor.bind_generic_eq_ok_iff.mp hb
      exact .error (.mismatch _ _ _)
  | _ =>
      obtain rfl := Except.ok.inj hb
      exact .refl .refl _

/-- Reading under bindings comes to the same as binding first, by induction on the type: a list
and a map hand their bindings down, a parameter and a name leave them behind. -/
theorem readNode_bind (closed : ClosedBindings b) (hb : Descriptor.bind b type = .ok bound)
    (json : Json)
    : Agrees ReadError.Alike (engine.readNode json type b) (engine.readNode json bound []) := by
  induction type using Descriptor.byParts generalizing bound json with
  | step type ih =>
      cases type with
      | var name =>
          have hl := Descriptor.bind_var_eq_ok_iff.mp hb
          exact .of_eq .refl (readNode_congr json (resolve_var hl))
      | list item =>
          obtain ⟨item', hi, rfl⟩ := Descriptor.bind_list_eq_ok_iff.mp hb
          refine readNode_agrees rfl rfl ?_
          cases json with
          | array items =>
              refine (Walker.agrees_items ReadError.Alike.under ?_).map _
              exact List.forall₂_same.mpr fun node _ => ih item (by simp [Descriptor.parts]) hi node
          | _ => exact .error ⟨rfl, .mismatch _ _ _⟩
      | map key value =>
          obtain ⟨key', value', hk, hv, rfl⟩ := Descriptor.bind_map_eq_ok_iff.mp hb
          refine readNode_agrees rfl rfl ?_
          cases json with
          | object members =>
              have checks : ∀ name, Agrees ReadError.Alike
                  ((engine.checkKey name key b).mapError (ReadError.mk [.key name]))
                  ((engine.checkKey name key' []).mapError (ReadError.mk [.key name])) :=
                fun name => (checkKey_bind closed hk name).mapError fun _ _ h => ⟨rfl, h⟩
              refine (Walker.agrees_entries ReadError.Alike.under ?_).map _
              exact List.forall₂_same.mpr fun entry _ =>
                ⟨rfl, checks entry.1, ih value (by simp [Descriptor.parts]) hv entry.2⟩
          | _ => exact .error ⟨rfl, .mismatch _ _ _⟩
      | generic name arguments =>
          obtain ⟨arguments', ha, rfl⟩ := Descriptor.bind_generic_eq_ok_iff.mp hb
          have same := (closed.bindArguments ha).bindArguments_eq []
          exact .of_eq .refl (readNode_generic_congr json name (ha.trans same.symm))
      | _ =>
          obtain rfl := Except.ok.inj hb
          refine .of_eq .refl ?_
          rw [readNode.eq_def, readNode.eq_def]
          rfl

theorem writeNode_congr (value : Value) {type' : Descriptor} {b' : Bindings}
    (same : type.resolve b = type'.resolve b')
    : engine.writeNode value type b = engine.writeNode value type' b' := by
  rw [writeNode.eq_def, same, ← writeNode.eq_def]

theorem writeNode_generic_congr (value : Value) (name : String)
    {arguments arguments' : List (String × Descriptor)} {b' : Bindings}
    (same : Descriptor.bindArguments b arguments = Descriptor.bindArguments b' arguments')
    : engine.writeNode value (.generic name arguments) b
        = engine.writeNode value (.generic name arguments') b' := by
  rw [writeNode.eq_def, writeNode.eq_def]
  simp only [Descriptor.resolve, same]

/-- Values are written alike if what is asked of them is met alike. -/
theorem writeNode_agrees {value : Value} {type' : Descriptor} {b' : Bindings} {form form' : Form}
    (known : engine.form? type b = some form) (known' : engine.form? type' b' = some form')
    (h : Agrees WriteError.Alike (form.writeWith engine engine.writeNode value)
      (form'.writeWith engine engine.writeNode value))
    : Agrees WriteError.Alike (engine.writeNode value type b)
        (engine.writeNode value type' b') := by
  cases hn : value.isNull with
  | true =>
      cases value with
      | null => exact .of_eq .refl (by rw [writeNode_null, writeNode_null])
      | _ => cases hn
  | false => rwa [engine.writeNode_of_form hn known, engine.writeNode_of_form hn known']

/-- Writing under bindings comes to the same as binding first, by induction on the type. -/
theorem writeNode_bind (closed : ClosedBindings b) (hb : Descriptor.bind b type = .ok bound)
    (value : Value)
    : Agrees WriteError.Alike (engine.writeNode value type b)
        (engine.writeNode value bound []) := by
  induction type using Descriptor.byParts generalizing bound value with
  | step type ih =>
      cases type with
      | var name =>
          have hl := Descriptor.bind_var_eq_ok_iff.mp hb
          exact .of_eq .refl (writeNode_congr value (resolve_var hl))
      | list item =>
          obtain ⟨item', hi, rfl⟩ := Descriptor.bind_list_eq_ok_iff.mp hb
          refine writeNode_agrees rfl rfl ?_
          cases value with
          | array items =>
              refine (Walker.agrees_items WriteError.Alike.under ?_).map _
              exact List.forall₂_same.mpr fun node _ => ih item (by simp [Descriptor.parts]) hi node
          | _ => exact .error ⟨rfl, .mismatch _ _ _⟩
      | map key item =>
          obtain ⟨key', item', hk, hv, rfl⟩ := Descriptor.bind_map_eq_ok_iff.mp hb
          refine writeNode_agrees rfl rfl ?_
          cases value with
          | map entries =>
              refine (Walker.agrees_entries WriteError.Alike.under ?_).map _
              exact List.forall₂_same.mpr fun entry _ =>
                ⟨rfl, .ok (), ih item (by simp [Descriptor.parts]) hv entry.2⟩
          | _ => exact .error ⟨rfl, .mismatch _ _ _⟩
      | generic name arguments =>
          obtain ⟨arguments', ha, rfl⟩ := Descriptor.bind_generic_eq_ok_iff.mp hb
          have same := (closed.bindArguments ha).bindArguments_eq []
          exact .of_eq .refl (writeNode_generic_congr value name (ha.trans same.symm))
      | _ =>
          obtain rfl := Except.ok.inj hb
          refine .of_eq .refl ?_
          rw [writeNode.eq_def, writeNode.eq_def]
          rfl

-----------------------------------------------------------------------------------------
-- The bindings of a run
-----------------------------------------------------------------------------------------

theorem bindings_of_resolve {shape : Descriptor} {inner : Bindings}
    (h : type.resolve b = .ok (shape, inner))
    : inner = b ∨ inner = [] := by
  rcases resolve_cases h with ⟨_, hinner⟩ | ⟨_, _, _, hinner⟩
  · exact .inl hinner
  · exact .inr hinner

/-- The bindings for the arguments of a generic type, which a node of the type is read or written
with. -/
def Builds (type : Descriptor) (b built : Bindings) : Prop :=
  ∃ name arguments inner, type.resolve b = .ok (.generic name arguments, inner)
    ∧ Descriptor.bindArguments inner arguments = .ok built

/-- A run from the given node, its type and no bindings comes to the node with this type and
these bindings. From each node it goes on to the parts that are told, which for reading and
writing are all that the node's outcome depends on. -/
inductive Reaches {α : Type} (engine : Engine)
    (parts : Form → α → List (α × Descriptor × Bindings)) (start : α) (type : Descriptor)
    : α → Descriptor → Bindings → Prop where
  | start : Reaches engine parts start type start type []
  | part {node : α} {type' : Descriptor} {b : Bindings} {form : Form}
    {asked : α × Descriptor × Bindings}
    (before : Reaches engine parts start type node type' b)
    (known : engine.form? type' b = some form)
    (mem : asked ∈ parts form node)
    : Reaches engine parts start type asked.1 asked.2.1 asked.2.2

theorem closed_of_resolve {shape : Descriptor} {inner : Bindings} (closed : ClosedBindings b)
    (h : type.resolve b = .ok (shape, inner))
    : ClosedBindings inner := by
  rcases bindings_of_resolve h with rfl | rfl
  · exact closed
  · exact Descriptor.closedBindings_nil

theorem closed_of_builds {built : Bindings} (closed : ClosedBindings b) (h : Builds type b built)
    : ClosedBindings built := by
  obtain ⟨name, arguments, inner, hr, hb⟩ := h
  exact (closed_of_resolve closed hr).bindArguments hb

/-- What the parts of a node are given has no parameters if what the node was given has none. -/
theorem closed_of_hands (closed : ClosedBindings b) {form : Form}
    (known : engine.form? type b = some form) {type' : Descriptor} {b' : Bindings}
    (hands : form.Hands type' b')
    : ClosedBindings b' := by
  cases hands with
  | item => exact closed_of_resolve closed (resolve_of_form?_list known)
  | entry => exact closed_of_resolve closed (resolve_of_form?_map known)
  | field =>
      rcases (resolve_of_form?_record known).2.2 with ⟨_, _, rfl⟩ | ⟨arguments, inner, hr, hb⟩
      · exact Descriptor.closedBindings_nil
      · exact closed_of_builds closed ⟨_, arguments, inner, hr, hb⟩

/-- In a whole run no bindings hold a parameter, by induction on the way to the node. -/
theorem closed_of_reaches {α : Type} {parts : Form → α → List (α × Descriptor × Bindings)}
    (hands : ∀ form node, ∀ asked ∈ parts form node, form.Hands asked.2.1 asked.2.2)
    {start node : α} {type' : Descriptor} (h : engine.Reaches parts start type node type' b)
    : ClosedBindings b := by
  induction h with
  | start => exact Descriptor.closedBindings_nil
  | part _ known mem ih => exact closed_of_hands ih known (hands _ _ _ mem)

-----------------------------------------------------------------------------------------
-- Schemas with their arguments in place
-----------------------------------------------------------------------------------------

theorem undeclared?_congr {α : Type} {schema flat : Schema} (members : List (String × α))
    (names : flat.fields.map Prod.fst = schema.fields.map Prod.fst)
    : undeclared? flat members = undeclared? schema members := by
  have hnone : ∀ property, (flat.fields.lookup property).isNone
      = (schema.fields.lookup property).isNone := by
    intro property
    rw [Bool.eq_iff_iff, Option.isNone_iff_eq_none, Option.isNone_iff_eq_none,
      Members.lookup_eq_none_iff, Members.lookup_eq_none_iff, names]
  simp only [undeclared?, hnone]

variable {name : String} {schema flat : Schema}

/-- A record of a generic schema is read as one of the schema with its arguments in place. -/
theorem readWith_instance (closed : ClosedBindings b) (inst : schema.Instance b flat) (json : Json)
    : Agrees ReadError.Alike
        ((Form.record name schema b).readWith engine engine.readNode json)
        ((Form.record name flat []).readWith engine engine.readNode json) := by
  cases json with
  | object members =>
      have names := Descriptor.names_of_bindArguments inst.fields
      simp only [Form.readWith, undeclared?_congr members names, inst.name]
      split
      · exact .refl .refl _
      · refine (Walker.agrees_fields ReadError.Alike.under ?_).map _
        refine (Part.pick_bindArguments Json.isNull members inst.fields).imp ?_
        intro part part' given
        rcases given with ⟨hname, hnode, hd⟩
        rw [hnode]
        exact ⟨hname, readNode_bind closed hd part.node⟩
  | _ => exact .error (.refl _)

/-- A record of a generic schema is written as one of the schema with its arguments in place. -/
theorem writeWith_instance (closed : ClosedBindings b) (inst : schema.Instance b flat)
    (value : Value)
    : Agrees WriteError.Alike
        ((Form.record name schema b).writeWith engine engine.writeNode value)
        ((Form.record name flat []).writeWith engine engine.writeNode value) := by
  simp only [Form.writeWith]
  split
  · next entries _ =>
      refine (Walker.agrees_fields WriteError.Alike.under ?_).map _
      refine (Part.pick_bindArguments Value.isNull entries inst.fields).imp ?_
      intro part part' given
      rcases given with ⟨hname, hnode, hd⟩
      rw [hnode]
      exact ⟨hname, writeNode_bind closed hd part.node⟩
  · exact .refl .refl _

theorem form?_generic {arguments : List (String × Descriptor)}
    (known : engine.registry.lookup name = some (.object schema)) {bound : Bindings}
    (hb : Descriptor.bindArguments b arguments = .ok bound)
    (given : missingArgument? schema bound = none)
    : engine.form? (.generic name arguments) b = some (.record name schema bound) := by
  simp only [form?, Descriptor.resolve, hb, formOfName?, known, given]

/-- Reading and writing under bindings agree with putting what is bound in its place first. The
bindings hold no parameters themselves; in a run that begins without bindings all bindings are
such; and so a generic schema with its arguments is read and written as the schema with the
arguments put into its fields. -/
theorem agrees_with_binding (engine : Engine)
    : (∀ b type bound, ClosedBindings b → Descriptor.bind b type = .ok bound →
          (∀ json, Agrees ReadError.Alike (engine.readNode json type b)
            (engine.readNode json bound []))
          ∧ ∀ value, Agrees WriteError.Alike (engine.writeNode value type b)
              (engine.writeNode value bound []))
        ∧ (∀ json type node type' b, engine.Reaches Form.readParts json type node type' b →
            ClosedBindings b ∧ ∀ built, Builds type' b built → ClosedBindings built)
        ∧ (∀ value type node type' b, engine.Reaches Form.writeParts value type node type' b →
            ClosedBindings b ∧ ∀ built, Builds type' b built → ClosedBindings built)
        ∧ ∀ name schema flat arguments b bound,
            engine.registry.lookup name = some (.object schema) → ClosedBindings b →
            Descriptor.bindArguments b arguments = .ok bound →
            missingArgument? schema bound = none → schema.Instance bound flat →
              (∀ json, json.isNull = false →
                Agrees ReadError.Alike (engine.readNode json (.generic name arguments) b)
                  ((Form.record name flat []).readWith engine engine.readNode json))
              ∧ ∀ value, value.isNull = false →
                Agrees WriteError.Alike (engine.writeNode value (.generic name arguments) b)
                  ((Form.record name flat []).writeWith engine engine.writeNode value) := by
  refine ⟨?_, ?_, ?_, ?_⟩
  · intro b type bound closed hb
    exact ⟨readNode_bind closed hb, writeNode_bind closed hb⟩
  · intro json type node type' b reached
    have closed := closed_of_reaches (fun _ _ _ mem => (Form.mem_readParts mem).2) reached
    exact ⟨closed, fun _ => closed_of_builds closed⟩
  · intro value type node type' b reached
    have closed := closed_of_reaches (fun _ _ _ mem => (Form.mem_writeParts mem).2) reached
    exact ⟨closed, fun _ => closed_of_builds closed⟩
  · intro name schema flat arguments b bound known closed hb given inst
    have form := form?_generic known hb given
    have bound := closed.bindArguments hb
    constructor
    · intro json present
      rw [engine.readNode_of_form present form]
      exact readWith_instance bound inst json
    · intro value present
      rw [engine.writeNode_of_form present form]
      exact writeWith_instance bound inst value

/-- Rows of some type, each with a row of lists of it behind it. -/
def rowSchema : Schema where
  name := "Row"
  parameters := ["T"]
  fields := [("cells", .list (.var "T")), ("next", .generic "Row" [("T", .list (.var "T"))])]

/-- Rows of integers. -/
def integerRowSchema : Schema where
  name := "Row"
  fields := [("cells", .list .integer), ("next", .generic "Row" [("T", .list .integer)])]

/-- An engine for rows. -/
def rows : Engine where
  registry := [("Row", .object rowSchema)]

theorem closed_integer : ClosedBindings [("T", .integer)] := by
  intro pair mem
  obtain rfl := List.mem_singleton.mp mem
  exact .leaf (fun _ h => nomatch h) rfl

/-- Lists of the parameter are read alike under a binding and with the type in its place, and so
are rows; reading a row binds the parameter to a type without parameters. -/
theorem agrees_with_binding_rows
    : (∀ json, Agrees ReadError.Alike (rows.readNode json (.list (.var "T")) [("T", .integer)])
        (rows.readNode json (.list .integer) []))
        ∧ ClosedBindings [("T", .integer)]
        ∧ ∀ json, json.isNull = false →
          Agrees ReadError.Alike (rows.readNode json (.generic "Row" [("T", .integer)]) [])
            ((Form.record "Row" integerRowSchema []).readWith rows rows.readNode json) := by
  have all := agrees_with_binding rows
  have known : rows.registry.lookup "Row" = some (.object rowSchema) := rfl
  have reached : rows.Reaches Form.readParts (.object []) (.generic "Row" [("T", .integer)])
      (.object []) (.generic "Row" [("T", .integer)]) [] := .start
  refine ⟨?_, ?_, ?_⟩
  · exact (all.1 [("T", .integer)] _ _ closed_integer rfl).1
  · exact (all.2.1 _ _ _ _ _ reached).2 _ ⟨"Row", _, [], rfl, rfl⟩
  · exact (all.2.2.2 "Row" rowSchema integerRowSchema [("T", .integer)] [] _ known
      Descriptor.closedBindings_nil rfl (by decide) ⟨rfl, rfl, rfl⟩).1

end Engine

end TypedJson
