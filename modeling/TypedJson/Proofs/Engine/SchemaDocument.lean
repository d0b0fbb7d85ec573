import TypedJson.Engine.SchemaDocument
import TypedJson.Proofs.Descriptor.RoundTrip
import TypedJson.Proofs.Engine.Builder
import TypedJson.Proofs.Typed.Record

/-!
Schemas in documents. A schema is read from its own tree, and from what is written for the tree on
one line or on many, just when the types of its fields are printable; otherwise it is refused for
what the parser has to say against one of them.
-/

namespace TypedJson

-----------------------------------------------------------------------------------------
-- Types of fields
-----------------------------------------------------------------------------------------

namespace Descriptor

open Json

theorem skipsBlanks_reader (depth : Nat) : Reader.SkipsBlanks (reader depth) := by
  intro first second h
  have same : Typed.string depth first = Typed.string depth second :=
    Typed.skipsBlanks_atValue _ first second h
  rw [reader, reader, same]

/-- A type is read from the string of its text, or is refused for what the parser says. -/
theorem yields_reader {d : Descriptor} {reason : Cause → Prop} {rest : List Symbol}
    (ordered : d.Everywhere InOrder)
    (reasons : ∀ e, ofText d.text = .error e → reason (.rejection (.refused e.message)))
    (depth : Nat)
    : Reader.Yields (reader depth) (writeString d.text) (¬ d.Printable) reason d rest := by
  have string : ∀ place, Typed.string depth (.at place (writeString d.text) rest)
      = .ok (d.text, ⟨place.behind (writeString d.text), rest⟩) := Typed.takes_string depth d.text
  refine ⟨fun printable place => ?_, fun unprintable place => ?_⟩
  · have read := ofText_text_of_printable ordered (not_not.mp printable)
    simp only [reader, string, ok_bind, ofString, read, Except.mapError]
  · obtain ⟨e, he⟩ := exists_error_of_not_printable ordered unprintable
    simp only [reader, string, ok_bind, ofString, he, Except.mapError]
    exact ⟨_, rfl, reasons e he⟩

end Descriptor

namespace Schema

open Json

/-- The types of all fields have texts of their own. -/
def Printable (schema : Schema) : Prop :=
  ∀ field ∈ schema.fields, field.2.Printable

/-- Reading stops for what the parser says against the type of one of the fields. -/
def RefusedFor (schema : Schema) (cause : Cause) : Prop :=
  ∃ field ∈ schema.fields, ∃ e, Descriptor.ofText field.2.text = .error e
    ∧ cause = .rejection (.refused e.message)

theorem withFields_fields (schema : Schema) : schema.withFields schema.fields = schema := by
  obtain ⟨name, parameters, fields, distinct⟩ := schema
  simp only [withFields, Members.ofList_of_distinct distinct]

theorem exists_not_printable {schema : Schema} (h : ¬ schema.Printable)
    : ∃ field ∈ schema.fields, ¬ field.2.Printable := by
  simpa [Printable] using h

-----------------------------------------------------------------------------------------
-- Trees
-----------------------------------------------------------------------------------------

/-- The members of a schema's tree. -/
theorem toJson_eq (schema : Schema)
    : schema.toJson = .object
        (("name", .string schema.name)
          :: (if schema.parameters = [] then []
            else [("params", .array (schema.parameters.map .string))])
          ++ [("fields", .object (schema.fields.map fun field => (field.1, field.2.toJson)))]) := by
  cases h : schema.parameters <;> simp [toJson, h]

/-- The schema is read from its tree with the types that the texts of its types stand for. -/
theorem readTree_toJson (schema : Schema)
    : layout.readTree schema.toJson
        = (schema.fields.mapM fun field =>
            (Descriptor.ofString field.2.text).map fun type => (field.1, type)).map
              schema.withFields := by
  obtain ⟨name, parameters, fields, distinct⟩ := schema
  let types : Json := .object (fields.map fun field => (field.1, field.2.toJson))
  have readTypes : Typed.treeMembers Descriptor.treeReader types
      = fields.mapM fun field =>
          (Descriptor.ofString field.2.text).map fun type => (field.1, type) := by
    rw [Typed.treeMembers, List.mapM_map]
    rfl
  have readParameters : Typed.treeList Typed.treeString (.array (parameters.map .string))
      = .ok parameters := by
    rw [Typed.treeList, mapM_eq_ok_iff, List.forall₂_map_left_iff, List.forall₂_same]
    exact fun _ _ => rfl
  have ofName : ∀ others, layout.readTreeMembers (("name", .string name) :: others)
      ([], layout.empty) = layout.readTreeMembers others (["name"], { name }) := fun _ => rfl
  have ofParameters : ∀ others seen,
      layout.readTreeMembers (("params", .array (parameters.map .string)) :: others)
          (seen, { name })
        = layout.readTreeMembers others ("params" :: seen, { name, parameters }) := by
    intro others seen
    rw [Typed.Layout.readTreeMembers_cons rfl, readParameters]
    rfl
  have ofFields : ∀ seen schema, layout.readTreeMembers [("fields", types)] (seen, schema)
      = ((Typed.treeMembers Descriptor.treeReader types).map schema.withFields).map
          fun schema => ("fields" :: seen, schema) := by
    intro seen schema
    rw [Typed.Layout.readTreeMembers_cons rfl]
    cases Typed.treeMembers Descriptor.treeReader types <;> rfl
  rw [toJson_eq, ← readTypes]
  by_cases none : parameters = []
  · subst none
    have reads := (ofName _).trans (ofFields ["name"] _)
    exact Typed.Layout.readTree_of_members reads rfl
  · rw [if_neg none]
    have reads := ((ofName _).trans (ofParameters _ _)).trans (ofFields ["params", "name"] _)
    exact Typed.Layout.readTree_of_members reads rfl

/-- A schema is read back from its tree when the types of its fields are printable. -/
theorem readTree_toJson_of_printable {schema : Schema}
    (ordered : ∀ field ∈ schema.fields, field.2.Everywhere Descriptor.InOrder)
    (printable : schema.Printable)
    : layout.readTree schema.toJson = .ok schema := by
  have fields : (schema.fields.mapM fun field =>
      (Descriptor.ofString field.2.text).map fun type => (field.1, type)) = .ok schema.fields := by
    rw [mapM_eq_ok_iff, List.forall₂_same]
    intro field hm
    have read := Descriptor.ofText_text_of_printable (ordered field hm) (printable field hm)
    rw [Descriptor.ofString, read]
    rfl
  rw [readTree_toJson, fields]
  exact congrArg Except.ok schema.withFields_fields

/-- A tree with a type that is not printable is refused for what the parser says, against this type
or another one. -/
theorem readTree_toJson_of_not_printable {schema : Schema}
    (ordered : ∀ field ∈ schema.fields, field.2.Everywhere Descriptor.InOrder)
    (unprintable : ¬ schema.Printable)
    : ∃ rejection, layout.readTree schema.toJson = .error rejection
        ∧ schema.RefusedFor (.rejection rejection) := by
  rw [readTree_toJson]
  cases h : schema.fields.mapM fun field =>
      (Descriptor.ofString field.2.text).map fun type => (field.1, type) with
  | error rejection =>
      obtain ⟨field, hm, h⟩ := exists_of_mapM_eq_error h
      obtain ⟨e, he, rfl⟩ := mapError_eq_error_iff.mp (map_eq_error_iff.mp h)
      exact ⟨_, rfl, field, hm, e, he, rfl⟩
  | ok fields =>
      obtain ⟨field, hm, hfield⟩ := exists_not_printable unprintable
      obtain ⟨e, he⟩ := Descriptor.exists_error_of_not_printable (ordered field hm) hfield
      obtain ⟨read, _, hread⟩ := exists_of_forall₂_left (mapM_eq_ok_iff.mp h) hm
      simp [Descriptor.ofString, he, Except.mapError, Except.map] at hread

-----------------------------------------------------------------------------------------
-- Documents
-----------------------------------------------------------------------------------------

/-- The last member of a schema's tree gives the schema its fields, unless the type of one of them
is not printable. -/
theorem collects_fields (schema : Schema)
    (ordered : ∀ field ∈ schema.fields, field.2.Everywhere Descriptor.InOrder)
    (document : Json.Layout) (depth : Nat) (seen : List String) (fresh : "fields" ∉ seen)
    : Reader.Collects (layout.member (depth + 1)) document schema.RefusedFor
        [("fields", .object (schema.fields.map fun field => (field.1, field.2.toJson)))]
        (¬ schema.Printable) (seen, { name := schema.name, parameters := schema.parameters })
        ("fields" :: seen, schema) := by
  have types : ∀ rest, Reader.Yields (Typed.members Descriptor.reader (depth + 1))
      (write document (.object (schema.fields.map fun field => (field.1, field.2.toJson))))
      (∃ field ∈ schema.fields, ¬ field.2.Printable) schema.RefusedFor schema.fields rest :=
    fun rest => Typed.yields_members document schema.distinct
      (Descriptor.skipsBlanks_reader depth) fun field hm _ _ =>
        Descriptor.yields_reader (ordered field hm)
          (fun e he => ⟨field, hm, e, he, rfl⟩) depth
  have collects : Reader.Collects (layout.member (depth + 1)) document schema.RefusedFor
      [("fields", .object (schema.fields.map fun field => (field.1, field.2.toJson)))]
      ((∃ field ∈ schema.fields, ¬ field.2.Printable) ∨ False)
      (seen, { name := schema.name, parameters := schema.parameters })
      ("fields" :: seen, schema.withFields schema.fields) :=
    Typed.Layout.collects_cons rfl fresh (Typed.skipsBlanks_of Typed.skipsBlanks_members)
      (fun rest => Typed.yields_of (types rest)) (.nil _)
  rw [withFields_fields] at collects
  exact collects.congr (by simp [Printable])

/-- The members of a schema's tree are read into the schema, each by the field of its name, unless
the type of one of the schema's fields is not printable. -/
theorem collects_members (schema : Schema)
    (ordered : ∀ field ∈ schema.fields, field.2.Everywhere Descriptor.InOrder)
    (document : Json.Layout) (depth : Nat)
    : ∃ seen members, schema.toJson = .object members ∧ layout.missing? seen = none
        ∧ Reader.Collects (layout.member (depth + 1)) document schema.RefusedFor members
            (¬ schema.Printable) ([], layout.empty) (seen, schema) := by
  have ofName : ∀ {others barred final},
      Reader.Collects (layout.member (depth + 1)) document schema.RefusedFor others barred
        (["name"], { name := schema.name }) final →
      Reader.Collects (layout.member (depth + 1)) document schema.RefusedFor
        (("name", .string schema.name) :: others) (False ∨ barred) ([], layout.empty) final :=
    fun tail => Typed.Layout.collects_cons rfl List.not_mem_nil
      (Typed.skipsBlanks_of (Typed.skipsBlanks_atValue _))
      (fun _ => Typed.yields_of (.of_takes (Typed.takes_string _ schema.name) not_false)) tail
  have parameters : ∀ rest, Reader.Yields (Typed.list Typed.string (depth + 1))
      (write document (.array (schema.parameters.map .string))) (∃ _ ∈ schema.parameters, False)
      schema.RefusedFor schema.parameters rest := fun rest =>
    Typed.yields_list document fun parameter _ _ _ =>
      .of_takes (Typed.takes_string depth parameter) not_false
  have ofParameters : ∀ {others barred final},
      Reader.Collects (layout.member (depth + 1)) document schema.RefusedFor others barred
        (["params", "name"], { name := schema.name, parameters := schema.parameters }) final →
      Reader.Collects (layout.member (depth + 1)) document schema.RefusedFor
        (("params", .array (schema.parameters.map .string)) :: others)
        ((∃ _ ∈ schema.parameters, False) ∨ barred) (["name"], { name := schema.name }) final :=
    fun tail => Typed.Layout.collects_cons rfl (by simp)
      (Typed.skipsBlanks_of Typed.skipsBlanks_list)
      (fun rest => Typed.yields_of (parameters rest)) tail
  rw [toJson_eq]
  by_cases none : schema.parameters = []
  · have ofFields := collects_fields schema ordered document depth ["name"] (by decide)
    rw [none] at ofFields
    rw [if_pos none]
    exact ⟨["fields", "name"], _, rfl, rfl, (ofName ofFields).congr (by simp)⟩
  · have ofFields := collects_fields schema ordered document depth ["params", "name"] (by decide)
    rw [if_neg none]
    exact ⟨["fields", "params", "name"], _, rfl, rfl,
      (ofName (ofParameters ofFields)).congr (by simp)⟩

/-- What is written for a schema, on one line or on many, is read as the schema, or refused for what
the parser says against one of the types if one of them is not printable. -/
theorem ofText_toJson (schema : Schema)
    (ordered : ∀ field ∈ schema.fields, field.2.Everywhere Descriptor.InOrder) (pretty : Bool)
    : (schema.Printable →
          Typed.ofText layout.read (schema.toJson.text pretty).toList = .ok schema)
        ∧ (¬ schema.Printable →
          ∃ problem, Typed.ofText layout.read (schema.toJson.text pretty).toList = .error problem
            ∧ schema.RefusedFor problem.cause) := by
  let document : Json.Layout := if pretty then .indented 0 else .compact
  obtain ⟨seen, members, tree, complete, collects⟩ :=
    collects_members schema ordered document.deeper 125
  have yields : Reader.Yields (layout.read greatestDepth) (write document schema.toJson)
      (¬ schema.Printable) schema.RefusedFor schema [] :=
    tree ▸ Typed.Layout.yields_read document collects complete
  obtain ⟨reads, stops⟩ := Typed.ofText_of_yields yields
  rw [Json.text, String.toList_ofList]
  exact ⟨fun printable => reads (not_not.mpr printable), stops⟩

-----------------------------------------------------------------------------------------
-- Schemas that survive
-----------------------------------------------------------------------------------------

/-- A schema survives its document, and its tree, just when the types of its fields are printable.
Otherwise both are refused for what the parser says against one of the types. Nothing else is ever
read from them, so that engines built with what is read answer as those built with the schema. -/
theorem survives_iff_printable (schema : Schema)
    (ordered : ∀ field ∈ schema.fields, field.2.Everywhere Descriptor.InOrder)
    : (layout.readTree schema.toJson = .ok schema ↔ schema.Printable)
        ∧ (∀ pretty, Typed.ofText layout.read (schema.toJson.text pretty).toList = .ok schema
          ↔ schema.Printable)
        ∧ (¬ schema.Printable →
          (∃ rejection, layout.readTree schema.toJson = .error rejection
            ∧ schema.RefusedFor (.rejection rejection))
          ∧ ∀ pretty, ∃ problem,
            Typed.ofText layout.read (schema.toJson.text pretty).toList = .error problem
              ∧ schema.RefusedFor problem.cause)
        ∧ ∀ back, (layout.readTree schema.toJson = .ok back
            ∨ ∃ pretty, Typed.ofText layout.read (schema.toJson.text pretty).toList = .ok back) →
          ∀ before after,
            List.Forall₂ Engine.Builder.AnswersAs
              (Engine.Builder.run (before ++ .object back :: after) {}).built
              (Engine.Builder.run (before ++ .object schema :: after) {}).built := by
  have refusedTree := readTree_toJson_of_not_printable ordered
  have refusedText := fun unprintable pretty => (ofText_toJson schema ordered pretty).2 unprintable
  obtain ⟨ofTree, onlyTree⟩ :=
    ok_iff_of_settled (readTree_toJson_of_printable ordered) refusedTree
  have ofText := fun pretty => ok_iff_of_settled (ofText_toJson schema ordered pretty).1
    (fun unprintable => refusedText unprintable pretty)
  refine ⟨ofTree, fun pretty => (ofText pretty).1,
    fun unprintable => ⟨refusedTree unprintable, refusedText unprintable⟩, ?_⟩
  intro back read before after
  have same : back = schema := read.elim (onlyTree back) fun ⟨pretty, h⟩ => (ofText pretty).2 back h
  rw [same, List.forall₂_same]
  exact fun engine _ => .refl engine

/-- Trees of items; the parameter is given twice. -/
def treeSchema : Schema where
  name := "Tree"
  parameters := ["Item", "Item"]
  fields := [("item", .var "Item"), ("below", .list (.generic "Tree" [("Item", .var "Item")]))]

/-- Trees under keys of a type that no key may have. -/
def forestSchema : Schema where
  name := "Forest"
  fields := [("trees", .map .bytes (.named "Tree"))]

theorem everywhere_treeSchema {p : Descriptor → Prop} (var : ∀ name, p (.var name))
    (list : ∀ item, p (.list item))
    (generic : ∀ name argument, p (.generic name [argument]))
    : ∀ field ∈ treeSchema.fields, field.2.Everywhere p := by
  have item : (Descriptor.var "Item").Everywhere p := .leaf (var _) rfl
  have tree : (Descriptor.generic "Tree" [("Item", .var "Item")]).Everywhere p :=
    .intro (generic _ _) (by simpa [Descriptor.parts] using item)
  simpa [treeSchema] using ⟨item, .intro (list _) (by simpa [Descriptor.parts] using tree)⟩

/-- The schema of trees is read back from its document and from its tree; that of forests is not,
on one line or on many. -/
theorem survives_iff_printable_trees
    : Typed.ofText layout.read (treeSchema.toJson.text true).toList = .ok treeSchema
        ∧ layout.readTree treeSchema.toJson = .ok treeSchema
        ∧ ∃ problem, Typed.ofText layout.read (forestSchema.toJson.text false).toList
            = .error problem
          ∧ forestSchema.RefusedFor problem.cause := by
  have ordered : ∀ field ∈ treeSchema.fields, field.2.Everywhere Descriptor.InOrder :=
    everywhere_treeSchema (fun _ => trivial) (fun _ => trivial)
      fun _ _ => List.pairwise_singleton _ _
  have expressible : ∀ field ∈ treeSchema.fields, field.2.Everywhere Descriptor.Expressible :=
    everywhere_treeSchema (fun _ => trivial) (fun _ => trivial) fun _ _ => List.cons_ne_nil _ _
  have height : ∀ field ∈ treeSchema.fields, field.2.height ≤ Descriptor.greatestNesting := by
    decide
  have printable : treeSchema.Printable := fun field hm => ⟨height field hm, expressible field hm⟩
  have orderedForest : ∀ field ∈ forestSchema.fields, field.2.Everywhere Descriptor.InOrder := by
    have bytes : Descriptor.bytes.Everywhere Descriptor.InOrder := .leaf trivial rfl
    have tree : (Descriptor.named "Tree").Everywhere Descriptor.InOrder := .leaf trivial rfl
    simpa [forestSchema] using .intro trivial (by simpa [Descriptor.parts] using ⟨bytes, tree⟩)
  have unprintable : ¬ forestSchema.Printable := by
    intro printable
    have trees := printable ("trees", .map .bytes (.named "Tree")) (by simp [forestSchema])
    cases trees.expressible.here
  obtain ⟨ofTree, ofText, _⟩ := survives_iff_printable treeSchema ordered
  obtain ⟨_, _, refused, _⟩ := survives_iff_printable forestSchema orderedForest
  exact ⟨(ofText true).mpr printable, ofTree.mpr printable, (refused unprintable).2 false⟩

end Schema

end TypedJson
