import Mathlib.Logic.Relation
import TypedJson.Config
import TypedJson.Proofs.Engine.Failure
import TypedJson.Proofs.Engine.Gap
import TypedJson.Proofs.Engine.Natural
import TypedJson.Proofs.Engine.Registry

/-!
Strict and lenient reading. A strict engine reads as the lenient one does, except that it refuses
an object with a property that its schema does not declare; the lenient one passes over just
these properties, wherever in a tree they are.
-/

namespace TypedJson

-----------------------------------------------------------------------------------------
-- Outcomes that differ by a refusal
-----------------------------------------------------------------------------------------

/-- An undeclared property, which only a strict engine refuses. -/
def ReadCause.IsUnknown (cause : ReadCause) : Prop :=
  ∃ typeName property, cause = .unknownProperty typeName property

/-- The outcomes are the same, or the first of them is the refusal of an undeclared property. -/
inductive Tightens {α : Type} : Except ReadError α → Except ReadError α → Prop where
  | same (x : Except ReadError α) : Tightens x x
  | refused {e : ReadError} (unknown : e.cause.IsUnknown) (x : Except ReadError α)
    : Tightens (.error e) x

namespace Tightens

variable {α β γ : Type} {x y : Except ReadError α}

theorem map (f : α → β) (h : Tightens x y) : Tightens (x.map f) (y.map f) := by
  cases h with
  | same => exact .same _
  | refused unknown => exact .refused unknown _

theorem under (step : Json.Step) (h : Tightens x y)
    : Tightens (x.mapError (ReadError.under step)) (y.mapError (ReadError.under step)) := by
  cases h with
  | same => exact .same _
  | @refused e unknown =>
      have hunder : (e.under step).cause.IsUnknown := unknown
      exact .refused hunder _

theorem bind {f g : α → Except ReadError β} (h : Tightens x y)
    (next : ∀ a, Tightens (f a) (g a))
    : Tightens (x >>= f) (y >>= g) := by
  cases h with
  | refused unknown => exact .refused unknown _
  | same =>
      cases x with
      | ok a => exact next a
      | error e => exact .same _

/-- Of two runs over a list the first tightens the second if it does so at each member, by
induction on the list. -/
theorem mapM {f g : α → Except ReadError β} {as : List α}
    (h : ∀ a ∈ as, Tightens (f a) (g a))
    : Tightens (as.mapM f) (as.mapM g) := by
  induction as with
  | nil => exact .same _
  | cons a rest ih =>
      rw [List.mapM_cons, List.mapM_cons]
      refine (h a (by simp)).bind fun b => ?_
      exact (ih fun other hm => h other (by simp [hm])).bind fun bs => .same _

theorem eq_of_ok {a : α} (h : Tightens (.ok a) y) : y = .ok a := by
  cases h with
  | same => rfl

theorem eq_of_error {e : ReadError} (h : Tightens (.error e) y) (known : ¬ e.cause.IsUnknown)
    : y = .error e := by
  cases h with
  | same => rfl
  | refused unknown => exact absurd unknown known

theorem ok_or_refused {a : α} (h : Tightens x (.ok a))
    : x = .ok a ∨ ∃ e, x = .error e ∧ e.cause.IsUnknown := by
  cases h with
  | same => exact .inl rfl
  | refused unknown => exact .inr ⟨_, rfl, unknown⟩

theorem member {walk other : Walker Json Value ReadError} {type : Descriptor}
    {bindings : Bindings} {name : String} {node : Json}
    (h : Tightens (walk node type bindings) (other node type bindings))
    : Tightens (walk.member ReadError.under type bindings name node)
        (other.member ReadError.under type bindings name node) :=
  (h.under _).map _

end Tightens

-----------------------------------------------------------------------------------------
-- Strict reading tightens lenient reading
-----------------------------------------------------------------------------------------

/-- The engine that refuses undeclared properties, or the one that passes over them. -/
def Engine.withStrict (strict : Bool) (engine : Engine) : Engine :=
  { engine with strict }

/-- The two engines ask for the same. -/
theorem Engine.asked_withStrict (engine : Engine) (strict : Bool) (type : Descriptor)
    (bindings : Bindings)
    : (engine.withStrict strict).asked type bindings = engine.asked type bindings :=
  rfl

variable {engine : Engine} {type : Descriptor} {bindings : Bindings} {json : Json}

/-- One node is read more tightly if its parts are, by cases on the form: the check of a record's
properties is the only one that the engines make differently. -/
theorem Form.tightens_readWith {form : Form} {walk other : Walker Json Value ReadError}
    (parts : ∀ child ∈ json.children, ∀ type bindings,
      Tightens (walk child type bindings) (other child type bindings))
    : Tightens (form.readWith (engine.withStrict true) walk json)
        (form.readWith (engine.withStrict false) other json) := by
  cases form with
  | list item inner =>
      cases json with
      | array items =>
          refine (Tightens.mapM fun node hm => ?_).map _
          exact (parts node.1 (List.fst_mem_of_mem_zipIdx hm) _ _).under _
      | _ => exact .same _
  | map key value inner =>
      cases json with
      | object members =>
          refine (Tightens.mapM fun entry hm => ?_).map _
          refine (Tightens.same _).bind fun _ => ?_
          exact (parts entry.2 (List.mem_map_of_mem hm) _ _).member
      | _ => exact .same _
  | record name schema inner =>
      cases json with
      | object members =>
          have fields : Tightens
              (walk.fields ReadError.under inner (schema.parts Json.isNull members))
              (other.fields ReadError.under inner (schema.parts Json.isNull members)) := by
            refine Tightens.mapM fun part hm => ?_
            have found := Members.mem_of_lookup (Part.mem_pick.mp hm).2.1
            exact (parts part.node (List.mem_map_of_mem found) _ _).member
          simp only [readWith, Engine.withStrict, Bool.false_eq_true, if_true, if_false]
          cases Engine.undeclared? schema members with
          | none => exact fields.map _
          | some property => exact .refused ⟨_, _, rfl⟩ _
      | _ => exact .same _
  | integer =>
      cases json with
      | number n => cases n <;> exact .same _
      | _ => exact .same _
  | _ => cases json <;> exact .same _

/-- The strict engine reads as the lenient one does or refuses an undeclared property, by induction
on the tree. -/
theorem Engine.tightens_readNode (engine : Engine) (json : Json) (type : Descriptor)
    (bindings : Bindings)
    : Tightens ((engine.withStrict true).readNode json type bindings)
        ((engine.withStrict false).readNode json type bindings) := by
  induction json using Json.byChildren generalizing type bindings with
  | step json ih =>
      cases present : json.isNull with
      | true =>
          obtain rfl := Json.eq_null_of_isNull present
          simp only [readNode_null]
          exact .same _
      | false =>
          rw [readNode_eq present, readNode_eq present, asked_withStrict, asked_withStrict]
          cases engine.asked type bindings with
          | error gap => exact .same _
          | ok form => exact Form.tightens_readWith ih

-----------------------------------------------------------------------------------------
-- Where a property is refused
-----------------------------------------------------------------------------------------

/-- The error refuses a property that an object of the tree really has and that the schema of the
type it names does not declare. -/
structure Engine.Located (engine : Engine) (json : Json) (e : ReadError) : Prop where
  strict : engine.strict = true
  property : ∃ typeName property members schema,
    e.cause = .unknownProperty typeName property
      ∧ json.Reaches e.path (.object members)
      ∧ property ∈ members.map Prod.fst
      ∧ engine.registry.lookup typeName = some (.object schema)
      ∧ schema.fields.lookup property = none

/-- Every name stands for an entry of that name. -/
def Registry.Named (registry : Registry) : Prop :=
  ∀ name entry, registry.lookup name = some entry → entry.name = name

/-- What is refused inside a part of a tree is refused inside the tree. -/
theorem Engine.Located.under {child : Json} {step : Json.Step} {e : ReadError}
    (first : json.Child step child) (located : engine.Located child e)
    : engine.Located json (e.under step) := by
  obtain ⟨strict, typeName, property, members, schema, cause, place, mem, known, undeclared⟩ :=
    located
  exact ⟨strict, typeName, property, members, schema, cause, .inside first place, mem, known,
    undeclared⟩

theorem Gap.not_isUnknown (gap : Gap) : ¬ gap.readCause.IsUnknown := by
  rintro ⟨_, _, h⟩
  cases gap <;> cases h

theorem Engine.not_isUnknown_of_checkKey {key : String} {cause : ReadCause}
    (h : engine.checkKey key type bindings = .error cause)
    : ¬ cause.IsUnknown := by
  rintro ⟨_, _, rfl⟩
  unfold checkKey at h
  split at h
  · split at h
    · cases h
    · cases h
    · split at h <;> cases h
  · split at h <;> cases h

/-- A property is refused in the reading of a node if the node is read as a record and has it, or
if it is refused in the reading of one of the node's parts. -/
theorem Form.located_readWith {form : Form} {walk : Walker Json Value ReadError} {e : ReadError}
    (named : engine.registry.Named) (known : engine.form? type bindings = some form)
    (parts : ∀ child ∈ json.children, ∀ type bindings e, walk child type bindings = .error e →
      e.cause.IsUnknown → engine.Located child e)
    (h : form.readWith engine walk json = .error e) (unknown : e.cause.IsUnknown)
    : engine.Located json e := by
  cases Form.readFails_of_readWith h with
  | part asked failed =>
      exact (parts _ asked.child.mem_children _ _ _ failed unknown).under asked.child
  | key _ refused => exact absurd unknown (Engine.not_isUnknown_of_checkKey refused)
  | @undeclared name property schema inner members strict found =>
      have registered := (Engine.resolve_of_form?_record known).1
      have hname : schema.name = name := named name (.object schema) registered
      exact ⟨strict, schema.name, property, members, schema, rfl, .here _,
        List.mem_of_find?_eq_some found, hname ▸ registered, by simpa using List.find?_some found⟩
  | adapter | mismatch =>
      obtain ⟨_, _, hcause⟩ := unknown
      cases hcause

/-- A property that is refused is there and is not declared, by induction on the tree. -/
theorem Engine.located_of_readNode (named : engine.registry.Named) {e : ReadError}
    (h : engine.readNode json type bindings = .error e) (unknown : e.cause.IsUnknown)
    : engine.Located json e := by
  induction json using Json.byChildren generalizing type bindings e with
  | step json ih =>
      cases present : json.isNull with
      | true =>
          rw [Json.eq_null_of_isNull present, readNode_null] at h
          cases h
      | false =>
          rw [readNode_eq present] at h
          cases asked : engine.asked type bindings with
          | error gap =>
              rw [asked] at h
              obtain rfl := Except.error.inj h
              exact absurd unknown gap.not_isUnknown
          | ok form =>
              rw [asked] at h
              exact Form.located_readWith named (form?_of_asked asked)
                (fun child hm _ _ _ => ih child hm) h unknown

-----------------------------------------------------------------------------------------
-- Undeclared properties are passed over
-----------------------------------------------------------------------------------------

/-- The second tree is the first with one more property, which is not declared, in an object that
is read as a record. -/
inductive Engine.Adds (engine : Engine) : Descriptor → Bindings → Json → Json → Prop where
  | here {type : Descriptor} {bindings inner : Bindings} {name property : String} {schema : Schema}
    (form : engine.form? type bindings = some (.record name schema inner))
    (undeclared : schema.fields.lookup property = none) (value : Json)
    (before after : List (String × Json))
    : Adds engine type bindings (.object (before ++ after))
        (.object (before ++ (property, value) :: after))
  | item {type item : Descriptor} {bindings inner : Bindings} {old new : Json}
    (form : engine.form? type bindings = some (.list item inner))
    (adds : Adds engine item inner old new) (before after : List Json)
    : Adds engine type bindings (.array (before ++ old :: after)) (.array (before ++ new :: after))
  | entry {type key value : Descriptor} {bindings inner : Bindings} {name : String}
    {old new : Json} (form : engine.form? type bindings = some (.map key value inner))
    (adds : Adds engine value inner old new) (before after : List (String × Json))
    : Adds engine type bindings (.object (before ++ (name, old) :: after))
        (.object (before ++ (name, new) :: after))
  | field {type : Descriptor} {bindings inner : Bindings} {name : String} {schema : Schema}
    {field : String × Descriptor} {old new : Json}
    (form : engine.form? type bindings = some (.record name schema inner))
    (declared : field ∈ schema.fields) (adds : Adds engine field.2 inner old new)
    (before after : List (String × Json))
    : Adds engine type bindings (.object (before ++ (field.1, old) :: after))
        (.object (before ++ (field.1, new) :: after))

theorem Engine.Adds.present {old new : Json} (adds : engine.Adds type bindings old new)
    : old.isNull = false ∧ new.isNull = false := by
  cases adds <;> exact ⟨rfl, rfl⟩

/-- The member that is there under a name and is not null. -/
def Json.present? (members : List (String × Json)) (name : String) : Option Json :=
  (members.lookup name).filter fun json => !json.isNull

/-- What becomes of a record depends on nothing but the members that are there for its fields, by
induction on the fields. -/
theorem Walker.fields_pick_congr {walk : Walker Json Value ReadError}
    {old new : List (String × Json)} {declared : List (String × Descriptor)}
    (same : ∀ field ∈ declared,
      (Json.present? new field.1).map (walk · field.2 bindings)
        = (Json.present? old field.1).map (walk · field.2 bindings))
    : walk.fields ReadError.under bindings (Part.pick Json.isNull new declared)
        = walk.fields ReadError.under bindings (Part.pick Json.isNull old declared) := by
  induction declared with
  | nil => rfl
  | cons head rest ih =>
      have others := ih fun field hm => same field (by simp [hm])
      have first := same head (by simp)
      simp only [Walker.fields, Part.pick_cons, List.mapM_append] at others ⊢
      rw [others]
      simp only [Json.present?] at first
      generalize (new.lookup head.1).filter _ = a at first ⊢
      generalize (old.lookup head.1).filter _ = b at first ⊢
      cases a with
      | none =>
          obtain rfl := Option.map_eq_none_iff.mp first.symm
          rfl
      | some node =>
          obtain ⟨node', rfl, read⟩ := Option.map_eq_some_iff.mp first.symm
          simp only [Option.map_some, Option.toList_some, List.mapM_cons, Walker.member, read]

theorem Form.readWith_record_congr {walk : Walker Json Value ReadError} {name : String}
    {schema : Schema} {old new : List (String × Json)} (lenient : engine.strict = false)
    (same : ∀ field ∈ schema.fields,
      (Json.present? new field.1).map (walk · field.2 bindings)
        = (Json.present? old field.1).map (walk · field.2 bindings))
    : (Form.record name schema bindings).readWith engine walk (.object new)
        = (Form.record name schema bindings).readWith engine walk (.object old) := by
  have fields : walk.fields ReadError.under bindings (schema.parts Json.isNull new)
      = walk.fields ReadError.under bindings (schema.parts Json.isNull old) :=
    Walker.fields_pick_congr same
  simp only [readWith, lenient, Bool.false_eq_true, if_false, fields]

/-- One more property that is not declared changes nothing, by induction on where it is. -/
theorem Engine.Adds.readNode_eq {old new : Json} (lenient : engine.strict = false)
    (adds : engine.Adds type bindings old new)
    : engine.readNode new type bindings = engine.readNode old type bindings := by
  have ho := adds.present.1
  have hn := adds.present.2
  induction adds with
  | @here _ _ _ _ property _ form undeclared value before after =>
      rw [engine.readNode_of_form hn form, engine.readNode_of_form ho form]
      refine Form.readWith_record_congr lenient fun other hf => ?_
      have hne : other.1 ≠ property := fun h =>
        Members.lookup_eq_none_iff.mp undeclared (h ▸ List.mem_map_of_mem hf)
      simp only [Json.present?, List.lookup_append, Members.lookup_cons_ite, if_neg hne]
  | item form adds before after ih =>
      have same := ih adds.present.1 adds.present.2
      rw [engine.readNode_of_form hn form, engine.readNode_of_form ho form]
      simp only [Form.readWith, Walker.items, List.zipIdx_append, List.zipIdx_cons,
        List.mapM_append, List.mapM_cons, same]
  | entry form adds before after ih =>
      have same := ih adds.present.1 adds.present.2
      rw [engine.readNode_of_form hn form, engine.readNode_of_form ho form]
      simp only [Form.readWith, Walker.entries, Walker.member, List.mapM_append, List.mapM_cons,
        same]
  | @field _ _ _ _ schema declared _ _ form hd adds before after ih =>
      obtain ⟨oldPresent, newPresent⟩ := adds.present
      have same := ih oldPresent newPresent
      rw [engine.readNode_of_form hn form, engine.readNode_of_form ho form]
      refine Form.readWith_record_congr lenient fun other hf => ?_
      simp only [Json.present?, List.lookup_append, Members.lookup_cons_ite]
      split
      · next hname =>
          -- One name has one type in a schema.
          have htype : other.2 = declared.2 :=
            Members.eq_of_mem schema.distinct hf (show (other.1, declared.2) ∈ _ from hname ▸ hd)
          cases before.lookup other.1 with
          | some node => rfl
          | none => simp [Option.filter_some, oldPresent, newPresent, htype, same]
      · rfl

/-- Properties that are not declared may come and go, by induction on their changes. -/
theorem Engine.readNode_eq_of_eqvGen {old new : Json} (lenient : engine.strict = false)
    (changes : Relation.EqvGen (engine.Adds type bindings) old new)
    : engine.readNode new type bindings = engine.readNode old type bindings := by
  induction changes with
  | rel _ _ adds => exact adds.readNode_eq lenient
  | refl => rfl
  | symm _ _ _ ih => exact ih.symm
  | trans _ _ _ _ _ first second => exact second.trans first

-----------------------------------------------------------------------------------------
-- Engines of a configuration
-----------------------------------------------------------------------------------------

namespace Engine

/-- The entries of an engine that a configuration describes stand under their own names, whichever
extensions bring them. -/
theorem named_ofConfig (config : Config) (extensions : List Extension)
    : (ofConfig config extensions).registry.Named := by
  intro name entry registered
  obtain ⟨_, _, _, hname⟩ := brought_of_ofConfig registered
  exact hname

/-- Whether the engine is strict does not matter to what it knows. -/
theorem ofConfig_strict (config : Config) (extensions : List Extension) (strict : Bool)
    : ofConfig { config with strict } extensions
        = (ofConfig config extensions).withStrict strict := by
  let fix : Builder → Builder := fun builder => { builder with strict }
  have extend : ∀ (builder : Builder) (extension : Extension),
      (fix builder).extend extension = fix (builder.extend extension) := fun _ _ =>
    List.foldl_hom fix fun _ _ => rfl
  have all : extensions.foldl (fun builder extension => builder.extend extension)
        (fix { strict := config.strict, pretty := config.pretty })
      = fix (extensions.foldl (fun builder extension => builder.extend extension)
        { strict := config.strict, pretty := config.pretty }) :=
    List.foldl_hom fix extend
  exact congrArg (fun builder : Builder => builder.build.1) all

/-- Strictness only adds refusals. What a strict engine reads, the lenient one with the same
registry reads to the same value, and it has every error of the strict one except the refusals of
undeclared properties, which it never has. Where it reads a value that the strict one does not, the
strict one refuses a property that is there, in the object at the path, and that the type it names
does not declare. Such properties may be added and taken away at will without any change to what
the lenient engine makes of a tree. -/
theorem strict_refines (config : Config) (extensions : List Extension) (type : Descriptor)
    (json : Json)
    : let strict := ofConfig { config with strict := true } extensions
      let lenient := ofConfig { config with strict := false } extensions
      (∀ value, strict.read json type = .ok value → lenient.read json type = .ok value)
        ∧ (∀ path typeName property,
            lenient.read json type ≠ .error ⟨path, .unknownProperty typeName property⟩)
        ∧ (∀ e, strict.read json type = .error e →
            (∀ typeName property, e.cause ≠ .unknownProperty typeName property) →
            lenient.read json type = .error e)
        ∧ (∀ value, lenient.read json type = .ok value → strict.read json type = .ok value
            ∨ ∃ path typeName property members schema,
                strict.read json type = .error ⟨path, .unknownProperty typeName property⟩
                  ∧ json.Reaches path (.object members)
                  ∧ property ∈ members.map Prod.fst
                  ∧ strict.registry.lookup typeName = some (.object schema)
                  ∧ schema.fields.lookup property = none)
        ∧ ∀ other, Relation.EqvGen (lenient.Adds type []) json other →
            lenient.read other type = lenient.read json type := by
  intro strict lenient
  have tightens : Tightens (strict.read json type) (lenient.read json type) := by
    have h := tightens_readNode (ofConfig config extensions) json type []
    rwa [← ofConfig_strict, ← ofConfig_strict] at h
  have hlenient : lenient.strict = false := by
    simp only [lenient, ofConfig_strict, withStrict]
  refine ⟨fun value h => (h ▸ tightens).eq_of_ok, fun path typeName property h => ?_,
    fun e h known => ?_, fun value h => ?_,
    fun other changes => readNode_eq_of_eqvGen hlenient changes⟩
  · have located := located_of_readNode (named_ofConfig _ _) h ⟨_, _, rfl⟩
    exact Bool.false_ne_true (hlenient.symm.trans located.strict)
  · rw [h] at tightens
    exact tightens.eq_of_error fun ⟨typeName, property, hcause⟩ => known typeName property hcause
  · rw [h] at tightens
    refine tightens.ok_or_refused.imp_right ?_
    rintro ⟨⟨path, cause⟩, hs, unknown⟩
    have located := located_of_readNode (named_ofConfig _ _) hs unknown
    obtain ⟨typeName, property, members, schema, rfl, place⟩ := located.property
    exact ⟨path, typeName, property, members, schema, hs, place⟩

/-- Marks with a count. -/
def markSchema : Schema where
  name := "Mark"
  fields := [("count", .integer)]

/-- An engine that knows marks. -/
def marks (strict : Bool) : Engine :=
  ofConfig { ({} : Config) with strict } [[.object markSchema]]

/-- A mark. -/
def plainMark : Json := .object [("count", .ofInt64 2)]

/-- The mark with a note, which is not declared. -/
def notedMark : Json := .object [("note", .null), ("count", .ofInt64 2)]

/-- The note on the second of two marks is refused, and is passed over as if it were not there. -/
theorem strict_refines_marks
    : (∃ path typeName property members schema,
          (marks true).read (.array [plainMark, notedMark]) (.list (.named "Mark"))
              = .error ⟨path, .unknownProperty typeName property⟩
            ∧ (Json.array [plainMark, notedMark]).Reaches path (.object members)
            ∧ property ∈ members.map Prod.fst
            ∧ (marks true).registry.lookup typeName = some (.object schema)
            ∧ schema.fields.lookup property = none)
        ∧ (marks false).read (.array [plainMark, notedMark]) (.list (.named "Mark"))
          = (marks false).read (.array [plainMark, plainMark]) (.list (.named "Mark")) := by
  obtain ⟨_, _, _, refused, changes⟩ := strict_refines {} [[.object markSchema]]
    (.list (.named "Mark")) (.array [plainMark, notedMark])
  have form : (marks false).form? (.named "Mark") [] = some (.record "Mark" markSchema []) := rfl
  have undeclared : markSchema.fields.lookup "note" = none := rfl
  have add : (marks false).Adds (.list (.named "Mark")) []
      (.array ([plainMark] ++ plainMark :: [])) (.array ([plainMark] ++ notedMark :: [])) :=
    .item rfl (.here form undeclared .null [] [("count", .ofInt64 2)]) [plainMark] []
  have read : (marks false).read (.array [plainMark, notedMark]) (.list (.named "Mark"))
      = .ok (.array
          [.object "Mark" [("count", .integer 2)], .object "Mark" [("count", .integer 2)]]) :=
    rfl
  refine ⟨?_, (changes _ (.symm _ _ (.rel _ _ add))).symm⟩
  rcases refused _ read with h | h
  · have refuses : (marks true).read (.array [plainMark, notedMark]) (.list (.named "Mark"))
        = .error ⟨[.index 1], .unknownProperty "Mark" "note"⟩ := rfl
    cases refuses.symm.trans h
  · exact h

end Engine

end TypedJson
