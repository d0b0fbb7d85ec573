import TypedJson.Proofs.Engine.Strict
import TypedJson.Proofs.Engine.Untyped

/-!
What errors point at. The path of an error leads to a node that the tree or the value really has,
and the cause tells what is wrong with that node as the type it is asked to be there, or, at the
end of a path into a map, what is wrong with the name of that member.
-/

namespace TypedJson

namespace Engine

-----------------------------------------------------------------------------------------
-- Places that are asked for
-----------------------------------------------------------------------------------------

/-- Reading a tree as a type asks for the node at the end of the path, as a type of its own. -/
inductive AsksNode (engine : Engine)
    : Json → Descriptor → Bindings → Path → Json → Descriptor → Bindings → Prop where
  | here (json : Json) (type : Descriptor) (bindings : Bindings)
    : AsksNode engine json type bindings [] json type bindings
  | inside {json child target : Json} {type type' type'' : Descriptor}
    {bindings bindings' bindings'' : Bindings} {step : Json.Step} {path : Path} {form : Form}
    (asked : engine.asked type bindings = .ok form)
    (first : form.ReadsPart json step child type' bindings')
    (rest : AsksNode engine child type' bindings' path target type'' bindings'')
    : AsksNode engine json type bindings (step :: path) target type'' bindings''

/-- Writing a value as a type asks for the value at the end of the path, as a type of its own. What
is inside a value that is written by its own shape is written so too. -/
inductive AsksValue (engine : Engine)
    : Value → Descriptor → Bindings → Path → Value → Descriptor → Bindings → Prop where
  | here (value : Value) (type : Descriptor) (bindings : Bindings)
    : AsksValue engine value type bindings [] value type bindings
  | inside {value child target : Value} {type type' type'' : Descriptor}
    {bindings bindings' bindings'' : Bindings} {step : Json.Step} {path : Path} {form : Form}
    (asked : engine.asked type bindings = .ok form)
    (first : form.WritesPart value step child type' bindings')
    (rest : AsksValue engine child type' bindings' path target type'' bindings'')
    : AsksValue engine value type bindings (step :: path) target type'' bindings''
  | shape {value child target : Value} {type type'' : Descriptor} {bindings bindings'' : Bindings}
    {step : Json.Step} {path : Path} (asked : engine.asked type bindings = .ok .natural)
    (first : value.Child step child)
    (rest : AsksValue engine child .any [] path target type'' bindings'')
    : AsksValue engine value type bindings (step :: path) target type'' bindings''

variable {engine : Engine} {type type' : Descriptor} {bindings bindings' : Bindings}

theorem AsksNode.reaches {json node : Json} {path : Path}
    (h : engine.AsksNode json type bindings path node type' bindings')
    : json.Reaches path node := by
  induction h with
  | here => exact .here _
  | inside _ first _ ih => exact .inside first.child ih

theorem AsksValue.reaches {value node : Value} {path : Path}
    (h : engine.AsksValue value type bindings path node type' bindings')
    : value.Reaches path node := by
  induction h with
  | here => exact .here _
  | inside _ first _ ih => exact .inside first.child ih
  | shape _ first _ ih => exact .inside first ih

-----------------------------------------------------------------------------------------
-- What is wrong with a node that is read
-----------------------------------------------------------------------------------------

/-- The cause says what is wrong with the name of a member of a map: the key type does not accept
it, or has a parameter that nothing stands for. -/
inductive BlamesKey (engine : Engine) (name : String) (key : Descriptor) (bindings : Bindings)
    : ReadCause → Prop where
  | refused {shape : Descriptor} {inner : Bindings}
    (resolved : key.resolve bindings = .ok (shape, inner))
    (refused : engine.acceptsKey name shape = false)
    : BlamesKey engine name key bindings (.mismatch (.key shape) .key)
  | unbound {parameter : String} (resolved : key.resolve bindings = .error parameter)
    : BlamesKey engine name key bindings (.unbound parameter)

/-- The cause says what is wrong with a node as a type: it is of another kind than is asked for, it
has a property that the schema of the type does not declare, the adapter of the type refuses it,
or nothing definite is asked of it. -/
inductive BlamesNode (engine : Engine) : ReadCause → Json → Descriptor → Bindings → Prop where
  | mismatch {form : Form} {type : Descriptor} {bindings : Bindings}
    {json : Json} (asked : engine.asked type bindings = .ok form)
    (misfit : form.readsFrom json = false)
    : BlamesNode engine (.mismatch form.expected json.kind) json type bindings
  | undeclared {name property : String} {schema : Schema} {type : Descriptor}
    {bindings inner : Bindings} {members : List (String × Json)}
    (asked : engine.asked type bindings = .ok (.record name schema inner))
    (registered : engine.registry.lookup name = some (.object schema))
    (mem : property ∈ members.map Prod.fst) (undeclared : schema.fields.lookup property = none)
    : BlamesNode engine (.unknownProperty name property) (.object members) type bindings
  | adapter {name reason : String} {a : Adapter} {type : Descriptor} {bindings : Bindings}
    {json : Json} (asked : engine.asked type bindings = .ok (.adapter name a))
    (registered : engine.registry.lookup name = some (.adapter a))
    (refused : a.read json = .error reason)
    : BlamesNode engine (.adapter name reason) json type bindings
  | gap {gap : Gap} {type : Descriptor} {bindings : Bindings}
    (asked : engine.asked type bindings = .error gap) (json : Json)
    : BlamesNode engine gap.readCause json type bindings

theorem blamesKey_of_checkKey {name : String} {key : Descriptor} {cause : ReadCause}
    (h : engine.checkKey name key bindings = .error cause)
    : engine.BlamesKey name key bindings cause := by
  rw [checkKey_eq] at h
  cases resolved : key.resolve bindings with
  | error parameter =>
      rw [resolved] at h
      cases h
      exact .unbound resolved
  | ok found =>
      obtain ⟨shape, inner⟩ := found
      rw [resolved] at h
      cases accepted : engine.acceptsKey name shape with
      | true => simp [accepted] at h
      | false =>
          simp only [accepted, Bool.false_eq_true, if_false] at h
          cases h
          exact .refused resolved accepted

/-- Where the reading of a tree fails, and in which way: with a node that is asked for, or with the
name of a member of a map that is asked for. -/
inductive ReadBlames (engine : Engine) (json : Json) (type : Descriptor) (bindings : Bindings)
    : ReadError → Json → Prop where
  | node {path : Path} {node : Json} {type' : Descriptor} {bindings' : Bindings}
    {cause : ReadCause} (place : engine.AsksNode json type bindings path node type' bindings')
    (present : node.isNull = false) (blames : engine.BlamesNode cause node type' bindings')
    : ReadBlames engine json type bindings ⟨path, cause⟩ node
  | key {path : Path} {members : List (String × Json)} {type' key value : Descriptor}
    {bindings' inner : Bindings} {name : String} {node : Json} {cause : ReadCause}
    (place : engine.AsksNode json type bindings path (.object members) type' bindings')
    (asked : engine.asked type' bindings' = .ok (.map key value inner))
    (mem : (name, node) ∈ members) (blames : engine.BlamesKey name key inner cause)
    : ReadBlames engine json type bindings ⟨path ++ [.key name], cause⟩ node

theorem ReadBlames.reaches {json node : Json} {e : ReadError}
    (h : engine.ReadBlames json type bindings e node)
    : json.Reaches e.path node := by
  cases h with
  | node place _ _ => exact place.reaches
  | key place _ mem _ => exact place.reaches.snoc (.member mem)

/-- What is wrong inside a part of a tree is wrong inside the tree. -/
theorem ReadBlames.under {json child node : Json} {step : Json.Step} {form : Form} {e : ReadError}
    (asked : engine.asked type bindings = .ok form)
    (first : form.ReadsPart json step child type' bindings')
    (blames : engine.ReadBlames child type' bindings' e node)
    : engine.ReadBlames json type bindings (e.under step) node := by
  cases blames with
  | node place present blames => exact .node (.inside asked first place) present blames
  | key place known mem blames => exact .key (.inside asked first place) known mem blames

/-- By induction on the tree, with a case for each way in which a node fails. -/
theorem readBlames_of_readNode (named : engine.registry.Named) {json : Json} {e : ReadError}
    (h : engine.readNode json type bindings = .error e)
    : ∃ node, engine.ReadBlames json type bindings e node := by
  induction json using Json.byChildren generalizing type bindings e with
  | step json ih =>
      cases present : json.isNull with
      | true =>
          rw [Json.eq_null_of_isNull present, readNode_null] at h
          cases h
      | false =>
          rw [readNode_eq present] at h
          cases asked : engine.asked type bindings with
          | error gap =>
              rw [asked] at h
              cases h
              exact ⟨json, .node (.here _ _ _) present (.gap asked json)⟩
          | ok form =>
              rw [asked] at h
              cases Form.readFails_of_readWith h with
              | part first failed =>
                  obtain ⟨node, blames⟩ := ih _ first.child.mem_children failed
                  exact ⟨node, blames.under asked first⟩
              | key mem refused =>
                  obtain ⟨⟨name, node⟩, hm, rfl⟩ := List.mem_map.mp mem
                  exact ⟨node, .key (.here _ _ _) asked hm (blamesKey_of_checkKey refused)⟩
              | @undeclared name property schema inner members strict found =>
                  have registered := (resolve_of_form?_record (form?_of_asked asked)).1
                  have hname : schema.name = name := named name (.object schema) registered
                  subst hname
                  have undeclared : schema.fields.lookup property = none := by
                    simpa using List.find?_some found
                  exact ⟨_, .node (.here _ _ _) present
                    (.undeclared asked registered (List.mem_of_find?_eq_some found) undeclared)⟩
              | adapter refused =>
                  have registered := lookup_of_form?_adapter (form?_of_asked asked)
                  exact ⟨json, .node (.here _ _ _) present (.adapter asked registered refused)⟩
              | mismatch misfit =>
                  exact ⟨json, .node (.here _ _ _) present (.mismatch asked misfit)⟩

-----------------------------------------------------------------------------------------
-- What is wrong with a value that is written
-----------------------------------------------------------------------------------------

/-- The cause says what is wrong with a value as a type: it is of another kind than is asked for,
it is a number that is not finite, its tag is not the name of an adapter, the adapter of the type
or of the tag refuses it, or nothing definite is asked of it. -/
inductive BlamesValue (engine : Engine) : WriteCause → Value → Descriptor → Bindings → Prop where
  | mismatch {form : Form} {type : Descriptor} {bindings : Bindings}
    {value : Value} (asked : engine.asked type bindings = .ok form)
    (misfit : form.writesFrom value = false)
    : BlamesValue engine (.mismatch form.expected value.kind) value type bindings
  | nonFinite {form : Form} {type : Descriptor} {bindings : Bindings} {x : Binary64}
    (asked : engine.asked type bindings = .ok form) (wanted : form = .float ∨ form = .natural)
    (notFinite : x.isFinite = false)
    : BlamesValue engine .nonFinite (.float x) type bindings
  | unsupported {type : Descriptor} {bindings : Bindings} {custom : Custom}
    (asked : engine.asked type bindings = .ok .natural)
    (unregistered : ∀ a, engine.registry.lookup custom.tag ≠ some (.adapter a))
    : BlamesValue engine (.unsupportedType custom.tag) (.custom custom) type bindings
  | adapter {form : Form} {name reason : String} {a : Adapter} {type : Descriptor}
    {bindings : Bindings} {custom : Custom} (asked : engine.asked type bindings = .ok form)
    (wanted : form = .adapter name a ∨ form = .natural ∧ custom.tag = name)
    (registered : engine.registry.lookup name = some (.adapter a))
    (refused : a.write custom = .error reason)
    : BlamesValue engine (.adapter name reason) (.custom custom) type bindings
  | gap {gap : Gap} {type : Descriptor} {bindings : Bindings}
    (asked : engine.asked type bindings = .error gap) (value : Value)
    : BlamesValue engine gap.writeCause value type bindings

/-- Where the writing of a value fails, and in which way. -/
inductive WriteBlames (engine : Engine) (value : Value) (type : Descriptor) (bindings : Bindings)
    : WriteError → Value → Prop where
  | intro {path : Path} {node : Value} {type' : Descriptor} {bindings' : Bindings}
    {cause : WriteCause} (place : engine.AsksValue value type bindings path node type' bindings')
    (present : node.isNull = false) (blames : engine.BlamesValue cause node type' bindings')
    : WriteBlames engine value type bindings ⟨path, cause⟩ node

theorem WriteBlames.reaches {value node : Value} {e : WriteError}
    (h : engine.WriteBlames value type bindings e node)
    : value.Reaches e.path node := by
  cases h with
  | intro place _ _ => exact place.reaches

theorem WriteBlames.under {value child node : Value} {step : Json.Step} {form : Form}
    {e : WriteError} (asked : engine.asked type bindings = .ok form)
    (first : form.WritesPart value step child type' bindings')
    (blames : engine.WriteBlames child type' bindings' e node)
    : engine.WriteBlames value type bindings (e.under step) node := by
  cases blames with
  | intro place present blames => exact .intro (.inside asked first place) present blames

theorem WriteBlames.under_shape {value child node : Value} {step : Json.Step} {e : WriteError}
    (asked : engine.asked type bindings = .ok .natural) (first : value.Child step child)
    (blames : engine.WriteBlames child .any [] e node)
    : engine.WriteBlames value type bindings (e.under step) node := by
  cases blames with
  | intro place present blames => exact .intro (.shape asked first place) present blames

/-- A value that is written by its own shape, in one step of the induction below: what is inside it
is written as any type. -/
theorem writeBlames_of_shapeFails (named : engine.registry.Named) {value : Value} {e : WriteError}
    (present : value.isNull = false) (asked : engine.asked type bindings = .ok .natural)
    (inside : ∀ child ∈ value.children, ∀ e, engine.writeNode child .any [] = .error e →
      ∃ node, engine.WriteBlames child .any [] e node)
    (failed : engine.ShapeFails value e)
    : ∃ node, engine.WriteBlames value type bindings e node := by
  cases failed with
  | part first failed =>
      rw [← writeNode_any _ _ []] at failed
      obtain ⟨node, blames⟩ := inside _ first.mem_children _ failed
      exact ⟨node, blames.under_shape asked first⟩
  | float notFinite =>
      exact ⟨_, .intro (.here _ _ _) present (.nonFinite asked (.inr rfl) notFinite)⟩
  | unsupported unregistered =>
      exact ⟨_, .intro (.here _ _ _) present (.unsupported asked unregistered)⟩
  | @adapter custom a reason registered refused =>
      have hname : a.name = custom.tag := named _ (.adapter a) registered
      exact ⟨_, .intro (.here _ _ _) present
        (.adapter asked (.inr ⟨rfl, hname.symm⟩) (hname ▸ registered) refused)⟩

/-- By induction on the value, with a case for each way in which a value fails. -/
theorem writeBlames_of_writeNode (named : engine.registry.Named) {value : Value} {e : WriteError}
    (h : engine.writeNode value type bindings = .error e)
    : ∃ node, engine.WriteBlames value type bindings e node := by
  induction value using Value.byChildren generalizing type bindings e with
  | step value ih =>
      cases present : value.isNull with
      | true =>
          rw [Value.eq_null_of_isNull present, writeNode_null] at h
          cases h
      | false =>
          rw [writeNode_eq present] at h
          cases asked : engine.asked type bindings with
          | error gap =>
              rw [asked] at h
              cases h
              exact ⟨value, .intro (.here _ _ _) present (.gap asked value)⟩
          | ok form =>
              rw [asked] at h
              cases Form.writeFails_of_writeWith h with
              | part first failed =>
                  obtain ⟨node, blames⟩ := ih _ first.child.mem_children failed
                  exact ⟨node, blames.under asked first⟩
              | shape failed =>
                  exact writeBlames_of_shapeFails named present asked
                    (fun child hm _ => ih child hm) failed
              | float notFinite =>
                  exact ⟨_, .intro (.here _ _ _) present (.nonFinite asked (.inl rfl) notFinite)⟩
              | @adapter name reason a custom refused =>
                  have registered := lookup_of_form?_adapter (form?_of_asked asked)
                  have hname : a.name = name := named _ (.adapter a) registered
                  subst hname
                  exact ⟨_, .intro (.here _ _ _) present
                    (.adapter asked (.inl rfl) registered refused)⟩
              | mismatch misfit =>
                  exact ⟨value, .intro (.here _ _ _) present (.mismatch asked misfit)⟩

-----------------------------------------------------------------------------------------
-- Main results
-----------------------------------------------------------------------------------------

/-- The path of an error leads to a place that is there, and the error describes what is at the
place: of a tree a node other than null that is wrong for its type or a member of a map whose name
is wrong for the key type, of a value a value other than null that is wrong for its type. Every
entry of the engine is to stand under its own name, as it does in an engine that is built. -/
theorem blames_of_error (engine : Engine) (named : engine.registry.Named)
    : (∀ json type e, engine.read json type = .error e →
        ∃ node, json.Reaches e.path node ∧ engine.ReadBlames json type [] e node)
      ∧ ∀ value type e, engine.write value type = .error e →
        ∃ node, value.Reaches e.path node ∧ engine.WriteBlames value type [] e node := by
  constructor
  · intro json type e h
    obtain ⟨node, blames⟩ := readBlames_of_readNode named h
    exact ⟨node, blames.reaches, blames⟩
  · intro value type e h
    obtain ⟨node, blames⟩ := writeBlames_of_writeNode named h
    exact ⟨node, blames.reaches, blames⟩

/-- Shelves hold anything, by number. -/
def shelfSchema : Schema where
  name := "Shelf"
  fields := [("boards", .map .integer .any)]

/-- An engine that knows shelves. -/
def shelves : Engine :=
  ofConfig {} [[.object shelfSchema]]

/-- A shelf with a board whose name is no number. -/
def namedBoard : Json :=
  .object [("boards", .object [("1", .null), ("top", .null)])]

/-- A shelf on which something lies that no adapter writes. -/
def strangeBoard : Value :=
  .object "Shelf" [("boards", .map [("1", .array [.null, .custom ⟨"Lamp", .amount "Lamp" 1⟩])])]

/-- The name of the second board is refused as a key, and the thing on the board for its tag. -/
theorem blames_of_error_shelves
    : shelves.registry.Named
        ∧ (∃ node, namedBoard.Reaches [.key "boards", .key "top"] node
          ∧ shelves.ReadBlames namedBoard (.named "Shelf") []
            ⟨[.key "boards", .key "top"], .mismatch (.key .integer) .key⟩ node)
        ∧ ∃ node, strangeBoard.Reaches [.key "boards", .key "1", .index 1] node
          ∧ shelves.WriteBlames strangeBoard (.named "Shelf") []
            ⟨[.key "boards", .key "1", .index 1], .unsupportedType "Lamp"⟩ node := by
  have named : shelves.registry.Named := named_ofConfig _ _
  have refused : shelves.read namedBoard (.named "Shelf")
      = .error ⟨[.key "boards", .key "top"], .mismatch (.key .integer) .key⟩ := rfl
  have unsupported : shelves.write strangeBoard (.named "Shelf")
      = .error ⟨[.key "boards", .key "1", .index 1], .unsupportedType "Lamp"⟩ := rfl
  exact ⟨named, (blames_of_error shelves named).1 _ _ _ refused,
    (blames_of_error shelves named).2 _ _ _ unsupported⟩

/-- Messages show the place of the thing so. -/
example : Path.text [.key "boards", .key "1", .index 1] = "$.boards.1[1]" := by decide +kernel

end Engine

end TypedJson
