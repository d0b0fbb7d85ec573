import TypedJson.Proofs.Engine.Gap
import TypedJson.Proofs.Json.Document

/-!
How deeply the calls of reading and writing are nested. Here both are given as they look names
up: a node is told its type, a parameter sends it back with what it stands for, a name sends it
on to the registry, and a schema's fields send its members back to be told theirs. Nothing in the
types grows smaller on the way, and schemas may mention themselves; so the calls are counted and
cut off when too many are nested. They never are when three are allowed for each level of the
tree or value.
-/

namespace TypedJson

-----------------------------------------------------------------------------------------
-- Depth
-----------------------------------------------------------------------------------------

namespace Json

theorem depth_le_depthOfItems {items : List Json} {item : Json} (mem : item ∈ items)
    : item.depth ≤ depthOfItems items := by
  induction items with
  | nil => cases mem
  | cons head rest ih =>
      rcases List.mem_cons.mp mem with rfl | mem
      · exact le_max_left _ _
      · exact (ih mem).trans (le_max_right _ _)

theorem depthOfMembers_eq (members : List (String × Json))
    : depthOfMembers members = depthOfItems (members.map Prod.snd) := by
  induction members with
  | nil => rfl
  | cons member rest ih => simp only [depthOfMembers, List.map_cons, depthOfItems, ih]

theorem depth_lt_of_mem_children {json child : Json} (mem : child ∈ json.children)
    : child.depth < json.depth := by
  cases json with
  | array items => exact Nat.lt_succ_of_le (depth_le_depthOfItems mem)
  | object members =>
      rw [depth, depthOfMembers_eq]
      exact Nat.lt_succ_of_le (depth_le_depthOfItems mem)
  | _ => cases mem

end Json

namespace Value

mutual
/-- How deeply arrays, maps and objects are nested in a value. -/
def depth : Value → Nat
  | .array items => depthOfItems items + 1
  | .map members | .object _ members => depthOfMembers members + 1
  | _ => 0

/-- The depth of the deepest item. -/
def depthOfItems : List Value → Nat
  | [] => 0
  | item :: rest => max item.depth (depthOfItems rest)

/-- The depth of the deepest value of an entry or a field. -/
def depthOfMembers : List (String × Value) → Nat
  | [] => 0
  | (_, value) :: rest => max value.depth (depthOfMembers rest)
end

theorem depth_le_depthOfItems {items : List Value} {item : Value} (mem : item ∈ items)
    : item.depth ≤ depthOfItems items := by
  induction items with
  | nil => cases mem
  | cons head rest ih =>
      rcases List.mem_cons.mp mem with rfl | mem
      · exact le_max_left _ _
      · exact (ih mem).trans (le_max_right _ _)

theorem depthOfMembers_eq (members : List (String × Value))
    : depthOfMembers members = depthOfItems (members.map Prod.snd) := by
  induction members with
  | nil => rfl
  | cons member rest ih => simp only [depthOfMembers, List.map_cons, depthOfItems, ih]

theorem depth_lt_of_mem_children {value child : Value} (mem : child ∈ value.children)
    : child.depth < value.depth := by
  cases value with
  | array items => exact Nat.lt_succ_of_le (depth_le_depthOfItems mem)
  | map members | object _ members =>
      rw [depth, depthOfMembers_eq]
      exact Nat.lt_succ_of_le (depth_le_depthOfItems mem)
  | _ => cases mem

end Value

-----------------------------------------------------------------------------------------
-- Errors of calls that may be cut off
-----------------------------------------------------------------------------------------

/-- The error of a call that may be cut off, seen from outside the part that the step leads to. It
is `none` where the call was cut off. -/
def Cut.under {ε : Type} (under : Json.Step → ε → ε) (step : Json.Step) : Option ε → Option ε :=
  Option.map (under step)

/-- The outcome of a call that was not cut off. -/
def Cut.uncut {α ε : Type} : Except ε α → Except (Option ε) α :=
  Except.mapError some

namespace Cut

variable {α β ε : Type}

theorem uncut_error (e : ε) : uncut (.error e : Except ε α) = .error (some e) :=
  rfl

theorem uncut_map (f : α → β) (x : Except ε α) : uncut (x.map f) = (uncut x).map f := by
  cases x <;> rfl

theorem uncut_bind (x : Except ε α) (f : α → Except ε β)
    : uncut (x >>= f) = (uncut x >>= fun a => uncut (f a)) := by
  cases x <;> rfl

theorem uncut_mapError (under : Json.Step → ε → ε) (step : Json.Step) (x : Except ε α)
    : uncut (x.mapError (under step)) = (uncut x).mapError (Cut.under under step) := by
  cases x <;> rfl

theorem uncut_mapM {f : α → Except ε β} {g : α → Except (Option ε) β} {as : List α}
    (h : ∀ a ∈ as, g a = uncut (f a))
    : as.mapM g = uncut (as.mapM f) := by
  induction as with
  | nil => rfl
  | cons a rest ih =>
      have hr : rest.mapM g = uncut (rest.mapM f) := ih fun a hm => h a (by simp [hm])
      simp only [List.mapM_cons, h a (by simp), hr, uncut_bind]
      rfl

end Cut

namespace Walker

variable {α β ε : Type} {under : Json.Step → ε → ε} {walk : Walker α β ε}
  {within : Walker α β (Option ε)} {type : Descriptor} {bindings : Bindings}

theorem member_uncut {name : String} {node : α}
    (h : within node type bindings = Cut.uncut (walk node type bindings))
    : within.member (Cut.under under) type bindings name node
        = Cut.uncut (walk.member under type bindings name node) := by
  simp only [member, h, Cut.uncut_map, Cut.uncut_mapError]

/-- Items are walked with no call cut off when none is cut off in any of them; likewise below. -/
theorem items_uncut {nodes : List α}
    (h : ∀ node ∈ nodes, within node type bindings = Cut.uncut (walk node type bindings))
    : within.items (Cut.under under) type bindings nodes
        = Cut.uncut (walk.items under type bindings nodes) :=
  Cut.uncut_mapM fun item hm => by
    simp only [h item.1 (List.fst_mem_of_mem_zipIdx hm), Cut.uncut_mapError]

theorem entries_uncut {check : String → Except ε Unit} {check' : String → Except (Option ε) Unit}
    {members : List (String × α)} (checks : ∀ name, check' name = Cut.uncut (check name))
    (h : ∀ entry ∈ members, within entry.2 type bindings = Cut.uncut (walk entry.2 type bindings))
    : within.entries (Cut.under under) check' type bindings members
        = Cut.uncut (walk.entries under check type bindings members) :=
  Cut.uncut_mapM fun entry hm => by
    simp only [checks, Cut.uncut_bind, member_uncut (h entry hm)]

theorem fields_uncut {parts : List (Part α)}
    (h : ∀ part ∈ parts,
      within part.node part.type bindings = Cut.uncut (walk part.node part.type bindings))
    : within.fields (Cut.under under) bindings parts
        = Cut.uncut (walk.fields under bindings parts) :=
  Cut.uncut_mapM fun part hm => member_uncut (h part hm)

end Walker

namespace Engine

-----------------------------------------------------------------------------------------
-- Reading with nested calls counted
-----------------------------------------------------------------------------------------

mutual
/-- Reads a node as a type with at most so many nested calls, this one among them. Where they do
not suffice it fails with `none` in the place of an error. -/
def readNodeWithin (engine : Engine) : Nat → Walker Json Value (Option ReadError)
  | 0, _, _, _ => .error none
  | calls + 1, json, type, bindings =>
      let mismatch : Except (Option ReadError) Value :=
        .error (some ⟨[], .mismatch (.shape type) json.kind⟩)
      if json.isNull then .ok .null
      else
        match type with
        | .bytes | .any => .ok json.toValue
        | .bool =>
            match json with
            | .bool b => .ok (.bool b)
            | _ => mismatch
        | .integer =>
            match json with
            | .number (.integer n) => .ok (Number.integer n).toValue
            | _ => mismatch
        | .float =>
            match json with
            | .number n => .ok (.float n.toBinary64)
            | _ => mismatch
        | .string =>
            match json with
            | .string s => .ok (.string s)
            | _ => mismatch
        | .list item =>
            match json with
            | .array items =>
                ((engine.readNodeWithin calls).items (Cut.under ReadError.under) item bindings
                  items).map .array
            | _ => mismatch
        | .map key value =>
            match json with
            | .object members =>
                let check := fun name =>
                  Cut.uncut ((engine.checkKey name key bindings).mapError
                    (ReadError.mk [.key name]))
                ((engine.readNodeWithin calls).entries (Cut.under ReadError.under) check value
                  bindings members).map .map
            | _ => mismatch
        | .named name => engine.readNamedWithin calls json name []
        | .generic name arguments =>
            match Descriptor.bindArguments bindings arguments with
            | .error parameter => .error (some ⟨[], .unbound parameter⟩)
            | .ok bound => engine.readNamedWithin calls json name bound
        | .var parameter =>
            match bindings.lookup parameter with
            | none => .error (some ⟨[], .unbound parameter⟩)
            | some bound => engine.readNodeWithin calls json bound []

/-- Reads a node, which is not null, as the type of a name with at most so many nested calls. -/
def readNamedWithin (engine : Engine)
    : Nat → Json → String → Bindings → Except (Option ReadError) Value
  | 0, _, _, _ => .error none
  | calls + 1, json, name, bindings =>
      match engine.registry.lookup name with
      | none => .error (some ⟨[], .unknownType name⟩)
      | some (.adapter a) =>
          match a.read json with
          | .ok custom => .ok (.custom custom)
          | .error reason => .error (some ⟨[], .adapter name reason⟩)
      | some (.object schema) =>
          match missingArgument? schema bindings with
          | some parameter => .error (some ⟨[], .missingArgument name parameter⟩)
          | none =>
              match json with
              | .object members =>
                  match if engine.strict then undeclared? schema members else none with
                  | some property => .error (some ⟨[], .unknownProperty schema.name property⟩)
                  | none =>
                      ((engine.readNodeWithin calls).fields (Cut.under ReadError.under) bindings
                        (schema.parts Json.isNull members)).map (.object name)
              | _ => .error (some ⟨[], .mismatch (.type name) json.kind⟩)
end

/-- Reads a tree as a type with at most so many nested calls. -/
def readWithin (engine : Engine) (calls : Nat) (json : Json) (type : Descriptor)
    : Except (Option ReadError) Value :=
  engine.readNodeWithin calls json type []

variable {engine : Engine} {json : Json} {type : Descriptor} {bindings : Bindings} {calls : Nat}

theorem readNamedWithin_of_children {name : String}
    (inside : ∀ child ∈ json.children, ∀ type bindings,
      engine.readNodeWithin calls child type bindings
        = Cut.uncut (engine.readNode child type bindings))
    : engine.readNamedWithin (calls + 1) json name bindings
        = Cut.uncut
            (match engine.askedOfName name bindings with
            | .ok form => form.readWith engine engine.readNode json
            | .error gap => .error ⟨[], gap.readCause⟩) := by
  simp only [readNamedWithin, askedOfName]
  cases engine.registry.lookup name with
  | none => rfl
  | some entry =>
      cases entry with
      | adapter a =>
          simp only [Form.readWith]
          cases a.read json <;> rfl
      | object schema =>
          dsimp only
          cases missingArgument? schema bindings with
          | some parameter => rfl
          | none =>
              cases json with
              | object members =>
                  have hf : (engine.readNodeWithin calls).fields (Cut.under ReadError.under)
                      bindings (schema.parts Json.isNull members) = Cut.uncut _ :=
                    Walker.fields_uncut fun part hm =>
                      inside part.node
                        (List.mem_map_of_mem (Members.mem_of_lookup (Part.mem_pick.mp hm).2.1))
                        part.type bindings
                  simp only [Form.readWith, hf]
                  cases if engine.strict then undeclared? schema members else none with
                  | some property => rfl
                  | none => simp only [Cut.uncut_map]
              | _ => rfl

/-- Two nested calls, and those for what is inside, read a node as a type that is not a
parameter. -/
theorem readNodeWithin_of_not_var (present : json.isNull = false)
    (h : ∀ parameter, type ≠ .var parameter)
    (inside : ∀ more ≥ calls, ∀ child ∈ json.children, ∀ type bindings,
      engine.readNodeWithin more child type bindings
        = Cut.uncut (engine.readNode child type bindings))
    : engine.readNodeWithin (calls + 2) json type bindings
        = Cut.uncut (engine.readNode json type bindings) := by
  rw [readNode_eq present, readNodeWithin.eq_def]
  simp only [present, Bool.false_eq_true, if_false]
  cases type with
  | list item =>
      cases json with
      | array items =>
          have hi : (engine.readNodeWithin (calls + 1)).items (Cut.under ReadError.under) item
              bindings items = Cut.uncut _ :=
            Walker.items_uncut fun node hm => inside (calls + 1) (by omega) node hm item bindings
          simp only [asked, Descriptor.resolve, Form.readWith, hi, Cut.uncut_map]
      | _ => rfl
  | map key value =>
      cases json with
      | object members =>
          have he : ∀ check : String → Except ReadError Unit,
              (engine.readNodeWithin (calls + 1)).entries (Cut.under ReadError.under)
                (fun name => Cut.uncut (check name)) value bindings members = Cut.uncut _ :=
            fun check => Walker.entries_uncut (fun _ => rfl) fun entry hm =>
              inside (calls + 1) (by omega) entry.2 (List.mem_map_of_mem hm) value bindings
          simp only [asked, Descriptor.resolve, Form.readWith, he, Cut.uncut_map]
      | _ => rfl
  | named name => exact readNamedWithin_of_children (inside calls le_rfl)
  | generic name arguments =>
      simp only [asked, Descriptor.resolve]
      cases Descriptor.bindArguments bindings arguments with
      | error parameter => rfl
      | ok bound => exact readNamedWithin_of_children (inside calls le_rfl)
  | var parameter => exact absurd rfl (h parameter)
  | integer =>
      cases json with
      | number n => cases n <;> rfl
      | _ => rfl
  | _ => cases json <;> rfl

theorem readNodeWithin_unbound (present : json.isNull = false) {parameter : String}
    (h : bindings.lookup parameter = none)
    : engine.readNodeWithin (calls + 1) json (.var parameter) bindings
        = Cut.uncut (engine.readNode json (.var parameter) bindings) := by
  rw [readNodeWithin.eq_def, readNode.eq_def]
  simp only [present, Bool.false_eq_true, if_false, Descriptor.resolve, h, Cut.uncut_error]

/-- Three nested calls, and those for what is inside, read a node as any type: one more sends a
parameter on to what it stands for, which cannot be a parameter that stands for anything. -/
theorem readNodeWithin_of_children (present : json.isNull = false)
    (inside : ∀ more ≥ calls, ∀ child ∈ json.children, ∀ type bindings,
      engine.readNodeWithin more child type bindings
        = Cut.uncut (engine.readNode child type bindings))
    : engine.readNodeWithin (calls + 3) json type bindings
        = Cut.uncut (engine.readNode json type bindings) := by
  cases type with
  | var parameter =>
      cases known : bindings.lookup parameter with
      | none => exact readNodeWithin_unbound present known
      | some bound =>
          have hw : engine.readNodeWithin (calls + 3) json (.var parameter) bindings
              = engine.readNodeWithin (calls + 2) json bound [] := by
            rw [readNodeWithin.eq_def]
            simp only [present, Bool.false_eq_true, if_false, known]
          have hr : engine.readNode json (.var parameter) bindings
              = engine.readNode json bound [] := by
            rw [readNode_eq present, readNode_eq present, asked_var known]
          rw [hw, hr]
          cases bound with
          | var inner => exact readNodeWithin_unbound present rfl
          | _ => exact readNodeWithin_of_not_var present (fun _ h => by cases h) inside
  | _ =>
      exact readNodeWithin_of_not_var present (fun _ h => by cases h) fun more hm =>
        inside more (by omega)

/-- Three nested calls for each level of a tree read it, by induction on the tree. -/
theorem readNodeWithin_eq (enough : 3 * (json.depth + 1) ≤ calls)
    : engine.readNodeWithin calls json type bindings
        = Cut.uncut (engine.readNode json type bindings) := by
  induction json using Json.byChildren generalizing calls type bindings with
  | step json ih =>
      obtain ⟨more, rfl⟩ : ∃ more, calls = more + 3 := ⟨calls - 3, by omega⟩
      cases hn : json.isNull with
      | true =>
          rw [readNode.eq_def, if_pos hn, readNodeWithin.eq_def]
          exact if_pos hn
      | false =>
          refine readNodeWithin_of_children hn fun calls hc child hm type bindings => ?_
          have hd := Json.depth_lt_of_mem_children hm
          exact ih child hm (by omega)

-----------------------------------------------------------------------------------------
-- Writing with nested calls counted
-----------------------------------------------------------------------------------------

mutual
/-- Writes a value as a type with at most so many nested calls, this one among them. Where they do
not suffice it fails with `none` in the place of an error. -/
def writeNodeWithin (engine : Engine) : Nat → Walker Value Json (Option WriteError)
  | 0, _, _, _ => .error none
  | calls + 1, value, type, bindings =>
      let mismatch : Except (Option WriteError) Json :=
        .error (some ⟨[], .mismatch (.shape type) value.kind⟩)
      if value.isNull then .ok .null
      else
        match type with
        | .bytes | .any => Cut.uncut (engine.writeShape value)
        | .bool =>
            match value with
            | .bool b => .ok (.bool b)
            | _ => mismatch
        | .integer =>
            match value with
            | .integer n => .ok (.ofInt64 n)
            | .unsigned n => .ok (.ofUInt64 n)
            | _ => mismatch
        | .float =>
            match value with
            | .float x => Cut.uncut (writeFloat x)
            | _ => mismatch
        | .string =>
            match value with
            | .string s => .ok (.string s)
            | _ => mismatch
        | .list item =>
            match value with
            | .array items =>
                ((engine.writeNodeWithin calls).items (Cut.under WriteError.under) item bindings
                  items).map .array
            | _ => mismatch
        | .map _ type =>
            match value with
            | .map entries =>
                ((engine.writeNodeWithin calls).entries (Cut.under WriteError.under)
                  (fun _ => .ok ()) type bindings entries).map .object
            | _ => mismatch
        | .named name => engine.writeNamedWithin calls value name []
        | .generic name arguments =>
            match Descriptor.bindArguments bindings arguments with
            | .error parameter => .error (some ⟨[], .unbound parameter⟩)
            | .ok bound => engine.writeNamedWithin calls value name bound
        | .var parameter =>
            match bindings.lookup parameter with
            | none => .error (some ⟨[], .unbound parameter⟩)
            | some bound => engine.writeNodeWithin calls value bound []

/-- Writes a value, which is not null, as the type of a name with at most so many nested calls. -/
def writeNamedWithin (engine : Engine)
    : Nat → Value → String → Bindings → Except (Option WriteError) Json
  | 0, _, _, _ => .error none
  | calls + 1, value, name, bindings =>
      match engine.registry.lookup name with
      | none => .error (some ⟨[], .unknownType name⟩)
      | some (.adapter a) =>
          match value with
          | .custom custom => Cut.uncut (writeCustom a custom)
          | _ => .error (some ⟨[], .mismatch (.type name) value.kind⟩)
      | some (.object schema) =>
          match missingArgument? schema bindings with
          | some parameter => .error (some ⟨[], .missingArgument name parameter⟩)
          | none =>
              match value.members? with
              | some members =>
                  ((engine.writeNodeWithin calls).fields (Cut.under WriteError.under) bindings
                    (schema.parts Value.isNull members)).map .object
              | none => .error (some ⟨[], .mismatch (.type name) value.kind⟩)
end

/-- Writes a value as a type with at most so many nested calls. -/
def writeWithin (engine : Engine) (calls : Nat) (value : Value) (type : Descriptor)
    : Except (Option WriteError) Json :=
  engine.writeNodeWithin calls value type []

variable {value : Value}

theorem writeNamedWithin_of_children {name : String}
    (inside : ∀ child ∈ value.children, ∀ type bindings,
      engine.writeNodeWithin calls child type bindings
        = Cut.uncut (engine.writeNode child type bindings))
    : engine.writeNamedWithin (calls + 1) value name bindings
        = Cut.uncut
            (match engine.askedOfName name bindings with
            | .ok form => form.writeWith engine engine.writeNode value
            | .error gap => .error ⟨[], gap.writeCause⟩) := by
  simp only [writeNamedWithin, askedOfName]
  cases engine.registry.lookup name with
  | none => rfl
  | some entry =>
      cases entry with
      | adapter a => cases value <;> rfl
      | object schema =>
          dsimp only
          cases missingArgument? schema bindings with
          | some parameter => rfl
          | none =>
              simp only [Form.writeWith]
              cases hv : value.members? with
              | none => rfl
              | some members =>
                  have hf : (engine.writeNodeWithin calls).fields (Cut.under WriteError.under)
                      bindings (schema.parts Value.isNull members) = Cut.uncut _ :=
                    Walker.fields_uncut fun part hm =>
                      have found := Members.mem_of_lookup (Part.mem_pick.mp hm).2.1
                      inside part.node (Value.mem_children_of_members? hv found) part.type bindings
                  simp only [hf, Cut.uncut_map]

theorem writeNodeWithin_of_not_var (present : value.isNull = false)
    (h : ∀ parameter, type ≠ .var parameter)
    (inside : ∀ more ≥ calls, ∀ child ∈ value.children, ∀ type bindings,
      engine.writeNodeWithin more child type bindings
        = Cut.uncut (engine.writeNode child type bindings))
    : engine.writeNodeWithin (calls + 2) value type bindings
        = Cut.uncut (engine.writeNode value type bindings) := by
  rw [writeNode_eq present, writeNodeWithin.eq_def]
  simp only [present, Bool.false_eq_true, if_false]
  cases type with
  | list item =>
      cases value with
      | array items =>
          have hi : (engine.writeNodeWithin (calls + 1)).items (Cut.under WriteError.under) item
              bindings items = Cut.uncut _ :=
            Walker.items_uncut fun node hm => inside (calls + 1) (by omega) node hm item bindings
          simp only [asked, Descriptor.resolve, Form.writeWith, hi, Cut.uncut_map]
      | _ => rfl
  | map key type =>
      cases value with
      | map entries =>
          have he : (engine.writeNodeWithin (calls + 1)).entries (Cut.under WriteError.under)
              (fun _ => .ok ()) type bindings entries
                = Cut.uncut (Walker.entries WriteError.under engine.writeNode (fun _ => .ok ())
                    type bindings entries) :=
            Walker.entries_uncut (fun _ => rfl) fun entry hm =>
              inside (calls + 1) (by omega) entry.2 (List.mem_map_of_mem hm) type bindings
          simp only [asked, Descriptor.resolve, Form.writeWith, he, Cut.uncut_map]
      | _ => rfl
  | named name => exact writeNamedWithin_of_children (inside calls le_rfl)
  | generic name arguments =>
      simp only [asked, Descriptor.resolve]
      cases Descriptor.bindArguments bindings arguments with
      | error parameter => rfl
      | ok bound => exact writeNamedWithin_of_children (inside calls le_rfl)
  | var parameter => exact absurd rfl (h parameter)
  | _ => cases value <;> rfl

theorem writeNodeWithin_unbound (present : value.isNull = false) {parameter : String}
    (h : bindings.lookup parameter = none)
    : engine.writeNodeWithin (calls + 1) value (.var parameter) bindings
        = Cut.uncut (engine.writeNode value (.var parameter) bindings) := by
  rw [writeNodeWithin.eq_def, writeNode.eq_def]
  simp only [present, Bool.false_eq_true, if_false, Descriptor.resolve, h, Cut.uncut_error]

theorem writeNodeWithin_of_children (present : value.isNull = false)
    (inside : ∀ more ≥ calls, ∀ child ∈ value.children, ∀ type bindings,
      engine.writeNodeWithin more child type bindings
        = Cut.uncut (engine.writeNode child type bindings))
    : engine.writeNodeWithin (calls + 3) value type bindings
        = Cut.uncut (engine.writeNode value type bindings) := by
  cases type with
  | var parameter =>
      cases known : bindings.lookup parameter with
      | none => exact writeNodeWithin_unbound present known
      | some bound =>
          have hw : engine.writeNodeWithin (calls + 3) value (.var parameter) bindings
              = engine.writeNodeWithin (calls + 2) value bound [] := by
            rw [writeNodeWithin.eq_def]
            simp only [present, Bool.false_eq_true, if_false, known]
          have hr : engine.writeNode value (.var parameter) bindings
              = engine.writeNode value bound [] := by
            rw [writeNode_eq present, writeNode_eq present, asked_var known]
          rw [hw, hr]
          cases bound with
          | var inner => exact writeNodeWithin_unbound present rfl
          | _ => exact writeNodeWithin_of_not_var present (fun _ h => by cases h) inside
  | _ =>
      exact writeNodeWithin_of_not_var present (fun _ h => by cases h) fun more hm =>
        inside more (by omega)

/-- Three nested calls for each level of a value write it, by induction on the value. -/
theorem writeNodeWithin_eq (enough : 3 * (value.depth + 1) ≤ calls)
    : engine.writeNodeWithin calls value type bindings
        = Cut.uncut (engine.writeNode value type bindings) := by
  induction value using Value.byChildren generalizing calls type bindings with
  | step value ih =>
      obtain ⟨more, rfl⟩ : ∃ more, calls = more + 3 := ⟨calls - 3, by omega⟩
      cases hn : value.isNull with
      | true =>
          rw [writeNode.eq_def, if_pos hn, writeNodeWithin.eq_def]
          exact if_pos hn
      | false =>
          refine writeNodeWithin_of_children hn fun calls hc child hm type bindings => ?_
          have hd := Value.depth_lt_of_mem_children hm
          exact ih child hm (by omega)

-----------------------------------------------------------------------------------------
-- Main results
-----------------------------------------------------------------------------------------

/-- Reading a tree of some depth and writing a value of some depth, as any type and with any
registry, nest no more than three calls for each level and three for the innermost: when at least
so many are allowed, none is cut off, and what comes out is what comes out without a limit. -/
theorem read_and_write_within_depth (engine : Engine) (type : Descriptor)
    : (∀ json calls, 3 * (json.depth + 1) ≤ calls →
        engine.readWithin calls json type = Cut.uncut (engine.read json type))
      ∧ ∀ value calls, 3 * (value.depth + 1) ≤ calls →
        engine.writeWithin calls value type = Cut.uncut (engine.write value type) :=
  ⟨fun _ _ enough => readNodeWithin_eq enough, fun _ _ enough => writeNodeWithin_eq enough⟩

/-- A nest of some type holds one of it, and a nest of lists of it. -/
def nestSchema : Schema where
  name := "Nest"
  parameters := ["T"]
  fields := [("held", .var "T"), ("inner", .generic "Nest" [("T", .list (.var "T"))])]

/-- An engine for nests. -/
def nests : Engine where
  registry := [("Nest", .object nestSchema)]

/-- A nest in a nest. -/
def nested : Json :=
  .object [("held", .bool true), ("inner", .object [("held", .array [.bool false])])]

/-- The value of a nest in a nest. -/
def nestedValue : Value :=
  .object "Nest" [("held", .bool true),
    ("inner", .object "Nest" [("held", .array [.bool false])])]

/-- The schema of nests mentions itself with an argument that grows at each level. Twelve calls
are allowed for a nest in a nest, and as many for its value. -/
theorem read_and_write_within_depth_nests
    : 3 * (nested.depth + 1) = 12 ∧ 3 * (nestedValue.depth + 1) = 12
        ∧ nests.readWithin 12 nested (.generic "Nest" [("T", .bool)]) = .ok nestedValue
        ∧ nests.writeWithin 12 nestedValue (.generic "Nest" [("T", .bool)]) = .ok nested := by
  have all := read_and_write_within_depth nests (.generic "Nest" [("T", .bool)])
  refine ⟨by decide, by decide, ?_, ?_⟩
  · exact (all.1 nested 12 (by decide)).trans rfl
  · exact (all.2 nestedValue 12 (by decide)).trans rfl

/-- Six calls are too few. -/
example : nests.readWithin 6 nested (.generic "Nest" [("T", .bool)]) = .error none := rfl

end Engine

end TypedJson
