import TypedJson.Proofs.Engine.Form

/-!
One step of reading and writing. What becomes of a node is given by its form and by what becomes
of its parts, errors included; and the form says with which types and bindings the parts are
read and written.
-/

namespace TypedJson

/-- What reads or writes one node as a type, under bindings. -/
abbrev Walker (α β ε : Type) := α → Descriptor → Bindings → Except ε β

namespace Walker

variable {α β ε : Type} (under : Json.Step → ε → ε) (walk : Walker α β ε)

/-- Walks a member under its name. -/
def member (type : Descriptor) (bindings : Bindings) (name : String) (node : α)
    : Except ε (String × β) :=
  ((walk node type bindings).mapError (under (.key name))).map fun result => (name, result)

/-- Walks the items of a list in turn. -/
def items (type : Descriptor) (bindings : Bindings) (nodes : List α) : Except ε (List β) :=
  nodes.zipIdx.mapM fun item => (walk item.1 type bindings).mapError (under (.index item.2))

/-- Walks the members of a map in turn, each after a check of its name. -/
def entries (check : String → Except ε Unit) (type : Descriptor) (bindings : Bindings)
    (members : List (String × α))
    : Except ε (List (String × β)) :=
  members.mapM fun entry => do
    check entry.1
    walk.member under type bindings entry.1 entry.2

/-- Walks the fields of a record in turn. -/
def fields (bindings : Bindings) (parts : List (Part α)) : Except ε (List (String × β)) :=
  parts.mapM fun field => walk.member under field.type bindings field.name field.node

variable {under walk} {type : Descriptor} {bindings : Bindings}

-----------------------------------------------------------------------------------------
-- Where a walk fails
-----------------------------------------------------------------------------------------

theorem exists_of_member_eq_error {name : String} {node : α} {e : ε}
    (h : walk.member under type bindings name node = .error e)
    : ∃ e', walk node type bindings = .error e' ∧ under (.key name) e' = e :=
  mapError_eq_error_iff.mp (map_eq_error_iff.mp h)

theorem exists_of_items_eq_error {nodes : List α} {e : ε}
    (h : walk.items under type bindings nodes = .error e)
    : ∃ node index, nodes[index]? = some node
        ∧ ∃ e', walk node type bindings = .error e' ∧ under (.index index) e' = e := by
  obtain ⟨⟨node, index⟩, hm, h⟩ := exists_of_mapM_eq_error h
  exact ⟨node, index, List.mem_zipIdx_iff_getElem?.mp hm, mapError_eq_error_iff.mp h⟩

theorem exists_of_entries_eq_error {check : String → Except ε Unit} {members : List (String × α)}
    {e : ε} (h : walk.entries under check type bindings members = .error e)
    : ∃ entry ∈ members, check entry.1 = .error e
        ∨ ∃ e', walk entry.2 type bindings = .error e' ∧ under (.key entry.1) e' = e := by
  obtain ⟨entry, hm, h⟩ := exists_of_mapM_eq_error h
  refine ⟨entry, hm, ?_⟩
  rcases bind_eq_error_iff.mp h with h | ⟨_, _, h⟩
  · exact .inl h
  · exact .inr (exists_of_member_eq_error h)

theorem exists_of_fields_eq_error {parts : List (Part α)} {e : ε}
    (h : walk.fields under bindings parts = .error e)
    : ∃ part ∈ parts, ∃ e',
        walk part.node part.type bindings = .error e' ∧ under (.key part.name) e' = e := by
  obtain ⟨part, hm, h⟩ := exists_of_mapM_eq_error h
  exact ⟨part, hm, exists_of_member_eq_error h⟩

-----------------------------------------------------------------------------------------
-- Where two walks agree
-----------------------------------------------------------------------------------------

variable {other : Walker α β ε} {type' : Descriptor} {bindings' : Bindings}
  {alike : ε → ε → Prop} (steps : ∀ step e e', alike e e' → alike (under step e) (under step e'))

include steps

theorem agrees_member {name : String} {node node' : α}
    (h : Agrees alike (walk node type bindings) (other node' type' bindings'))
    : Agrees alike (walk.member under type bindings name node)
        (other.member under type' bindings' name node') :=
  (h.mapError (steps _)).map _

theorem agrees_items {nodes nodes' : List α}
    (h : List.Forall₂ (fun node node' =>
      Agrees alike (walk node type bindings) (other node' type' bindings')) nodes nodes')
    : Agrees alike (walk.items under type bindings nodes)
        (other.items under type' bindings' nodes') := by
  apply Agrees.mapM
  refine (forall₂_zipIdx h 0).imp fun item item' given => ?_
  rcases given with ⟨hindex, h⟩
  rw [hindex]
  exact h.mapError (steps _)

theorem agrees_entries {check check' : String → Except ε Unit}
    {members members' : List (String × α)}
    (h : List.Forall₂ (fun entry entry' => entry'.1 = entry.1
      ∧ Agrees alike (check entry.1) (check' entry.1)
      ∧ Agrees alike (walk entry.2 type bindings) (other entry'.2 type' bindings'))
        members members')
    : Agrees alike (walk.entries under check type bindings members)
        (other.entries under check' type' bindings' members') := by
  apply Agrees.mapM
  refine h.imp fun entry entry' given => ?_
  rcases given with ⟨hname, checked, h⟩
  rw [hname]
  exact checked.bind fun _ => agrees_member steps h

theorem agrees_fields {parts parts' : List (Part α)}
    (h : List.Forall₂ (fun part part' => part'.name = part.name
      ∧ Agrees alike (walk part.node part.type bindings)
          (other part'.node part'.type bindings')) parts parts')
    : Agrees alike (walk.fields under bindings parts) (other.fields under bindings' parts') := by
  apply Agrees.mapM
  refine h.imp fun part part' given => ?_
  rcases given with ⟨hname, h⟩
  rw [hname]
  exact agrees_member steps h

end Walker

-----------------------------------------------------------------------------------------
-- Where two walks are the same
-----------------------------------------------------------------------------------------

namespace Walker

variable {α β ε : Type} {under : Json.Step → ε → ε} {walk other : Walker α β ε}
  {type type' : Descriptor} {bindings bindings' : Bindings}

theorem items_eq_of_forall₂ {nodes nodes' : List α}
    (h : List.Forall₂ (fun node node' =>
      walk node type bindings = other node' type' bindings') nodes nodes')
    : walk.items under type bindings nodes = other.items under type' bindings' nodes' :=
  (agrees_items (fun step _ _ he => congrArg (under step) he) (h.imp fun _ _ same =>
    .of_eq (fun _ => rfl) same)).eq

theorem entries_eq_of_forall₂ {check : String → Except ε Unit}
    {members members' : List (String × α)}
    (h : List.Forall₂ (fun entry entry' => entry'.1 = entry.1
      ∧ walk entry.2 type bindings = other entry'.2 type' bindings') members members')
    : walk.entries under check type bindings members
        = other.entries under check type' bindings' members' :=
  (agrees_entries (fun step _ _ he => congrArg (under step) he) (h.imp fun _ _ given =>
    ⟨given.1, .refl (fun _ => rfl) _, .of_eq (fun _ => rfl) given.2⟩)).eq

theorem fields_eq_of_related {parts parts' : List (Part α)}
    (h : List.Forall₂
      (Part.Related fun type a b => walk a type bindings = other b type bindings') parts parts')
    : walk.fields under bindings parts = other.fields under bindings' parts' :=
  (agrees_fields (fun step _ _ he => congrArg (under step) he) (h.imp fun _ _ related =>
    ⟨related.name, .of_eq (fun _ => rfl) (related.type ▸ related.node)⟩)).eq

theorem items_congr {nodes : List α}
    (h : ∀ node ∈ nodes, walk node type bindings = other node type' bindings')
    : walk.items under type bindings nodes = other.items under type' bindings' nodes :=
  items_eq_of_forall₂ (List.forall₂_same.mpr h)

theorem entries_congr {check : String → Except ε Unit} {members : List (String × α)}
    (h : ∀ entry ∈ members, walk entry.2 type bindings = other entry.2 type' bindings')
    : walk.entries under check type bindings members
        = other.entries under check type' bindings' members :=
  entries_eq_of_forall₂ (List.forall₂_same.mpr fun entry hm => ⟨rfl, h entry hm⟩)

theorem fields_congr {parts : List (Part α)}
    (h : ∀ part ∈ parts, walk part.node part.type bindings = other part.node part.type bindings')
    : walk.fields under bindings parts = other.fields under bindings' parts :=
  fields_eq_of_related (List.forall₂_same.mpr fun part hm => ⟨rfl, rfl, h part hm⟩)

end Walker

namespace Form

/-- What a node that does not fit the form is told to be. -/
def expected : Form → Expected
  | .natural => .shape .any
  | .bool => .shape .bool
  | .integer => .shape .integer
  | .float => .shape .float
  | .string => .shape .string
  | .list item _ => .shape (.list item)
  | .map key value _ => .shape (.map key value)
  | .adapter name _ | .record name _ _ => .type name

/-- Reads a node, which is not null, in the way that the form asks for, given what reads its
parts. -/
def readWith (engine : Engine) (part : Walker Json Value ReadError) (form : Form) (json : Json)
    : Except ReadError Value :=
  match form, json with
  | .natural, json => .ok json.toValue
  | .bool, .bool b => .ok (.bool b)
  | .integer, .number (.integer n) => .ok (Number.integer n).toValue
  | .float, .number n => .ok (.float n.toBinary64)
  | .string, .string s => .ok (.string s)
  | .list type bindings, .array items =>
      (part.items ReadError.under type bindings items).map .array
  | .map key type bindings, .object members =>
      let check := fun name =>
        (engine.checkKey name key bindings).mapError (ReadError.mk [.key name])
      (part.entries ReadError.under check type bindings members).map .map
  | .adapter name a, json =>
      match a.read json with
      | .ok custom => .ok (.custom custom)
      | .error reason => .error ⟨[], .adapter name reason⟩
  | .record name schema bindings, .object members =>
      match if engine.strict then Engine.undeclared? schema members else none with
      | some property => .error ⟨[], .unknownProperty schema.name property⟩
      | none =>
          (part.fields ReadError.under bindings (schema.parts Json.isNull members)).map
            (.object name)
  | form, json => .error ⟨[], .mismatch form.expected json.kind⟩

/-- Writes a value, which is not null, in the way that the form asks for, given what writes its
parts. -/
def writeWith (engine : Engine) (part : Walker Value Json WriteError) (form : Form) (value : Value)
    : Except WriteError Json :=
  match form, value with
  | .natural, value => engine.writeShape value
  | .bool, .bool b => .ok (.bool b)
  | .integer, .integer n => .ok (.ofInt64 n)
  | .integer, .unsigned n => .ok (.ofUInt64 n)
  | .float, .float x => Engine.writeFloat x
  | .string, .string s => .ok (.string s)
  | .list type bindings, .array items =>
      (part.items WriteError.under type bindings items).map .array
  | .map _ type bindings, .map entries =>
      (part.entries WriteError.under (fun _ => .ok ()) type bindings entries).map .object
  | .adapter _ a, .custom custom => Engine.writeCustom a custom
  | .record name schema bindings, value =>
      match value.members? with
      | some entries =>
          (part.fields WriteError.under bindings (schema.parts Value.isNull entries)).map .object
      | none => .error ⟨[], .mismatch (.type name) value.kind⟩
  | form, value => .error ⟨[], .mismatch form.expected value.kind⟩

-----------------------------------------------------------------------------------------
-- The parts of a node
-----------------------------------------------------------------------------------------

/-- The form asks for a part of this type, under these bindings. -/
inductive Hands : Form → Descriptor → Bindings → Prop where
  | item (type : Descriptor) (bindings : Bindings) : Hands (.list type bindings) type bindings
  | entry (key type : Descriptor) (bindings : Bindings)
    : Hands (.map key type bindings) type bindings
  | field {name : String} {schema : Schema} {bindings : Bindings} {field : String × Descriptor}
    (declared : field ∈ schema.fields)
    : Hands (.record name schema bindings) field.2 bindings

/-- The parts of a node that are read, with their types and bindings. -/
def readParts : Form → Json → List (Json × Descriptor × Bindings)
  | .list type bindings, .array items => items.map fun item => (item, type, bindings)
  | .map _ type bindings, .object members =>
      members.map fun member => (member.2, type, bindings)
  | .record _ schema bindings, .object members =>
      (schema.parts Json.isNull members).map fun part => (part.node, part.type, bindings)
  | _, _ => []

/-- The parts of a value that are written, with their types and bindings. -/
def writeParts : Form → Value → List (Value × Descriptor × Bindings)
  | .list type bindings, .array items => items.map fun item => (item, type, bindings)
  | .map _ type bindings, .map entries => entries.map fun entry => (entry.2, type, bindings)
  | .record _ schema bindings, value =>
      (schema.parts Value.isNull (value.members?.getD [])).map fun part =>
        (part.node, part.type, bindings)
  | _, _ => []

theorem mem_readParts {form : Form} {json part : Json} {type : Descriptor} {bindings : Bindings}
    (mem : (part, type, bindings) ∈ form.readParts json)
    : part ∈ json.children ∧ form.Hands type bindings := by
  cases form with
  | list item inner =>
      cases json with
      | array items =>
          obtain ⟨_, hm, he⟩ := List.mem_map.mp mem
          cases he
          exact ⟨hm, .item _ _⟩
      | _ => cases mem
  | map key item inner =>
      cases json with
      | object members =>
          obtain ⟨_, hm, he⟩ := List.mem_map.mp mem
          cases he
          exact ⟨List.mem_map_of_mem hm, .entry _ _ _⟩
      | _ => cases mem
  | record name schema inner =>
      cases json with
      | object members =>
          obtain ⟨part, hm, he⟩ := List.mem_map.mp mem
          cases he
          obtain ⟨hf, hl, _⟩ := Part.mem_pick.mp hm
          exact ⟨List.mem_map_of_mem (Members.mem_of_lookup hl), .field hf⟩
      | _ => cases mem
  | _ => cases json <;> cases mem

theorem mem_writeParts {form : Form} {value part : Value} {type : Descriptor}
    {bindings : Bindings} (mem : (part, type, bindings) ∈ form.writeParts value)
    : part ∈ value.children ∧ form.Hands type bindings := by
  cases form with
  | list item inner =>
      cases value with
      | array items =>
          obtain ⟨_, hm, he⟩ := List.mem_map.mp mem
          cases he
          exact ⟨hm, .item _ _⟩
      | _ => cases mem
  | map key item inner =>
      cases value with
      | map entries =>
          obtain ⟨_, hm, he⟩ := List.mem_map.mp mem
          cases he
          exact ⟨List.mem_map_of_mem hm, .entry _ _ _⟩
      | _ => cases mem
  | record name schema inner =>
      obtain ⟨part, hm, he⟩ := List.mem_map.mp mem
      cases he
      obtain ⟨hf, hl, _⟩ := Part.mem_pick.mp hm
      have hin := Members.mem_of_lookup hl
      cases hv : value.members? with
      | none => simp [hv] at hin
      | some members =>
          rw [hv] at hin
          exact ⟨Value.mem_children_of_members? hv hin, .field hf⟩
  | _ => cases value <;> cases mem

variable {engine : Engine} {form : Form}

/-- Reading a node asks for nothing but its parts. -/
theorem readWith_congr {part other : Walker Json Value ReadError} {json : Json}
    (same : ∀ asked ∈ form.readParts json,
      part asked.1 asked.2.1 asked.2.2 = other asked.1 asked.2.1 asked.2.2)
    : form.readWith engine part json = form.readWith engine other json := by
  cases form with
  | list type bindings =>
      cases json with
      | array items =>
          have h : part.items ReadError.under type bindings items
              = other.items ReadError.under type bindings items :=
            Walker.items_congr fun item hm =>
              same (item, type, bindings) (List.mem_map.mpr ⟨item, hm, rfl⟩)
          simp only [readWith, h]
      | _ => rfl
  | map key type bindings =>
      cases json with
      | object members =>
          have h : ∀ check, part.entries ReadError.under check type bindings members
              = other.entries ReadError.under check type bindings members := fun check =>
            Walker.entries_congr fun entry hm =>
              same (entry.2, type, bindings) (List.mem_map.mpr ⟨entry, hm, rfl⟩)
          simp only [readWith, h]
      | _ => rfl
  | record name schema bindings =>
      cases json with
      | object members =>
          have h : part.fields ReadError.under bindings (schema.parts Json.isNull members)
              = other.fields ReadError.under bindings (schema.parts Json.isNull members) :=
            Walker.fields_congr fun field hm =>
              same (field.node, field.type, bindings) (List.mem_map.mpr ⟨field, hm, rfl⟩)
          simp only [readWith, h]
      | _ => rfl
  | integer =>
      cases json with
      | number n => cases n <;> rfl
      | _ => rfl
  | _ => cases json <;> rfl

/-- Writing a value asks for nothing but its parts. -/
theorem writeWith_congr {part other : Walker Value Json WriteError} {value : Value}
    (same : ∀ asked ∈ form.writeParts value,
      part asked.1 asked.2.1 asked.2.2 = other asked.1 asked.2.1 asked.2.2)
    : form.writeWith engine part value = form.writeWith engine other value := by
  cases form with
  | list type bindings =>
      cases value with
      | array items =>
          have h : part.items WriteError.under type bindings items
              = other.items WriteError.under type bindings items :=
            Walker.items_congr fun item hm =>
              same (item, type, bindings) (List.mem_map.mpr ⟨item, hm, rfl⟩)
          simp only [writeWith, h]
      | _ => rfl
  | map key type bindings =>
      cases value with
      | map entries =>
          have h : ∀ check, part.entries WriteError.under check type bindings entries
              = other.entries WriteError.under check type bindings entries := fun check =>
            Walker.entries_congr fun entry hm =>
              same (entry.2, type, bindings) (List.mem_map.mpr ⟨entry, hm, rfl⟩)
          simp only [writeWith, h]
      | _ => rfl
  | record name schema bindings =>
      simp only [writeWith]
      cases hv : value.members? with
      | none => rfl
      | some entries =>
          have h : part.fields WriteError.under bindings (schema.parts Value.isNull entries)
              = other.fields WriteError.under bindings (schema.parts Value.isNull entries) :=
            Walker.fields_congr fun field hm =>
              same (field.node, field.type, bindings)
                (List.mem_map.mpr ⟨field, by simpa [hv] using hm, rfl⟩)
          simp only [h]
  | _ => cases value <;> rfl

end Form

namespace Engine

variable (engine : Engine)

-----------------------------------------------------------------------------------------
-- Where forms come from
-----------------------------------------------------------------------------------------

section Origin

variable {engine} {type : Descriptor} {bindings : Bindings}

/-- A parameter is resolved as what stands for it is resolved by itself. -/
theorem resolve_var {parameter : String} {bound : Descriptor}
    (known : bindings.lookup parameter = some bound)
    : (Descriptor.var parameter).resolve bindings = bound.resolve [] := by
  cases bound <;> simp only [Descriptor.resolve, known, List.lookup_nil]

/-- A type is resolved to itself under the same bindings, or it is a parameter and is resolved to
what stands for it, under none. -/
theorem resolve_cases {shape : Descriptor} {inner : Bindings}
    (resolved : type.resolve bindings = .ok (shape, inner))
    : (shape = type ∧ inner = bindings)
        ∨ ∃ parameter, type = .var parameter ∧ bindings.lookup parameter = some shape
          ∧ inner = [] := by
  cases type with
  | var parameter =>
      simp only [Descriptor.resolve] at resolved
      split at resolved
      · cases resolved
      · cases resolved
      · next bound _ hl =>
          obtain ⟨rfl, rfl⟩ := Prod.mk.inj (Except.ok.inj resolved)
          exact .inr ⟨parameter, rfl, hl, rfl⟩
  | _ =>
      obtain ⟨rfl, rfl⟩ := Prod.mk.inj (Except.ok.inj resolved)
      exact .inl ⟨rfl, rfl⟩

theorem formOfName?_eq_some {name : String} {form : Form}
    (known : engine.formOfName? name bindings = some form)
    : (∃ a, form = .adapter name a)
        ∨ ∃ schema, form = .record name schema bindings
            ∧ engine.registry.lookup name = some (.object schema)
            ∧ missingArgument? schema bindings = none := by
  simp only [formOfName?] at known
  split at known
  · cases known
  · exact .inl ⟨_, (Option.some.inj known).symm⟩
  · next hl =>
      split at known
      · cases known
      · next given => exact .inr ⟨_, (Option.some.inj known).symm, hl, given⟩

/-- What is asked of a node comes from what its type is resolved to: of a list or a map it is the
same for its parts, and otherwise it comes from a name with bindings for its arguments. -/
theorem resolve_of_form? {form : Form} (known : engine.form? type bindings = some form)
    : ∃ shape inner, type.resolve bindings = .ok (shape, inner)
        ∧ ((∃ item, shape = .list item ∧ form = .list item inner)
          ∨ (∃ key value, shape = .map key value ∧ form = .map key value inner)
          ∨ (∃ name, shape = .named name ∧ engine.formOfName? name [] = some form)
          ∨ (∃ name arguments bound, shape = .generic name arguments
              ∧ Descriptor.bindArguments inner arguments = .ok bound
              ∧ engine.formOfName? name bound = some form)
          ∨ form.hasParts = false) := by
  simp only [form?] at known
  cases hr : type.resolve bindings with
  | error parameter =>
      rw [hr] at known
      cases known
  | ok resolved =>
      obtain ⟨shape, inner⟩ := resolved
      rw [hr] at known
      refine ⟨shape, inner, rfl, ?_⟩
      cases shape with
      | list item => exact .inl ⟨item, rfl, (Option.some.inj known).symm⟩
      | map key value => exact .inr (.inl ⟨key, value, rfl, (Option.some.inj known).symm⟩)
      | named name => exact .inr (.inr (.inl ⟨name, rfl, known⟩))
      | generic name arguments =>
          dsimp only at known
          cases hb : Descriptor.bindArguments inner arguments with
          | error parameter =>
              rw [hb] at known
              cases known
          | ok bound =>
              rw [hb] at known
              exact .inr (.inr (.inr (.inl ⟨name, arguments, bound, rfl, hb, known⟩)))
      | var parameter => cases known
      | _ =>
          obtain rfl := Option.some.inj known
          exact .inr (.inr (.inr (.inr rfl)))

theorem resolve_of_form?_list {item : Descriptor} {inner : Bindings}
    (known : engine.form? type bindings = some (.list item inner))
    : type.resolve bindings = .ok (.list item, inner) := by
  obtain ⟨shape, inner', hr, ⟨_, rfl, h⟩ | ⟨_, _, _, h⟩ | ⟨_, _, h⟩ | ⟨_, _, _, _, _, h⟩ | h⟩ :=
    resolve_of_form? known
  · cases h
    exact hr
  · cases h
  · rcases formOfName?_eq_some h with ⟨_, h⟩ | ⟨_, h, _⟩ <;> cases h
  · rcases formOfName?_eq_some h with ⟨_, h⟩ | ⟨_, h, _⟩ <;> cases h
  · cases h

theorem resolve_of_form?_map {key value : Descriptor} {inner : Bindings}
    (known : engine.form? type bindings = some (.map key value inner))
    : type.resolve bindings = .ok (.map key value, inner) := by
  obtain ⟨shape, inner', hr, ⟨_, _, h⟩ | ⟨_, _, rfl, h⟩ | ⟨_, _, h⟩ | ⟨_, _, _, _, _, h⟩ | h⟩ :=
    resolve_of_form? known
  · cases h
  · cases h
    exact hr
  · rcases formOfName?_eq_some h with ⟨_, h⟩ | ⟨_, h, _⟩ <;> cases h
  · rcases formOfName?_eq_some h with ⟨_, h⟩ | ⟨_, h, _⟩ <;> cases h
  · cases h

/-- The fields of a schema are asked for by its name, with bindings that lack no argument: none
for the name by itself, otherwise those of its arguments. -/
theorem resolve_of_form?_record {name : String} {schema : Schema} {bound : Bindings}
    (known : engine.form? type bindings = some (.record name schema bound))
    : engine.registry.lookup name = some (.object schema) ∧ missingArgument? schema bound = none
        ∧ ((∃ inner, type.resolve bindings = .ok (.named name, inner) ∧ bound = [])
          ∨ ∃ arguments inner, type.resolve bindings = .ok (.generic name arguments, inner)
            ∧ Descriptor.bindArguments inner arguments = .ok bound) := by
  obtain ⟨shape, inner, hr, ⟨_, _, h⟩ | ⟨_, _, _, h⟩ | ⟨_, rfl, h⟩ | ⟨_, _, _, rfl, hb, h⟩ | h⟩ :=
    resolve_of_form? known
  · cases h
  · cases h
  · rcases formOfName?_eq_some h with ⟨_, h⟩ | ⟨_, h, hl, given⟩
    · cases h
    · cases h
      exact ⟨hl, given, .inl ⟨inner, hr, rfl⟩⟩
  · rcases formOfName?_eq_some h with ⟨_, h⟩ | ⟨_, h, hl, given⟩
    · cases h
    · cases h
      exact ⟨hl, given, .inr ⟨_, inner, hr, hb⟩⟩
  · cases h

end Origin

-----------------------------------------------------------------------------------------
-- Keys
-----------------------------------------------------------------------------------------

section Key

variable {engine} {type : Descriptor} {bindings : Bindings} (key : String)

/-- A key is checked against what the key type is resolved to. -/
theorem checkKey_eq (type : Descriptor) (bindings : Bindings)
    : engine.checkKey key type bindings =
        match type.resolve bindings with
        | .error parameter => .error (.unbound parameter)
        | .ok (shape, _) =>
            if engine.acceptsKey key shape then .ok ()
            else .error (.mismatch (.key shape) .key) := by
  cases type with
  | var parameter =>
      cases known : bindings.lookup parameter with
      | none => simp only [checkKey, Descriptor.resolve, known]
      | some bound => cases bound <;> simp only [checkKey, Descriptor.resolve, known]
  | _ => rfl

theorem checkKey_of_not_var (h : ∀ parameter, type ≠ .var parameter)
    : engine.checkKey key type bindings
        = if engine.acceptsKey key type then .ok () else .error (.mismatch (.key type) .key) := by
  cases type with
  | var parameter => exact absurd rfl (h parameter)
  | _ => rfl

theorem checkKey_var {parameter : String} (known : bindings.lookup parameter = some type)
    : engine.checkKey key (.var parameter) bindings = engine.checkKey key type [] := by
  rw [checkKey_eq, checkKey_eq, resolve_var known]

end Key

-----------------------------------------------------------------------------------------
-- Reading a node through its form
-----------------------------------------------------------------------------------------

theorem readItems_eq_items (items : List Json) (index : Nat) (type : Descriptor)
    (bindings : Bindings)
    : engine.readItems items index type bindings
        = (items.zipIdx index).mapM fun item =>
            (engine.readNode item.1 type bindings).mapError (ReadError.under (.index item.2)) := by
  induction items generalizing index with
  | nil => rfl
  | cons item rest ih =>
      simp only [readItems, ih, List.zipIdx_cons, List.mapM_cons]
      rfl

theorem readEntries_eq_entries (members : List (String × Json)) (key type : Descriptor)
    (bindings : Bindings)
    : engine.readEntries members key type bindings
        = Walker.entries ReadError.under engine.readNode
            (fun name => (engine.checkKey name key bindings).mapError (ReadError.mk [.key name]))
            type bindings members := by
  induction members with
  | nil => rfl
  | cons member rest ih =>
      simp only [readEntries, ih, Walker.entries, List.mapM_cons, bind_assoc, Walker.member,
        map_bind]
      rfl

theorem readFields_eq_fields (bindings : Bindings) (members : List (String × Json))
    (fields : List (String × Descriptor))
    : readFields bindings (pendingMembers engine members) fields
        = Walker.fields ReadError.under engine.readNode bindings
            (Part.pick Json.isNull members fields) := by
  induction fields with
  | nil => rfl
  | cons head rest ih =>
      obtain ⟨field, type⟩ := head
      simp only [readFields, lookup_pendingMembers, Part.pick, List.filterMap_cons]
      cases hl : members.lookup field with
      | none => simpa [Part.pick] using ih
      | some json =>
          cases hn : json.isNull with
          | true => simpa [hn, Part.pick] using ih
          | false =>
              simp only [hn, Option.bind_some, Bool.false_eq_true, if_false, ih, Walker.fields,
                List.mapM_cons, Walker.member, map_bind]
              rfl

theorem readObject_eq_readWith {name : String} {schema : Schema} {bindings : Bindings}
    (given : missingArgument? schema bindings = none) (json : Json)
    : engine.readObject name schema bindings json.kind
          (match json with
            | .object members => some (pendingMembers engine members)
            | _ => none)
        = (Form.record name schema bindings).readWith engine engine.readNode json := by
  cases json with
  | object members =>
      simp only [readObject, given, undeclared?_pendingMembers, readFields_eq_fields,
        Form.readWith]
      rfl
  | _ => simp only [readObject, given, Form.readWith, Form.expected]

theorem readNamed_of_form (json : Json) {name : String} {bindings : Bindings} {form : Form}
    (known : engine.formOfName? name bindings = some form)
    : engine.readNamed json
          (match json with
            | .object members => some (pendingMembers engine members)
            | _ => none)
          name bindings
        = form.readWith engine engine.readNode json := by
  simp only [formOfName?] at known
  split at known
  · cases known
  · next a hl =>
      obtain rfl := Option.some.inj known
      cases hread : a.read json with
      | ok _ | error _ => simp only [readNamed, hl, hread, Form.readWith]
  · next schema hl =>
      split at known
      · cases known
      · next given =>
          obtain rfl := Option.some.inj known
          simp only [readNamed, hl]
          exact engine.readObject_eq_readWith given json

/-- A node other than null is read in the way of its type's form, and its parts are read with the
types and bindings of the form. -/
theorem readNode_of_form {json : Json} (present : json.isNull = false) {type : Descriptor}
    {bindings : Bindings} {form : Form} (known : engine.form? type bindings = some form)
    : engine.readNode json type bindings = form.readWith engine engine.readNode json := by
  rw [readNode.eq_def, if_neg (by simp [present])]
  simp only [form?] at known
  cases hr : type.resolve bindings with
  | error parameter =>
      rw [hr] at known
      cases known
  | ok resolved =>
      obtain ⟨shape, inner⟩ := resolved
      rw [hr] at known
      dsimp only at known ⊢
      cases shape with
      | named name => exact engine.readNamed_of_form json known
      | generic name arguments =>
          dsimp only at known ⊢
          cases hb : Descriptor.bindArguments inner arguments with
          | error parameter =>
              rw [hb] at known
              cases known
          | ok bound =>
              rw [hb] at known
              exact engine.readNamed_of_form json known
      | var parameter => cases known
      | list item =>
          obtain rfl := Option.some.inj known
          cases json with
          | array items =>
              simp only [readItems_eq_items, Form.readWith]
              rfl
          | _ => rfl
      | map key value =>
          obtain rfl := Option.some.inj known
          cases json with
          | object members =>
              simp only [readEntries_eq_entries, Form.readWith]
          | _ => rfl
      | bytes | any =>
          obtain rfl := Option.some.inj known
          rfl
      | integer =>
          obtain rfl := Option.some.inj known
          cases json with
          | number n => cases n <;> rfl
          | _ => rfl
      | bool | float | string =>
          obtain rfl := Option.some.inj known
          cases json <;> rfl

/-- A map with a null under one key is read as its key is checked. -/
theorem readNode_soleKey (key : String) (keyType type : Descriptor) (bindings : Bindings)
    : engine.readNode (.object [(key, .null)]) (.map keyType type) bindings
        = ((engine.checkKey key keyType bindings).mapError (ReadError.mk [.key key])).map
            fun _ => .map [(key, .null)] := by
  have present : (Json.object [(key, .null)]).isNull = false := rfl
  have form : engine.form? (.map keyType type) bindings = some (.map keyType type bindings) := rfl
  rw [engine.readNode_of_form present form]
  simp only [Form.readWith, Walker.entries, List.mapM_cons, List.mapM_nil, Walker.member,
    engine.readNode_null]
  cases engine.checkKey key keyType bindings <;> rfl

-----------------------------------------------------------------------------------------
-- Writing a value through its form
-----------------------------------------------------------------------------------------

theorem writeItems_eq_items (items : List Value) (index : Nat) (type : Descriptor)
    (bindings : Bindings)
    : engine.writeItems items index type bindings
        = (items.zipIdx index).mapM fun item =>
            (engine.writeNode item.1 type bindings).mapError
              (WriteError.under (.index item.2)) := by
  induction items generalizing index with
  | nil => rfl
  | cons item rest ih =>
      simp only [writeItems, ih, List.zipIdx_cons, List.mapM_cons]
      rfl

theorem writeEntries_eq_entries (entries : List (String × Value)) (type : Descriptor)
    (bindings : Bindings)
    : engine.writeEntries entries type bindings
        = Walker.entries WriteError.under engine.writeNode (fun _ => .ok ()) type bindings
            entries := by
  induction entries with
  | nil => rfl
  | cons entry rest ih =>
      simp only [writeEntries, ih, Walker.entries, List.mapM_cons, ok_bind, Walker.member,
        map_bind]
      rfl

theorem writeFields_eq_fields (bindings : Bindings) (members : List (String × Value))
    (fields : List (String × Descriptor))
    : writeFields bindings (waitingMembers engine members) fields
        = Walker.fields WriteError.under engine.writeNode bindings
            (Part.pick Value.isNull members fields) := by
  induction fields with
  | nil => rfl
  | cons head rest ih =>
      obtain ⟨field, type⟩ := head
      simp only [writeFields, lookup_waitingMembers, Part.pick, List.filterMap_cons]
      cases hl : members.lookup field with
      | none => simpa [Part.pick] using ih
      | some value =>
          cases hn : value.isNull with
          | true => simpa [hn, Part.pick] using ih
          | false =>
              simp only [hn, Option.bind_some, Bool.false_eq_true, if_false, ih, Walker.fields,
                List.mapM_cons, Walker.member, map_bind]
              rfl

theorem writeNamed_of_form (value : Value) {name : String} {bindings : Bindings} {form : Form}
    (known : engine.formOfName? name bindings = some form)
    : engine.writeNamed value
          (match value with
            | .map entries => some (waitingMembers engine entries)
            | .object _ fields => some (waitingMembers engine fields)
            | _ => none)
          name bindings
        = form.writeWith engine engine.writeNode value := by
  refine (congrArg (engine.writeNamed value · name bindings)
    (engine.waiting_eq_members? value)).trans ?_
  simp only [formOfName?] at known
  split at known
  · cases known
  · next a hl =>
      obtain rfl := Option.some.inj known
      simp only [writeNamed, hl]
      cases value <;> rfl
  · next schema hl =>
      split at known
      · cases known
      · next given =>
          obtain rfl := Option.some.inj known
          simp only [writeNamed, hl, given, Form.writeWith]
          cases value.members? with
          | none => rfl
          | some entries => simp only [Option.map_some, writeFields_eq_fields, Schema.parts]

/-- A value other than null is written in the way of its type's form, and its parts are written
with the types and bindings of the form. -/
theorem writeNode_of_form {value : Value} (present : value.isNull = false) {type : Descriptor}
    {bindings : Bindings} {form : Form} (known : engine.form? type bindings = some form)
    : engine.writeNode value type bindings = form.writeWith engine engine.writeNode value := by
  rw [writeNode.eq_def, if_neg (by simp [present])]
  simp only [form?] at known
  cases hr : type.resolve bindings with
  | error parameter =>
      rw [hr] at known
      cases known
  | ok resolved =>
      obtain ⟨shape, inner⟩ := resolved
      rw [hr] at known
      dsimp only at known ⊢
      cases shape with
      | named name => exact engine.writeNamed_of_form value known
      | generic name arguments =>
          dsimp only at known ⊢
          cases hb : Descriptor.bindArguments inner arguments with
          | error parameter =>
              rw [hb] at known
              cases known
          | ok bound =>
              rw [hb] at known
              exact engine.writeNamed_of_form value known
      | var parameter => cases known
      | list item =>
          obtain rfl := Option.some.inj known
          cases value with
          | array items =>
              simp only [writeItems_eq_items, Form.writeWith]
              rfl
          | _ => rfl
      | map key type =>
          obtain rfl := Option.some.inj known
          cases value with
          | map entries => simp only [writeEntries_eq_entries, Form.writeWith]
          | _ => rfl
      | bytes | any =>
          obtain rfl := Option.some.inj known
          rfl
      | bool | integer | float | string =>
          obtain rfl := Option.some.inj known
          cases value <;> rfl

-----------------------------------------------------------------------------------------
-- Writing a value by its own shape
-----------------------------------------------------------------------------------------

/-- Writes a value by its own shape, whatever its type. -/
def shapeWalker : Walker Value Json WriteError :=
  fun value _ _ => engine.writeShape value

theorem writeShapes_eq_items (items : List Value) (index : Nat)
    : engine.writeShapes items index
        = (items.zipIdx index).mapM fun item =>
            (engine.writeShape item.1).mapError (WriteError.under (.index item.2)) := by
  induction items generalizing index with
  | nil => rfl
  | cons item rest ih =>
      simp only [writeShapes, ih, List.zipIdx_cons, List.mapM_cons]
      rfl

theorem writeShapeMembers_eq_entries (members : List (String × Value))
    : engine.writeShapeMembers members
        = engine.shapeWalker.entries WriteError.under (fun _ => .ok ()) .any [] members := by
  induction members with
  | nil => rfl
  | cons member rest ih =>
      simp only [writeShapeMembers, ih, Walker.entries, List.mapM_cons, ok_bind, Walker.member,
        map_bind]
      rfl

end Engine

end TypedJson
