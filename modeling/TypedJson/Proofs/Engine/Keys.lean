import TypedJson.Proofs.Engine.Natural

/-!
Map keys that only reading checks. Writing takes a map's entries as they are; reading refuses
an entry whose key the map's key type does not accept. So what is written can be read again
just when the written value has no such key.
-/

namespace TypedJson

namespace Engine

variable {engine : Engine} {type : Descriptor} {bindings inner : Bindings}

/-- Every adapter reads whatever it writes. -/
def AdaptersReread (engine : Engine) : Prop :=
  ∀ name a, engine.registry.lookup name = some (.adapter a) →
    ∀ custom json, a.write custom = .ok json → ∃ back, a.read json = .ok back

/-- Somewhere in the value, at a place where the type asks for a map, an entry has a key that the
key type does not accept. Fields that a schema does not declare do not count. -/
inductive KeyRefused (engine : Engine) : Value → Descriptor → Bindings → Prop where
  | key {type key item : Descriptor} {bindings inner : Bindings} {entries : List (String × Value)}
    {entry : String × Value}
    (form : engine.form? type bindings = some (.map key item inner))
    (mem : entry ∈ entries)
    (refused : engine.checkKey entry.1 key inner ≠ .ok ())
    : KeyRefused engine (.map entries) type bindings
  | entry {type key item : Descriptor} {bindings inner : Bindings}
    {entries : List (String × Value)} {entry : String × Value}
    (form : engine.form? type bindings = some (.map key item inner))
    (mem : entry ∈ entries)
    (below : KeyRefused engine entry.2 item inner)
    : KeyRefused engine (.map entries) type bindings
  | item {type item : Descriptor} {bindings inner : Bindings} {items : List Value} {value : Value}
    (form : engine.form? type bindings = some (.list item inner))
    (mem : value ∈ items)
    (below : KeyRefused engine value item inner)
    : KeyRefused engine (.array items) type bindings
  | field {type : Descriptor} {bindings inner : Bindings} {name : String} {schema : Schema}
    {value : Value} {entries : List (String × Value)} {part : Part Value}
    (form : engine.form? type bindings = some (.record name schema inner))
    (members : value.members? = some entries)
    (mem : part ∈ schema.parts Value.isNull entries)
    (below : KeyRefused engine part.node part.type inner)
    : KeyRefused engine value type bindings

/-- Only lists, maps and records have places where a key can be refused. -/
theorem not_keyRefused_of_leaf {form : Form} (known : engine.form? type bindings = some form)
    (leaf : form.hasParts = false) (value : Value)
    : ¬ engine.KeyRefused value type bindings := by
  intro h
  cases h with
  | key form' | entry form' | item form' | field form' =>
      obtain rfl := Option.some.inj (known.symm.trans form')
      cases leaf

theorem not_keyRefused_null (engine : Engine) (type : Descriptor) (bindings : Bindings)
    : ¬ engine.KeyRefused .null type bindings := by
  intro h
  cases h with
  | field _ members => cases members

theorem keyRefused_list_iff {item : Descriptor} {items : List Value}
    (form : engine.form? type bindings = some (.list item inner))
    : engine.KeyRefused (.array items) type bindings ↔
        ∃ value ∈ items, engine.KeyRefused value item inner := by
  constructor
  · intro h
    cases h with
    | item form' mem below =>
        obtain ⟨rfl, rfl⟩ := Form.list.inj (Option.some.inj (form.symm.trans form'))
        exact ⟨_, mem, below⟩
    | field _ members => cases members
  · intro given
    rcases given with ⟨value, mem, below⟩
    exact .item form mem below

theorem keyRefused_map_iff {key item : Descriptor} {entries : List (String × Value)}
    (form : engine.form? type bindings = some (.map key item inner))
    : engine.KeyRefused (.map entries) type bindings ↔
        ∃ entry ∈ entries,
          engine.checkKey entry.1 key inner ≠ .ok () ∨ engine.KeyRefused entry.2 item inner := by
  constructor
  · intro h
    cases h with
    | key form' mem refused =>
        obtain ⟨rfl, rfl, rfl⟩ := Form.map.inj (Option.some.inj (form.symm.trans form'))
        exact ⟨_, mem, .inl refused⟩
    | entry form' mem below =>
        obtain ⟨rfl, rfl, rfl⟩ := Form.map.inj (Option.some.inj (form.symm.trans form'))
        exact ⟨_, mem, .inr below⟩
    | field form' => cases form.symm.trans form'
  · intro given
    rcases given with ⟨entry, mem, refused | below⟩
    · exact .key form mem refused
    · exact .entry form mem below

theorem keyRefused_record_iff {name : String} {schema : Schema} {value : Value}
    {entries : List (String × Value)}
    (form : engine.form? type bindings = some (.record name schema inner))
    (members : value.members? = some entries)
    : engine.KeyRefused value type bindings ↔
        ∃ part ∈ schema.parts Value.isNull entries,
          engine.KeyRefused part.node part.type inner := by
  constructor
  · intro h
    cases h with
    | key form' | entry form' | item form' => cases form.symm.trans form'
    | field form' members' mem below =>
        obtain ⟨_, rfl, rfl⟩ := Form.record.inj (Option.some.inj (form.symm.trans form'))
        obtain rfl := Option.some.inj (members.symm.trans members')
        exact ⟨_, mem, below⟩
  · intro given
    rcases given with ⟨part, mem, below⟩
    exact .field form members mem below

-----------------------------------------------------------------------------------------
-- Reading what was written
-----------------------------------------------------------------------------------------

theorem exists_readNode_iff {form : Form} {json : Json} (present : json.isNull = false)
    (known : engine.form? type bindings = some form)
    : (∃ back, engine.readNode json type bindings = .ok back) ↔
        ∃ back, form.Reads engine json back := by
  simp only [engine.readNode_eq_ok_iff present, known, Option.some.injEq, exists_eq_left']

/-- A node that the form reads is read, also if it is null. -/
theorem exists_readNode_of_reads {form : Form} {json : Json} {value : Value}
    (known : engine.form? type bindings = some form) (reads : form.Reads engine json value)
    : ∃ back, engine.readNode json type bindings = .ok back := by
  cases hn : json.isNull with
  | true =>
      rw [Json.eq_null_of_isNull hn]
      exact ⟨.null, engine.readNode_null type bindings⟩
  | false => exact (exists_readNode_iff hn known).mpr ⟨value, reads⟩

/-- Whatever the value is written as can be read just when no key is refused. -/
def Rereads (engine : Engine) (value : Value) : Prop :=
  ∀ type bindings json, engine.writeNode value type bindings = .ok json →
    ((∃ back, engine.readNode json type bindings = .ok back) ↔
      ¬ engine.KeyRefused value type bindings)

theorem rereads_list {item : Descriptor} {items : List Value} {json : Json}
    (rereads : ∀ value ∈ items, engine.Rereads value)
    (form : engine.form? type bindings = some (.list item inner))
    (writes : (Form.list item inner).Writes engine (.array items) json)
    : (∃ back, (Form.list item inner).Reads engine json back) ↔
        ¬ engine.KeyRefused (.array items) type bindings := by
  obtain ⟨_, nodes, hi, rfl, hw⟩ := writes
  obtain rfl := Value.array.inj hi
  have hr : (∃ back, (Form.list item inner).Reads engine (.array nodes) back) ↔
      ∀ node ∈ nodes, ∃ v, engine.readNode node item inner = .ok v := by
    rw [← exists_forall₂_iff]
    constructor
    · intro given
      rcases given with ⟨_, _, values, hn, rfl, h⟩
      obtain rfl := Json.array.inj hn
      exact ⟨values, h⟩
    · intro given
      rcases given with ⟨values, h⟩
      exact ⟨_, nodes, values, rfl, rfl, h⟩
  rw [hr, keyRefused_list_iff form]
  push Not
  constructor
  · intro h value hv
    obtain ⟨node, hn, hvn⟩ := exists_of_forall₂_left hw hv
    exact (rereads value hv item inner node hvn).mp (h node hn)
  · intro h node hn
    obtain ⟨value, hv, hvn⟩ := exists_of_forall₂_right hw hn
    exact (rereads value hv item inner node hvn).mpr (h value hv)

theorem rereads_map {key item : Descriptor} {entries : List (String × Value)} {json : Json}
    (rereads : ∀ entry ∈ entries, engine.Rereads entry.2)
    (form : engine.form? type bindings = some (.map key item inner))
    (writes : (Form.map key item inner).Writes engine (.map entries) json)
    : (∃ back, (Form.map key item inner).Reads engine json back) ↔
        ¬ engine.KeyRefused (.map entries) type bindings := by
  obtain ⟨_, members, he, rfl, hw⟩ := writes
  obtain rfl := Value.map.inj he
  have hr : (∃ back, (Form.map key item inner).Reads engine (.object members) back) ↔
      ∀ member ∈ members, engine.checkKey member.1 key inner = .ok ()
        ∧ ∃ v, engine.readNode member.2 item inner = .ok v := by
    constructor
    · intro given member hm
      rcases given with ⟨_, _, values, hn, rfl, h⟩
      obtain rfl := Json.object.inj hn
      obtain ⟨value, _, _, hk, hv⟩ := exists_of_forall₂_left h hm
      exact ⟨hk, value.2, hv⟩
    · intro h
      obtain ⟨values, hv⟩ := exists_forall₂_iff.mpr fun member hm =>
        have ⟨hk, v, hv⟩ := h member hm
        (⟨(member.1, v), rfl, hk, hv⟩ :
          ∃ entry : String × Value, entry.1 = member.1
            ∧ engine.checkKey member.1 key inner = .ok ()
            ∧ engine.readNode member.2 item inner = .ok entry.2)
      exact ⟨_, members, values, rfl, rfl, hv⟩
  rw [hr, keyRefused_map_iff form]
  push Not
  constructor
  · intro h entry he
    obtain ⟨member, hm, hname, hem⟩ := exists_of_forall₂_left hw he
    rw [← hname]
    exact ⟨(h member hm).1, (rereads entry he item inner _ hem).mp (h member hm).2⟩
  · intro h member hm
    obtain ⟨entry, he, hname, hem⟩ := exists_of_forall₂_right hw hm
    rw [hname]
    exact ⟨(h entry he).1, (rereads entry he item inner _ hem).mpr (h entry he).2⟩

/-- A field that an adapter wrote as null is not read at all, but it would be read as null. -/
theorem rereads_record {name : String} {schema : Schema} {value : Value}
    {entries : List (String × Value)} {json : Json}
    (rereads : ∀ entry ∈ entries, engine.Rereads entry.2)
    (form : engine.form? type bindings = some (.record name schema inner))
    (members : value.members? = some entries)
    (writes : (Form.record name schema inner).Writes engine value json)
    : (∃ back, (Form.record name schema inner).Reads engine json back) ↔
        ¬ engine.KeyRefused value type bindings := by
  obtain ⟨entries', hm, parts, rfl, hw⟩ := writes
  obtain rfl := Option.some.inj (members.symm.trans hm)
  have hold : ∀ old ∈ schema.parts Value.isNull entries, engine.Rereads old.node := by
    intro old ho
    exact rereads _ (Members.mem_of_lookup (Part.mem_pick.mp ho).2.1)
  have hr : (∃ back, (Form.record name schema inner).Reads engine
        (.object (parts.map Part.member)) back) ↔
      ∀ part ∈ parts, ∃ v, engine.readNode part.node part.type inner = .ok v := by
    constructor
    · intro given part hp
      rcases given with ⟨_, _, values, hn, rfl, _, h⟩
      obtain rfl := Json.object.inj hn
      cases hnull : part.node.isNull with
      | true =>
          rw [Json.eq_null_of_isNull hnull]
          exact ⟨_, engine.readNode_null part.type inner⟩
      | false =>
          obtain ⟨read, _, hread⟩ :=
            exists_of_forall₂_left h (Schema.mem_parts_of_related hw hp hnull)
          exact ⟨read.node, hread.node⟩
    · intro h
      have hparts : ∀ part ∈ schema.parts Json.isNull (parts.map Part.member),
          ∃ read : Part Value,
            Part.Related (fun type node v => engine.readNode node type inner = .ok v) part
              read := by
        intro part hp
        obtain ⟨v, hv⟩ := h part (Schema.mem_of_mem_parts hw hp)
        exact ⟨⟨part.name, part.type, v⟩, rfl, rfl, hv⟩
      obtain ⟨values, hv⟩ := exists_forall₂_iff.mpr hparts
      refine ⟨_, _, values, rfl, rfl, fun _ => ?_, hv⟩
      rw [undeclared?_eq_none_iff]
      exact fun name hname => Schema.name_mem_of_related hw hname
  rw [hr, keyRefused_record_iff form members]
  push Not
  constructor
  · intro h old ho
    obtain ⟨part, hp, hop⟩ := exists_of_forall₂_left hw ho
    exact (hold old ho _ inner _ hop.node).mp (hop.type ▸ h part hp)
  · intro h part hp
    obtain ⟨old, ho, hop⟩ := exists_of_forall₂_right hw hp
    rw [hop.type]
    exact (hold old ho _ inner _ hop.node).mpr (h old ho)

/-- Every value is read again unless a key is refused, by induction on its children and cases on
the form of its type. -/
theorem rereads (adapters : engine.AdaptersReread) (value : Value) : engine.Rereads value := by
  induction value using Value.byChildren with
  | step value ih =>
      intro type bindings json hw
      cases hv : value.isNull with
      | true =>
          obtain rfl := Value.eq_null_of_isNull hv
          rw [writeNode_null] at hw
          obtain rfl := Except.ok.inj hw
          exact iff_of_true ⟨_, engine.readNode_null type bindings⟩
            (engine.not_keyRefused_null type bindings)
      | false =>
          obtain ⟨form, hf, writes⟩ := (engine.writeNode_eq_ok_iff hv type bindings json).mp hw
          have leaf : form.hasParts = false → (∃ back, form.Reads engine json back) →
              ((∃ back, engine.readNode json type bindings = .ok back) ↔
                ¬ engine.KeyRefused value type bindings) := by
            intro hleaf given
            rcases given with ⟨back, reads⟩
            exact iff_of_true (exists_readNode_of_reads hf reads)
              (not_keyRefused_of_leaf hf hleaf value)
          cases form with
          | natural => exact leaf rfl ⟨json.toValue, rfl⟩
          | bool =>
              obtain ⟨b, _, rfl⟩ := writes
              exact leaf rfl ⟨.bool b, b, rfl, rfl⟩
          | integer =>
              rcases writes with ⟨n, _, rfl⟩ | ⟨n, _, rfl⟩ <;> exact leaf rfl ⟨_, _, rfl, rfl⟩
          | float =>
              obtain ⟨x, _, hx⟩ := writes
              obtain ⟨finite, rfl⟩ := Json.ofBinary64?_eq_some_iff.mp hx
              exact leaf rfl ⟨_, _, rfl, rfl⟩
          | string =>
              obtain ⟨s, _, rfl⟩ := writes
              exact leaf rfl ⟨.string s, s, rfl, rfl⟩
          | adapter name a =>
              obtain ⟨custom, _, ha⟩ := writes
              obtain ⟨back, hb⟩ := adapters name a (lookup_of_form?_adapter hf) custom json ha
              exact leaf rfl ⟨.custom back, back, hb, rfl⟩
          | list item inner =>
              obtain ⟨items, nodes, rfl, rfl, _⟩ := id writes
              rw [exists_readNode_iff rfl hf]
              exact rereads_list ih hf writes
          | map key item inner =>
              obtain ⟨entries, members, rfl, rfl, _⟩ := id writes
              rw [exists_readNode_iff rfl hf]
              exact rereads_map (fun entry he => ih entry.2 (List.mem_map_of_mem he)) hf writes
          | record name schema inner =>
              obtain ⟨entries, hm, parts, rfl, _⟩ := id writes
              rw [exists_readNode_iff rfl hf]
              exact rereads_record
                (fun entry he => ih entry.2 (Value.mem_children_of_members? hm he)) hf hm writes

/-- What is written can be read as the same type just when no map in it has a key that the key
type does not accept: writing lets such a key pass. -/
theorem read_of_write_iff (adapters : engine.AdaptersReread) {value : Value} {type : Descriptor}
    {json : Json} (write : engine.write value type = .ok json)
    : (∃ back, engine.read json type = .ok back) ↔ ¬ engine.KeyRefused value type [] :=
  engine.rereads adapters value type [] json write

-----------------------------------------------------------------------------------------
-- A house whose rooms have numbers
-----------------------------------------------------------------------------------------

/-- Switches are truth values of a document. -/
def lightSwitch : Adapter where
  name := "Switch"
  read
    | .bool b => .ok ⟨"Switch", .amount "Switch" (if b then 1 else 0)⟩
    | _ => .error "expected a truth value"
  write custom := .ok (.bool (custom.payload == .amount "Switch" 1))

/-- An engine with a record of switches by room number. -/
def house : Engine where
  registry :=
    [("House",
        .object { name := "House", fields := [("rooms", .map .integer (.named "Switch"))] }),
      ("Switch", .adapter lightSwitch)]

theorem adaptersReread_house : house.AdaptersReread := by
  intro name a registered custom json write
  have ha : a = lightSwitch := by
    simp only [house, Members.lookup_cons_ite, List.lookup_nil] at registered
    split at registered
    · cases registered
    · split at registered
      · exact (Entry.adapter.inj (Option.some.inj registered)).symm
      · cases registered
  subst ha
  obtain rfl := Except.ok.inj write
  exact ⟨_, rfl⟩

/-- The house with the switch of one room on. -/
def houseWith (room : String) : Value :=
  .object "House" [("rooms", .map [(room, .custom ⟨"Switch", .amount "Switch" 1⟩)])]

/-- A house is written whatever its room is called, and read again only if that is a number. -/
theorem read_of_write_iff_house
    : house.AdaptersReread
        ∧ house.write (houseWith "12") (.named "House")
            = .ok (.object [("rooms", .object [("12", .bool true)])])
        ∧ ¬ house.KeyRefused (houseWith "12") (.named "House") []
        ∧ house.write (houseWith "hall") (.named "House")
            = .ok (.object [("rooms", .object [("hall", .bool true)])])
        ∧ ¬ ∃ back, house.read (.object [("rooms", .object [("hall", .bool true)])])
              (.named "House") = .ok back := by
  have hall : house.write (houseWith "hall") (.named "House")
      = .ok (.object [("rooms", .object [("hall", .bool true)])]) := rfl
  have refused : house.KeyRefused (houseWith "hall") (.named "House") [] := by
    refine .field rfl rfl (List.mem_singleton_self _) (.key rfl (List.mem_singleton_self _) ?_)
    exact (nomatch ·)
  have numbered : house.write (houseWith "12") (.named "House")
      = .ok (.object [("rooms", .object [("12", .bool true)])]) := rfl
  exact ⟨adaptersReread_house, numbered,
    (read_of_write_iff adaptersReread_house numbered).mp ⟨houseWith "12", rfl⟩, hall,
    fun read => (read_of_write_iff adaptersReread_house hall).mp read refused⟩

end Engine

end TypedJson
