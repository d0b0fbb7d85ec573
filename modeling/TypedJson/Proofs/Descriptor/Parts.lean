import TypedJson.Descriptor.Bind
import TypedJson.Proofs.Outcome
import TypedJson.Proofs.Tree.Basic

/-!
Descriptors by what is inside them: conditions on a descriptor and everything in it, the height
of a descriptor, and what binding makes of both. A descriptor without parameters is bound to
itself, and whatever is bound to such descriptors is one.
-/

namespace TypedJson

namespace Descriptor

/-- The descriptors that a descriptor is directly made of. -/
def parts : Descriptor → List Descriptor
  | .list item => [item]
  | .map key value => [key, value]
  | .generic _ arguments => arguments.map Prod.snd
  | _ => []

theorem sizeOf_lt_of_mem_parts {d part : Descriptor} (h : part ∈ d.parts)
    : sizeOf part < sizeOf d := by
  cases d with
  | list item =>
      obtain rfl := List.mem_singleton.mp h
      simp only [list.sizeOf_spec]
      omega
  | map key value =>
      simp only [parts, List.mem_cons, List.not_mem_nil, or_false] at h
      rcases h with rfl | rfl <;> simp only [map.sizeOf_spec] <;> omega
  | generic name arguments =>
      obtain ⟨argument, hm, rfl⟩ := List.mem_map.mp h
      have := sizeOf_snd_lt_of_mem hm
      simp only [generic.sizeOf_spec]
      omega
  | _ => simp [parts] at h

/-- Induction on a descriptor, in which what it is made of comes before it. -/
@[elab_as_elim]
theorem byParts {motive : Descriptor → Prop}
    (step : ∀ d, (∀ part ∈ d.parts, motive part) → motive d) (d : Descriptor)
    : motive d :=
  step d fun part _ => byParts step part
termination_by sizeOf d
decreasing_by exact sizeOf_lt_of_mem_parts ‹_›

/-- The condition holds of the descriptor and of every descriptor inside it. -/
inductive Everywhere (p : Descriptor → Prop) : Descriptor → Prop where
  | intro {d : Descriptor} (here : p d) (inside : ∀ part ∈ d.parts, Everywhere p part)
    : Everywhere p d

namespace Everywhere

variable {p : Descriptor → Prop} {d : Descriptor}

theorem here (h : d.Everywhere p) : p d := by
  cases h with
  | intro here _ => exact here

theorem inside (h : d.Everywhere p) {part : Descriptor} (mem : part ∈ d.parts)
    : part.Everywhere p := by
  cases h with
  | intro _ inside => exact inside part mem

theorem leaf (here : p d) (empty : d.parts = []) : d.Everywhere p :=
  .intro here (by rw [empty]; exact fun _ mem => absurd mem List.not_mem_nil)

theorem item {item : Descriptor} (h : (Descriptor.list item).Everywhere p) : item.Everywhere p :=
  h.inside (by simp [parts])

theorem key {key value : Descriptor} (h : (Descriptor.map key value).Everywhere p)
    : key.Everywhere p :=
  h.inside (by simp [parts])

theorem value {key value : Descriptor} (h : (Descriptor.map key value).Everywhere p)
    : value.Everywhere p :=
  h.inside (by simp [parts])

theorem argument {name : String} {arguments : List (String × Descriptor)}
    (h : (Descriptor.generic name arguments).Everywhere p) {argument : String × Descriptor}
    (mem : argument ∈ arguments)
    : argument.2.Everywhere p :=
  h.inside (List.mem_map_of_mem mem)

end Everywhere

theorem everywhere_true (d : Descriptor) : d.Everywhere fun _ => True := by
  induction d using byParts with
  | step d ih => exact .intro trivial ih

-----------------------------------------------------------------------------------------
-- Names
-----------------------------------------------------------------------------------------

/-- The name that a descriptor is looked up by, with its arguments. -/
def reference? : Descriptor → Option (String × Bindings)
  | .named name => some (name, [])
  | .generic name arguments => some (name, arguments)
  | _ => none

/-- The name stands somewhere in the descriptor, in an argument or a key type perhaps. -/
inductive Mentions (name : String) : Descriptor → Prop where
  | here {d : Descriptor} {arguments : Bindings}
    (reference : d.reference? = some (name, arguments))
    : Mentions name d
  | inside {d part : Descriptor} (mem : part ∈ d.parts) (mentions : Mentions name part)
    : Mentions name d

/-- What is looked up here is among the names. -/
def NamesIn (names : String → Prop) (d : Descriptor) : Prop :=
  ∀ name arguments, d.reference? = some (name, arguments) → names name

/-- All names in a descriptor are among some just when this is so everywhere in it. -/
theorem everywhere_namesIn_iff {names : String → Prop} {d : Descriptor}
    : d.Everywhere (NamesIn names) ↔ ∀ name, d.Mentions name → names name := by
  constructor
  · intro h name mentions
    induction mentions with
    | here reference => exact h.here _ _ reference
    | inside mem _ ih => exact ih (h.inside mem)
  · intro h
    induction d using byParts with
    | step d ih =>
        refine .intro (fun name _ reference => h name (.here reference)) fun part hm => ?_
        exact ih part hm fun name mentions => h name (.inside hm mentions)

-----------------------------------------------------------------------------------------
-- Height
-----------------------------------------------------------------------------------------

mutual
/-- How many descriptors stand inside each other: what is inside a list, a map or the arguments
of a type is one level deeper. -/
def height : Descriptor → Nat
  | .list item => height item + 1
  | .map key value => max (height key) (height value) + 1
  | .generic _ arguments => greatestHeight arguments + 1
  | _ => 1

/-- The greatest height among the arguments. -/
def greatestHeight : List (String × Descriptor) → Nat
  | [] => 0
  | (_, argument) :: rest => max (height argument) (greatestHeight rest)
end

theorem height_pos (d : Descriptor) : 0 < d.height := by
  cases d <;> simp [height]

theorem greatestHeight_le_iff {arguments : List (String × Descriptor)} {n : Nat}
    : greatestHeight arguments ≤ n ↔ ∀ argument ∈ arguments, argument.2.height ≤ n := by
  induction arguments with
  | nil => simp [greatestHeight]
  | cons argument rest ih => rw [greatestHeight, Nat.max_le, ih, List.forall_mem_cons]

/-- A descriptor is one level higher than what it is made of. -/
theorem height_le_succ_iff {d : Descriptor} {n : Nat}
    : d.height ≤ n + 1 ↔ ∀ part ∈ d.parts, part.height ≤ n := by
  cases d with
  | generic name arguments =>
      rw [height, Nat.succ_le_succ_iff, greatestHeight_le_iff, parts, List.forall_mem_map]
  | map key value =>
      rw [height, Nat.succ_le_succ_iff, Nat.max_le, parts]
      simp
  | _ => simp [height, parts]

-----------------------------------------------------------------------------------------
-- Binding
-----------------------------------------------------------------------------------------

variable {b : Bindings}

theorem bind_var_eq_ok_iff {name : String} {d : Descriptor}
    : bind b (.var name) = .ok d ↔ b.lookup name = some d := by
  simp only [bind]
  cases b.lookup name <;> simp

theorem bind_list_eq_ok_iff {item d : Descriptor}
    : bind b (.list item) = .ok d ↔ ∃ item', bind b item = .ok item' ∧ d = .list item' := by
  simp [bind, bind_eq_ok_iff, @eq_comm _ d]

theorem bind_map_eq_ok_iff {key value d : Descriptor}
    : bind b (.map key value) = .ok d ↔
        ∃ key' value', bind b key = .ok key' ∧ bind b value = .ok value'
          ∧ d = .map key' value' := by
  simp [bind, bind_eq_ok_iff, @eq_comm _ d]

theorem bind_generic_eq_ok_iff {name : String} {arguments : List (String × Descriptor)}
    {d : Descriptor}
    : bind b (.generic name arguments) = .ok d ↔
        ∃ bound, bindArguments b arguments = .ok bound ∧ d = .generic name bound := by
  simp [bind, bind_eq_ok_iff, @eq_comm _ d]

/-- Arguments are bound one by one, under their own names. -/
theorem bindArguments_eq_ok_iff {arguments bound : List (String × Descriptor)}
    : bindArguments b arguments = .ok bound ↔
        List.Forall₂ (fun argument arg' => arg'.1 = argument.1
          ∧ bind b argument.2 = .ok arg'.2) arguments bound := by
  induction arguments generalizing bound with
  | nil => simp [bindArguments, eq_comm]
  | cons argument rest ih =>
      obtain ⟨name, d⟩ := argument
      simp only [bindArguments, bind_eq_ok_iff, ih, List.forall₂_cons_left_iff, Except.ok.injEq]
      constructor
      · intro given
        rcases given with ⟨d', hd, others, ho, rfl⟩
        exact ⟨(name, d'), others, ⟨rfl, hd⟩, ho, rfl⟩
      · intro given
        rcases given with ⟨⟨_, d'⟩, others, ⟨rfl, hd⟩, ho, rfl⟩
        exact ⟨d', hd, others, ho, rfl⟩

theorem names_of_bindArguments {arguments bound : List (String × Descriptor)}
    (h : bindArguments b arguments = .ok bound)
    : bound.map Prod.fst = arguments.map Prod.fst := by
  refine Members.names_eq_of_forall₂ ?_ (bindArguments_eq_ok_iff.mp h)
  exact fun _ _ given => given.1

variable {p q : Descriptor → Prop} {type bound : Descriptor}

/-- What is bound satisfies a condition everywhere if what stands for its parameters does, and
each descriptor in it that is no parameter becomes one that satisfies the condition. -/
theorem Everywhere.bind
    (vars : ∀ name d, p (.var name) → b.lookup name = some d → d.Everywhere q)
    (others : ∀ d d', p d → (∀ name, d ≠ .var name) → Descriptor.bind b d = .ok d' → q d')
    (h : type.Everywhere p) (hb : Descriptor.bind b type = .ok bound)
    : bound.Everywhere q := by
  induction type using byParts generalizing bound with
  | step type ih =>
      cases type with
      | var name => exact vars _ _ h.here (bind_var_eq_ok_iff.mp hb)
      | list item =>
          have here := others _ _ h.here (fun _ he => nomatch he) hb
          obtain ⟨item', hi, rfl⟩ := bind_list_eq_ok_iff.mp hb
          exact .intro here (by simpa [parts] using ih item (by simp [parts]) h.item hi)
      | map key value =>
          have here := others _ _ h.here (fun _ he => nomatch he) hb
          obtain ⟨key', value', hk, hv, rfl⟩ := bind_map_eq_ok_iff.mp hb
          refine .intro here ?_
          simpa [parts] using ⟨ih key (by simp [parts]) h.key hk,
            ih value (by simp [parts]) h.value hv⟩
      | generic name arguments =>
          have here := others _ _ h.here (fun _ he => nomatch he) hb
          obtain ⟨bound, ha, rfl⟩ := bind_generic_eq_ok_iff.mp hb
          refine .intro here ?_
          rw [parts, List.forall_mem_map]
          intro pair' hm
          obtain ⟨pair, hp, _, hd⟩ := exists_of_forall₂_right (bindArguments_eq_ok_iff.mp ha) hm
          exact ih pair.2 (List.mem_map_of_mem hp) (h.argument hp) hd
      | _ =>
          have here := others _ _ h.here (fun _ he => nomatch he) hb
          obtain rfl := Except.ok.inj hb
          exact .leaf here rfl

/-- Binding brings in no names but those of what stands for the parameters. -/
theorem Everywhere.bind_namesIn {names : String → Prop} (h : type.Everywhere (NamesIn names))
    (covers : ∀ pair ∈ b, pair.2.Everywhere (NamesIn names))
    (hb : Descriptor.bind b type = .ok bound)
    : bound.Everywhere (NamesIn names) := by
  refine Everywhere.bind ?_ ?_ h hb
  · exact fun name d _ hl => covers (name, d) (Members.mem_of_lookup hl)
  · intro d d' hd hvar hd' name arguments reference
    cases d with
    | var name => exact absurd rfl (hvar name)
    | list item =>
        obtain ⟨_, _, rfl⟩ := bind_list_eq_ok_iff.mp hd'
        cases reference
    | map key value =>
        obtain ⟨_, _, _, _, rfl⟩ := bind_map_eq_ok_iff.mp hd'
        cases reference
    | generic name arguments =>
        obtain ⟨_, _, rfl⟩ := bind_generic_eq_ok_iff.mp hd'
        cases reference
        exact hd _ _ rfl
    | _ =>
        obtain rfl := Except.ok.inj hd'
        exact hd _ _ reference

/-- A descriptor is bound if all its parameters stand for something. -/
theorem exists_bind (vars : ∀ name, p (.var name) → (b.lookup name).isSome)
    (h : type.Everywhere p)
    : ∃ bound, bind b type = .ok bound := by
  induction type using byParts with
  | step type ih =>
      have hparts : ∀ part ∈ type.parts, ∃ part', bind b part = .ok part' := fun part hm =>
        ih part hm (h.inside hm)
      cases type with
      | var name =>
          obtain ⟨d, hl⟩ := Option.isSome_iff_exists.mp (vars name h.here)
          exact ⟨d, bind_var_eq_ok_iff.mpr hl⟩
      | list item =>
          obtain ⟨item', hi⟩ := hparts item (by simp [parts])
          exact ⟨_, bind_list_eq_ok_iff.mpr ⟨item', hi, rfl⟩⟩
      | map key value =>
          obtain ⟨key', hk⟩ := hparts key (by simp [parts])
          obtain ⟨value', hv⟩ := hparts value (by simp [parts])
          exact ⟨_, bind_map_eq_ok_iff.mpr ⟨key', value', hk, hv, rfl⟩⟩
      | generic name arguments =>
          have hall : ∀ pair ∈ arguments, ∃ pair' : String × Descriptor,
              pair'.1 = pair.1 ∧ bind b pair.2 = .ok pair'.2 := by
            intro pair hm
            obtain ⟨d, hd⟩ := hparts pair.2 (List.mem_map_of_mem hm)
            exact ⟨(pair.1, d), rfl, hd⟩
          obtain ⟨bound, ha⟩ := exists_forall₂_iff.mpr hall
          exact ⟨_, bind_generic_eq_ok_iff.mpr ⟨bound, bindArguments_eq_ok_iff.mpr ha, rfl⟩⟩
      | _ => exact ⟨_, rfl⟩

/-- A descriptor without parameters. -/
def Closed (d : Descriptor) : Prop :=
  d.Everywhere fun d => ∀ name, d ≠ .var name

/-- What stands for a parameter has no parameters of its own. -/
def ClosedBindings (b : Bindings) : Prop :=
  ∀ pair ∈ b, pair.2.Closed

theorem closedBindings_nil : ClosedBindings [] :=
  fun _ hm => absurd hm List.not_mem_nil

/-- A descriptor without parameters is bound to itself. -/
theorem Closed.bind_eq (closed : type.Closed) (b : Bindings) : bind b type = .ok type := by
  induction type using byParts with
  | step type ih =>
      have hparts : ∀ part ∈ type.parts, bind b part = .ok part := fun part hm =>
        ih part hm (Everywhere.inside closed hm)
      cases type with
      | var name => exact absurd rfl (Everywhere.here closed name)
      | list item =>
          exact bind_list_eq_ok_iff.mpr ⟨item, hparts item (by simp [parts]), rfl⟩
      | map key value =>
          exact bind_map_eq_ok_iff.mpr ⟨key, value, hparts key (by simp [parts]),
            hparts value (by simp [parts]), rfl⟩
      | generic name arguments =>
          refine bind_generic_eq_ok_iff.mpr ⟨arguments, bindArguments_eq_ok_iff.mpr ?_, rfl⟩
          exact List.forall₂_same.mpr fun pair hm => ⟨rfl, hparts pair.2 (List.mem_map_of_mem hm)⟩
      | _ => rfl

/-- Whatever is bound to descriptors without parameters has none left. -/
theorem ClosedBindings.closed_of_bind (closed : ClosedBindings b) (hb : bind b type = .ok bound)
    : bound.Closed := by
  refine Everywhere.bind ?_ ?_ (everywhere_true type) hb
  · exact fun name d _ hl => closed (name, d) (Members.mem_of_lookup hl)
  · intro d d' _ hvar hd name hname
    subst hname
    cases d with
    | var name => exact hvar name rfl
    | list item => obtain ⟨_, _, h⟩ := bind_list_eq_ok_iff.mp hd; cases h
    | map key value => obtain ⟨_, _, _, _, h⟩ := bind_map_eq_ok_iff.mp hd; cases h
    | generic name arguments => obtain ⟨_, _, h⟩ := bind_generic_eq_ok_iff.mp hd; cases h
    | _ => cases hd

theorem ClosedBindings.bindArguments_eq {arguments : List (String × Descriptor)}
    (closed : ClosedBindings arguments) (b : Bindings)
    : Descriptor.bindArguments b arguments = .ok arguments := by
  rw [bindArguments_eq_ok_iff]
  exact List.forall₂_same.mpr fun pair hm => ⟨rfl, (closed pair hm).bind_eq b⟩

theorem ClosedBindings.bindArguments (closed : ClosedBindings b)
    {arguments bound : List (String × Descriptor)}
    (hb : Descriptor.bindArguments b arguments = .ok bound)
    : ClosedBindings bound := by
  intro pair hm
  obtain ⟨_, _, _, hd⟩ := exists_of_forall₂_right (bindArguments_eq_ok_iff.mp hb) hm
  exact closed.closed_of_bind hd

end Descriptor

end TypedJson
