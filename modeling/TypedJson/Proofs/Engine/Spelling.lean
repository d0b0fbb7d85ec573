import TypedJson.Config
import TypedJson.Engine.Extension
import TypedJson.Proofs.Calendar.Date
import TypedJson.Proofs.Engine.Conform
import TypedJson.Proofs.Engine.Steps
import TypedJson.Proofs.Uuid

/-!
Types whose values are strings in a document. Such a type can have several texts for one value,
of which one is canonical: it is what the value is written as, and whatever text of the value is
read, writing the result gives that one. Dates and identifiers are types of this kind.
-/

namespace TypedJson

-----------------------------------------------------------------------------------------
-- Spellings
-----------------------------------------------------------------------------------------

/-- Texts for the members of a type. Those in the canonical form are the ones that are printed. -/
structure Spelling (α : Type) where
  print : α → List Char
  parse : List Char → Except String α
  canonical : List Char → Prop
  canonical_print : ∀ x, canonical (print x)
  parse_print : ∀ x, parse (print x) = .ok x
  eq_print : ∀ {text x}, canonical text → parse text = .ok x → text = print x

/-- Dates with dashes. -/
def Calendar.spelling : Spelling Calendar.Date where
  print := Date.text .dashed
  parse text := (Date.ofText .dashed text).mapError Date.ReadError.message
  canonical := Date.Form
  canonical_print := Date.form_text
  parse_print date := mapError_eq_ok_iff.mpr date.ofText_text
  eq_print form read := form.eq_text (mapError_eq_ok_iff.mp read)

/-- Identifiers in five groups. -/
def Uuid.spelling : Spelling Uuid where
  print := text
  parse text := (ofText text).mapError ReadError.message
  canonical := Form
  canonical_print := form_text
  parse_print id := mapError_eq_ok_iff.mpr id.ofText_text
  eq_print form read := form.eq_text (mapError_eq_ok_iff.mp read)

-----------------------------------------------------------------------------------------
-- Adapters of spellings
-----------------------------------------------------------------------------------------

namespace Spelling

variable {α : Type} (spelling : Spelling α) {name : String} {carrier : Carrier α}
  {reads : Json → Except String α} {writes : α → Except String Json}
  (hreads : ∀ s : String, reads (.string s) = spelling.parse s.toList)
  (hwrites : ∀ x, writes x = .ok (.string (String.ofList (spelling.print x))))

include hwrites in
/-- Only strings are written, in which no name is given twice. -/
theorem distinct_of_write {custom : Custom} {json : Json}
    (written : (Adapter.ofFunctions name carrier reads writes).write custom = .ok json)
    : json.Distinct := by
  simp only [Adapter.ofFunctions] at written
  split at written
  · next x _ =>
      obtain rfl := Except.ok.inj ((hwrites x).symm.trans written)
      simp [Json.Distinct]
  · cases written

include hreads hwrites in
/-- What is printed is read back, so the adapter inverts. -/
theorem inverts
    (exact : ∀ payload x, carrier.held? payload = some x → carrier.hold x = payload)
    : (Adapter.ofFunctions name carrier reads writes).Inverts name := by
  refine Adapter.inverts_ofFunctions exact fun x json written => ?_
  rw [hwrites] at written
  obtain rfl := Except.ok.inj written
  rw [hreads, String.toList_ofList, spelling.parse_print]
  exact ⟨rfl, rfl⟩

end Spelling

theorem Calendar.inverts_localDates {a : Adapter} (brought : .adapter a ∈ localDates)
    : a.Inverts a.name := by
  obtain rfl := Entry.adapter.inj (List.mem_singleton.mp brought)
  refine spelling.inverts (fun _ => rfl) (fun _ => rfl) fun payload date held => ?_
  cases payload <;> cases held
  rfl

theorem Uuid.inverts_extension {a : Adapter} (brought : .adapter a ∈ extension)
    : a.Inverts a.name := by
  obtain rfl := Entry.adapter.inj (List.mem_singleton.mp brought)
  refine spelling.inverts (fun _ => rfl) (fun _ => rfl) fun payload id held => ?_
  cases payload <;> cases held
  rfl

namespace Engine

variable {α : Type} {engine : Engine} {name : String}

/-- The engine has what the extension registers. -/
def Has (engine : Engine) (extension : Extension) : Prop :=
  ∀ entry ∈ extension, engine.registry.lookup entry.name = some entry

/-- The type of the name has the members of `α` as its values, each with one canonical text. -/
structure Spells (engine : Engine) (name : String) (hold : α → Payload)
    (canonical : List Char → Prop) : Prop where
  /-- Every member is written as a canonical text, which is read as that member. -/
  inverse : ∀ x, ∃ s : String, canonical s.toList
    ∧ engine.write (.custom ⟨name, hold x⟩) (.named name) = .ok (.string s)
    ∧ engine.read (.string s) (.named name) = .ok (.custom ⟨name, hold x⟩)
  /-- Whatever text is read, the value is written as the one canonical text that is read as it. -/
  settled : ∀ (s : String) (value : Value), engine.read (.string s) (.named name) = .ok value →
    ∃ x, value = .custom ⟨name, hold x⟩ ∧ ∃ t : String, canonical t.toList
      ∧ engine.write value (.named name) = .ok (.string t)
      ∧ ∀ other : String, canonical other.toList →
          (engine.read (.string other) (.named name) = .ok value ↔ other = t)
  /-- The texts that are read as values are the keys that maps with keys of this type can have. -/
  keys : ∀ (s : String) (keyType type : Descriptor) (bindings inner : Bindings),
    keyType.resolve bindings = .ok (.named name, inner) →
      ((∃ value, engine.readNode (.object [(s, .null)]) (.map keyType type) bindings = .ok value) ↔
        ∃ value, engine.read (.string s) (.named name) = .ok value)

-----------------------------------------------------------------------------------------
-- Engines with adapters of spellings
-----------------------------------------------------------------------------------------

section Adapters

variable (spelling : Spelling α) {carrier : Carrier α} {reads : Json → Except String α}
  {writes : α → Except String Json}
  (known : engine.registry.lookup name = some (.adapter (.ofFunctions name carrier reads writes)))
  (hreads : ∀ s : String, reads (.string s) = spelling.parse s.toList)
  (hwrites : ∀ x, writes x = .ok (.string (String.ofList (spelling.print x))))
  (held : ∀ x, carrier.held? (carrier.hold x) = some x)

include known

theorem form?_of_known
    : engine.form? (.named name) []
        = some (.adapter name (.ofFunctions name carrier reads writes)) := by
  show engine.formOfName? name [] = _
  rw [formOfName?, known]

include hreads in
theorem read_string_eq_ok_iff {s : String} {value : Value}
    : engine.read (.string s) (.named name) = .ok value ↔
        ∃ x, spelling.parse s.toList = .ok x ∧ value = .custom ⟨name, carrier.hold x⟩ := by
  rw [Engine.read, engine.readNode_of_form rfl (form?_of_known known)]
  simp only [Form.readWith, Adapter.ofFunctions, hreads]
  cases spelling.parse s.toList <;> simp [Except.map, eq_comm]

include hwrites held in
theorem write_hold (x : α)
    : engine.write (.custom ⟨name, carrier.hold x⟩) (.named name)
        = .ok (.string (String.ofList (spelling.print x))) := by
  rw [Engine.write, engine.writeNode_of_form rfl (form?_of_known known)]
  simp only [Form.writeWith, writeCustom, Adapter.ofFunctions, held, hwrites]

include hreads in
/-- A key is checked by reading it. -/
theorem acceptsKey_iff {s : String}
    : engine.acceptsKey s (.named name) = true ↔
        ∃ value, engine.read (.string s) (.named name) = .ok value := by
  simp only [read_string_eq_ok_iff spelling known hreads, acceptsKey, known, Adapter.ofFunctions,
    hreads]
  cases spelling.parse s.toList <;> simp [Except.map, Except.toOption]

include hreads hwrites held in
theorem spells_of_known : engine.Spells name carrier.hold spelling.canonical where
  inverse x := by
    refine ⟨String.ofList (spelling.print x), ?_, write_hold spelling known hwrites held x, ?_⟩
    · rw [String.toList_ofList]
      exact spelling.canonical_print x
    · refine (read_string_eq_ok_iff spelling known hreads).mpr ⟨x, ?_, rfl⟩
      rw [String.toList_ofList]
      exact spelling.parse_print x
  settled s value read := by
    obtain ⟨x, _, rfl⟩ := (read_string_eq_ok_iff spelling known hreads).mp read
    have write := write_hold spelling known hwrites held x
    refine ⟨x, rfl, String.ofList (spelling.print x), ?_, write, ?_⟩
    · rw [String.toList_ofList]
      exact spelling.canonical_print x
    · intro other form
      rw [read_string_eq_ok_iff spelling known hreads, String.ext_iff, String.toList_ofList]
      constructor
      · rintro ⟨y, parse, same⟩
        have hold_eq : carrier.hold x = carrier.hold y := by
          injection same with same
          injection same
        have heq := congrArg carrier.held? hold_eq
        rw [held, held] at heq
        obtain rfl := Option.some.inj heq
        exact spelling.eq_print form parse
      · intro heq
        rw [heq]
        exact ⟨x, spelling.parse_print x, rfl⟩
  keys s keyType type bindings inner resolved := by
    rw [readNode_soleKey, engine.checkKey_eq, resolved, ← acceptsKey_iff spelling known hreads]
    dsimp only
    cases engine.acceptsKey s (.named name) <;> simp [Except.mapError, Except.map]

end Adapters

/-- Dates and identifiers have one canonical text each, in every engine with their extensions: it
is what they are written as, it is read as the very value, and it is a key of their type; whatever
else is read as a date or an identifier is written as the canonical text of the same. -/
theorem spells_dates_and_identifiers (dates : engine.Has Calendar.localDates)
    (identifiers : engine.Has Uuid.extension)
    : engine.Spells "LocalDate" Payload.date Calendar.Date.Form
        ∧ engine.Spells "Uuid" Payload.uuid Uuid.Form :=
  ⟨spells_of_known Calendar.spelling (dates _ (List.mem_singleton_self _))
      (fun _ => rfl) (fun _ => rfl) (fun _ => rfl),
    spells_of_known Uuid.spelling (identifiers _ (List.mem_singleton_self _))
      (fun _ => rfl) (fun _ => rfl) (fun _ => rfl)⟩

/-- Both extensions in one engine, with the first day of the first year and a date in a form that is
not canonical. -/
theorem spells_dates_and_identifiers_of_both
    : let engine := Engine.ofConfig {} [Calendar.localDates, Uuid.extension]
      let firstDay : Value := .custom ⟨"LocalDate", .date ⟨-262143, 1, 1, rfl⟩⟩
      (engine.Has Calendar.localDates ∧ engine.Has Uuid.extension)
        ∧ (engine.Spells "LocalDate" Payload.date Calendar.Date.Form
          ∧ engine.Spells "Uuid" Payload.uuid Uuid.Form)
        ∧ engine.write firstDay (.named "LocalDate") = .ok (.string "-262143-01-01")
        ∧ engine.read (.string " -262143- 1-1") (.named "LocalDate") = .ok firstDay := by
  intro engine firstDay
  have dates : engine.Has Calendar.localDates := fun entry h => by
    obtain rfl := List.mem_singleton.mp h
    rfl
  have identifiers : engine.Has Uuid.extension := fun entry h => by
    obtain rfl := List.mem_singleton.mp h
    rfl
  exact ⟨⟨dates, identifiers⟩, spells_dates_and_identifiers dates identifiers, rfl, rfl⟩

end Engine

end TypedJson
