import TypedJson.Proofs.Json.Document
import TypedJson.Proofs.Outcome
import TypedJson.Typed.Record

/-!
Lists, maps and records in documents. Each is read from what is written for a tree, on one line or
on many, when its parts are read from what is written for theirs, and stops where one of them does.
-/

namespace TypedJson.Typed

open Json

variable {rest : List Symbol} {text : List Char} {reason : Cause → Prop}

-----------------------------------------------------------------------------------------
-- Strings
-----------------------------------------------------------------------------------------

theorem skipsBlanks_atValue {α : Type} (reader : Reader α)
    : Reader.SkipsBlanks (atValue reader) := by
  intro first second h
  rw [atValue, atValue, h]

theorem skipsBlanks_option {α : Type} (value : TextReader α) (depth : Nat)
    : Reader.SkipsBlanks (option value depth) := by
  intro first second h
  rw [option, option, h]

/-- A reader at a value sees the first character of the value. -/
theorem atValue_of_opens {α : Type} {reader : Reader α} (opens : Opens text) (place : Place)
    : atValue reader (.at place text rest) = reader (.at place text rest) := by
  rw [atValue, Reader.skipBlanks_of_opens opens]
  obtain ⟨c, others, rfl, _⟩ := opens
  rfl

theorem takes_string (depth : Nat) (s : String)
    : Reader.Takes (string depth) (writeString s) s rest := by
  intro place
  have hs : Reader.Takes Token.string (s.toList.flatMap writeChar ++ ['"']) s rest :=
    Token.takes_string s
  rw [string, atValue_of_opens (opens_writeString s)]
  exact hs (place.after (some '"'))

theorem takes_option_string (depth : Nat) (s : String)
    : Reader.Takes (option string depth) (writeString s) (some s) rest := by
  intro place
  have hs : string depth (.at place (writeString s) rest)
      = .ok (s, .at (place.behind (writeString s)) [] rest) := takes_string depth s place
  rw [option, Reader.skipBlanks_of_opens (opens_writeString s)]
  simp only [writeString, List.cons_append, Cursor.rest_cons] at hs ⊢
  rw [hs]
  rfl

-----------------------------------------------------------------------------------------
-- Lists and maps
-----------------------------------------------------------------------------------------

section Parts

variable {α : Type} {depth : Nat} {part : TextReader α}

theorem skipsBlanks_list : Reader.SkipsBlanks (list part depth) :=
  skipsBlanks_atValue _

theorem skipsBlanks_members : Reader.SkipsBlanks (members part depth) := by
  rw [members, object]
  exact skipsBlanks_atValue _

/-- A list is read when its items are, by the reader for one level less. -/
theorem yields_list (layout : Json.Layout) {json : α → Json} {barred : α → Prop} {xs : List α}
    (yields : ∀ x ∈ xs, ∀ rest, Token.Ends rest → Reader.Yields (part depth)
      (write layout.deeper (json x)) (barred x) reason x rest)
    : Reader.Yields (list part (depth + 1)) (write layout (.array (xs.map json)))
        (∃ x ∈ xs, barred x) reason xs rest := by
  have whole := Reader.yields_brackets (Reader.yields_items layout yields rest)
  rw [write_array]
  refine whole.congr_reader fun place => ?_
  rw [list, atValue_of_opens ⟨'[', _, rfl, by decide⟩]
  rfl

/-- A map is read when its members have different names and their values are read, by the reader
for one level less. -/
theorem yields_members (layout : Json.Layout) {json : String × α → Json}
    {barred : String × α → Prop} {entries : List (String × α)}
    (distinct : Members.Distinct entries) (skips : Reader.SkipsBlanks (part depth))
    (yields : ∀ entry ∈ entries, ∀ rest, Token.Ends rest → Reader.Yields (part depth)
      (write layout.deeper (json entry)) (barred entry) reason entry.2 rest)
    : Reader.Yields (members part (depth + 1))
        (write layout (.object (entries.map fun entry => (entry.1, json entry))))
        (∃ entry ∈ entries, barred entry) reason entries rest := by
  have collects := Reader.collects_putMember distinct skips yields
  have whole := Reader.yields_braces (Reader.yields_members collects rest)
  rw [write_object]
  refine whole.congr_reader fun place => ?_
  rw [members, object, atValue_of_opens ⟨'\x7b', _, rfl, by decide⟩]
  rfl

end Parts

-----------------------------------------------------------------------------------------
-- Records
-----------------------------------------------------------------------------------------

section Field

variable {σ α : Type} {name : String} {required : Bool} {reader : TextReader α}
  {tree : TreeReader α} {set : α → σ → σ} {depth : Nat}

theorem skipsBlanks_of (skips : Reader.SkipsBlanks (reader depth))
    : Reader.SkipsBlanks ((Field.of name required reader tree set).text depth) := by
  intro first second h
  simp only [Field.of, skips first second h]

theorem yields_of {value : α} {barred : Prop}
    (yields : Reader.Yields (reader depth) text barred reason value rest)
    : Reader.Yields ((Field.of name required reader tree set).text depth) text barred reason
        (set value) rest :=
  yields.map fun _ => rfl

end Field

namespace Layout

variable {σ : Type} {record : Layout σ}

/-- A member is read into the record by the field of its name. -/
theorem yields_member (layout : Json.Layout) {depth : Nat} {state : List String × σ}
    {name : String} {field : Field σ} {set : σ → σ} {barred : Prop}
    (known : record.field? name = some field) (fresh : name ∉ state.1)
    (skips : Reader.SkipsBlanks (field.text depth))
    (yields : Reader.Yields (field.text depth) text barred reason set rest)
    : Reader.Yields (record.member depth state) (writeString name ++ (layout.colon ++ text)) barred
        reason (name :: state.1, set state.2) rest := by
  have reads : ∀ place,
      record.member depth state (.at place (writeString name ++ (layout.colon ++ text)) rest)
        = ((field.text depth
            (.at (place.behind (writeString name ++ layout.colon)) text rest)).mapError
              (Failure.under (.key name))).map
                fun read => ((name :: state.1, read.1 state.2), read.2) := by
    intro place
    have hname : Reader.Takes Token.string (name.toList.flatMap writeChar ++ ['"']) name
        (symbolsOfText (layout.colon ++ text) ++ rest) := Token.takes_string name
    have hfresh : state.1.contains name = false := by simpa using fresh
    simp only [writeString, List.cons_append, member, Cursor.advance_cons,
      Cursor.read_append hname, bind, Except.bind, known, hfresh, Bool.false_eq_true, if_false,
      Reader.memberValue_colon layout skips, Place.behind_cons, Place.behind_append]
    cases field.text depth _ <;> rfl
  exact .behind_name (fun set => (name :: state.1, set state.2)) reads yields

/-- Members are read in turn when the first of them is read by its field, and the others are. -/
theorem collects_cons {layout : Json.Layout} {depth : Nat} {state final : List String × σ}
    {name : String} {json : Json} {others : List (String × Json)} {field : Field σ} {set : σ → σ}
    {barred barredOthers : Prop} (known : record.field? name = some field) (fresh : name ∉ state.1)
    (skips : Reader.SkipsBlanks (field.text depth))
    (yields : ∀ rest,
      Reader.Yields (field.text depth) (write layout json) barred reason set rest)
    (tail : Reader.Collects (record.member depth) layout reason others barredOthers
      (name :: state.1, set state.2) final)
    : Reader.Collects (record.member depth) layout reason ((name, json) :: others)
        (barred ∨ barredOthers) state final :=
  .cons (fun rest _ => yields_member layout known fresh skips (yields rest)) tail

/-- A record is read from an object whose members are read into it and give what is required. -/
theorem yields_read (layout : Json.Layout) {depth : Nat} {members : List (String × Json)}
    {barred : Prop} {seen : List String} {value : σ}
    (collects : Reader.Collects (record.member depth) layout.deeper reason members barred
      ([], record.empty) (seen, value))
    (complete : record.missing? seen = none)
    : Reader.Yields (record.read (depth + 1)) (write layout (.object members)) barred reason value
        rest := by
  have inside : Reader.Yields (record.readMembers depth) (insideObject layout members) barred reason
      value (some '\x7d' :: rest) := by
    have members := Reader.yields_members collects rest
    refine ⟨fun h place => ?_, fun h place => ?_⟩
    · simp only [readMembers, members.takes h place, bind, Except.bind, complete]
    · obtain ⟨failure, hf, hr⟩ := members.stops h place
      simp only [readMembers, hf, bind, Except.bind]
      exact ⟨failure, rfl, hr⟩
  have whole := Reader.yields_braces inside
  rw [write_object]
  refine whole.congr_reader fun place => ?_
  rw [read, atValue_of_opens ⟨'\x7b', _, rfl, by decide⟩]
  rfl

/-- A member of a tree is read into the record by the field of its name. -/
theorem readTreeMembers_cons {α : Type} {name : String} {required : Bool} {reader : TextReader α}
    {tree : TreeReader α} {set : α → σ → σ} {json : Json} {others : List (String × Json)}
    {state : List String × σ}
    (known : record.field? name = some (.of name required reader tree set))
    : record.readTreeMembers ((name, json) :: others) state
        = tree json >>= fun value =>
            record.readTreeMembers others (name :: state.1, set value state.2) := by
  rw [readTreeMembers, known]
  exact map_bind _ _

/-- A record is read from an object of a tree whose members give what is required. -/
theorem readTree_of_members {members : List (String × Json)} {seen : List String}
    {read : Except Rejection σ}
    (reads : record.readTreeMembers members ([], record.empty)
      = read.map fun value => (seen, value))
    (complete : record.missing? seen = none)
    : record.readTree (.object members) = read := by
  rw [readTree, reads]
  cases read with
  | error rejection => rfl
  | ok value => simp only [Except.map, ok_bind, complete]

end Layout

/-- A whole text is read as its reader reads it. -/
theorem ofText_of_yields {α : Type} {reader : TextReader α} {value : α} {barred : Prop}
    (yields : Reader.Yields (reader greatestDepth) text barred reason value [])
    : (¬ barred → ofText reader text = .ok value)
        ∧ (barred → ∃ problem, ofText reader text = .error problem ∧ reason problem.cause) := by
  obtain ⟨free, stops⟩ := Reader.document_of_yields yields
  refine ⟨fun h => ?_, fun h => ?_⟩
  · rw [ofText, free h]
    rfl
  · obtain ⟨failure, hf, hr⟩ := stops h
    rw [ofText, hf]
    exact ⟨failure.problem, rfl, hr⟩

end TypedJson.Typed
