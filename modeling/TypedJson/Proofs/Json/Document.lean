import TypedJson.Proofs.Json.Number
import TypedJson.Proofs.Json.Text
import TypedJson.Proofs.Tree.Basic

/-!
Documents of trees. What is written for a tree, on one line or on many, is read as that tree when
the tree is nested no more deeply than documents may be, and refused for its depth otherwise.
-/

namespace TypedJson

-----------------------------------------------------------------------------------------
-- Depth
-----------------------------------------------------------------------------------------

namespace Json

mutual
/-- How deeply arrays and objects are nested in a tree. -/
def depth : Json → Nat
  | .array items => depthOfItems items + 1
  | .object members => depthOfMembers members + 1
  | _ => 0

/-- The depth of the deepest item. -/
def depthOfItems : List Json → Nat
  | [] => 0
  | item :: rest => max item.depth (depthOfItems rest)

/-- The depth of the deepest value of a member. -/
def depthOfMembers : List (String × Json) → Nat
  | [] => 0
  | (_, value) :: rest => max value.depth (depthOfMembers rest)
end

theorem lt_depthOfItems_iff {depth : Nat} (items : List Json)
    : depth < depthOfItems items ↔ ∃ item ∈ items, depth < item.depth := by
  induction items with
  | nil => simp [depthOfItems]
  | cons item rest ih => rw [depthOfItems, lt_max_iff, ih, List.exists_mem_cons_iff]

theorem lt_depthOfMembers_iff {depth : Nat} (members : List (String × Json))
    : depth < depthOfMembers members ↔ ∃ member ∈ members, depth < member.2.depth := by
  induction members with
  | nil => simp [depthOfMembers]
  | cons member rest ih => rw [depthOfMembers, lt_max_iff, ih, List.exists_mem_cons_iff]

-----------------------------------------------------------------------------------------
-- Blanks and first characters
-----------------------------------------------------------------------------------------

theorem isBlank_of_mem_newLine {layout : Layout} {c : Char} (h : c ∈ layout.newLine)
    : isBlank c = true := by
  cases layout with
  | compact => cases h
  | indented depth =>
      rcases List.mem_cons.mp h with rfl | h
      · rfl
      · rw [List.eq_of_mem_replicate h]
        rfl

/-- The text begins with an ASCII character that may begin a value. -/
def Opens (text : List Char) : Prop :=
  ∃ c rest, text = c :: rest ∧ isBlank c = false ∧ c ≠ ']' ∧ c ≠ '\x7d' ∧ c.toNat < 128

theorem Opens.append {text : List Char} (h : Opens text) (more : List Char)
    : Opens (text ++ more) := by
  obtain ⟨c, rest, rfl, hc⟩ := h
  exact ⟨c, rest ++ more, rfl, hc⟩

theorem opens_writeString (s : String) : Opens (writeString s) :=
  ⟨'"', _, rfl, by decide⟩

theorem opens_of_isDigit {c : Char} (h : Text.isDigit c = true) (rest : List Char)
    : Opens (c :: rest) := by
  obtain ⟨hlow, hhigh⟩ := Text.isDigit_iff.mp h
  have hne : ∀ other : Char, other.toNat < 48 ∨ 57 < other.toNat → c ≠ other := by
    intro other ho he
    subst he
    omega
  refine ⟨c, rest, rfl, ?_, hne _ (by decide), hne _ (by decide), by omega⟩
  simp [isBlank, hne ' ' (by decide), hne '\n' (by decide), hne '\t' (by decide),
    hne '\r' (by decide)]

/-- A number begins with a minus sign or a digit. -/
theorem writeNumber_eq_cons (n : Number)
    : ∃ c rest, writeNumber n = c :: rest ∧ (c = '-' ∨ Text.isDigit c = true) := by
  obtain ⟨text, lawful, hwrite, _⟩ := Token.NumberText.exists_write n
  obtain ⟨negative, whole, part, exponent⟩ := text
  obtain ⟨first, others, hw⟩ : ∃ first others, whole = first :: others := by
    rcases lawful.first with h | ⟨c, others, h, _⟩ <;> exact ⟨_, _, h⟩
  rw [← hwrite]
  cases negative with
  | true => exact ⟨'-', _, rfl, .inl rfl⟩
  | false =>
      refine ⟨first, _, by simp [Token.NumberText.write, hw]; rfl, .inr ?_⟩
      exact lawful.whole first (by simp [hw])

theorem opens_write (layout : Layout) (json : Json) : Opens (write layout json) := by
  cases json with
  | null => exact ⟨'n', _, rfl, by decide⟩
  | bool b => cases b <;> exact ⟨_, _, rfl, by decide⟩
  | number n =>
      obtain ⟨c, rest, hn, rfl | hc⟩ := writeNumber_eq_cons n
      · exact ⟨'-', rest, hn, by decide⟩
      · rw [write, hn]
        exact opens_of_isDigit hc rest
  | string s => exact opens_writeString s
  | array items => cases items <;> exact ⟨'[', _, rfl, by decide⟩
  | object members =>
      cases members with
      | nil => exact ⟨'\x7b', _, rfl, by decide⟩
      | cons member rest => exact ⟨'\x7b', _, rfl, by decide⟩

-----------------------------------------------------------------------------------------
-- Brackets and braces
-----------------------------------------------------------------------------------------

theorem colon_deeper (layout : Layout) : layout.deeper.colon = layout.colon := by
  cases layout <;> rfl

/-- What is written between the brackets of a list. -/
def insideList (layout : Layout) : List Json → List Char
  | [] => []
  | item :: rest =>
      layout.deeper.newLine ++ (write layout.deeper item
        ++ (writeItems layout.deeper rest ++ layout.newLine))

theorem write_array (layout : Layout) (items : List Json)
    : write layout (.array items) = '[' :: (insideList layout items ++ [']']) := by
  cases items <;> simp [write, insideList]

/-- What is written between the braces of an object. -/
def insideObject (layout : Layout) : List (String × Json) → List Char
  | [] => []
  | (name, json) :: rest =>
      layout.deeper.newLine ++ ((writeString name ++ (layout.deeper.colon
        ++ write layout.deeper json)) ++ (writeMembers layout.deeper rest ++ layout.newLine))

theorem write_object (layout : Layout) (members : List (String × Json))
    : write layout (.object members) = '\x7b' :: (insideObject layout members ++ ['\x7d']) := by
  cases members <;> simp [write, insideObject, colon_deeper]

-----------------------------------------------------------------------------------------
-- Texts that may be barred
-----------------------------------------------------------------------------------------

/-- Looking for the end of a part does not change why the part could not be read. -/
theorem Failure.cause_settle (failure : Failure) (close : Cursor → Except Failure Cursor)
    : (failure.settle close).problem.cause = failure.problem.cause := by
  rw [Failure.settle]
  split <;> rfl

/-- A value is nested too deeply. -/
def Cause.TooDeep (cause : Cause) : Prop :=
  cause = .fault .tooDeep

/-- The reader takes the text as the value, or stops within it, for one of the given reasons, when
the text is barred. -/
structure Reader.Yields {α : Type} (reader : Reader α) (text : List Char) (barred : Prop)
    (reason : Cause → Prop) (value : α) (rest : List Symbol) : Prop where
  takes : ¬ barred → reader.Takes text value rest
  stops : barred → ∀ place, ∃ failure,
    reader (.at place text rest) = .error failure ∧ reason failure.problem.cause

namespace Reader.Yields

variable {α β : Type} {reader : Reader α} {text : List Char} {barred : Prop}
  {reason : Cause → Prop} {value : α} {rest : List Symbol}

theorem of_takes (takes : reader.Takes text value rest) (free : ¬ barred)
    : reader.Yields text barred reason value rest :=
  ⟨fun _ => takes, fun h => absurd h free⟩

theorem congr {barred' : Prop} (yields : reader.Yields text barred reason value rest)
    (h : barred' ↔ barred)
    : reader.Yields text barred' reason value rest :=
  ⟨fun hb => yields.takes (mt h.mpr hb), fun hb => yields.stops (h.mp hb)⟩

theorem stops_append {more : List Char}
    (yields : reader.Yields text barred reason value (symbolsOfText more ++ rest)) (h : barred)
    (place : Place)
    : ∃ failure, reader (.at place (text ++ more) rest) = .error failure
        ∧ reason failure.problem.cause := by
  rw [Cursor.at_append]
  exact yields.stops h place

/-- What is made of the value is yielded where the value is. -/
theorem map {f : α → β} {made : Reader β}
    (yields : reader.Yields text barred reason value rest)
    (maps : ∀ place, made (.at place text rest)
      = (reader (.at place text rest)).map fun (value, cursor) => (f value, cursor))
    : made.Yields text barred reason (f value) rest := by
  refine ⟨fun h place => ?_, fun h place => ?_⟩
  · rw [maps, yields.takes h]
    rfl
  · obtain ⟨failure, hf, hr⟩ := yields.stops h place
    rw [maps, hf]
    exact ⟨failure, rfl, hr⟩

theorem congr_reader {other : Reader α} (yields : reader.Yields text barred reason value rest)
    (same : ∀ place, other (.at place text rest) = reader (.at place text rest))
    : other.Yields text barred reason value rest := by
  refine ⟨fun h place => ?_, fun h place => ?_⟩
  · rw [same, yields.takes h]
  · rw [same]
    exact yields.stops h place

/-- A reader of parts goes on for as many rounds as symbols are left, which are enough when each
part takes one or more of them. -/
theorem of_bounded (parts : Nat → Reader α) {count : Nat}
    (yields : ∀ bound, count < bound → (parts (bound + 1)).Yields text barred reason value rest)
    (enough : count < text.length + rest.length)
    : Reader.Yields (fun cursor => parts (cursor.rest.length + 1) cursor) text barred reason value
        rest := by
  refine (yields _ enough).congr_reader fun place => ?_
  simp only [Cursor.at, symbolsOfText, List.length_append, List.length_map]

end Reader.Yields

-----------------------------------------------------------------------------------------
-- Parts of lists and objects
-----------------------------------------------------------------------------------------

namespace Reader

variable {α : Type} {layout outer : Layout} {rest : List Symbol} {text : List Char}
  {reason : Cause → Prop}

/-- Blanks before the first character of a value are skipped. -/
theorem skipBlanks_newLine (opens : Opens text) (place : Place)
    : (Cursor.at place (layout.newLine ++ text) rest).skipBlanks
        = Cursor.at (place.behind layout.newLine) text rest := by
  obtain ⟨c, others, rfl, hc, _⟩ := opens
  rw [Cursor.at_append]
  refine Cursor.skipBlanks_append (fun b => isBlank_of_mem_newLine) (fun b hb => ?_) place
  obtain rfl := Option.some.inj (Option.some.inj hb)
  exact hc

theorem skipBlanks_of_opens (opens : Opens text) (place : Place)
    : (Cursor.at place text rest).skipBlanks = Cursor.at place text rest := by
  have h : (Cursor.at place (Layout.compact.newLine ++ text) rest).skipBlanks
      = Cursor.at place text rest := skipBlanks_newLine opens place
  exact h

/-- Blanks before a symbol that closes a list or an object are skipped. -/
theorem skipBlanks_close {c : Char} (hc : isBlank c = false) (place : Place)
    : (Cursor.at place layout.newLine (some c :: rest)).skipBlanks
        = ⟨place.behind layout.newLine, some c :: rest⟩ := by
  refine Cursor.skipBlanks_append (fun b => isBlank_of_mem_newLine) (fun b hb => ?_) place
  obtain rfl := Option.some.inj (Option.some.inj hb)
  exact hc

theorem nextItem_close (first : Bool) (place : Place)
    : nextItem first (.at place layout.newLine (some ']' :: rest))
        = .ok (.finished ⟨place.behind layout.newLine, some ']' :: rest⟩) := by
  simp only [nextItem, skipBlanks_close (by decide : isBlank ']' = false)]

theorem nextItem_first (opens : Opens text) (place : Place)
    : nextItem true (.at place (layout.newLine ++ text) rest)
        = .ok (.part (.at (place.behind layout.newLine) text rest)) := by
  rw [nextItem, skipBlanks_newLine opens]
  obtain ⟨c, others, rfl, _, hc, _⟩ := opens
  simp only [Cursor.rest_cons]
  split
  · next h => cases h
  · next h => exact absurd (Option.some.inj (List.cons.inj h).1) hc
  · rfl

theorem nextItem_more (opens : Opens text) (place : Place)
    : nextItem false (.at place (',' :: layout.newLine ++ text) rest)
        = .ok (.part (.at (place.behind (',' :: layout.newLine)) text rest)) := by
  have hcomma : Opens (',' :: layout.newLine ++ text) := ⟨',', _, rfl, by decide⟩
  have hskip : (Cursor.at (place.after (some ',')) (layout.newLine ++ text) rest).skipBlanks
      = Cursor.at (place.behind (',' :: layout.newLine)) text rest :=
    skipBlanks_newLine opens _
  rw [nextItem, skipBlanks_of_opens hcomma]
  simp only [List.cons_append, Cursor.rest_cons, Cursor.advance_cons, hskip, Bool.false_eq_true,
    if_false]
  split
  · next h => cases h
  · next h => exact absurd (Option.some.inj (List.cons.inj h).1) (by decide)
  · next symbol _ _ h =>
      obtain rfl := (List.cons.inj h).1
      rw [if_pos rfl]
      obtain ⟨c, others, rfl, _, hc, _⟩ := opens
      simp only [Cursor.rest_cons]
      split
      · next h => cases h
      · next h => exact absurd (Option.some.inj (List.cons.inj h).1) hc
      · rfl

/-- What an item or a member follows does not continue a number. -/
theorem ends_of_head {symbols : List Symbol} {c : Char} (h : symbols.head? = some (some c))
    (hc : c = ',' ∨ c = '\n' ∨ c = ']' ∨ c = '\x7d')
    : Token.Ends symbols := by
  intro b hb
  rw [h] at hb
  obtain rfl := Option.some.inj (Option.some.inj hb)
  rcases hc with rfl | rfl | rfl | rfl <;> decide

theorem ends_newLine (layout : Layout) {c : Char} (hc : c = ']' ∨ c = '\x7d')
    (rest : List Symbol)
    : Token.Ends (symbolsOfText layout.newLine ++ some c :: rest) := by
  cases layout with
  | compact => exact ends_of_head rfl (.inr (.inr hc))
  | indented depth => exact ends_of_head rfl (.inr (.inl rfl))

theorem ends_writeItems (layout outer : Layout) (items : List Json) (rest : List Symbol)
    : Token.Ends
        (symbolsOfText (writeItems layout items ++ outer.newLine) ++ some ']' :: rest) := by
  cases items with
  | nil => exact ends_newLine outer (.inl rfl) rest
  | cons item items => exact ends_of_head rfl (.inl rfl)

theorem ends_writeMembers (layout outer : Layout) (members : List (String × Json))
    (rest : List Symbol)
    : Token.Ends
        (symbolsOfText (writeMembers layout members ++ outer.newLine) ++ some '\x7d' :: rest) := by
  cases members with
  | nil => exact ends_newLine outer (.inr rfl) rest
  | cons member members => exact ends_of_head rfl (.inl rfl)

/-- The items up to the end of a list are read when the first of them is, and then the others. -/
theorem yields_itemsFrom_cons {item : Reader α} {x : α} {xs : List α} {lead more : List Char}
    {bound index : Nat} {barred others : Prop}
    (next : ∀ place, nextItem (index == 0) (.at place (lead ++ (text ++ more)) rest)
      = .ok (.part (.at (place.behind lead) (text ++ more) rest)))
    (head : Yields item text barred reason x (symbolsOfText more ++ rest))
    (tail : Yields (itemsFrom item bound (index + 1)) more others reason xs rest)
    : Yields (itemsFrom item (bound + 1) index) (lead ++ (text ++ more)) (barred ∨ others) reason
        (x :: xs) rest := by
  refine ⟨fun h place => ?_, fun h place => ?_⟩
  · obtain ⟨hbarred, hothers⟩ := not_or.mp h
    rw [itemsFrom, next]
    simp only [Cursor.read_append (head.takes hbarred), tail.takes hothers _, bind, Except.bind,
      Place.behind_append]
  · rw [itemsFrom, next]
    by_cases hbarred : barred
    · obtain ⟨failure, hf, hr⟩ := head.stops_append hbarred (place.behind lead)
      simp only [hf]
      exact ⟨_, rfl, hr⟩
    · obtain ⟨failure, hf, hr⟩ := tail.stops (h.resolve_left hbarred)
        ((place.behind lead).behind text)
      simp only [Cursor.read_append (head.takes hbarred), hf, bind, Except.bind]
      exact ⟨_, rfl, hr⟩

/-- The items behind the first one are read up to the end of the list, by induction on them. -/
theorem yields_writeItems (layout outer : Layout) {item : Reader α} {json : α → Json}
    {barred : α → Prop} {xs : List α} {bound : Nat}
    (yields : ∀ x ∈ xs, ∀ rest, Token.Ends rest →
      Yields item (write layout (json x)) (barred x) reason x rest)
    (enough : xs.length < bound) (index : Nat) (rest : List Symbol)
    : Yields (itemsFrom item bound (index + 1))
        (writeItems layout (xs.map json) ++ outer.newLine) (∃ x ∈ xs, barred x) reason xs
        (some ']' :: rest) := by
  induction xs generalizing bound index with
  | nil =>
      obtain ⟨bound, rfl⟩ := Nat.exists_eq_succ_of_ne_zero (Nat.ne_of_gt enough)
      refine .of_takes (fun place => ?_) (by simp)
      have hfirst : (index + 1 == 0) = false := rfl
      simp only [List.map_nil, writeItems, List.nil_append, itemsFrom, hfirst, nextItem_close]
  | cons x xs ih =>
      obtain ⟨bound, rfl⟩ := Nat.exists_eq_succ_of_ne_zero (Nat.ne_of_gt (Nat.zero_lt_of_lt enough))
      have htext : writeItems layout ((x :: xs).map json) ++ outer.newLine
          = (',' :: layout.newLine)
            ++ (write layout (json x) ++ (writeItems layout (xs.map json) ++ outer.newLine)) := by
        simp [writeItems]
      rw [htext]
      refine .congr (yields_itemsFrom_cons (fun place => ?_) ?_ ?_) (List.exists_mem_cons_iff _ _ _)
      · exact nextItem_more ((opens_write layout (json x)).append _) place
      · exact yields x (by simp) _ (ends_writeItems layout outer (xs.map json) rest)
      · exact ih (fun y hy => yields y (by simp [hy])) (Nat.lt_of_succ_lt_succ enough) (index + 1)

theorem length_le_writeItems (layout : Layout) (items : List Json)
    : items.length ≤ (writeItems layout items).length := by
  induction items with
  | nil => exact Nat.zero_le _
  | cons item rest ih =>
      simp only [writeItems, List.length_append, List.length_cons]
      omega

/-- The inside of a list that is not empty: every item on a line of its own, where there are
lines. -/
theorem yields_items_cons (layout outer : Layout) {item : Reader α} {json : α → Json}
    {barred : α → Prop} {x : α} {xs : List α}
    (yields : ∀ y ∈ x :: xs, ∀ rest, Token.Ends rest →
      Yields item (write layout (json y)) (barred y) reason y rest)
    (rest : List Symbol)
    : Yields (items item)
        (layout.newLine ++ (write layout (json x)
          ++ (writeItems layout (xs.map json) ++ outer.newLine)))
        (∃ y ∈ x :: xs, barred y) reason (x :: xs) (some ']' :: rest) := by
  have bounded : ∀ bound, xs.length < bound → Yields (itemsFrom item (bound + 1) 0)
      (layout.newLine ++ (write layout (json x)
        ++ (writeItems layout (xs.map json) ++ outer.newLine)))
      (∃ y ∈ x :: xs, barred y) reason (x :: xs) (some ']' :: rest) := by
    intro bound enough
    refine .congr (yields_itemsFrom_cons (fun place => ?_) ?_ ?_) (List.exists_mem_cons_iff _ _ _)
    · exact nextItem_first ((opens_write layout (json x)).append _) place
    · exact yields x (by simp) _ (ends_writeItems layout outer (xs.map json) rest)
    · exact yields_writeItems layout outer (fun y hy => yields y (by simp [hy])) enough 0 rest
  refine .of_bounded (fun bound => itemsFrom item bound 0) bounded ?_
  have hlen := length_le_writeItems layout (xs.map json)
  simp only [List.length_append, List.length_map, List.length_cons] at hlen ⊢
  omega

/-- The inside of a list is read when each item is. -/
theorem yields_items (layout : Layout) {item : Reader α} {json : α → Json} {barred : α → Prop}
    {xs : List α}
    (yields : ∀ x ∈ xs, ∀ rest, Token.Ends rest →
      Yields item (write layout.deeper (json x)) (barred x) reason x rest)
    (rest : List Symbol)
    : Yields (items item) (insideList layout (xs.map json)) (∃ x ∈ xs, barred x) reason xs
        (some ']' :: rest) := by
  cases xs with
  | nil => exact .of_takes (fun _ => rfl) (by simp)
  | cons x xs => exact yields_items_cons layout.deeper layout yields rest

theorem nextMember_close (first : Bool) (place : Place)
    : nextMember first (.at place layout.newLine (some '\x7d' :: rest))
        = .ok (.finished ⟨place.behind layout.newLine, some '\x7d' :: rest⟩) := by
  simp only [nextMember, skipBlanks_close (by decide : isBlank '\x7d' = false)]

theorem nextMember_first (name : String) (more : List Char) (place : Place)
    : nextMember true (.at place (layout.newLine ++ (writeString name ++ more)) rest)
        = .ok (.part (.at (place.behind layout.newLine) (writeString name ++ more) rest)) := by
  rw [nextMember, skipBlanks_newLine ((opens_writeString name).append more)]
  rfl

theorem nextMember_more (name : String) (more : List Char) (place : Place)
    : nextMember false (.at place ((',' :: layout.newLine) ++ (writeString name ++ more)) rest)
        = .ok (.part
            (.at (place.behind (',' :: layout.newLine)) (writeString name ++ more) rest)) := by
  have hcomma : Opens ((',' :: layout.newLine) ++ (writeString name ++ more)) :=
    ⟨',', _, rfl, by decide⟩
  have hskip : (Cursor.at (place.after (some ',')) (layout.newLine ++ (writeString name ++ more))
      rest).skipBlanks
      = Cursor.at (place.behind (',' :: layout.newLine)) (writeString name ++ more) rest :=
    skipBlanks_newLine ((opens_writeString name).append more) _
  rw [nextMember, skipBlanks_of_opens hcomma]
  simp only [List.cons_append, Cursor.rest_cons, Cursor.advance_cons, hskip, Bool.false_eq_true,
    if_false]
  rfl

/-- The reader skips the blanks that it begins at. -/
def SkipsBlanks {α : Type} (reader : Reader α) : Prop :=
  ∀ first second : Cursor, first.skipBlanks = second.skipBlanks → reader first = reader second

theorem skipsBlanks_tree (depth : Nat) : SkipsBlanks (tree depth) := by
  intro first second h
  rw [tree.eq_def, tree.eq_def depth second, h]

/-- The value of a member is read behind the colon, and the blank behind that if there is one. -/
theorem memberValue_colon {α : Type} (layout : Layout) {value : Reader α}
    (skips : SkipsBlanks value) (name : String) (text : List Char) (place : Place)
    : memberValue name value (.at place (layout.colon ++ text) rest)
        = (value (.at (place.behind layout.colon) text rest)).mapError
            (Failure.under (.key name)) := by
  have hcolon : ∀ text, colon (.at place (':' :: text) rest)
      = .ok (.at (place.after (some ':')) text rest) := fun _ => rfl
  cases layout with
  | compact => simp only [memberValue, Layout.colon, List.cons_append, List.nil_append, hcolon,
      Place.behind_cons, Place.behind_nil]
  | indented _ =>
      have hskip : (Cursor.at (place.after (some ':')) (' ' :: text) rest).skipBlanks
          = (Cursor.at ((place.after (some ':')).after (some ' ')) text rest).skipBlanks := rfl
      simp only [memberValue, Layout.colon, List.cons_append, List.nil_append, hcolon,
        skips _ _ hskip, Place.behind_cons, Place.behind_nil]

/-- What is made of a member's value is yielded behind the member's name and the colon. -/
theorem Yields.behind_name {β : Type} {value : Reader α} {x : α} {member : Reader β}
    {name : String} {barred : Prop} (f : α → β)
    (reads : ∀ place, member (.at place (writeString name ++ (layout.colon ++ text)) rest)
      = ((value (.at (place.behind (writeString name ++ layout.colon)) text rest)).mapError
          (Failure.under (.key name))).map fun read => (f read.1, read.2))
    (yields : Yields value text barred reason x rest)
    : Yields member (writeString name ++ (layout.colon ++ text)) barred reason (f x) rest := by
  refine ⟨fun h place => ?_, fun h place => ?_⟩
  · rw [reads, yields.takes h]
    simp only [Place.behind_append]
    rfl
  · obtain ⟨failure, hf, hr⟩ := yields.stops h (place.behind (writeString name ++ layout.colon))
    rw [reads, hf]
    exact ⟨_, rfl, hr⟩

/-- A member is put behind those before it when none of them has its name. -/
theorem yields_putMember (layout : Layout) {value : Reader α} {x : α} {name : String}
    {before : List (String × α)} {barred : Prop} (fresh : name ∉ before.map Prod.fst)
    (skips : SkipsBlanks value) (yields : Yields value text barred reason x rest)
    : Yields (putMember value before) (writeString name ++ (layout.colon ++ text)) barred reason
        (before ++ [(name, x)]) rest := by
  have reads : ∀ place,
      putMember value before (.at place (writeString name ++ (layout.colon ++ text)) rest)
        = ((value (.at (place.behind (writeString name ++ layout.colon)) text rest)).mapError
            (Failure.under (.key name))).map
              fun read => (before ++ [(name, read.1)], read.2) := by
    intro place
    have hname : Takes Token.string (name.toList.flatMap writeChar ++ ['"']) name
        (symbolsOfText (layout.colon ++ text) ++ rest) := Token.takes_string name
    simp only [writeString, List.cons_append, putMember, Cursor.advance_cons,
      Cursor.read_append hname, memberValue_colon layout skips, bind, Except.bind,
      Members.put_of_not_mem fresh, Place.behind_cons, Place.behind_append]
    cases value _ <;> rfl
  exact .behind_name (fun x => before ++ [(name, x)]) reads yields

/-- The members up to the end of an object are read when the first of them is, and then the
others. -/
theorem yields_membersFrom_cons {σ : Type} {member : σ → Reader σ} {before after final : σ}
    {lead more : List Char} {bound : Nat} {first : Bool} {barred others : Prop}
    (next : ∀ place, nextMember first (.at place (lead ++ (text ++ more)) rest)
      = .ok (.part (.at (place.behind lead) (text ++ more) rest)))
    (head : Yields (member before) text barred reason after (symbolsOfText more ++ rest))
    (tail : Yields (membersFrom member bound false after) more others reason final rest)
    : Yields (membersFrom member (bound + 1) first before) (lead ++ (text ++ more))
        (barred ∨ others) reason final rest := by
  refine ⟨fun h place => ?_, fun h place => ?_⟩
  · obtain ⟨hbarred, hothers⟩ := not_or.mp h
    rw [membersFrom, next]
    simp only [Cursor.read_append (head.takes hbarred), tail.takes hothers _, bind, Except.bind,
      Place.behind_append]
  · rw [membersFrom, next]
    by_cases hbarred : barred
    · obtain ⟨failure, hf, hr⟩ := head.stops_append hbarred (place.behind lead)
      simp only [hf, bind, Except.bind]
      exact ⟨_, rfl, hr⟩
    · obtain ⟨failure, hf, hr⟩ := tail.stops (h.resolve_left hbarred)
        ((place.behind lead).behind text)
      simp only [Cursor.read_append (head.takes hbarred), hf, bind, Except.bind]
      exact ⟨_, rfl, hr⟩

/-- Members are read in turn from what is written for them, from one state to another, unless one
of them is barred. -/
inductive Collects {σ : Type} (member : σ → Reader σ) (layout : Layout) (reason : Cause → Prop)
    : List (String × Json) → Prop → σ → σ → Prop where
  | nil (state : σ) : Collects member layout reason [] False state state
  | cons {name : String} {json : Json} {members : List (String × Json)} {barred others : Prop}
    {before after final : σ}
    (head : ∀ rest, Token.Ends rest → Yields (member before)
      (writeString name ++ (layout.colon ++ write layout json)) barred reason after rest)
    (tail : Collects member layout reason members others after final)
    : Collects member layout reason ((name, json) :: members) (barred ∨ others) before final

theorem Collects.congr {σ : Type} {member : σ → Reader σ} {members : List (String × Json)}
    {barred barred' : Prop} {before final : σ}
    (collects : Collects member layout reason members barred before final) (h : barred' ↔ barred)
    : Collects member layout reason members barred' before final :=
  propext h ▸ collects

/-- The members behind the first one are read up to the end of the object, by induction on
them. -/
theorem yields_writeMembers (outer : Layout) {σ : Type} {member : σ → Reader σ}
    {members : List (String × Json)} {barred : Prop} {before final : σ} {bound : Nat}
    (collects : Collects member layout reason members barred before final)
    (enough : members.length < bound) (rest : List Symbol)
    : Yields (membersFrom member bound false before) (writeMembers layout members ++ outer.newLine)
        barred reason final (some '\x7d' :: rest) := by
  induction collects generalizing bound with
  | nil state =>
      obtain ⟨bound, rfl⟩ := Nat.exists_eq_succ_of_ne_zero (Nat.ne_of_gt enough)
      refine .of_takes (fun place => ?_) id
      simp only [writeMembers, List.nil_append, membersFrom, nextMember_close]
  | @cons name json members _ _ before after final head tail ih =>
      obtain ⟨bound, rfl⟩ := Nat.exists_eq_succ_of_ne_zero (Nat.ne_of_gt (Nat.zero_lt_of_lt enough))
      have htext : writeMembers layout ((name, json) :: members) ++ outer.newLine
          = (',' :: layout.newLine)
            ++ ((writeString name ++ (layout.colon ++ write layout json))
              ++ (writeMembers layout members ++ outer.newLine)) := by
        simp [writeMembers]
      rw [htext]
      refine yields_membersFrom_cons (fun place => ?_) (head _ ?_) ?_
      · rw [List.append_assoc (writeString name)]
        exact nextMember_more name _ place
      · exact ends_writeMembers layout outer members rest
      · exact ih (Nat.lt_of_succ_lt_succ enough)

theorem length_le_writeMembers (layout : Layout) (members : List (String × Json))
    : members.length ≤ (writeMembers layout members).length := by
  induction members with
  | nil => exact Nat.zero_le _
  | cons member rest ih =>
      simp only [writeMembers, List.length_append, List.length_cons]
      omega

/-- The inside of an object that is not empty: every member on a line of its own, where there are
lines. -/
theorem yields_members_cons (outer : Layout) {σ : Type} {member : σ → Reader σ} {name : String}
    {json : Json} {others : List (String × Json)} {barred : Prop} {empty final : σ}
    (collects : Collects member layout reason ((name, json) :: others) barred empty final)
    (rest : List Symbol)
    : Yields (members empty member)
        (layout.newLine ++ ((writeString name ++ (layout.colon ++ write layout json))
          ++ (writeMembers layout others ++ outer.newLine)))
        barred reason final (some '\x7d' :: rest) := by
  have bounded : ∀ bound, others.length < bound →
      Yields (membersFrom member (bound + 1) true empty)
        (layout.newLine ++ ((writeString name ++ (layout.colon ++ write layout json))
          ++ (writeMembers layout others ++ outer.newLine)))
        barred reason final (some '\x7d' :: rest) := by
    intro bound enough
    cases collects with
    | cons head tail =>
        refine yields_membersFrom_cons (fun place => ?_) (head _ ?_) ?_
        · rw [List.append_assoc (writeString name)]
          exact nextMember_first name _ place
        · exact ends_writeMembers layout outer others rest
        · exact yields_writeMembers outer tail enough rest
  refine .of_bounded (fun bound => membersFrom member bound true empty) bounded ?_
  have hlen := length_le_writeMembers layout others
  simp only [List.length_append, List.length_cons]
  omega

/-- The inside of an object is read when its members are read in turn. -/
theorem yields_members {σ : Type} {member : σ → Reader σ} {entries : List (String × Json)}
    {barred : Prop} {empty final : σ}
    (collects : Collects member layout.deeper reason entries barred empty final)
    (rest : List Symbol)
    : Yields (members empty member) (insideObject layout entries) barred reason final
        (some '\x7d' :: rest) := by
  cases collects with
  | nil => exact .of_takes (fun _ => rfl) id
  | cons head tail => exact yields_members_cons layout (.cons head tail) rest

/-- Members of different names are put behind those before them, by induction on them. -/
theorem collects_putMember_append {value : Reader α} {json : String × α → Json}
    {barred : String × α → Prop} {before entries : List (String × α)}
    (distinct : Members.Distinct (before ++ entries)) (skips : SkipsBlanks value)
    (yields : ∀ entry ∈ entries, ∀ rest, Token.Ends rest →
      Yields value (write layout (json entry)) (barred entry) reason entry.2 rest)
    : Collects (putMember value) layout reason (entries.map fun entry => (entry.1, json entry))
        (∃ entry ∈ entries, barred entry) before (before ++ entries) := by
  induction entries generalizing before with
  | nil =>
      rw [List.append_nil]
      exact (Collects.nil before).congr (by simp)
  | cons entry entries ih =>
      obtain ⟨name, x⟩ := entry
      have happend : before ++ (name, x) :: entries = (before ++ [(name, x)]) ++ entries := by
        simp
      rw [happend] at distinct ⊢
      have fresh : name ∉ before.map Prod.fst :=
        Members.not_mem_of_distinct_append (distinct.sublist (List.sublist_append_left _ _))
      have tail := ih distinct fun y hy => yields y (by simp [hy])
      refine (Collects.cons (fun rest stop => ?_) tail).congr (List.exists_mem_cons_iff _ _ _)
      exact yields_putMember layout fresh skips (yields (name, x) (by simp) rest stop)

theorem collects_putMember {value : Reader α} {json : String × α → Json}
    {barred : String × α → Prop} {entries : List (String × α)}
    (distinct : Members.Distinct entries) (skips : SkipsBlanks value)
    (yields : ∀ entry ∈ entries, ∀ rest, Token.Ends rest →
      Yields value (write layout (json entry)) (barred entry) reason entry.2 rest)
    : Collects (putMember value) layout reason (entries.map fun entry => (entry.1, json entry))
        (∃ entry ∈ entries, barred entry) [] entries :=
  have distinct : Members.Distinct ([] ++ entries) := distinct
  collects_putMember_append distinct skips yields

-----------------------------------------------------------------------------------------
-- Whole trees
-----------------------------------------------------------------------------------------

theorem tree_bracket_zero (text : List Char) (place : Place)
    : tree 0 (.at place ('[' :: text) rest)
        = .error ((Cursor.at place ('[' :: text) rest).faultAhead .tooDeep) := by
  rw [tree]
  rfl

theorem tree_brace_zero (text : List Char) (place : Place)
    : tree 0 (.at place ('\x7b' :: text) rest)
        = .error ((Cursor.at place ('\x7b' :: text) rest).faultAhead .tooDeep) := by
  rw [tree]
  rfl

theorem tree_bracket_succ (depth : Nat) (text : List Char) (place : Place)
    : tree (depth + 1) (.at place ('[' :: text) rest)
        = (enclosed closeList (items (tree depth)) (.at place ('[' :: text) rest)).map
            fun (items, cursor) => (.array items, cursor) := by
  rw [tree]
  rfl

theorem tree_brace_succ (depth : Nat) (text : List Char) (place : Place)
    : tree (depth + 1) (.at place ('\x7b' :: text) rest)
        = (enclosed closeObject (members [] (putMember (tree depth)))
            (.at place ('\x7b' :: text) rest)).map
            fun (members, cursor) => (.object members, cursor) := by
  rw [tree]
  rfl

/-- What stands between brackets or braces is read with them when the inside is. -/
theorem yields_enclosed {close : Cursor → Except Failure Cursor} {inner : Reader α} {value : α}
    {barred : Prop} (first last : Char)
    (closes : ∀ place, close (.at place [last] rest) = .ok ⟨place.after (some last), rest⟩)
    (yields : Yields inner text barred reason value (some last :: rest))
    : Yields (enclosed close inner) (first :: (text ++ [last])) barred reason value rest := by
  have yields : Yields inner text barred reason value (symbolsOfText [last] ++ rest) := yields
  refine ⟨fun h place => ?_, fun h place => ?_⟩
  · rw [enclosed, Cursor.advance_cons, Cursor.read_append (yields.takes h)]
    simp only [closes, Place.behind_cons, Place.behind_append]
    rfl
  · obtain ⟨failure, hf, hr⟩ := yields.stops_append h (place.after (some first))
    rw [enclosed, Cursor.advance_cons, hf]
    exact ⟨_, rfl, (failure.cause_settle close).symm ▸ hr⟩

theorem yields_brackets {inner : Reader α} {value : α} {barred : Prop}
    (yields : Yields inner text barred reason value (some ']' :: rest))
    : Yields (enclosed closeList inner) ('[' :: (text ++ [']'])) barred reason value rest :=
  yields_enclosed '[' ']' (fun _ => rfl) yields

theorem yields_braces {inner : Reader α} {value : α} {barred : Prop}
    (yields : Yields inner text barred reason value (some '\x7d' :: rest))
    : Yields (enclosed closeObject inner) ('\x7b' :: (text ++ ['\x7d'])) barred reason value rest :=
  yields_enclosed '\x7b' '\x7d' (fun _ => rfl) yields

/-- What opens a level is read as what it encloses, unless no more levels may be opened. -/
theorem yields_level {close : Cursor → Except Failure Cursor} {inner : Nat → Reader α}
    {wrap : α → Json} {value : α} {below : Nat}
    (zero : ∀ place, tree 0 (.at place text rest)
      = .error ((Cursor.at place text rest).faultAhead .tooDeep))
    (succ : ∀ depth place, tree (depth + 1) (.at place text rest)
      = (enclosed close (inner depth) (.at place text rest)).map
          fun (value, cursor) => (wrap value, cursor))
    (yields : ∀ depth,
      Yields (enclosed close (inner depth)) text (depth < below) Cause.TooDeep value rest)
    (depth : Nat)
    : Yields (tree depth) text (depth < below + 1) Cause.TooDeep (wrap value) rest := by
  cases depth with
  | zero =>
      refine ⟨fun h => absurd (Nat.succ_pos below) h, fun _ place => ?_⟩
      rw [zero]
      exact ⟨_, rfl, rfl⟩
  | succ depth => exact ((yields depth).map (succ depth)).congr Nat.add_lt_add_iff_right

theorem yields_array (depth : Nat) {xs : List Json}
    (yields : ∀ depth, Yields (items (tree depth)) text (depth < depthOfItems xs) Cause.TooDeep xs
      (some ']' :: rest))
    : Yields (tree depth) ('[' :: (text ++ [']'])) (depth < (array xs).depth) Cause.TooDeep
        (.array xs) rest :=
  yields_level (tree_bracket_zero _) (tree_bracket_succ · _)
    (fun depth => yields_brackets (yields depth)) depth

theorem yields_object (depth : Nat) {entries : List (String × Json)}
    (yields : ∀ depth, Yields (members [] (putMember (tree depth))) text
      (depth < depthOfMembers entries) Cause.TooDeep entries (some '\x7d' :: rest))
    : Yields (tree depth) ('\x7b' :: (text ++ ['\x7d'])) (depth < (object entries).depth)
        Cause.TooDeep (.object entries) rest :=
  yields_level (tree_brace_zero _) (tree_brace_succ · _)
    (fun depth => yields_braces (yields depth)) depth

theorem tree_digit (depth : Nat) {c : Char} (hc : Text.isDigit c = true) (text : List Char)
    (place : Place)
    : tree depth (.at place (c :: text) rest)
        = (Token.number (.at place (c :: text) rest)).map
            fun (n, cursor) => (.number n, cursor) := by
  have hskip : (Cursor.at place (c :: text) rest).skipBlanks = Cursor.at place (c :: text) rest :=
    skipBlanks_of_opens (opens_of_isDigit hc text) place
  have hne : ∀ other, Text.isDigit other = false → c ≠ other := by
    intro other ho he
    subst he
    exact Bool.eq_false_iff.mp ho hc
  rw [tree.eq_def, hskip]
  simp only [Cursor.rest_cons]
  split
  · next h => cases h
  · next h => exact absurd (Option.some.inj (List.cons.inj h).1) (hne 'n' rfl)
  · next h => exact absurd (Option.some.inj (List.cons.inj h).1) (hne 't' rfl)
  · next h => exact absurd (Option.some.inj (List.cons.inj h).1) (hne 'f' rfl)
  · next h => exact absurd (Option.some.inj (List.cons.inj h).1) (hne '"' rfl)
  · next h => exact absurd (Option.some.inj (List.cons.inj h).1) (hne '[' rfl)
  · next h => exact absurd (Option.some.inj (List.cons.inj h).1) (hne '\x7b' rfl)
  · next h => exact absurd (Option.some.inj (List.cons.inj h).1) (hne '-' rfl)
  · next h =>
      obtain rfl := Option.some.inj (List.cons.inj h).1
      rw [if_pos hc]
  · next h => cases (List.cons.inj h).1

theorem tree_minus (depth : Nat) (text : List Char) (place : Place)
    : tree depth (.at place ('-' :: text) rest)
        = (Token.number (.at place ('-' :: text) rest)).map
            fun (n, cursor) => (.number n, cursor) := by
  rw [tree.eq_def]
  rfl

theorem takes_number (depth : Nat) (n : Number) (stop : Token.Ends rest)
    : Takes (tree depth) (writeNumber n) (.number n) rest := by
  intro place
  have hn := Token.takes_writeNumber n stop place
  obtain ⟨c, others, hwrite, rfl | hc⟩ := writeNumber_eq_cons n
  · rw [hwrite] at hn ⊢
    rw [tree_minus, hn]
    rfl
  · rw [hwrite] at hn ⊢
    rw [tree_digit depth hc, hn]
    rfl

theorem tree_quote (depth : Nat) (text : List Char) (place : Place)
    : tree depth (.at place ('"' :: text) rest)
        = (Token.string (.at (place.after (some '"')) text rest)).map
            fun (s, cursor) => (.string s, cursor) := by
  rw [tree.eq_def]
  rfl

theorem takes_quoted (depth : Nat) (s : String)
    : Takes (tree depth) (writeString s) (.string s) rest := by
  intro place
  have hs : Takes Token.string (s.toList.flatMap writeChar ++ ['"']) s rest :=
    Token.takes_string s
  rw [writeString, List.cons_append, tree_quote, hs (place.after (some '"'))]
  rfl

/-- A tree is read from what is written for it, unless it is nested more deeply than the reader
may go, by induction on the tree. -/
theorem yields_write {json : Json} (distinct : json.Distinct) (layout : Layout) (depth : Nat)
    (stop : Token.Ends rest)
    : Yields (tree depth) (write layout json) (depth < json.depth) Cause.TooDeep json rest := by
  induction json using Json.byChildren generalizing layout depth rest with
  | step json ih =>
  cases json with
  | null =>
      refine .of_takes (fun place => ?_) (Nat.not_lt_zero depth)
      rw [tree.eq_def]
      rfl
  | bool b =>
      refine .of_takes (fun place => ?_) (Nat.not_lt_zero depth)
      rw [tree.eq_def]
      cases b <;> rfl
  | number n => exact .of_takes (takes_number depth n stop) (Nat.not_lt_zero depth)
  | string s => exact .of_takes (takes_quoted depth s) (Nat.not_lt_zero depth)
  | array items =>
      rw [Json.Distinct] at distinct
      have inside : ∀ depth, Yields (Reader.items (tree depth)) (insideList layout items)
          (depth < depthOfItems items) Cause.TooDeep items (some ']' :: rest) := by
        intro depth
        have h : Yields (Reader.items (tree depth)) (insideList layout (items.map id))
            (∃ x ∈ items, depth < x.depth) Cause.TooDeep items (some ']' :: rest) :=
          yields_items layout (fun x hx _ stop =>
            ih x hx (distinct x hx) layout.deeper depth stop) rest
        rw [List.map_id] at h
        exact h.congr (lt_depthOfItems_iff items)
      rw [write_array]
      exact yields_array depth inside
  | object members =>
      rw [Json.Distinct] at distinct
      have inside : ∀ depth, Yields (Reader.members [] (putMember (tree depth)))
          (insideObject layout members) (depth < depthOfMembers members) Cause.TooDeep members
          (some '\x7d' :: rest) := by
        intro depth
        have collects : Collects (putMember (tree depth)) layout.deeper Cause.TooDeep
            (members.map fun member => (member.1, member.2))
            (∃ member ∈ members, depth < member.2.depth) [] members :=
          collects_putMember distinct.1 (skipsBlanks_tree depth) fun member hm _ stop =>
            ih member.2 (List.mem_map_of_mem hm) (distinct.2 member hm) layout.deeper depth stop
        rw [List.map_id'] at collects
        exact yields_members (collects.congr (lt_depthOfMembers_iff members)) rest
      rw [write_object]
      exact yields_object depth inside

/-- A document that is one text is read as its reader reads the text. -/
theorem document_of_yields {reader : Reader α} {value : α} {barred : Prop}
    (yields : Yields reader text barred reason value [])
    : (¬ barred → document reader (symbolsOfText text) = .ok value)
        ∧ (barred → ∃ failure, document reader (symbolsOfText text) = .error failure
            ∧ reason failure.problem.cause) := by
  have hstart : Cursor.start (symbolsOfText text) = Cursor.at {} text [] := by
    rw [Cursor.at, List.append_nil]
    rfl
  rw [document, hstart]
  refine ⟨fun h => ?_, fun h => ?_⟩
  · rw [yields.takes h]
    rfl
  · obtain ⟨failure, hf, hr⟩ := yields.stops h {}
    rw [hf]
    exact ⟨failure, rfl, hr⟩

end Reader

/-- The document of a tree is read as that tree when the tree is nested no more deeply than
documents may be, and is refused for its depth otherwise. -/
theorem ofText_text {json : Json} (distinct : json.Distinct) (pretty : Bool)
    : (json.depth ≤ greatestDepth → ofText (json.text pretty).toList = .ok json)
        ∧ (greatestDepth < json.depth → ∃ problem, ofText (json.text pretty).toList = .error problem
            ∧ problem.cause = .fault .tooDeep) := by
  have yields : Reader.Yields (Reader.tree greatestDepth)
      (write (if pretty then .indented 0 else .compact) json) (greatestDepth < json.depth)
      Cause.TooDeep json [] :=
    Reader.yields_write distinct _ greatestDepth (fun _ h => by cases h)
  obtain ⟨shallow, deep⟩ := Reader.document_of_yields yields
  rw [ofText, text, String.toList_ofList]
  refine ⟨fun h => ?_, fun h => ?_⟩
  · rw [shallow (Nat.not_lt.mpr h)]
    rfl
  · obtain ⟨failure, hf, hr⟩ := deep h
    rw [hf]
    exact ⟨failure.problem, rfl, hr⟩

end Json

end TypedJson
