import TypedJson.Json.Token

/-!
Readers: what takes a value of some type from a cursor. Lists and objects are read by readers
for their items and members, so that a tree and a typed document are read by the same rules for
commas, ends and depth.
-/

namespace TypedJson.Json

/-- How deeply lists and objects may be nested in each other. -/
def greatestDepth : Nat := 127

/-- Takes a value from a cursor, and gives it with the cursor behind it. -/
abbrev Reader (α : Type) := Cursor → Except Failure (α × Cursor)

namespace Reader

/-- What follows in a list or an object: its end, which is not read, or one more part. -/
inductive Next where
  | finished (cursor : Cursor)
  | part (cursor : Cursor)

/-- Looks for the next item of a list. -/
def nextItem (first : Bool) (cursor : Cursor) : Except Failure Next :=
  let cursor := cursor.skipBlanks
  match cursor.rest with
  | [] => .error (cursor.faultAhead .endInList)
  | some ']' :: _ => .ok (.finished cursor)
  | symbol :: _ =>
      if first then .ok (.part cursor)
      else if symbol = some ',' then
        let cursor := cursor.advance.skipBlanks
        match cursor.rest with
        | [] => .error (cursor.faultAhead .endInValue)
        | some ']' :: _ => .error (cursor.faultAhead .trailingComma)
        | _ => .ok (.part cursor)
      else .error (cursor.faultAhead .expectedItemEnd)

/-- Looks for the name of the next member of an object, up to its opening quote. -/
def nextMember (first : Bool) (cursor : Cursor) : Except Failure Next :=
  let cursor := cursor.skipBlanks
  match cursor.rest with
  | [] => .error (cursor.faultAhead .endInObject)
  | some '\x7d' :: _ => .ok (.finished cursor)
  | some '"' :: _ =>
      if first then .ok (.part cursor) else .error (cursor.faultAhead .expectedMemberEnd)
  | symbol :: _ =>
      if first then .error (cursor.faultAhead .keyNotString)
      else if symbol = some ',' then
        let cursor := cursor.advance.skipBlanks
        match cursor.rest with
        | [] => .error (cursor.faultAhead .endInValue)
        | some '\x7d' :: _ => .error (cursor.faultAhead .trailingComma)
        | some '"' :: _ => .ok (.part cursor)
        | _ => .error (cursor.faultAhead .keyNotString)
      else .error (cursor.faultAhead .expectedMemberEnd)

/-- Reads the end of a list. -/
def closeList (cursor : Cursor) : Except Failure Cursor :=
  let cursor := cursor.skipBlanks
  match cursor.rest with
  | [] => .error (cursor.faultAhead .endInList)
  | some ']' :: _ => .ok cursor.advance
  | some ',' :: _ =>
      let cursor := cursor.advance.skipBlanks
      match cursor.rest with
      | some ']' :: _ => .error (cursor.faultAhead .trailingComma)
      | _ => .error (cursor.faultAhead .trailingText)
  | _ => .error (cursor.faultAhead .trailingText)

/-- Reads the end of an object. -/
def closeObject (cursor : Cursor) : Except Failure Cursor :=
  let cursor := cursor.skipBlanks
  match cursor.rest with
  | [] => .error (cursor.faultAhead .endInObject)
  | some '\x7d' :: _ => .ok cursor.advance
  | some ',' :: _ => .error (cursor.faultAhead .trailingComma)
  | _ => .error (cursor.faultAhead .trailingText)

/-- Reads the colon between a member's name and its value. -/
def colon (cursor : Cursor) : Except Failure Cursor :=
  let cursor := cursor.skipBlanks
  match cursor.rest with
  | [] => .error (cursor.faultAhead .endInObject)
  | some ':' :: _ => .ok cursor.advance
  | _ => .error (cursor.faultAhead .expectedColon)

/-- Reads what a bracket opens, and then its end. -/
def enclosed {α : Type} (close : Cursor → Except Failure Cursor) (inner : Reader α)
    : Reader α := fun cursor =>
  match inner cursor.advance with
  | .ok (value, cursor) => (close cursor).map fun cursor => (value, cursor)
  | .error failure => .error (failure.settle close)

/-- The items of a list, from item `index` on and up to its end, which is not read. The bound is
at least the count of symbols left, each round reading one or more. -/
def itemsFrom {α : Type} (item : Reader α) : Nat → Nat → Reader (List α)
  | 0, _, cursor => .error (cursor.faultAhead .endInList)
  | bound + 1, index, cursor =>
      match nextItem (index == 0) cursor with
      | .error failure => .error (failure.under (.index index))
      | .ok (.finished cursor) => .ok ([], cursor)
      | .ok (.part cursor) =>
          match item cursor with
          | .error failure => .error (failure.under (.index index))
          | .ok (value, cursor) => do
              let (values, cursor) ← itemsFrom item bound (index + 1) cursor
              .ok (value :: values, cursor)

/-- The items of a list, up to its end, which is not read. -/
def items {α : Type} (item : Reader α) : Reader (List α) := fun cursor =>
  itemsFrom item (cursor.rest.length + 1) 0 cursor

/-- The members of an object up to its end, which is not read. Each is read from its opening
quote on and added to what has been collected. The bound is at least the count of symbols left,
each round reading one or more. -/
def membersFrom {σ : Type} (member : σ → Reader σ) : Nat → Bool → σ → Reader σ
  | 0, _, _, cursor => .error (cursor.faultAhead .endInObject)
  | bound + 1, first, state, cursor =>
      match nextMember first cursor with
      | .error failure => .error failure
      | .ok (.finished cursor) => .ok (state, cursor)
      | .ok (.part cursor) => do
          let (state, cursor) ← member state cursor
          membersFrom member bound false state cursor

/-- The members of an object, collected from `empty` on. -/
def members {σ : Type} (empty : σ) (member : σ → Reader σ) : Reader σ := fun cursor =>
  membersFrom member (cursor.rest.length + 1) true empty cursor

/-- Reads a member's value behind its name. -/
def memberValue {α : Type} (name : String) (value : Reader α) : Reader α := fun cursor =>
  match colon cursor with
  | .error failure => .error (failure.under (.key name))
  | .ok cursor => (value cursor).mapError (Failure.under (.key name))

/-- Adds a member, read from its opening quote on, to those before it. -/
def putMember {α : Type} (value : Reader α) (state : List (String × α))
    : Reader (List (String × α)) := fun cursor => do
  let (name, cursor) ← Token.string cursor.advance
  let (value, cursor) ← memberValue name value cursor
  .ok (Members.put name value state, cursor)

/-- A tree, given how many levels may still be opened. -/
def tree (depth : Nat) : Reader Json := fun cursor =>
  let cursor := cursor.skipBlanks
  match cursor.rest with
  | [] => .error (cursor.faultAhead .endInValue)
  | some 'n' :: _ =>
      (Token.word ['u', 'l', 'l'] cursor.advance).map fun cursor => (.null, cursor)
  | some 't' :: _ =>
      (Token.word ['r', 'u', 'e'] cursor.advance).map fun cursor => (.bool true, cursor)
  | some 'f' :: _ =>
      (Token.word ['a', 'l', 's', 'e'] cursor.advance).map fun cursor => (.bool false, cursor)
  | some '"' :: _ => (Token.string cursor.advance).map fun (s, cursor) => (.string s, cursor)
  | some '[' :: _ =>
      match depth with
      | 0 => .error (cursor.faultAhead .tooDeep)
      | depth + 1 =>
          (enclosed closeList (items (tree depth)) cursor).map fun (items, cursor) =>
            (.array items, cursor)
  | some '\x7b' :: _ =>
      match depth with
      | 0 => .error (cursor.faultAhead .tooDeep)
      | depth + 1 =>
          (enclosed closeObject (members [] (putMember (tree depth))) cursor).map
            fun (members, cursor) => (.object members, cursor)
  | some '-' :: _ => (Token.number cursor).map fun (n, cursor) => (.number n, cursor)
  | some c :: _ =>
      if Text.isDigit c then (Token.number cursor).map fun (n, cursor) => (.number n, cursor)
      else .error (cursor.faultAhead .expectedValue)
  | none :: _ => .error (cursor.faultAhead .expectedValue)
termination_by structural depth

/-- A whole document: one value, and blanks behind it. -/
def document {α : Type} (reader : Reader α) (symbols : List Symbol) : Except Failure α := do
  let (value, cursor) ← reader (.start symbols)
  let cursor := cursor.skipBlanks
  if cursor.rest.isEmpty then .ok value else .error (cursor.faultAhead .trailingText)

end Reader

/-- The tree that a text writes. -/
def ofText (text : List Char) : Except Problem Json :=
  (Reader.document (Reader.tree greatestDepth) (symbolsOfText text)).mapError Failure.problem

end TypedJson.Json
