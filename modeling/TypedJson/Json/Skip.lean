import TypedJson.Json.Reader

/-!
Passing over a value that nobody asked for. Only its grammar is checked: numbers may have any
size, surrogates need no partner, bytes need not form characters, and there is no limit to the
depth.
-/

namespace TypedJson.Json.Skip

/-- Passes over an escape, behind its backslash. -/
def escape (cursor : Cursor) : Except Failure Cursor :=
  match cursor.rest with
  | [] => .error (cursor.fault .endInString)
  | some 'u' :: _ => (Token.hexFour cursor.advance).map Prod.snd
  | symbol :: _ =>
      if (symbol.bind Token.shortEscape?).isSome then .ok cursor.advance
      else .error ({ cursor with place := cursor.ahead }.fault .invalidEscape)

/-- Passes over a string behind its opening quote. The bound is at least the count of symbols
left. -/
def stringFrom : Nat → Cursor → Except Failure Cursor
  | 0, cursor => .error (cursor.fault .endInString)
  | bound + 1, cursor =>
      match cursor.rest with
      | [] => .error (cursor.fault .endInString)
      | some '"' :: _ => .ok cursor.advance
      | some '\\' :: _ => do
          let cursor ← escape cursor.advance
          stringFrom bound cursor
      | symbol :: _ =>
          if symbol.any (·.toNat < 0x20) then .error (cursor.fault .controlCharacter)
          else stringFrom bound cursor.advance

/-- Passes over a string behind its opening quote. -/
def string (cursor : Cursor) : Except Failure Cursor :=
  stringFrom cursor.rest.length cursor

/-- Passes over the digits before the point. -/
def wholeDigits (cursor : Cursor) : Except Failure Cursor :=
  let (digits, next) := cursor.digits
  match digits with
  | [] => .error ({ cursor with place := cursor.ahead }.fault .invalidNumber)
  | ['0'] => .ok next
  | '0' :: _ => .error (cursor.advance.faultAhead .invalidNumber)
  | _ => .ok next

/-- Passes over the point and the digits behind it, if there is a point. -/
def partDigits (cursor : Cursor) : Except Failure Cursor :=
  match cursor.rest with
  | some '.' :: _ =>
      let (digits, next) := cursor.advance.digits
      if digits.isEmpty then .error (next.faultAhead .invalidNumber) else .ok next
  | _ => .ok cursor

/-- Passes over an exponent, if there is one. -/
def exponentDigits (cursor : Cursor) : Except Failure Cursor :=
  match cursor.rest with
  | some 'e' :: _ | some 'E' :: _ =>
      let (_, first) := Token.exponentSign cursor.advance
      let (digits, next) := first.digits
      if digits.isEmpty then .error ({ first with place := first.ahead }.fault .invalidNumber)
      else .ok next
  | _ => .ok cursor

/-- Passes over a number behind its sign. -/
def number (cursor : Cursor) : Except Failure Cursor := do
  let cursor ← wholeDigits cursor
  let cursor ← partDigits cursor
  exponentDigits cursor

/-- Passes over a member's name and colon. -/
def memberName (cursor : Cursor) : Except Failure Cursor :=
  let cursor := cursor.skipBlanks
  match cursor.rest with
  | [] => .error (cursor.faultAhead .endInObject)
  | some '"' :: _ => do
      let cursor ← string cursor.advance
      Reader.colon cursor
  | _ => .error (cursor.faultAhead .keyNotString)

mutual
/-- Passes over a value. The bound is at least twice the count of symbols left, each round
either reading a symbol or being the first of a list or an object. -/
def valueFrom : Nat → Cursor → Except Failure Cursor
  | 0, cursor => .error (cursor.faultAhead .endInValue)
  | bound + 1, cursor =>
      let cursor := cursor.skipBlanks
      match cursor.rest with
      | [] => .error (cursor.faultAhead .endInValue)
      | some 'n' :: _ => Token.word ['u', 'l', 'l'] cursor.advance
      | some 't' :: _ => Token.word ['r', 'u', 'e'] cursor.advance
      | some 'f' :: _ => Token.word ['a', 'l', 's', 'e'] cursor.advance
      | some '"' :: _ => string cursor.advance
      | some '-' :: _ => number cursor.advance
      | some '[' :: _ =>
          let cursor := cursor.advance.skipBlanks
          match cursor.rest with
          | [] => .error (cursor.faultAhead .endInList)
          | some ']' :: _ => .ok cursor.advance
          | _ => itemsFrom bound cursor
      | some '\x7b' :: _ =>
          let cursor := cursor.advance.skipBlanks
          match cursor.rest with
          | [] => .error (cursor.faultAhead .endInObject)
          | some '\x7d' :: _ => .ok cursor.advance
          | _ => membersFrom bound cursor
      | some c :: _ =>
          if Text.isDigit c then number cursor
          else .error (cursor.faultAhead .expectedValue)
      | none :: _ => .error (cursor.faultAhead .expectedValue)

/-- Passes over the items of a list, at least one, and its end. -/
def itemsFrom : Nat → Cursor → Except Failure Cursor
  | 0, cursor => .error (cursor.faultAhead .endInList)
  | bound + 1, cursor => do
      let cursor ← valueFrom bound cursor
      let cursor := cursor.skipBlanks
      match cursor.rest with
      | [] => .error (cursor.faultAhead .endInList)
      | some ',' :: _ => itemsFrom bound cursor.advance
      | some ']' :: _ => .ok cursor.advance
      | _ => .error (cursor.faultAhead .expectedItemEnd)

/-- Passes over the members of an object, at least one, and its end. -/
def membersFrom : Nat → Cursor → Except Failure Cursor
  | 0, cursor => .error (cursor.faultAhead .endInObject)
  | bound + 1, cursor => do
      let cursor ← memberName cursor
      let cursor ← valueFrom bound cursor
      let cursor := cursor.skipBlanks
      match cursor.rest with
      | [] => .error (cursor.faultAhead .endInObject)
      | some ',' :: _ => membersFrom bound cursor.advance
      | some '\x7d' :: _ => .ok cursor.advance
      | _ => .error (cursor.faultAhead .expectedMemberEnd)
end

/-- Passes over a value. -/
def value : Reader Unit := fun cursor =>
  (valueFrom (2 * cursor.rest.length + 2) cursor).map fun cursor => ((), cursor)

end TypedJson.Json.Skip
