import TypedJson.Json.Failure
import TypedJson.Text.Utf16

/-!
The words, numbers and strings of a document, read from a cursor. A number is first cut into its
digits and then valued, so that only its value decides between an integer and a binary number.
-/

namespace TypedJson.Json.Token

/-- Reads the rest of a literal word, whose first letter has been read. -/
def word : List Char → Cursor → Except Failure Cursor
  | [], cursor => .ok cursor
  | letter :: letters, cursor =>
      match cursor.rest with
      | [] => .error (cursor.fault .endInValue)
      | symbol :: _ =>
          if symbol = some letter then word letters cursor.advance
          else .error ({ cursor with place := cursor.ahead }.fault .expectedIdentifier)

/-- A number as it stands in a document. -/
structure NumberText where
  negative : Bool
  whole : List Char
  part : List Char
  exponent : Option Int
  deriving DecidableEq, Repr

namespace NumberText

/-- All digits before the exponent, read as one number. -/
def significand (text : NumberText) : Nat :=
  Text.numberOf (text.whole ++ text.part)

/-- The value of a number, if it is not too large for the binary format. An integer that no
64-bit word holds is a binary number, and so is zero behind a minus sign. -/
def value? (text : NumberText) : Option Number :=
  let integer? : Option WideInt :=
    if text.part.isEmpty && text.exponent.isNone then
      let n := Text.numberOf text.whole
      if !text.negative then WideInt.ofInt? n
      else if n = 0 then none
      else WideInt.ofInt? (-n)
    else none
  match integer? with
  | some n => some (.integer n)
  | none =>
      let x := Binary64.ofDecimal text.negative text.significand
        (text.exponent.getD 0 - text.part.length)
      if h : x.isFinite = true then some (.real x h) else none

end NumberText

/-- The digits before the point: a zero alone, or a run that does not begin with one. -/
def wholeDigits (cursor : Cursor) : Except Failure (List Char × Cursor) :=
  match cursor.rest with
  | [] => .error (cursor.fault .endInValue)
  | symbol :: _ =>
      let (digits, next) := cursor.digits
      match digits with
      | [] => .error ({ cursor with place := cursor.place.afterByte symbol }.fault .invalidNumber)
      | ['0'] => .ok (digits, next)
      | '0' :: _ => .error (cursor.advance.faultAhead .invalidNumber)
      | _ => .ok (digits, next)

/-- The digits behind the point, if there is a point. -/
def partDigits (cursor : Cursor) : Except Failure (List Char × Cursor) :=
  match cursor.rest with
  | some '.' :: _ =>
      let (digits, next) := cursor.advance.digits
      if digits.isEmpty then
        .error (next.faultAhead (if next.rest.isEmpty then .endInValue else .invalidNumber))
      else .ok (digits, next)
  | _ => .ok ([], cursor)

/-- The sign of an exponent. -/
def exponentSign (cursor : Cursor) : Bool × Cursor :=
  match cursor.rest with
  | some '+' :: _ => (false, cursor.advance)
  | some '-' :: _ => (true, cursor.advance)
  | _ => (false, cursor)

/-- The greatest exponent that is read as it stands. -/
def greatestExponent : Nat := 0x7FFFFFFF

/-- How many digits of an exponent are read until its value is too great. -/
def excess (value count : Nat) : List Char → Option Nat
  | [] => none
  | digit :: rest =>
      let next := value * 10 + (digit.toNat - '0'.toNat)
      if greatestExponent < next then some (count + 1) else excess next (count + 1) rest

/-- The exponent, if there is one. Of a number other than zero an exponent that is too great is
out of range at the digit that makes it so. -/
def exponentDigits (isZero : Bool) (cursor : Cursor) : Except Failure (Option Int × Cursor) :=
  match cursor.rest with
  | some 'e' :: _ | some 'E' :: _ =>
      let (negative, first) := exponentSign cursor.advance
      match first.rest with
      | [] => .error (first.fault .endInValue)
      | symbol :: _ =>
          let (digits, next) := first.digits
          if digits.isEmpty then
            .error ({ first with place := first.place.afterByte symbol }.fault .invalidNumber)
          else
            match excess 0 0 digits with
            | some count =>
                if isZero || negative then
                  .ok (some (if negative then -greatestExponent else greatestExponent), next)
                else
                  let place := { first.place with column := first.place.column + count }
                  .error ({ first with place := place }.fault .numberOutOfRange)
            | none =>
                let n : Int := Text.numberOf digits
                .ok (some (if negative then -n else n), next)
  | _ => .ok (none, cursor)

/-- A number behind its sign. -/
def unsignedNumber (negative : Bool) (cursor : Cursor) : Except Failure (Number × Cursor) := do
  let (whole, cursor) ← wholeDigits cursor
  let (part, cursor) ← partDigits cursor
  let isZero := (whole ++ part).all (· == '0')
  let (exponent, cursor) ← exponentDigits isZero cursor
  match (NumberText.mk negative whole part exponent).value? with
  | some n => .ok (n, cursor)
  | none => .error (cursor.fault .numberOutOfRange)

/-- A number, from its sign or its first digit on. -/
def number (cursor : Cursor) : Except Failure (Number × Cursor) :=
  match cursor.rest with
  | some '-' :: _ => unsignedNumber true cursor.advance
  | _ => unsignedNumber false cursor

/-- Four hexadecimal digits. -/
def hexFour (cursor : Cursor) : Except Failure (Nat × Cursor) :=
  match cursor.place.afterBytes? 4 cursor.rest with
  | none =>
      .error ({ cursor with place := cursor.place.afterAll cursor.rest }.fault .endInString)
  | some place =>
      match cursor.rest with
      | some a :: some b :: some c :: some d :: rest =>
          match Text.hexNumber? [a, b, c, d] with
          | some n => .ok (n, ⟨place, rest⟩)
          | none => .error ({ cursor with place := place }.fault .invalidEscape)
      | _ => .error ({ cursor with place := place }.fault .invalidEscape)

/-- Reads one symbol of the second half of a surrogate pair. -/
def pairMark (mark : Char) (cursor : Cursor) : Except Failure Cursor :=
  match cursor.rest with
  | [] => .error (cursor.fault .endInString)
  | symbol :: _ =>
      if symbol = some mark then .ok cursor.advance
      else .error ({ cursor with place := cursor.ahead }.fault .unfinishedSurrogatePair)

/-- The character of an escape by code point, behind its `u`. -/
def unicodeEscape (cursor : Cursor) : Except Failure (Char × Cursor) := do
  let (high, cursor) ← hexFour cursor
  if Text.Utf16.isLow high then .error (cursor.fault .loneSurrogate)
  else if Text.Utf16.isHigh high then
    let cursor ← pairMark '\\' cursor
    let cursor ← pairMark 'u' cursor
    let (low, cursor) ← hexFour cursor
    if Text.Utf16.isLow low then .ok (Text.Utf16.pair high low, cursor)
    else .error (cursor.fault .loneSurrogate)
  else .ok (Char.ofNat high, cursor)

/-- The character that a letter behind a backslash stands for. -/
def shortEscape? : Char → Option Char
  | '"' => some '"'
  | '\\' => some '\\'
  | '/' => some '/'
  | 'b' => some '\x08'
  | 'f' => some '\x0C'
  | 'n' => some '\n'
  | 'r' => some '\r'
  | 't' => some '\t'
  | _ => none

/-- The character of an escape, behind its backslash. -/
def escape (cursor : Cursor) : Except Failure (Char × Cursor) :=
  match cursor.rest with
  | [] => .error (cursor.fault .endInString)
  | some 'u' :: _ => unicodeEscape cursor.advance
  | symbol :: _ =>
      match symbol.bind shortEscape? with
      | some c => .ok (c, cursor.advance)
      | none => .error ({ cursor with place := cursor.ahead }.fault .invalidEscape)

/-- The symbols of a string up to its closing quote, which is not read. The first argument is at
least the count of symbols left, each round reading one or more. -/
def stringBody : Nat → Cursor → Except Failure (List Symbol × Cursor)
  | 0, cursor => .error (cursor.fault .endInString)
  | bound + 1, cursor =>
      match cursor.rest with
      | [] => .error (cursor.fault .endInString)
      | some '"' :: _ => .ok ([], cursor)
      | some '\\' :: _ => do
          let (c, cursor) ← escape cursor.advance
          let (symbols, cursor) ← stringBody bound cursor
          .ok (some c :: symbols, cursor)
      | symbol :: _ =>
          if symbol.any (·.toNat < 0x20) then
            .error ({ cursor with place := cursor.ahead }.fault .controlCharacter)
          else do
            let (symbols, cursor) ← stringBody bound cursor.advance
            .ok (symbol :: symbols, cursor)

/-- A string behind its opening quote. A byte outside every character is reported at the closing
quote. -/
def string (cursor : Cursor) : Except Failure (String × Cursor) := do
  let (symbols, cursor) ← stringBody cursor.rest.length cursor
  match symbols.mapM id with
  | some characters => .ok (String.ofList characters, cursor.advance)
  | none => .error (cursor.fault .invalidEncoding)

end TypedJson.Json.Token
