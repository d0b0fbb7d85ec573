import TypedJson.Charset.Basic
import TypedJson.Text.Digits

/-!
Media types, as the header `Content-Type` declares them: a type, a subtype with an optional suffix
behind its last plus sign, and parameters whose values may be quoted.
-/

namespace TypedJson

/-- A parameter of a media type. `spaces` counts the spaces before its name. -/
structure MediaType.Parameter where
  spaces : Nat
  name : List Char
  quoted : Bool
  value : List Char
  deriving DecidableEq, Repr

/-- A media type. -/
structure MediaType where
  type : List Char
  subtype : List Char
  suffix : Option (List Char)
  parameters : List MediaType.Parameter
  deriving DecidableEq, Repr

namespace MediaType

/-- A character of a token: a letter or a digit of the first 128 code points, or one of the marks
that separate nothing. -/
def isTokenChar (c : Char) : Bool :=
  Text.isDigit c || ('a' ≤ c && c ≤ 'z') || ('A' ≤ c && c ≤ 'Z')
    || "!#$%&'*+-.^_`|~".toList.contains c

/-- A character that may stand between quotes. -/
def isQuotedChar (c : Char) : Bool :=
  31 < c.toNat && c.toNat != 127

/-- The two texts are the same but for the case of ASCII letters. -/
def sameWord (a b : List Char) : Bool :=
  a.map Charset.foldCase == b.map Charset.foldCase

/-- A subtype cut at its last plus sign, which may not be its first character. -/
def splitSuffix (cs : List Char) : List Char × Option (List Char) :=
  let behind := (cs.reverse.takeWhile (· != '+')).reverse
  let before := (cs.take (cs.length - behind.length)).dropLast
  if before.isEmpty then (cs, none) else (before, some behind)

/-- A quoted value behind its opening quote, and what follows its closing quote. The first
character belongs to the value whatever it is. -/
def quotedValue? (cs : List Char) : Option (List Char × List Char) :=
  match cs with
  | [] => none
  | first :: rest =>
      let value := first :: rest.takeWhile (· != '"')
      match rest.dropWhile (· != '"') with
      | [] => none
      | _ :: behind => if value.all isQuotedChar then some (value, behind) else none

/-- What follows the mark that ends a parameter, or nothing at the end of the text. -/
def behindSemicolon? : List Char → Option (List Char)
  | [] => some []
  | ';' :: rest => some rest
  | _ => none

/-- A value, and what follows the parameter. -/
def value? (cs : List Char) : Option (Bool × List Char × List Char) :=
  match cs with
  | '"' :: inner => do
      let (value, behind) ← quotedValue? inner
      let rest ← behindSemicolon? (behind.dropWhile (· == ' '))
      some (true, value, rest)
  | _ => do
      let value := cs.takeWhile isTokenChar
      let behind := cs.dropWhile isTokenChar
      let rest ← behindSemicolon? behind
      if value.isEmpty && !behind.isEmpty then none else some (false, value, rest)

/-- The parameters behind a semicolon. The bound is at least the count of characters, each round
taking one or more. -/
def parametersFrom? : Nat → List Char → Option (List Parameter)
  | 0, _ => some []
  | bound + 1, cs =>
      let spaces := cs.takeWhile (· == ' ')
      match cs.dropWhile (· == ' ') with
      | [] => some []
      | text =>
          let name := text.takeWhile isTokenChar
          match text.dropWhile isTokenChar with
          | '=' :: rest =>
              if name.isEmpty then none
              else do
                let (quoted, value, rest) ← value? rest
                let parameters ← parametersFrom? bound rest
                some (⟨spaces.length, name, quoted, value⟩ :: parameters)
          | _ => none

/-- A charset of UTF-8 in quotes that comes first, one space behind the semicolon, and is not the
only parameter, is known by the five characters from its opening quote on. -/
def cutQuotedUtf8 (parameters : List Parameter) : List Parameter :=
  match parameters with
  | first :: second :: rest =>
      if first.spaces = 1 && first.quoted && sameWord first.name "charset".toList
          && sameWord first.value "utf-8".toList then
        { first with value := '"' :: first.value.take 4 } :: second :: rest
      else parameters
  | _ => parameters

/-- The media type that a text declares. -/
def ofText? (text : List Char) : Option MediaType :=
  if text = "*/*".toList then some ⟨['*'], ['*'], none, []⟩
  else
    let type := text.takeWhile isTokenChar
    match text.dropWhile isTokenChar with
    | '/' :: rest =>
        let whole := rest.takeWhile isTokenChar
        let (subtype, suffix) := splitSuffix whole
        if type.isEmpty then none
        else
          match rest.dropWhile isTokenChar with
          | [] => some ⟨type, subtype, suffix, []⟩
          | ';' :: behind =>
              if whole.isEmpty then none
              else (parametersFrom? (behind.length + 1) behind).map fun parameters =>
                ⟨type, subtype, suffix, cutQuotedUtf8 parameters⟩
          | _ => none
    | _ => none

/-- The value of the first parameter with a name. -/
def parameter? (mediaType : MediaType) (name : String) : Option String :=
  (mediaType.parameters.find? fun p => sameWord p.name name.toList).map fun p =>
    String.ofList p.value

/-- A media type of JSON documents: `application/json`, or any application with a JSON suffix. -/
def isJson (mediaType : MediaType) : Bool :=
  sameWord mediaType.type "application".toList
    && (sameWord mediaType.subtype "json".toList
      || mediaType.suffix.any fun suffix => sameWord suffix "json".toList)

end MediaType

/-- The charset that a `Content-Type` declares, if it declares one that is known. -/
def Charset.ofContentType? (value : String) : Option Charset := do
  let mediaType ← MediaType.ofText? value.toList
  let label ← mediaType.parameter? "charset"
  Charset.ofLabel? label

end TypedJson
