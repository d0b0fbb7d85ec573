/-!
UTF-8: characters to bytes, and bytes back into pieces. A piece is a whole character or the
longest malformed stretch that could have begun one, so that both reading with replacement
characters and reading byte by byte are views of one decoder.
-/

namespace TypedJson.Text.Utf8

/-- The bytes of a text. -/
def encode (cs : List Char) : List UInt8 :=
  cs.flatMap String.utf8EncodeChar

/-- How many bytes a text takes. -/
def size : List Char → Nat
  | [] => 0
  | c :: cs => c.utf8Size + size cs

/-- A decoded piece of a byte sequence. -/
inductive Piece where
  | char (c : Char)
  | malformed (width : Nat)
  deriving DecidableEq, Repr

/-- A character that has begun: `owed` bytes are still to come, the next one between `low` and
`high`; `code` collects the bits and `width` counts the bytes seen. -/
structure Pending where
  owed : Nat
  low : Nat
  high : Nat
  code : Nat
  width : Nat
  deriving DecidableEq, Repr

/-- What a byte begins when no character is pending. -/
def begin (byte : Nat) : Piece ⊕ Pending :=
  if byte < 0x80 then .inl (.char (Char.ofNat byte))
  else if byte < 0xC2 then .inl (.malformed 1)
  else if byte < 0xE0 then .inr ⟨1, 0x80, 0xBF, byte - 0xC0, 1⟩
  else if byte = 0xE0 then .inr ⟨2, 0xA0, 0xBF, 0, 1⟩
  else if byte = 0xED then .inr ⟨2, 0x80, 0x9F, 0xD, 1⟩
  else if byte < 0xF0 then .inr ⟨2, 0x80, 0xBF, byte - 0xE0, 1⟩
  else if byte = 0xF0 then .inr ⟨3, 0x90, 0xBF, 0, 1⟩
  else if byte < 0xF4 then .inr ⟨3, 0x80, 0xBF, byte - 0xF0, 1⟩
  else if byte = 0xF4 then .inr ⟨3, 0x80, 0x8F, 4, 1⟩
  else .inl (.malformed 1)

/-- The pieces of a byte sequence, given the character that is pending before it. -/
def piecesAfter : Option Pending → List UInt8 → List Piece
  | none, [] => []
  | some pending, [] => [.malformed pending.width]
  | none, byte :: rest =>
      match begin byte.toNat with
      | .inl piece => piece :: piecesAfter none rest
      | .inr pending => piecesAfter (some pending) rest
  | some pending, byte :: rest =>
      if pending.low ≤ byte.toNat ∧ byte.toNat ≤ pending.high then
        let code := pending.code * 64 + (byte.toNat - 0x80)
        if pending.owed ≤ 1 then .char (Char.ofNat code) :: piecesAfter none rest
        else piecesAfter (some ⟨pending.owed - 1, 0x80, 0xBF, code, pending.width + 1⟩) rest
      else
        .malformed pending.width ::
          match begin byte.toNat with
          | .inl piece => piece :: piecesAfter none rest
          | .inr next => piecesAfter (some next) rest

/-- The pieces of a byte sequence. -/
def pieces (bytes : List UInt8) : List Piece :=
  piecesAfter none bytes

/-- The character that stands for what cannot be decoded. -/
def replacement : Char := '\uFFFD'

/-- The text of a byte sequence, each malformed piece read as one replacement character. -/
def decodeLossy (bytes : List UInt8) : List Char :=
  (pieces bytes).map fun piece =>
    match piece with
    | .char c => c
    | .malformed _ => replacement

/-- The characters of a byte sequence, each byte of a malformed piece on its own as `none`. -/
def symbols (bytes : List UInt8) : List (Option Char) :=
  (pieces bytes).flatMap fun piece =>
    match piece with
    | .char c => [some c]
    | .malformed width => List.replicate width none

/-- The text of a well-formed byte sequence. -/
def decode? (bytes : List UInt8) : Option (List Char) :=
  (pieces bytes).mapM fun piece =>
    match piece with
    | .char c => some c
    | .malformed _ => none

end TypedJson.Text.Utf8
