import TypedJson.Charset.UpperHalf
import TypedJson.Text.Utf16

/-!
Reading bytes in a charset. What cannot be read becomes a replacement character, so reading never
fails. How charsets are read that take several bytes for a character is left open but for ASCII.
-/

namespace TypedJson.Charset

-----------------------------------------------------------------------------------------
-- Several bytes for a character
-----------------------------------------------------------------------------------------

/-- The charset takes several bytes for most of its characters. -/
def isMultiByte : Charset → Bool
  | .gbk | .gb18030 | .big5 | .eucJp | .iso2022Jp | .shiftJis | .eucKr => true
  | _ => false

/-- The byte is not read as the ASCII character of its number, since it begins or ends another set
of characters. -/
def switches (charset : Charset) (byte : UInt8) : Bool :=
  charset = .iso2022Jp && (byte = 0x0E || byte = 0x0F || byte = 0x1B)

/-- How charsets with several bytes for a character are read. It takes tables of many thousand
characters, which are not carried here; whatever they are, bytes of ASCII are read as themselves
unless one of them switches to another set. -/
structure MultiByte where
  read : Charset → List UInt8 → List Char
  read_ascii : ∀ charset bytes, charset.isMultiByte = true →
    (∀ byte ∈ bytes, byte < 0x80 ∧ charset.switches byte = false) →
    read charset bytes = bytes.map fun byte => Char.ofNat byte.toNat

/-- Reads no more than ASCII. -/
def MultiByte.ascii : MultiByte where
  read charset bytes :=
    bytes.map fun byte =>
      if byte < 0x80 && !charset.switches byte then Char.ofNat byte.toNat
      else Text.Utf8.replacement
  read_ascii charset bytes _ plain := by
    apply List.map_congr_left
    intro byte hb
    obtain ⟨ascii, unswitched⟩ := plain byte hb
    simp [ascii, unswitched]

-----------------------------------------------------------------------------------------
-- Reading
-----------------------------------------------------------------------------------------

/-- The characters of a byte sequence, a byte order mark in front included. -/
def decodeRaw (charset : Charset) (bytes : List UInt8) (multiByte : MultiByte := .ascii)
    : List Char :=
  match charset with
  | .utf8 => Text.Utf8.decodeLossy bytes
  | .utf16le => Text.Utf16.decodeLossy .littleEndian bytes
  | .utf16be => Text.Utf16.decodeLossy .bigEndian bytes
  | .replacement => if bytes.isEmpty then [] else [Text.Utf8.replacement]
  | _ =>
      match charset.upperHalf? with
      | some (first, upper) => bytes.map (decodeByte first upper)
      | none => multiByte.read charset bytes

/-- The mark that may stand in front of a text to show the order of its bytes. -/
def byteOrderMark : Char := '\uFEFF'

/-- The text of a byte sequence, without a byte order mark in front. -/
def decode (charset : Charset) (bytes : List UInt8) (multiByte : MultiByte := .ascii)
    : List Char :=
  match charset.decodeRaw bytes multiByte with
  | [] => []
  | c :: rest => if c = byteOrderMark then rest else c :: rest

end TypedJson.Charset
