import TypedJson.Proofs.Codec
import TypedJson.Proofs.Text.Utf16

/-!
Charsets. What is written in a charset is read back from it, with a byte order mark in front or
without, so a decoder makes of a body what it makes of the same text written in UTF-8.
-/

namespace TypedJson

-----------------------------------------------------------------------------------------
-- Writing in a charset
-----------------------------------------------------------------------------------------

namespace Charset

/-- The bytes of a text in the charsets of Unicode, and in Latin 1 if each of its characters has
the number of a byte. -/
def encode? (charset : Charset) (text : List Char) : Option (List UInt8) :=
  match charset with
  | .utf8 => some (Text.Utf8.encode text)
  | .utf16le => some (Text.Utf16.encode .littleEndian text)
  | .utf16be => some (Text.Utf16.encode .bigEndian text)
  | .latin1 =>
      if text.all fun c => c.toNat < 0x100 then some (text.map fun c => UInt8.ofNat c.toNat)
      else none
  | _ => none

/-- The bytes write the text in the charset, with a byte order mark in front or without. -/
def Writes (charset : Charset) (text : List Char) (body : List UInt8) : Prop :=
  charset.encode? text = some body ∨ charset.encode? (byteOrderMark :: text) = some body

variable {charset : Charset} {text : List Char} {body : List UInt8} (multiByte : MultiByte)

/-- What gives every character for the byte of its number gives the text for its bytes. -/
theorem map_bytes {read : UInt8 → Char} (same : ∀ c ∈ text, read (UInt8.ofNat c.toNat) = c)
    : (text.map fun c => UInt8.ofNat c.toNat).map read = text := by
  rw [List.map_map]
  exact (List.map_congr_left same).trans (List.map_id text)

/-- Below the upper half bytes are the numbers of their characters. -/
theorem decodeByte_of_lt {c : Char} {first : Nat} (upper : List Char) (byte : c.toNat < 0x100)
    (below : c.toNat < first)
    : decodeByte first upper (UInt8.ofNat c.toNat) = c := by
  rw [decodeByte, UInt8.toNat_ofNat_of_lt' byte, if_pos below, Char.ofNat_toNat]

/-- The bytes of Latin 1 are the numbers of their characters, those of the controls that
windows-1252 has other characters for included. -/
theorem decodeRaw_latin1 (small : ∀ c ∈ text, c.toNat < 0x100)
    : Charset.latin1.decodeRaw (text.map fun c => UInt8.ofNat c.toNat) multiByte = text := by
  have raw : ∀ bytes, Charset.latin1.decodeRaw bytes multiByte = bytes.map (decodeByte 256 []) :=
    fun _ => rfl
  rw [raw]
  exact map_bytes fun c hc => decodeByte_of_lt [] (small c hc) (small c hc)

/-- What is written is read back, by cases on the charset. -/
theorem decodeRaw_of_encode? (encode : charset.encode? text = some body)
    : charset.decodeRaw body multiByte = text := by
  unfold encode? at encode
  split at encode
  · exact Option.some.inj encode ▸ Text.Utf8.decodeLossy_encode text
  · exact Option.some.inj encode ▸ Text.Utf16.decodeLossy_encode .littleEndian text
  · exact Option.some.inj encode ▸ Text.Utf16.decodeLossy_encode .bigEndian text
  · split at encode
    · next small =>
        simp only [List.all_eq_true, decide_eq_true_eq] at small
        exact Option.some.inj encode ▸ decodeRaw_latin1 multiByte small
    · cases encode
  · cases encode

/-- A byte order mark in front is not part of the text, and one that the text itself would begin
with could not be told from it. -/
theorem decode_of_writes (unmarked : text.head? ≠ some byteOrderMark)
    (writes : charset.Writes text body)
    : charset.decode body multiByte = text := by
  rcases writes with plain | marked
  · rw [decode, decodeRaw_of_encode? multiByte plain]
    cases text with
    | nil => rfl
    | cons c rest => exact if_neg fun hc => unmarked (congrArg some hc)
  · rw [decode, decodeRaw_of_encode? multiByte marked]
    exact if_pos rfl

theorem decode_nil (charset : Charset) : charset.decode [] multiByte = [] := by
  have several : charset.isMultiByte = true → multiByte.read charset [] = [] := fun h =>
    multiByte.read_ascii charset [] h nofun
  have raw : charset.decodeRaw [] multiByte = [] := by
    cases charset with
    | gbk | gb18030 | big5 | eucJp | iso2022Jp | shiftJis | eucKr => exact several rfl
    | _ => rfl
  rw [decode, raw]

end Charset

-----------------------------------------------------------------------------------------
-- Decoding a body in its charset
-----------------------------------------------------------------------------------------

namespace Decoder

/-- The response hands over the body: its status does not say that there is none, and its first
`Content-Type` declares the charset. -/
structure Receives (decoder : Decoder) (charset : Charset) (body : List UInt8)
    (response : Http.Response)
    : Prop where
  body : response.body = some body
  content : response.status ≠ 204
  found : response.status = 404 → decoder.dismissNotFound = false
  declared : (Http.header? response.headers "content-type").bind Charset.ofContentType?
    = some charset

variable {decoder : Decoder} {charset : Charset} {text : List Char} {body : List UInt8}
  {response : Http.Response}

theorem text_of_receives (unmarked : text.head? ≠ some Charset.byteOrderMark)
    (writes : charset.Writes text body) (receives : decoder.Receives charset body response)
    : decoder.text response.headers body = text := by
  rw [Decoder.text, Http.charsetOf, receives.declared]
  exact Charset.decode_of_writes decoder.multiByte unmarked writes

theorem payload?_of_receives (nonempty : text ≠ [])
    (unmarked : text.head? ≠ some Charset.byteOrderMark) (writes : charset.Writes text body)
    (receives : decoder.Receives charset body response)
    : decoder.payload? response = some body := by
  have hbody : body ≠ [] := by
    rintro rfl
    have htext := Charset.decode_of_writes decoder.multiByte unmarked writes
    exact nonempty (htext.symm.trans (Charset.decode_nil decoder.multiByte charset))
  exact payload?_eq_some receives.content receives.found receives.body hbody

/-- A text is read as a type by the engine, whatever charset it is received in. -/
theorem decode_of_receives (nonempty : text ≠ [])
    (unmarked : text.head? ≠ some Charset.byteOrderMark) (writes : charset.Writes text body)
    (receives : decoder.Receives charset body response) {type : Descriptor}
    (typed : type.isBytes = false)
    : decoder.decode response type = (decoder.engine.readText text type).map .value :=
  decode_of_text (payload?_of_receives nonempty unmarked writes receives)
    (text_of_receives unmarked writes receives) typed

/-- A text is read by a reader of its own, whatever charset it is received in. -/
theorem decodeTyped_of_receives (nonempty : text ≠ [])
    (unmarked : text.head? ≠ some Charset.byteOrderMark) (writes : charset.Writes text body)
    (receives : decoder.Receives charset body response) {α : Type} (reader : Typed.TextReader α)
    : decoder.decodeTyped reader response
        = ((Typed.ofText reader text).map some).mapError .document :=
  decodeTyped_of_text (payload?_of_receives nonempty unmarked writes receives)
    (text_of_receives unmarked writes receives) reader

/-- A text decodes to the same, value or error, in whatever charset it is received as in UTF-8, and
whichever charset is taken where none is declared. -/
theorem decode_eq_of_receives (decoder : Decoder) (default : Charset) {charset : Charset}
    {text : List Char} {body : List UInt8} (nonempty : text ≠ [])
    (unmarked : text.head? ≠ some Charset.byteOrderMark) (writes : charset.Writes text body)
    {response plain : Http.Response} (receives : decoder.Receives charset body response)
    (plainly : decoder.Receives .utf8 (Text.Utf8.encode text) plain)
    : (∀ type, type.isBytes = false →
        decoder.decode response type
          = { decoder with defaultCharset := default }.decode plain type)
      ∧ ∀ {α : Type} (reader : Typed.TextReader α),
          decoder.decodeTyped reader response
            = { decoder with defaultCharset := default }.decodeTyped reader plain := by
  have hwrites : Charset.utf8.Writes text (Text.Utf8.encode text) := .inl rfl
  have hplainly : { decoder with defaultCharset := default }.Receives .utf8
      (Text.Utf8.encode text) plain :=
    ⟨plainly.body, plainly.content, plainly.found, plainly.declared⟩
  refine ⟨fun type typed => ?_, fun reader => ?_⟩
  · rw [decode_of_receives nonempty unmarked writes receives typed,
      decode_of_receives nonempty unmarked hwrites hplainly typed]
  · rw [decodeTyped_of_receives nonempty unmarked writes receives,
      decodeTyped_of_receives nonempty unmarked hwrites hplainly]

/-- A letter with an accent and a character of two units, in quotes. -/
def notes : List Char := ['"', 'é', '𝄞', '"']

/-- The notes in UTF-16 behind a byte order mark. -/
def notesBody : List UInt8 :=
  [0xFF, 0xFE, 0x22, 0x00, 0xE9, 0x00, 0x34, 0xD8, 0x1E, 0xDD, 0x22, 0x00]

/-- The notes in UTF-16, under the status of what is missing. -/
def notesResponse : Http.Response where
  status := 404
  headers := [("ETag", "1"), ("CONTENT-TYPE", "application/json; charset=UTF-16")]
  body := some notesBody

/-- The notes in UTF-8. -/
def notesPlain : Http.Response where
  status := 200
  headers := [("content-type", "text/plain;charset=utf8")]
  body := some (Text.Utf8.encode notes)

/-- A decoder that keeps what is missing. -/
def keeper : Decoder := ⟨{}, false, .latin1, .ascii⟩

/-- The notes decode to the same from UTF-16 with a mark as from UTF-8. -/
theorem decode_eq_of_receives_notes
    : Charset.utf16le.Writes notes notesBody
        ∧ keeper.Receives .utf16le notesBody notesResponse
        ∧ keeper.Receives .utf8 (Text.Utf8.encode notes) notesPlain
        ∧ keeper.decode notesResponse .string
          = { keeper with defaultCharset := .utf16be }.decode notesPlain .string
        ∧ keeper.decodeTyped Typed.string notesResponse
          = { keeper with defaultCharset := .utf16be }.decodeTyped Typed.string notesPlain := by
  have writes : Charset.utf16le.Writes notes notesBody := .inr (by decide +kernel)
  have receives : keeper.Receives .utf16le notesBody notesResponse :=
    ⟨rfl, by decide, fun _ => rfl, by decide +kernel⟩
  have plainly : keeper.Receives .utf8 (Text.Utf8.encode notes) notesPlain :=
    ⟨rfl, by decide, fun _ => rfl, by decide +kernel⟩
  obtain ⟨decode, decodeTyped⟩ :=
    decode_eq_of_receives keeper .utf16be (by decide) (by decide) writes receives plainly
  exact ⟨writes, receives, plainly, decode .string rfl, decodeTyped Typed.string⟩

end Decoder

end TypedJson
