import TypedJson.Proofs.Charset
import TypedJson.Proofs.Encoding
import TypedJson.Proofs.Json.Control

/-!
Bodies that come back. An encoder writes UTF-8 and lets the request know, but the header that it
attaches declares the media type alone, so a decoder that receives the header goes by the charset
of its configuration. What was written comes back if that is UTF-8, and in most other charsets if
it was all ASCII.
-/

namespace TypedJson

-----------------------------------------------------------------------------------------
-- ASCII in other charsets
-----------------------------------------------------------------------------------------

namespace Charset

/-- The charset has the bytes of ASCII for the characters of ASCII, but perhaps for control
characters. -/
def ReadsAscii (charset : Charset) : Prop :=
  charset ≠ .utf16le ∧ charset ≠ .utf16be ∧ charset ≠ .replacement

variable {charset : Charset} {text : List Char} (multiByte : MultiByte)

/-- A charset that is neither of Unicode nor read as nothing takes several bytes for a character if
it has no upper half. -/
theorem isMultiByte_of_upperHalf? (bytewise : charset.upperHalf? = none) (utf8 : charset ≠ .utf8)
    (little : charset ≠ .utf16le) (big : charset ≠ .utf16be) (replacing : charset ≠ .replacement)
    : charset.isMultiByte = true := by
  cases charset with
  | utf8 => exact absurd rfl utf8
  | utf16le => exact absurd rfl little
  | utf16be => exact absurd rfl big
  | replacement => exact absurd rfl replacing
  | gbk | gb18030 | big5 | eucJp | iso2022Jp | shiftJis | eucKr => rfl
  | _ => cases bytewise

theorem ascii_le_upperHalf {first : Nat} {upper : List Char}
    (half : charset.upperHalf? = some (first, upper))
    : 0x80 ≤ first := by
  cases charset <;> cases half <;> decide

theorem toNat_byte_of_ascii {c : Char} (ascii : c.toNat < 0x80)
    : (UInt8.ofNat c.toNat).toNat = c.toNat :=
  UInt8.toNat_ofNat_of_lt' (Nat.lt_trans ascii (by decide))

/-- No byte of a text without control characters switches to another set of characters. -/
theorem switches_of_clear {c : Char} (ascii : c.toNat < 0x80) (clear : c = '\n' ∨ 0x20 ≤ c.toNat)
    : charset.switches (UInt8.ofNat c.toNat) = false := by
  rcases clear with rfl | visible
  · simp [switches]
  · have byte : ∀ n : UInt8, n.toNat < 0x20 → UInt8.ofNat c.toNat ≠ n := by
      rintro n low rfl
      rw [toNat_byte_of_ascii ascii] at low
      omega
    simp [switches, byte]

/-- Charsets with several bytes for a character have one for each of these. -/
theorem MultiByte.read_of_ascii (several : charset.isMultiByte = true)
    (ascii : ∀ c ∈ text, c.toNat < 0x80) (clear : Json.Clear text)
    : multiByte.read charset (text.map fun c => UInt8.ofNat c.toNat) = text := by
  have plain : ∀ byte ∈ text.map fun c => UInt8.ofNat c.toNat,
      byte < 0x80 ∧ charset.switches byte = false := by
    rw [List.forall_mem_map]
    intro c hc
    refine ⟨?_, switches_of_clear (ascii c hc) (clear c hc)⟩
    rw [UInt8.lt_iff_toNat_lt, toNat_byte_of_ascii (ascii c hc)]
    exact ascii c hc
  rw [multiByte.read_ascii charset _ several plain]
  refine map_bytes fun c hc => ?_
  rw [toNat_byte_of_ascii (ascii c hc), Char.ofNat_toNat]

/-- Bytes of ASCII are read as themselves, by cases on how the charset reads. -/
theorem decodeRaw_of_ascii (reads : charset.ReadsAscii) (ascii : ∀ c ∈ text, c.toNat < 0x80)
    (clear : Json.Clear text)
    : charset.decodeRaw (Text.Utf8.encode text) multiByte = text := by
  obtain ⟨little, big, replacing⟩ := reads
  unfold decodeRaw
  split
  · exact Text.Utf8.decodeLossy_encode text
  · exact absurd rfl little
  · exact absurd rfl big
  · exact absurd rfl replacing
  · next utf8 _ _ _ =>
      rw [Text.Utf8.encode_of_ascii ascii]
      split
      · next first upper half =>
          refine map_bytes fun c hc => decodeByte_of_lt upper ?_ ?_
          · exact Nat.lt_trans (ascii c hc) (by decide)
          · exact Nat.lt_of_lt_of_le (ascii c hc) (ascii_le_upperHalf half)
      · next bytewise =>
          have several := isMultiByte_of_upperHalf? bytewise utf8 little big replacing
          exact multiByte.read_of_ascii several ascii clear

/-- A text in ASCII is decoded from its bytes, whichever of these charsets is taken. -/
theorem decode_of_ascii (reads : charset.ReadsAscii) (ascii : ∀ c ∈ text, c.toNat < 0x80)
    (clear : Json.Clear text)
    : charset.decode (Text.Utf8.encode text) multiByte = text := by
  rw [decode, decodeRaw_of_ascii multiByte reads ascii clear]
  cases text with
  | nil => rfl
  | cons c rest =>
      refine if_neg ?_
      rintro rfl
      exact absurd (ascii byteOrderMark (by simp)) (by decide)

end Charset

-----------------------------------------------------------------------------------------
-- What a call writes
-----------------------------------------------------------------------------------------

namespace Encoder.Call

/-- The encoder that is called. -/
def encoder : Call → Encoder
  | value encoder _ _ => encoder
  | typed encoder _ => encoder

/-- The tree that a call writes. -/
def tree : Call → Except EncodeError Json
  | value encoder v type => (encoder.engine.write v type).mapError .shape
  | typed _ document => document.mapError .document

/-- The text that a call writes. -/
def text (call : Call) : Except EncodeError (List Char) :=
  call.tree.map fun json => (json.text call.encoder.engine.pretty).toList

theorem written_eq (call : Call) : call.written = call.text.map Text.Utf8.encode := by
  cases call with
  | value encoder v type =>
      simp only [written, text, tree, Engine.writeBytes]
      cases encoder.engine.write v type <;> rfl
  | typed encoder document =>
      simp only [written, text, tree]
      cases document <;> rfl

variable {call : Call} {start sent : Http.Request}

/-- A call that succeeds puts the bytes of its text into the request. The text begins as documents
do, and it has no control characters but line breaks. -/
theorem exists_text_of_encode (encode : call.encode start = .ok sent)
    : ∃ text, call.text = .ok text ∧ Json.Opens text ∧ Json.Clear text
        ∧ sent = start.setBody (Text.Utf8.encode text) .utf8 Http.jsonMediaType := by
  rw [encode_eq, written_eq] at encode
  obtain ⟨body, hbody, rfl⟩ := map_eq_ok_iff.mp encode
  obtain ⟨chars, htext, rfl⟩ := map_eq_ok_iff.mp hbody
  obtain ⟨json, _, rfl⟩ := map_eq_ok_iff.mp htext
  exact ⟨_, htext, call.encoder.engine.opens_text json, Json.clear_text _ json, rfl⟩

end Encoder.Call

-----------------------------------------------------------------------------------------
-- Headers that come back
-----------------------------------------------------------------------------------------

namespace Http

theorem header?_setBody (request : Request) (body : List UInt8) (charset : Charset)
    (mediaType : String)
    : header? (request.setBody body charset mediaType).headers "content-type" = some mediaType := by
  have own : sameName "content-type" "content-type" = true := by decide
  refine header?_append_cons (fun header hm => ?_) own
  simpa using (List.mem_filter.mp hm).2

/-- The media type of encoded bodies declares no charset. -/
theorem ofContentType?_jsonMediaType : Charset.ofContentType? jsonMediaType = none := by
  decide +kernel

/-- So the charset to fall back on is found for an encoded body, whatever headers the request had
before. -/
theorem charsetOf_setBody (request : Request) (body : List UInt8) (charset default : Charset)
    : charsetOf (request.setBody body charset jsonMediaType).headers default = default := by
  refine charsetOf_of_unusable ?_ default
  rw [header?_setBody, Option.bind_some, ofContentType?_jsonMediaType]

end Http

-----------------------------------------------------------------------------------------
-- Decoding what comes back
-----------------------------------------------------------------------------------------

namespace Codec

/-- The response has the headers and the body of the request, and the decoder sees a payload. -/
structure Echoes (decoder : Decoder) (sent : Http.Request) (response : Http.Response) : Prop where
  headers : response.headers = sent.headers
  body : response.body = sent.body
  carries : ¬ decoder.Bare response

variable {call : Encoder.Call} {start sent : Http.Request}

theorem defaultCharset_build (config : Config) (extensions : List Extension)
    (given : Option Engine) (multiByte : Charset.MultiByte)
    : (build config extensions given multiByte).decoder.defaultCharset = config.charset := by
  rw [build, decoder_ofEngine]

/-- A call that succeeds has its text in the request in UTF-8, as it tells the request, but what a
decoder finds from the headers is the charset of its configuration, whatever headers the request had
before. So the two agree just when this charset is UTF-8. Then the text is what the decoder makes of
a response with the request's headers and body, and it is too in any other charset that reads ASCII
if the text is all ASCII. -/
theorem echo_of_encode (config : Config) (extensions : List Extension) (given : Option Engine)
    (multiByte : Charset.MultiByte) (encode : call.encode start = .ok sent)
    : let decoder := (build config extensions given multiByte).decoder
      let found := Http.charsetOf sent.headers decoder.defaultCharset
      ∃ text, call.text = .ok text ∧ sent.body = some (Text.Utf8.encode text)
        ∧ sent.charset = some .utf8 ∧ found = config.charset
        ∧ (sent.charset = some found ↔ config.charset = .utf8)
        ∧ (config.charset = .utf8 ∨ config.charset.ReadsAscii ∧ (∀ c ∈ text, c.toNat < 0x80) →
            ∀ response, Echoes decoder sent response →
              decoder.payload? response = some (Text.Utf8.encode text)
              ∧ decoder.text response.headers (Text.Utf8.encode text) = text
              ∧ (∀ type, type.isBytes = false →
                decoder.decode response type = (decoder.engine.readText text type).map .value)
              ∧ ∀ {α : Type} (reader : Typed.TextReader α),
                  decoder.decodeTyped reader response
                    = ((Typed.ofText reader text).map some).mapError .document) := by
  intro decoder found
  obtain ⟨text, htext, opens, clear, rfl⟩ := Encoder.Call.exists_text_of_encode encode
  have hfound : found = config.charset :=
    (Http.charsetOf_setBody _ _ _ _).trans (defaultCharset_build config extensions given multiByte)
  refine ⟨text, htext, rfl, rfl, hfound, ?_, fun readable response echoes => ?_⟩
  · rw [hfound]
    exact ⟨fun h => (Option.some.inj h).symm, fun h => congrArg some h.symm⟩
  · obtain ⟨body, hbody, payload⟩ := Decoder.exists_payload?_of_not_bare echoes.carries
    obtain rfl := Option.some.inj (echoes.body.symm.trans hbody)
    have same : decoder.text response.headers (Text.Utf8.encode text) = text := by
      have hcharset : Http.charsetOf response.headers decoder.defaultCharset = config.charset :=
        (congrArg (Http.charsetOf · _) echoes.headers).trans hfound
      rw [Decoder.text, hcharset]
      rcases readable with h | ⟨reads, ascii⟩
      · rw [h]
        exact Charset.decode_encode opens decoder.multiByte
      · exact Charset.decode_of_ascii decoder.multiByte reads ascii clear
    exact ⟨payload, same, fun type typed => Decoder.decode_of_text payload same typed,
      fun reader => Decoder.decodeTyped_of_text payload same reader⟩

/-- A request that declares another media type, with a charset. -/
def draft : Http.Request where
  method := "POST"
  path := "/echo"
  headers := [("Content-Type", "text/plain; charset=utf-16"), ("Accept", "*/*")]

/-- A word in ASCII comes back where IBM 866 is the charset to fall back on. -/
theorem echo_of_encode_word
    : let codec := build { defaultCharset := "cp866" } [] none
      let body : List UInt8 := [0x22, 0x6F, 0x6B, 0x22]
      let sent := draft.setBody body .utf8 Http.jsonMediaType
      codec.encoder.encode (.string "ok") .string draft = .ok sent
        ∧ Http.charsetOf sent.headers codec.decoder.defaultCharset = .ibm866
        ∧ codec.decoder.payload? ⟨200, sent.headers, some body⟩ = some body
        ∧ codec.decoder.text sent.headers body = "\"ok\"".toList := by
  intro codec body sent
  have ibm866 : Config.charset { defaultCharset := "cp866" } = .ibm866 := by decide +kernel
  have encode : (Encoder.Call.value codec.encoder (.string "ok") .string).encode draft
      = .ok sent := by decide +kernel
  obtain ⟨text, htext, _, _, found, _, back⟩ :=
    echo_of_encode { defaultCharset := "cp866" } [] none .ascii encode
  obtain rfl : "\"ok\"".toList = text := Except.ok.inj htext
  have echoes : Echoes codec.decoder sent ⟨200, sent.headers, some body⟩ := by
    refine ⟨rfl, rfl, ?_⟩
    rintro (h | ⟨h, _⟩ | h | h) <;> exact absurd h (by decide)
  have reads : (Config.charset { defaultCharset := "cp866" }).ReadsAscii := by
    rw [ibm866]
    simp [Charset.ReadsAscii]
  have small : "\"ok\"".toList.all (fun c => decide (c.toNat < 0x80)) = true := by decide
  have ascii : ∀ c ∈ "\"ok\"".toList, c.toNat < 0x80 := fun c hc =>
    of_decide_eq_true (List.all_eq_true.mp small c hc)
  obtain ⟨payload, same, _⟩ := back (.inr ⟨reads, ascii⟩) _ echoes
  exact ⟨encode, found.trans ibm866, payload, same⟩

/-- A letter with an accent does not come back where Latin 1 is. -/
theorem not_echo_accent
    : let codec := build { defaultCharset := "latin1" } [] none
      ∃ sent, codec.encoder.encode (.string "é") .string draft = .ok sent
        ∧ sent.charset = some .utf8
        ∧ Http.charsetOf sent.headers codec.decoder.defaultCharset = .latin1
        ∧ codec.decoder.text sent.headers (sent.body.getD []) = "\"Ã©\"".toList
        ∧ codec.decoder.decode ⟨200, sent.headers, sent.body⟩ .string
          = .ok (.value (.string "Ã©")) := by
  intro codec
  have encode : codec.encoder.encode (.string "é") .string draft
      = .ok (draft.setBody [0x22, 0xC3, 0xA9, 0x22] .utf8 Http.jsonMediaType) := by decide +kernel
  have headers : (draft.setBody [0x22, 0xC3, 0xA9, 0x22] .utf8 Http.jsonMediaType).headers
      = [("Accept", "*/*"), ("content-type", "application/json")] := by decide +kernel
  have found : Http.charsetOf [("Accept", "*/*"), ("content-type", "application/json")]
      codec.decoder.defaultCharset = .latin1 := by decide +kernel
  have text : codec.decoder.text [("Accept", "*/*"), ("content-type", "application/json")]
      [0x22, 0xC3, 0xA9, 0x22] = "\"Ã©\"".toList := by decide +kernel
  have distinct : (Json.string "Ã©").Distinct := by simp [Json.Distinct]
  have read : Json.ofText "\"Ã©\"".toList = .ok (.string "Ã©") :=
    (Json.ofText_text distinct false).1 (by decide)
  refine ⟨_, encode, rfl, ?_, ?_, ?_⟩
  · rw [headers, found]
  · rw [headers]
    exact text
  · rw [headers, Decoder.decode_of_text rfl text rfl, Engine.readText, read]
    rfl

end Codec

end TypedJson
