import TypedJson.Codec
import TypedJson.Proofs.Engine.Conform
import TypedJson.Proofs.Engine.Spelling
import TypedJson.Proofs.Json.Document
import TypedJson.Proofs.Response
import TypedJson.Proofs.Text.Utf8

/-!
Codecs. What an encoder puts into a request for a value that conforms to a type, a decoder over
the same engine finds in a response as an equal value, unless the document is nested more deeply
than documents may be.
-/

namespace TypedJson

-----------------------------------------------------------------------------------------
-- Bodies
-----------------------------------------------------------------------------------------

/-- A text that begins with an ASCII character is decoded from its bytes. -/
theorem Charset.decode_encode {text : List Char} (opens : Json.Opens text)
    (multiByte : Charset.MultiByte)
    : Charset.utf8.decode (Text.Utf8.encode text) multiByte = text := by
  obtain ⟨c, rest, rfl, _, _, _, hc⟩ := opens
  have hmark : c ≠ byteOrderMark := by
    intro he
    subst he
    exact absurd hc (by decide)
  have hraw : Charset.utf8.decodeRaw (Text.Utf8.encode (c :: rest)) multiByte = c :: rest :=
    Text.Utf8.decodeLossy_encode (c :: rest)
  rw [decode, hraw]
  exact if_neg hmark

theorem Json.Opens.encode_ne_nil {text : List Char} (opens : Json.Opens text)
    : Text.Utf8.encode text ≠ [] := by
  obtain ⟨c, rest, rfl, _⟩ := opens
  exact Text.Utf8.encode_ne_nil (List.cons_ne_nil c rest)

/-- The bytes that an engine writes for a tree. -/
def Engine.bytesOf (engine : Engine) (json : Json) : List UInt8 :=
  Text.Utf8.encode (json.text engine.pretty).toList

theorem Engine.opens_text (engine : Engine) (json : Json)
    : Json.Opens (json.text engine.pretty).toList := by
  rw [Json.text, String.toList_ofList]
  exact Json.opens_write _ json

theorem Engine.bytesOf_ne_nil (engine : Engine) (json : Json) : engine.bytesOf json ≠ [] :=
  (engine.opens_text json).encode_ne_nil

namespace Codec

/-- The response hands over the body: its status does not say that there is none, and its headers
say or leave it to the configuration that the body is written in UTF-8. -/
structure Carries (config : Config) (body : List UInt8) (response : Http.Response) : Prop where
  body : response.body = some body
  content : response.status ≠ 204
  found : response.status = 404 → config.dismissNotFound = false
  charset : Http.charsetOf response.headers config.charset = .utf8

variable {config : Config} {engine : Engine} {multiByte : Charset.MultiByte}
  {response : Http.Response} {type : Descriptor}

theorem decoder_ofEngine
    : (ofEngine config engine multiByte).decoder
        = ⟨engine, config.dismissNotFound, config.charset, multiByte⟩ :=
  rfl

theorem payload?_of_carries {body : List UInt8} (carries : Carries config body response)
    (nonempty : body ≠ [])
    : (ofEngine config engine multiByte).decoder.payload? response = some body :=
  Decoder.payload?_eq_some carries.content carries.found carries.body nonempty

/-- Responses with the same body decode to the same. -/
theorem decode_eq_of_carries {other : Http.Response} {body : List UInt8}
    (first : Carries config body response) (second : Carries config body other)
    (nonempty : body ≠ []) (type : Descriptor)
    : (ofEngine config engine multiByte).decoder.decode response type
        = (ofEngine config engine multiByte).decoder.decode other type := by
  have payload : (ofEngine config engine multiByte).decoder.payload? response
      = (ofEngine config engine multiByte).decoder.payload? other := by
    rw [payload?_of_carries first nonempty, payload?_of_carries second nonempty]
  refine (Decoder.alike_of_payload? payload ?_).1 type
  simp only [decoder_ofEngine, first.charset, second.charset]

/-- A text that begins as documents do is decoded as the engine reads it. -/
theorem decode_eq_readText {text : List Char} (opens : Json.Opens text)
    (carries : Carries config (Text.Utf8.encode text) response) (typed : type.isBytes = false)
    : (ofEngine config engine multiByte).decoder.decode response type
        = (engine.readText text type).map .value := by
  have htext : (ofEngine config engine multiByte).decoder.text response.headers
      (Text.Utf8.encode text) = text := by
    simp only [Decoder.text, decoder_ofEngine, carries.charset,
      Charset.decode_encode opens multiByte]
  exact Decoder.decode_of_text (payload?_of_carries carries opens.encode_ne_nil) htext typed

/-- A body that writes a tree is decoded as the engine reads that tree, unless the tree is nested
too deeply. -/
theorem decode_of_carries {json : Json} (distinct : json.Distinct)
    (carries : Carries config (engine.bytesOf json) response) (typed : type.isBytes = false)
    : (json.depth ≤ Json.greatestDepth →
        (ofEngine config engine multiByte).decoder.decode response type
          = ((engine.read json type).mapError .shape).map .value)
        ∧ (Json.greatestDepth < json.depth →
          ∃ problem, (ofEngine config engine multiByte).decoder.decode response type
              = .error (.document problem)
            ∧ problem.cause = .fault .tooDeep) := by
  obtain ⟨shallow, deep⟩ := Json.ofText_text distinct engine.pretty
  rw [decode_eq_readText (engine.opens_text json) carries typed, Engine.readText]
  refine ⟨fun h => ?_, fun h => ?_⟩
  · rw [shallow h]
    rfl
  · obtain ⟨problem, hp, hcause⟩ := deep h
    rw [hp]
    exact ⟨problem, rfl, hcause⟩

theorem decode_bytes {json : Json} (carries : Carries config (engine.bytesOf json) response)
    (bytes : type.isBytes = true)
    : (ofEngine config engine multiByte).decoder.decode response type
        = .ok (.bytes (engine.bytesOf json)) := by
  rw [Decoder.decode, payload?_of_carries carries (engine.bytesOf_ne_nil json)]
  exact if_pos bytes

theorem encode_of_write {value : Value} {json : Json} (write : engine.write value type = .ok json)
    (request : Http.Request)
    : (ofEngine config engine multiByte).encoder.encode value type request
        = .ok (request.setBody (engine.bytesOf json) .utf8 Http.jsonMediaType) := by
  have hbytes : engine.writeBytes value type = .ok (engine.bytesOf json) := by
    rw [Engine.writeBytes, write]
    rfl
  have hengine : (ofEngine config engine multiByte).encoder.engine = engine := rfl
  rw [Encoder.encode, hengine, hbytes]
  rfl

-----------------------------------------------------------------------------------------
-- Decoding what was encoded
-----------------------------------------------------------------------------------------

/-- A value that conforms to a type is encoded, and a response with its body is decoded as an equal
value just when the body is nested no more deeply than documents may be; a deeper one is refused
for its depth. Of a type of bytes the body itself is given back. -/
theorem decode_of_encode (adapters : engine.AdaptersInvert) (names : engine.AdaptersDistinct)
    {value : Value} (distinct : value.Distinct) (conforms : engine.Conforms value type [])
    (config : Config) (multiByte : Charset.MultiByte) (request : Http.Request)
    : ∃ json sent, engine.write value type = .ok json
        ∧ (ofEngine config engine multiByte).encoder.encode value type request = .ok sent
        ∧ ∃ body, sent.body = some body
          ∧ ∀ response, Carries config body response →
              (type.isBytes = true →
                (ofEngine config engine multiByte).decoder.decode response type = .ok (.bytes body))
              ∧ (type.isBytes = false → json.depth ≤ Json.greatestDepth →
                ∃ back, (ofEngine config engine multiByte).decoder.decode response type
                    = .ok (.value back)
                  ∧ value.same back = true)
              ∧ (type.isBytes = false → Json.greatestDepth < json.depth →
                ∃ problem, (ofEngine config engine multiByte).decoder.decode response type
                    = .error (.document problem)
                  ∧ problem.cause = .fault .tooDeep) := by
  obtain ⟨⟨json, back⟩, write, read, same⟩ := Engine.exists_returned adapters conforms
  have hjson : json.Distinct := Engine.distinct_of_writeNode names distinct write
  have hback : back.Distinct := Engine.distinct_of_readNode hjson read
  refine ⟨json, _, write, encode_of_write write request, _, rfl, fun response carries => ?_⟩
  refine ⟨fun bytes => ?_, fun typed shallow => ⟨back, ?_, ?_⟩, fun typed deep => ?_⟩
  · exact decode_bytes carries bytes
  · have read : engine.read json type = .ok back := read
    rw [(decode_of_carries hjson carries typed).1 shallow, read]
    rfl
  · exact (Value.same_iff distinct hback).mpr same
  · exact (decode_of_carries hjson carries typed).2 deep

end Codec

-----------------------------------------------------------------------------------------
-- Pages of dates
-----------------------------------------------------------------------------------------

/-- Pages of dates. -/
def pageOfDates : Descriptor := .generic "Page" [("T", .named "LocalDate")]

/-- The leap day of 2024. -/
def leapDay : Calendar.Date := ⟨2024, 2, 29, by decide⟩

namespace Codec

/-- A request without a body. -/
def bareRequest : Http.Request where
  method := "POST"
  path := "/"

/-- A response in the charset of the configuration. -/
def bareResponse (body : List UInt8) : Http.Response where
  status := 200
  body := some body

theorem carries_bareResponse (body : List UInt8) : Carries {} body (bareResponse body) where
  body := rfl
  content := show 200 ≠ 204 by decide
  found := show 200 = 404 → true = false by decide
  charset := show Http.charsetOf [] ({} : Config).charset = .utf8 by decide +kernel

/-- Pages of any type, each of which may have another one behind it. -/
def pageSchema : Schema where
  name := "Page"
  parameters := ["T"]
  fields := [("items", .list (.var "T")), ("next", .generic "Page" [("T", .var "T")])]

/-- A strict engine that knows pages, dates and identifiers. -/
def pages : Engine :=
  .ofConfig { strict := true } [Calendar.localDates, Uuid.extension, [.object pageSchema]]

/-- A page with a date and null, and an empty page behind it, which has a null field. -/
def twoPages : Value :=
  .object "Page"
    [("next", .object "Page" [("next", .null), ("items", .array [])]),
      ("items", .array [.custom ⟨"LocalDate", .date leapDay⟩, .null])]

theorem adaptersInvert_pages : pages.AdaptersInvert := by
  refine Engine.adaptersInvert_ofConfig _ fun extension he a ha => ?_
  simp only [List.mem_cons, List.not_mem_nil, or_false] at he
  rcases he with rfl | rfl | rfl
  · exact Calendar.inverts_localDates ha
  · exact Uuid.inverts_extension ha
  · cases List.mem_singleton.mp ha

theorem adaptersDistinct_pages : pages.AdaptersDistinct := by
  intro name a registered custom json write
  obtain ⟨extension, he, ha, _⟩ := Engine.brought_of_ofConfig registered
  simp only [List.mem_cons, List.not_mem_nil, or_false] at he
  rcases he with rfl | rfl | rfl
  · obtain rfl := Entry.adapter.inj (List.mem_singleton.mp ha)
    exact Calendar.spelling.distinct_of_write (fun _ => rfl) write
  · obtain rfl := Entry.adapter.inj (List.mem_singleton.mp ha)
    exact Uuid.spelling.distinct_of_write (fun _ => rfl) write
  · cases List.mem_singleton.mp ha

theorem distinct_twoPages : twoPages.Distinct := by
  simp [twoPages, Value.Distinct, Members.Distinct]

/-- A page conforms when its items and the page behind it do. -/
theorem conforms_page {type : Descriptor} {bindings inner : Bindings} {items next : Value}
    (form : pages.form? type bindings = some (.record "Page" pageSchema inner))
    (hitems : pages.Conforms items (.list (.var "T")) inner)
    (hnext : pages.Conforms next (.generic "Page" [("T", .var "T")]) inner)
    : pages.Conforms (.object "Page" [("next", next), ("items", items)]) type bindings := by
  refine .object form (by simp [pageSchema]) fun field hf type hl => ?_
  rcases List.mem_pair.mp hf with rfl | rfl
  · obtain rfl : .generic "Page" [("T", .var "T")] = type := Option.some.inj hl
    exact hnext
  · obtain rfl : .list (.var "T") = type := Option.some.inj hl
    exact hitems

theorem conforms_twoPages : pages.Conforms twoPages pageOfDates [] := by
  have hnone : ∀ value ∈ ([] : List Value),
      pages.Conforms value (.var "T") [("T", .named "LocalDate")] := nofun
  refine conforms_page rfl (.list rfl fun value hv => ?_) ?_
  · rcases List.mem_pair.mp hv with rfl | rfl
    · exact .custom rfl rfl rfl
    · exact .null
  · exact conforms_page rfl (.list rfl hnone) .null

/-- Two pages come back as an equal value. -/
theorem decode_of_encode_pages
    : pages.AdaptersInvert ∧ pages.AdaptersDistinct ∧ twoPages.Distinct
        ∧ pages.Conforms twoPages pageOfDates []
        ∧ ∃ sent body, (ofEngine {} pages).encoder.encode twoPages pageOfDates bareRequest
              = .ok sent
            ∧ sent.body = some body
            ∧ ∃ back, (ofEngine {} pages).decoder.decode (bareResponse body) pageOfDates
                  = .ok (.value back)
              ∧ twoPages.same back = true := by
  obtain ⟨json, sent, write, encode, body, hbody, decode⟩ :=
    decode_of_encode adaptersInvert_pages adaptersDistinct_pages distinct_twoPages conforms_twoPages
      {} .ascii bareRequest
  have hjson : pages.write twoPages pageOfDates = .ok (.object
      [("items", .array [.string "2024-02-29", .null]),
        ("next", .object [("items", .array [])])]) := rfl
  have shallow : json.depth ≤ Json.greatestDepth := by
    obtain rfl := Except.ok.inj (write.symm.trans hjson)
    decide
  exact ⟨adaptersInvert_pages, adaptersDistinct_pages, distinct_twoPages, conforms_twoPages, sent,
    body, encode, hbody, (decode _ (carries_bareResponse body)).2.1 rfl shallow⟩

end Codec

-----------------------------------------------------------------------------------------
-- Lists in lists
-----------------------------------------------------------------------------------------

/-- Null in as many lists, each the only item of the next. -/
def Json.nested : Nat → Json
  | 0 => .null
  | depth + 1 => .array [nested depth]

theorem Json.depth_nested (n : Nat) : (nested n).depth = n := by
  induction n with
  | zero => rfl
  | succ n ih => simp [nested, depth, depthOfItems, ih]

theorem Json.distinct_nested (n : Nat) : (nested n).Distinct := by
  induction n with
  | zero => simp [nested, Distinct]
  | succ n ih => simpa [nested, Distinct] using ih

namespace Codec

/-- Lists in lists are encoded however many there are, and not decoded when they are too many. -/
theorem exists_encode_nested {n : Nat} (deep : Json.greatestDepth < n)
    : ∃ sent body, (ofEngine {} {}).encoder.encode (Json.nested n).toValue .any bareRequest
          = .ok sent
        ∧ sent.body = some body
        ∧ ∀ decoded, (ofEngine {} {}).decoder.decode (bareResponse body) .any ≠ .ok decoded := by
  have write : ({} : Engine).write (Json.nested n).toValue .any = .ok (Json.nested n) := by
    cases n with
    | zero => exact absurd deep (Nat.not_lt_zero _)
    | succ n =>
        have writes : Form.natural.Writes {} (Json.nested (n + 1)).toValue (Json.nested (n + 1)) :=
          Engine.writeShape_toValue {} _
        exact (Engine.writeNode_eq_ok_iff {} rfl .any [] _).mpr ⟨.natural, rfl, writes⟩
  have typed : Descriptor.any.isBytes = false := rfl
  have hdeep : Json.greatestDepth < (Json.nested n).depth := (Json.depth_nested n).symm ▸ deep
  refine ⟨_, _, encode_of_write write bareRequest, rfl, fun decoded h => ?_⟩
  obtain ⟨problem, hp, _⟩ :=
    (decode_of_carries (Json.distinct_nested n) (carries_bareResponse _) typed).2 hdeep
  rw [hp] at h
  cases h

/-- One level more than documents may have is encoded but not decoded. -/
theorem not_decode_nested
    : ({} : Engine).AdaptersInvert ∧ ({} : Engine).AdaptersDistinct
        ∧ (Json.nested 128).toValue.Distinct
        ∧ ({} : Engine).Conforms (Json.nested 128).toValue .any []
        ∧ ∃ sent body, (ofEngine {} {}).encoder.encode (Json.nested 128).toValue .any bareRequest
              = .ok sent
            ∧ sent.body = some body
            ∧ ∀ decoded,
                (ofEngine {} {}).decoder.decode (bareResponse body) .any ≠ .ok decoded := by
  have unregistered : ∀ name a, ({} : Engine).registry.lookup name ≠ some (.adapter a) :=
    fun _ _ h => by cases h
  refine ⟨?_, ?_, (Json.distinct_nested 128).toValue, ?_, exists_encode_nested (by decide)⟩
  · exact fun name a registered => absurd registered (unregistered name a)
  · exact fun name a registered => absurd registered (unregistered name a)
  · exact .natural rfl (Json.plain_toValue _)

end Codec

end TypedJson
