import TypedJson.Charset.Decode
import TypedJson.Config
import TypedJson.Engine.Extension
import TypedJson.Engine.Write
import TypedJson.Http
import TypedJson.Json.Printer
import TypedJson.Typed.Record
import TypedJson.Typed.Writer

/-!
Codecs: an encoder writes values into requests, a decoder reads values from responses. A response
may carry no payload at all, which is not an error; only a payload is decoded, and only one that
is not wanted as bytes is read as a document.
-/

namespace TypedJson

/-- Why a value could not be encoded. -/
inductive EncodeError where
  | shape (e : WriteError)
  | document (fault : Json.Fault)
  deriving DecidableEq, Repr

/-- The text of an encoding error. -/
def EncodeError.message : EncodeError → String
  | .shape e => e.message
  | .document fault => "failed to write JSON: " ++ fault.message

/-- Why a response could not be decoded. -/
inductive DecodeError where
  | shape (e : ReadError)
  | document (problem : Json.Problem)
  deriving DecidableEq, Repr

/-- The text of a decoding error. -/
def DecodeError.message : DecodeError → String
  | .shape e => e.message
  | .document problem => "could not parse response body: " ++ problem.message

namespace Engine

/-- Reads a text as a type. -/
def readText (engine : Engine) (text : List Char) (type : Descriptor)
    : Except DecodeError Value := do
  let json ← (Json.ofText text).mapError .document
  (engine.read json type).mapError .shape

/-- Writes a value as a type into the bytes of a document. -/
def writeBytes (engine : Engine) (value : Value) (type : Descriptor)
    : Except WriteError (List UInt8) := do
  let json ← engine.write value type
  .ok (Text.Utf8.encode (json.text engine.pretty).toList)

end Engine

/-- What a response decodes to. -/
inductive Decoded where
  | bytes (body : List UInt8)
  | value (v : Value)
  | absent
  deriving Repr

namespace Decoded

/-- What a response without payload decodes to. -/
def empty (type : Descriptor) : Decoded :=
  if type.isBytes then .bytes [] else .absent

/-- What is decoded, with the empty value of a type in the place of an absent one. -/
def orEmpty (type : Descriptor) : Decoded → Decoded
  | .absent =>
      match type with
      | .bytes => .bytes []
      | .list _ => .value (.array [])
      | .map _ _ => .value (.map [])
      | _ => .value .null
  | decoded => decoded

/-- The decoded value, if it is one. -/
def value? : Decoded → Option Value
  | .value v => some v
  | _ => none

end Decoded

/-- Writes values into requests. -/
structure Encoder where
  engine : Engine

namespace Encoder

/-- Puts a value, written as a type, into a request. -/
def encode (encoder : Encoder) (value : Value) (type : Descriptor) (request : Http.Request)
    : Except EncodeError Http.Request := do
  let body ← (encoder.engine.writeBytes value type).mapError .shape
  .ok (request.setBody body .utf8 Http.jsonMediaType)

/-- Puts what a statically typed value writes into a request. -/
def encodeTyped (encoder : Encoder) (document : Except Json.Fault Json) (request : Http.Request)
    : Except EncodeError Http.Request := do
  let json ← document.mapError .document
  let body := Text.Utf8.encode (json.text encoder.engine.pretty).toList
  .ok (request.setBody body .utf8 Http.jsonMediaType)

end Encoder

/-- Reads values from responses. -/
structure Decoder where
  engine : Engine
  dismissNotFound : Bool
  defaultCharset : Charset
  multiByte : Charset.MultiByte := .ascii

namespace Decoder

/-- The decoder over an engine, with the settings of a configuration that are not the engine's. -/
def ofEngine (config : Config) (engine : Engine) (multiByte : Charset.MultiByte := .ascii)
    : Decoder :=
  ⟨engine, config.dismissNotFound, config.charset, multiByte⟩

/-- The body, unless the status or the body itself says that there is no payload. -/
def payload? (decoder : Decoder) (response : Http.Response) : Option (List UInt8) :=
  if response.status = 204 || (response.status = 404 && decoder.dismissNotFound) then none
  else response.body.filter fun body => !body.isEmpty

/-- The text of a payload, in the charset that the headers declare. -/
def text (decoder : Decoder) (headers : Http.Headers) (payload : List UInt8) : List Char :=
  (Http.charsetOf headers decoder.defaultCharset).decode payload decoder.multiByte

/-- Decodes a response as a type. -/
def decode (decoder : Decoder) (response : Http.Response) (type : Descriptor)
    : Except DecodeError Decoded :=
  match decoder.payload? response with
  | none => .ok (.empty type)
  | some payload =>
      if type.isBytes then .ok (.bytes payload)
      else (decoder.engine.readText (decoder.text response.headers payload) type).map .value

/-- Decodes a response by a reader of its own; a response without payload gives nothing. -/
def decodeTyped {α : Type} (decoder : Decoder) (reader : Typed.TextReader α)
    (response : Http.Response)
    : Except DecodeError (Option α) :=
  match decoder.payload? response with
  | none => .ok none
  | some payload =>
      match Typed.ofText reader (decoder.text response.headers payload) with
      | .ok value => .ok (some value)
      | .error problem => .error (.document problem)

end Decoder

/-- An encoder and a decoder. -/
structure Codec where
  encoder : Encoder
  decoder : Decoder

namespace Codec

/-- The codec over an engine. -/
def ofEngine (config : Config) (engine : Engine) (multiByte : Charset.MultiByte := .ascii)
    : Codec :=
  ⟨⟨engine⟩, .ofEngine config engine multiByte⟩

/-- The codec of a configuration. An engine that is given is used as it is; otherwise one is made
with the extensions. -/
def build (config : Config) (extensions : List Extension) (engine : Option Engine)
    (multiByte : Charset.MultiByte := .ascii)
    : Codec :=
  .ofEngine config (engine.getD (.ofConfig config extensions)) multiByte

end Codec

end TypedJson
