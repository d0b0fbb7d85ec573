import TypedJson.MediaType

/-!
Requests and responses as plain data. A request receives an encoded body; a response is what a
body is decoded from.
-/

namespace TypedJson.Http

/-- Names and values, in the order in which they are sent. -/
abbrev Headers := List (String × String)

/-- The two header names are the same but for the case of ASCII letters. -/
def sameName (a b : String) : Bool :=
  MediaType.sameWord a.toList b.toList

/-- The value of the first header with a name. -/
def header? (headers : Headers) (name : String) : Option String :=
  (headers.find? fun header => sameName header.1 name).map Prod.snd

/-- The media type of every encoded body. -/
def jsonMediaType : String := "application/json"

/-- A request. Its charset is known once a body has been encoded into it. -/
structure Request where
  method : String
  path : String
  headers : Headers := []
  body : Option (List UInt8) := none
  charset : Option Charset := none
  deriving DecidableEq, Repr

/-- The request with a body: the headers that declared a media type give way to one that declares
the body's. -/
def Request.setBody (body : List UInt8) (charset : Charset) (mediaType : String)
    (request : Request)
    : Request :=
  { request with
    headers :=
      (request.headers.filter fun header => !sameName header.1 "content-type")
        ++ [("content-type", mediaType)]
    body := some body
    charset := some charset }

/-- A response whose body has been read to its end. -/
structure Response where
  status : Nat
  headers : Headers := []
  body : Option (List UInt8) := none
  deriving DecidableEq, Repr

/-- The charset that the first `Content-Type` declares, and otherwise the given one. -/
def charsetOf (headers : Headers) (default : Charset) : Charset :=
  ((header? headers "content-type").bind Charset.ofContentType?).getD default

end TypedJson.Http
