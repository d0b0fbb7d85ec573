import TypedJson.Http
import TypedJson.Json.Printer
import TypedJson.Zones.Route
import TypedJson.Zones.Store

/-!
The zone server: it keeps zones, and serves some canned documents to try a codec on. A request
is answered from the store alone, and gives the store for the next request.
-/

namespace TypedJson.Zones

/-- A request to the server. -/
structure Request where
  method : String
  target : String
  headers : Http.Headers := []
  body : List UInt8 := []
  deriving DecidableEq, Repr

/-- An answer of the server. -/
structure Answer where
  status : Nat
  contentType : Option String := none
  allow : Option String := none
  body : List UInt8 := []
  deriving DecidableEq, Repr

namespace Answer

/-- An answer without a body. -/
def ofStatus (status : Nat) : Answer :=
  { status }

/-- An answer in plain text. -/
def plain (status : Nat) (text : String) : Answer :=
  { status, contentType := some "text/plain; charset=utf-8", body := Text.Utf8.encode text.toList }

/-- An answer with a document. -/
def document (status : Nat) (json : Json) : Answer :=
  { status
    contentType := some "application/json"
    body := Text.Utf8.encode (json.text false).toList }

end Answer

/-- The most bytes that a body may have. -/
def greatestBody : Nat := 2 * 1024 * 1024

/-- The answer to a body that has too many bytes. -/
def tooLarge : Answer :=
  .plain 413 "Failed to buffer the request body: length limit exceeded"

/-- The headers declare a JSON document, in a value of visible characters. -/
def declaresJson (headers : Http.Headers) : Bool :=
  match Http.header? headers "content-type" with
  | none => false
  | some value =>
      value.toList.all (fun c => (32 ≤ c.toNat && c.toNat < 127) || c == '\t')
        && (MediaType.ofText? value.toList).any MediaType.isJson

/-- The steps to the part of a document that could not be read, before a message about it. A name
that comes first has no mark before it. -/
def pathText : List Json.Step → String
  | [] => ""
  | .index i :: rest => String.join ((Json.Step.index i :: rest).map Json.Step.text) ++ ": "
  | .key name :: rest => name ++ String.join (rest.map Json.Step.text) ++ ": "

/-- The answer to a body that is no zone. -/
def refuse (failure : Json.Failure) : Answer :=
  let text := pathText failure.path ++ failure.problem.message
  match failure.problem.cause with
  | .fault _ => .plain 400 ("Failed to parse the request body as JSON: " ++ text)
  | .rejection _ =>
      .plain 422 ("Failed to deserialize the JSON body into the target type: " ++ text)

/-- The zone of a body. -/
def zoneOfBody (body : List UInt8) : Except Json.Failure Zone :=
  Json.Reader.document (Zone.layout.read Json.greatestDepth) (Text.Utf8.symbols body)

/-- Keeps the zone of a request's body. -/
def createZone (identifiers : Nat → String) (request : Request) (store : Store)
    : Answer × Store :=
  if !declaresJson request.headers then
    (.plain 415 "Expected request with `Content-Type: application/json`", store)
  else if greatestBody < request.body.length then (tooLarge, store)
  else
    match zoneOfBody request.body with
    | .error failure => (refuse failure, store)
    | .ok zone =>
        let (zone, store) := store.create identifiers zone
        (.document 201 zone.toJson, store)

/-- Does something with the identifier that a segment stands for. -/
def withIdentifier (segment : List Char) (store : Store) (act : String → Answer × Store)
    : Answer × Store :=
  match Text.Utf8.decode? (percentDecode segment) with
  | none => (.plain 400 "Invalid URL: Invalid UTF-8 in `id`", store)
  | some id => act (String.ofList id)

/-- The zone with an identifier. -/
def getZone (id : String) (store : Store) : Answer :=
  match store.find? id with
  | some zone => .document 200 zone.toJson
  | none => .ofStatus 404

/-- Deletes the zones with an identifier. -/
def deleteZone (id : String) (store : Store) : Answer × Store :=
  match store.delete? id with
  | some store => (.ofStatus 204, store)
  | none => (.ofStatus 404, store)

/-- A document in ISO-8859-1. -/
def latin1Zone : Answer :=
  let text :=
    "\x7b\n  \"name\" : \"DENOMINATOR.IO.\",\n  \"id\" : \"ÁÉÍÓÚÀÈÌÒÙÄËÏÖÜÑ\"\n\x7d"
  { status := 200
    contentType := some "application/json;charset=ISO-8859-1"
    body := text.toList.map fun c => UInt8.ofNat c.toNat }

/-- A document of two dates. -/
def dates : Answer :=
  { status := 200
    contentType := some "application/json"
    body := Text.Utf8.encode "[\"2020-01-02\",\"2021-02-03\"]".toList }

/-- The body of a request, under the media type that the request declares. -/
def echo (request : Request) : Answer :=
  if greatestBody < request.body.length then tooLarge
  else
    { status := 200
      contentType :=
        some ((Http.header? request.headers "content-type").getD "application/octet-stream")
      body := request.body }

/-- The answer to a method that a route does not answer to. -/
def wrongMethod (route : Route) : Answer :=
  { status := 405, allow := some (String.intercalate "," route.methods) }

/-- Answers a request whose method is not `HEAD`. -/
def respond (identifiers : Nat → String) (method : String) (request : Request) (store : Store)
    : Answer × Store :=
  let route := Route.ofPath (pathOf request.target)
  match route, method with
  | .unknown, _ => (.ofStatus 404, store)
  | .zones, "GET" => (.document 200 (.array (store.zones.map Zone.toJson)), store)
  | .zones, "POST" => createZone identifiers request store
  | .zone segment, "GET" => withIdentifier segment store fun id => (getZone id store, store)
  | .zone segment, "DELETE" => withIdentifier segment store fun id => deleteZone id store
  | .latin1Zone, "GET" => (latin1Zone, store)
  | .dates, "GET" => (dates, store)
  | .echo, "POST" => (echo request, store)
  | _, _ => (wrongMethod route, store)

/-- Answers a request. What would answer `GET` answers `HEAD`, without the body. -/
def serve (identifiers : Nat → String) (request : Request) (store : Store) : Answer × Store :=
  if request.method = "HEAD" then
    let (answer, store) := respond identifiers "GET" request store
    ({ answer with body := [] }, store)
  else respond identifiers request.method request store

end TypedJson.Zones
