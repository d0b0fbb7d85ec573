import TypedJson.Text.Digits
import TypedJson.Text.Utf8

/-!
What a request is about. A request's target is cut at its query; the rest is a path of segments,
in which an identifier may be percent-encoded.
-/

namespace TypedJson.Zones

/-- The bytes that percent-encoded text stands for. A percent sign without two hexadecimal digits
stands for itself. -/
def percentDecode : List Char → List UInt8
  | [] => []
  | '%' :: high :: low :: rest =>
      match Text.hexValue? high, Text.hexValue? low with
      | some h, some l => UInt8.ofNat (h * 16 + l) :: percentDecode rest
      | _, _ => String.utf8EncodeChar '%' ++ percentDecode (high :: low :: rest)
  | c :: rest => String.utf8EncodeChar c ++ percentDecode rest

/-- The path of a request target: what stands before the query and the fragment. -/
def pathOf (target : String) : List Char :=
  target.toList.takeWhile fun c => c != '?' && c != '#'

/-- What a path leads to. A zone is named by one segment that is not empty. -/
inductive Route where
  | zones
  | zone (segment : List Char)
  | latin1Zone
  | dates
  | echo
  | unknown
  deriving DecidableEq, Repr

/-- What a path leads to. -/
def Route.ofPath (path : List Char) : Route :=
  let zonePrefix := "/zones/".toList
  if path = "/zones".toList then .zones
  else if path = "/latin1/zone".toList then .latin1Zone
  else if path = "/dates".toList then .dates
  else if path = "/echo".toList then .echo
  else
    let segment := path.drop zonePrefix.length
    if path.take zonePrefix.length = zonePrefix && !segment.isEmpty && !segment.contains '/' then
      .zone segment
    else .unknown

/-- The methods that a route answers to, as they are listed when another one is used. -/
def Route.methods : Route → List String
  | .zones => ["GET", "HEAD", "POST"]
  | .zone _ => ["GET", "HEAD", "DELETE"]
  | .latin1Zone | .dates => ["GET", "HEAD"]
  | .echo => ["POST"]
  | .unknown => []

end TypedJson.Zones
