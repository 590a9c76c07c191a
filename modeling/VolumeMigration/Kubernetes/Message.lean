import VolumeMigration.Failure
import VolumeMigration.Json.Decoder
import VolumeMigration.Json.Printer
import VolumeMigration.Json.Reader
import VolumeMigration.Uri

/-!
# Messages between a client and an API server

A client sends requests and gets responses. `HttpResponse.read` takes the object out of a response:
a status from 400 to 599 is a refusal, which the body describes if it can be read as a description
and otherwise the status itself (`HttpResponse.refusal`).
-/

namespace VolumeMigration

/-- What a request does with its target. -/
inductive HttpMethod where
  | get
  | post
  | delete
  deriving DecidableEq

/-- The method as a request line writes it. -/
def HttpMethod.name : HttpMethod → String
  | .get => "GET"
  | .post => "POST"
  | .delete => "DELETE"

/-- A request to an API server. -/
structure HttpRequest where
  method : HttpMethod
  target : Uri
  body : Option Json

/-- The response of an API server. -/
structure HttpResponse where
  status : Nat
  body : String
  deriving DecidableEq

/-! ## Refusals -/

/-- The standard phrase for a status that tells of a failure. -/
def statusPhrase? : Nat → Option String
  | 400 => some "Bad Request"
  | 401 => some "Unauthorized"
  | 402 => some "Payment Required"
  | 403 => some "Forbidden"
  | 404 => some "Not Found"
  | 405 => some "Method Not Allowed"
  | 406 => some "Not Acceptable"
  | 407 => some "Proxy Authentication Required"
  | 408 => some "Request Timeout"
  | 409 => some "Conflict"
  | 410 => some "Gone"
  | 411 => some "Length Required"
  | 412 => some "Precondition Failed"
  | 413 => some "Payload Too Large"
  | 414 => some "URI Too Long"
  | 415 => some "Unsupported Media Type"
  | 416 => some "Range Not Satisfiable"
  | 417 => some "Expectation Failed"
  | 418 => some "I'm a teapot"
  | 421 => some "Misdirected Request"
  | 422 => some "Unprocessable Entity"
  | 423 => some "Locked"
  | 424 => some "Failed Dependency"
  | 425 => some "Too Early"
  | 426 => some "Upgrade Required"
  | 428 => some "Precondition Required"
  | 429 => some "Too Many Requests"
  | 431 => some "Request Header Fields Too Large"
  | 451 => some "Unavailable For Legal Reasons"
  | 500 => some "Internal Server Error"
  | 501 => some "Not Implemented"
  | 502 => some "Bad Gateway"
  | 503 => some "Service Unavailable"
  | 504 => some "Gateway Timeout"
  | 505 => some "HTTP Version Not Supported"
  | 506 => some "Variant Also Negotiates"
  | 507 => some "Insufficient Storage"
  | 508 => some "Loop Detected"
  | 510 => some "Not Extended"
  | 511 => some "Network Authentication Required"
  | _ => none

/-- The status as messages show it, with the phrase that belongs to it. -/
def statusText (status : Nat) : String :=
  toString status ++ " " ++ (statusPhrase? status).getD "<unknown status code>"

namespace Refusal

/-- Reads the description of a refusal. Status and code must be given; message and reason are empty
if they are not. -/
def decode : Json.Decoder Refusal :=
  Json.Decoder.record ["status", "message", "reason", "code"] fun json => do
    return {
      status := ← Json.Decoder.required "status" Json.Decoder.text json
      message := ← Json.Decoder.ifGiven "message" "" Json.Decoder.text json
      reason := ← Json.Decoder.ifGiven "reason" "" Json.Decoder.text json
      code := ← Json.Decoder.required "code" Json.Decoder.nat16 json }

/-- The refusal that a status tells of when nothing else describes it. -/
def ofStatus (status : Nat) (body : String) : Refusal :=
  { status := statusText status
    message := Text.quoted body
    reason := "Failed to parse error data"
    code := status }

/-- Whether an object was refused because it does not exist, as reads see it. -/
def isMissing (refusal : Refusal) : Bool :=
  refusal.reason == "NotFound"

end Refusal

namespace HttpResponse

/-- The refusal that a response tells of. -/
def refusal (response : HttpResponse) : Refusal :=
  ((Json.read? response.body).bind Refusal.decode).getD
    (.ofStatus response.status response.body)

/-- Whether a response says that the request failed. -/
def isRefusal (response : HttpResponse) : Bool :=
  400 ≤ response.status && response.status < 600

/-- Takes the object out of a response. -/
def read {α : Type} (decode : Json.Decoder α) (response : HttpResponse) : Except ApiFault α :=
  if response.isRefusal then .error (.refused response.refusal)
  else
    match (Json.read? response.body).bind decode with
    | some value => .ok value
    | none => .error .unreadableAnswer

end HttpResponse

end VolumeMigration
