import Upkeep.Http.Url
import Upkeep.Json.Printer
import Upkeep.Text.Blank
/-!
Requests and responses.
-/

namespace Upkeep.Http

inductive Method
  | get
  | post
  | patch
  | delete
deriving DecidableEq, Repr

def Method.text : Method → String
  | .get => "GET"
  | .post => "POST"
  | .patch => "PATCH"
  | .delete => "DELETE"

/-- A request; a body is given as the value whose JSON text is sent. -/
structure Request where
  method : Method
  url : Url
  /-- Lower-case names with their values. -/
  headers : List (String × String)
  body : Option Value := none

/-- A response with the text of its body. -/
structure Response where
  status : Nat
  /-- Lower-case names with their values. -/
  headers : List (String × String) := []
  body : String := ""

/-- The statuses that report success. -/
def Response.isSuccess (r : Response) : Bool := 200 ≤ r.status && r.status < 300

/-- The number in a header: an unsigned 64-bit number with blanks around it. A header that is
absent or holds anything else, characters beyond ASCII included, counts as absent. -/
def headerNumber? (headers : List (String × String)) (name : String) : Option Nat :=
  match headers.lookup name with
  | none => none
  | some v =>
    if v.toList.all fun c => c.toNat < 0x7F && (0x20 ≤ c.toNat || c == '\t') then
      readNat64? (trimChars v.toList)
    else none

/-- A text that may be the value of a header: it has no control character but the tab. -/
def isHeaderValue (s : String) : Bool :=
  s.toList.all fun c => (0x20 ≤ c.toNat && c.toNat != 0x7F) || c == '\t'

/-- The phrase that goes with a status. -/
def reasonPhrase? : Nat → Option String
  | 100 => "Continue"
  | 101 => "Switching Protocols"
  | 102 => "Processing"
  | 103 => "Early Hints"
  | 200 => "OK"
  | 201 => "Created"
  | 202 => "Accepted"
  | 203 => "Non Authoritative Information"
  | 204 => "No Content"
  | 205 => "Reset Content"
  | 206 => "Partial Content"
  | 207 => "Multi-Status"
  | 208 => "Already Reported"
  | 226 => "IM Used"
  | 300 => "Multiple Choices"
  | 301 => "Moved Permanently"
  | 302 => "Found"
  | 303 => "See Other"
  | 304 => "Not Modified"
  | 305 => "Use Proxy"
  | 307 => "Temporary Redirect"
  | 308 => "Permanent Redirect"
  | 400 => "Bad Request"
  | 401 => "Unauthorized"
  | 402 => "Payment Required"
  | 403 => "Forbidden"
  | 404 => "Not Found"
  | 405 => "Method Not Allowed"
  | 406 => "Not Acceptable"
  | 407 => "Proxy Authentication Required"
  | 408 => "Request Timeout"
  | 409 => "Conflict"
  | 410 => "Gone"
  | 411 => "Length Required"
  | 412 => "Precondition Failed"
  | 413 => "Payload Too Large"
  | 414 => "URI Too Long"
  | 415 => "Unsupported Media Type"
  | 416 => "Range Not Satisfiable"
  | 417 => "Expectation Failed"
  | 418 => "I'm a teapot"
  | 421 => "Misdirected Request"
  | 422 => "Unprocessable Entity"
  | 423 => "Locked"
  | 424 => "Failed Dependency"
  | 425 => "Too Early"
  | 426 => "Upgrade Required"
  | 428 => "Precondition Required"
  | 429 => "Too Many Requests"
  | 431 => "Request Header Fields Too Large"
  | 451 => "Unavailable For Legal Reasons"
  | 500 => "Internal Server Error"
  | 501 => "Not Implemented"
  | 502 => "Bad Gateway"
  | 503 => "Service Unavailable"
  | 504 => "Gateway Timeout"
  | 505 => "HTTP Version Not Supported"
  | 506 => "Variant Also Negotiates"
  | 507 => "Insufficient Storage"
  | 508 => "Loop Detected"
  | 510 => "Not Extended"
  | 511 => "Network Authentication Required"
  | _ => none

/-- The phrase that goes with a status, whatever the status. -/
def reasonPhrase (status : Nat) : String := (reasonPhrase? status).getD "unknown error"

end Upkeep.Http
