import Herald.Url.Reader
import Herald.Json.Basic
/-!
As much of the web's requests and answers as posting a document needs: which headers can be sent,
and what the status of an answer is called.
-/

set_option autoImplicit false

namespace Herald.Http

def isNameChar (c : Char) : Bool :=
  c.isAlphanum || ['!', '#', '$', '%', '&', '\'', '*', '+', '-', '.', '^', '_', '\x60',
    '|', '~'].contains c

def headerName? (s : String) : Option String :=
  let cs := s.toList
  if cs ≠ [] && cs.all isNameChar then some (String.ofList (cs.map Char.toLower)) else none

/-- No controls but the tab. -/
def isHeaderValue (s : String) : Bool :=
  s.toList.all fun c => c = '\t' || (0x20 ≤ c.toNat && c.toNat ≠ 0x7f)

/-- The headers that can be sent, each under its name; a later one replaces one of the same name. -/
def headers (l : List (String × String)) : Dict String :=
  .ofList (l.filterMap fun h =>
    match headerName? h.1 with
    | some name => if isHeaderValue h.2 then some (name, h.2) else none
    | none => none)

structure Request where
  url : Url
  headers : Dict String
  body : Json

structure Response where
  status : Nat
  deriving DecidableEq, Repr

namespace Response

def isSuccess (r : Response) : Bool := r.status / 100 = 2

/-- Another attempt may do better: the fault is the server's, or a matter of time. -/
def isTemporary (r : Response) : Bool := r.status / 100 = 5 || r.status = 408 || r.status = 429

def reason? (status : Nat) : Option String :=
  match status with
  | 100 => "Continue"
  | 101 => "Switching Protocols"
  | 102 => "Processing"
  | 200 => "OK"
  | 201 => "Created"
  | 202 => "Accepted"
  | 203 => "Non Authoritative Information"
  | 204 => "No Content"
  | 205 => "Reset Content"
  | 206 => "Partial Content"
  | 207 => "Multi-Status"
  | 208 => "Already Reported"
  | 226 => "IM Used"
  | 300 => "Multiple Choices"
  | 301 => "Moved Permanently"
  | 302 => "Found"
  | 303 => "See Other"
  | 304 => "Not Modified"
  | 305 => "Use Proxy"
  | 307 => "Temporary Redirect"
  | 308 => "Permanent Redirect"
  | 400 => "Bad Request"
  | 401 => "Unauthorized"
  | 402 => "Payment Required"
  | 403 => "Forbidden"
  | 404 => "Not Found"
  | 405 => "Method Not Allowed"
  | 406 => "Not Acceptable"
  | 407 => "Proxy Authentication Required"
  | 408 => "Request Timeout"
  | 409 => "Conflict"
  | 410 => "Gone"
  | 411 => "Length Required"
  | 412 => "Precondition Failed"
  | 413 => "Payload Too Large"
  | 414 => "URI Too Long"
  | 415 => "Unsupported Media Type"
  | 416 => "Range Not Satisfiable"
  | 417 => "Expectation Failed"
  | 418 => "I'm a teapot"
  | 421 => "Misdirected Request"
  | 422 => "Unprocessable Entity"
  | 423 => "Locked"
  | 424 => "Failed Dependency"
  | 425 => "Too Early"
  | 426 => "Upgrade Required"
  | 428 => "Precondition Required"
  | 429 => "Too Many Requests"
  | 431 => "Request Header Fields Too Large"
  | 451 => "Unavailable For Legal Reasons"
  | 500 => "Internal Server Error"
  | 501 => "Not Implemented"
  | 502 => "Bad Gateway"
  | 503 => "Service Unavailable"
  | 504 => "Gateway Timeout"
  | 505 => "HTTP Version Not Supported"
  | 506 => "Variant Also Negotiates"
  | 507 => "Insufficient Storage"
  | 508 => "Loop Detected"
  | 510 => "Not Extended"
  | 511 => "Network Authentication Required"
  | _ => none

/-- The number and the standard phrase, whatever the server called it. -/
def statusText (r : Response) : String :=
  String.ofList (Nat.toDigits 10 r.status) ++ " " ++ (reason? r.status).getD "<unknown status code>"

end Response

abbrev Transport (σ : Type) := Request → σ → Option Response × σ

def Transport.unreachable {σ : Type} : Transport σ := fun _ s => (none, s)

def maxAddress : Nat := 65534

/-- Characters that an address may have in its host, and a request may not. -/
def isUnsendable (c : Char) : Bool := ['"', '\x60', '\x7b', '\x7d'].contains c

def isSendable (u : Url) : Bool := u.write.length ≤ maxAddress && !u.host.write.any isUnsendable

end Herald.Http
