import Switchboard.Text.Numeral

/-!
Status codes. Any number can be carried, zero (unset) and numbers outside the table included. The table
covers five ranges; a number inside a range without a registered meaning is reserved.
-/

namespace Switchboard.Http

/-- A status code. -/
structure Status where
  code : Nat
  deriving DecidableEq, Repr

namespace Status

/-- The ranges of the table, both ends included. -/
def ranges : List (Nat × Nat) := [(100, 102), (200, 226), (300, 308), (400, 451), (500, 511)]

/-- A status inside the table. -/
def isValid (s : Status) : Bool := ranges.any fun r => r.1 ≤ s.code && s.code ≤ r.2

/-- The registered meanings. -/
def registered? : Nat → Option String
  | 100 => some "Continue"
  | 101 => some "Switching Protocols"
  | 102 => some "Processing"
  | 200 => some "OK"
  | 201 => some "Created"
  | 202 => some "Accepted"
  | 203 => some "Non-Authoritative Information"
  | 204 => some "No Content"
  | 205 => some "Reset Content"
  | 206 => some "Partial Content"
  | 207 => some "Multi-Status"
  | 208 => some "Already Reported"
  | 226 => some "IM Used"
  | 300 => some "Multiple Choices"
  | 301 => some "Moved Permanently"
  | 302 => some "Found"
  | 303 => some "See Other"
  | 304 => some "Not Modified"
  | 305 => some "Use Proxy"
  | 307 => some "Temporary Redirect"
  | 308 => some "Permanent Redirect"
  | 400 => some "Bad Request"
  | 401 => some "Unauthorized"
  | 402 => some "Payment Required"
  | 403 => some "Forbidden"
  | 404 => some "Not Found"
  | 405 => some "Method Not Allowed"
  | 406 => some "Not Acceptable"
  | 407 => some "Proxy Authentication Required"
  | 408 => some "Request Timeout"
  | 409 => some "Conflict"
  | 410 => some "Gone"
  | 411 => some "Length Required"
  | 412 => some "Precondition Failed"
  | 413 => some "Payload Too Large"
  | 414 => some "URI Too Long"
  | 415 => some "Unsupported Media Type"
  | 416 => some "Range Not Satisfiable"
  | 417 => some "Expectation Failed"
  | 421 => some "Misdirected Request"
  | 422 => some "Unprocessable Entity"
  | 423 => some "Locked"
  | 424 => some "Failed Dependency"
  | 426 => some "Upgrade Required"
  | 428 => some "Precondition Required"
  | 429 => some "Too Many Requests"
  | 431 => some "Request Header Fields Too Large"
  | 449 => some "Retry With"
  | 451 => some "Unavailable For Legal Reasons"
  | 500 => some "Internal Server Error"
  | 501 => some "Not Implemented"
  | 502 => some "Bad Gateway"
  | 503 => some "Service Unavailable"
  | 504 => some "Gateway Timeout"
  | 505 => some "HTTP Version Not Supported"
  | 506 => some "Variant Also Negotiates"
  | 507 => some "Insufficient Storage"
  | 508 => some "Loop Detected"
  | 510 => some "Not Extended"
  | 511 => some "Network Authentication Required"
  | _ => none

/-- The phrase of the table: the registered meaning, or whether the number is reserved or unknown. -/
def phrase (s : Status) : String :=
  if s.isValid then (registered? s.code).getD "Reserved" else "Unknown"

/-- The number in three digits and the phrase. -/
def text (s : Status) : String := s!"{Text.decimal3 s.code} {s.phrase}"

/-- A number from `n` hundred up to the next hundred. -/
def inHundred (n : Nat) (s : Status) : Bool := s.code / 100 == n

/-- An interim status. -/
def isInformational : Status → Bool := inHundred 1

/-- A status of success. -/
def isSuccess : Status → Bool := inHundred 2

/-- A status that points elsewhere. -/
def isRedirection : Status → Bool := inHundred 3

/-- A status that blames the client. -/
def isClientError : Status → Bool := inHundred 4

/-- A status that blames the server. -/
def isServerError : Status → Bool := inHundred 5

/-- No status has been chosen. -/
def unset : Status := ⟨0⟩

/-- The interim answer to a client that waits before it sends a body. -/
def continue100 : Status := ⟨100⟩

/-- Success. -/
def ok : Status := ⟨200⟩

/-- The resource may not be read. -/
def forbidden : Status := ⟨403⟩

/-- No such resource. -/
def notFound : Status := ⟨404⟩

/-- The method is not served here. -/
def methodNotAllowed : Status := ⟨405⟩

/-- The service failed. -/
def internalServerError : Status := ⟨500⟩

/-- The route cannot be served. -/
def notImplemented : Status := ⟨501⟩

end Status

/-- The four ways in which an answer is completed. -/
inductive Status.Class where
  | success
  | redirection
  | clientError
  | serverError
  deriving DecidableEq, Repr

/-- The way in which an answer with this status is completed. A status outside the table, and a status of
the table outside the four ranges here, is completed as a success. -/
def Status.classify (s : Status) : Status.Class :=
  if s.isValid then
    if 300 ≤ s.code ∧ s.code ≤ 307 then .redirection
    else if 400 ≤ s.code ∧ s.code ≤ 449 then .clientError
    else if 500 ≤ s.code ∧ s.code ≤ 511 then .serverError
    else .success
  else .success

end Switchboard.Http
