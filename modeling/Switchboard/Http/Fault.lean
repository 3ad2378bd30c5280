import Switchboard.Http.Chunk.Phase
import Switchboard.Text.Quoted
import Switchboard.Text.Numeral

/-!
What can go wrong while a message is exchanged. A fault is a cause; its family, its wording and the status
that answers it are functions of the cause. Faults of the transport end a connection without an answer. A sum that is
not a machine word ends the program. All others are the other side's doing and are answered.
-/

namespace Switchboard

/-- The kinds of failure shared by messages, routes and files. -/
inductive Category where
  | clientData
  | internal
  | notFound
  | unsupported
  | serviceError
  | noSuchLibrary
  | noAccess
  | existed
  deriving DecidableEq, Repr

/-- The name of a category. -/
def Category.label : Category → String
  | clientData => "ClientData"
  | internal => "Internal"
  | notFound => "NotFound"
  | unsupported => "Unsupported"
  | serviceError => "ServiceError"
  | noSuchLibrary => "NoSuchLibrary"
  | noAccess => "NoAccess"
  | existed => "Existed"

namespace Http

/-- A cause of failure while a message is exchanged. -/
inductive Fault where
  /-- The transport reported a failure. -/
  | transport (detail : String)
  /-- The transport was not ready for too many polls. -/
  | timeout
  /-- The other side has closed. -/
  | closed
  /-- A request line without three parts. -/
  | requestLine (line : String)
  /-- A request target with a character that is not graphic ASCII. -/
  | requestTarget (target : String)
  /-- A status that is not a number of three bytes. -/
  | statusCode (text : String)
  /-- A head without a first line. -/
  | missingStartLine
  /-- A declared length that is no number. -/
  | contentLength (value : String)
  /-- An unknown protocol version. -/
  | version (token : String)
  /-- An unknown method. -/
  | method (token : String)
  /-- A field line that continues the line before. -/
  | foldedField (line : String)
  /-- A field line without a colon. -/
  | fieldWithoutColon (line : String)
  /-- A field line that starts with its colon. -/
  | emptyFieldName
  /-- A field name that is no token. -/
  | fieldName (name : String)
  /-- A control character in the value of a field. -/
  | fieldControl (name : String)
  /-- A transfer coding other than chunked. -/
  | transferCoding
  /-- A byte that the chunked coding does not allow where it stands. -/
  | chunkByte (byte : UInt8) (phase : Chunk.Phase)
  /-- A chunk size beyond the machine word. -/
  | chunkSizeOverflow
  /-- A chunked body that ends too early. -/
  | chunkTruncated
  /-- A request target over its limit. -/
  | urlTooLong (limit : Nat)
  /-- A header section or trailer section over its limit. -/
  | headerTooLarge (limit : Nat)
  /-- A body over its limit. -/
  | bodyTooLarge (limit : Nat)
  /-- A sum of machine words that is not a machine word. The program does not go on after it. -/
  | overflow
  deriving DecidableEq, Repr

namespace Fault

/-- The families that faults are reported under. -/
inductive Family where
  | io
  | parse
  | invalidVersion
  | invalidMethod
  | invalidHeader
  | invalidChunk
  | urlTooLong
  | headerTooLarge
  | bodyTooLarge
  | timeout
  | connectionClosed
  | overflow
  deriving DecidableEq, Repr

/-- The name of a family. -/
def Family.label : Family → String
  | io => "Io"
  | parse => "Parse"
  | invalidVersion => "InvalidVersion"
  | invalidMethod => "InvalidMethod"
  | invalidHeader => "InvalidHeader"
  | invalidChunk => "InvalidChunk"
  | urlTooLong => "UrlTooLong"
  | headerTooLarge => "HeaderTooLarge"
  | bodyTooLarge => "BodyTooLarge"
  | timeout => "Timeout"
  | connectionClosed => "ConnectionClosed"
  | overflow => "Overflow"

/-- The family of a fault. -/
def family : Fault → Family
  | transport _ => .io
  | timeout => .timeout
  | closed => .connectionClosed
  | requestLine _ | requestTarget _ | statusCode _ | missingStartLine | contentLength _ => .parse
  | version _ => .invalidVersion
  | method _ => .invalidMethod
  | foldedField _ | fieldWithoutColon _ | emptyFieldName | fieldName _ | fieldControl _
  | transferCoding => .invalidHeader
  | chunkByte .. | chunkSizeOverflow | chunkTruncated => .invalidChunk
  | urlTooLong _ => .urlTooLong
  | headerTooLarge _ => .headerTooLarge
  | bodyTooLarge _ => .bodyTooLarge
  | overflow => .overflow

/-- The wording of a fault. -/
def message : Fault → String
  | transport detail => s!"I/O error: {detail}"
  | timeout => "Timeout"
  | closed => "Connection closed"
  | requestLine line => s!"Parse error: Invalid request line: {Text.quoted line}"
  | requestTarget target => s!"Parse error: Invalid request target: {Text.quoted target}"
  | statusCode text => s!"Parse error: Invalid status code: {text}"
  | missingStartLine => "Parse error: Missing start line"
  | contentLength value => s!"Parse error: Invalid Content-Length: {value}"
  | version token => s!"Invalid HTTP version: {token}"
  | method token => s!"Invalid HTTP method: {token}"
  | foldedField line => s!"Invalid header: Obsolete line folding: {line}"
  | fieldWithoutColon line => s!"Invalid header: No colon in header: {line}"
  | emptyFieldName => "Invalid header: Empty header name"
  | fieldName name => s!"Invalid header: Invalid header name: {Text.quoted name}"
  | fieldControl name => s!"Invalid header: Control character in {name}"
  | transferCoding => "Invalid header: Unsupported Transfer-Encoding"
  | chunkByte byte phase =>
    s!"Invalid chunk: unexpected byte {Text.hexByte byte} in {phase.label}"
  | chunkSizeOverflow => "Invalid chunk: chunk size overflow"
  | chunkTruncated => "Invalid chunk: truncated chunked body"
  | urlTooLong limit => s!"Request URL exceeds {Text.decimal limit} bytes"
  | headerTooLarge limit => s!"Request header exceeds {Text.decimal limit} bytes"
  | bodyTooLarge limit => s!"Message body exceeds {Text.decimal limit} bytes"
  | overflow => "attempt to add with overflow"

/-- A fault of the transport itself, after which nothing more is said to the other side. -/
def isTransport (f : Fault) : Bool :=
  match f.family with
  | .io | .timeout | .connectionClosed => true
  | _ => false

/-- A fault after which the program does not go on. -/
def isCrash (f : Fault) : Bool := f.family == .overflow

theorem isTransport_of_isCrash {f : Fault} (h : f.isCrash = true) : f.isTransport = false := by
  unfold isTransport
  rw [show f.family = .overflow from beq_iff_eq.1 h]

/-- The category of a fault. -/
def category (f : Fault) : Category := if f.isTransport || f.isCrash then .internal else .clientData

/-- What the other side has done is neither the transport's doing nor an overflow. -/
theorem category_eq_clientData_iff {f : Fault} :
    f.category = .clientData ↔ f.isTransport = false ∧ f.isCrash = false := by
  unfold category
  cases f.isTransport <;> cases f.isCrash <;> simp

/-- The status code that answers a fault, if it is answered. -/
def statusCodeOf (f : Fault) : Nat :=
  match f.family with
  | .urlTooLong => 414
  | .headerTooLarge => 431
  | .bodyTooLarge => 413
  | .invalidVersion => 505
  | .io | .timeout | .connectionClosed | .overflow => 500
  | _ => 400

end Fault
end Http
end Switchboard
