/-!
Response statuses. A status is a number from 100 to 999, of which some have a reason phrase.
-/

namespace HttpDispatch

structure Status where
  code : Nat
  inRange : 100 ≤ code ∧ code ≤ 999 := by decide
  deriving DecidableEq

namespace Status

def ok : Status := ⟨200, by decide⟩
def noContent : Status := ⟨204, by decide⟩
def badRequest : Status := ⟨400, by decide⟩
def notFound : Status := ⟨404, by decide⟩
def methodNotAllowed : Status := ⟨405, by decide⟩
def internal : Status := ⟨500, by decide⟩

def ofCode? (code : Nat) : Option Status :=
  if inRange : 100 ≤ code ∧ code ≤ 999 then some ⟨code, inRange⟩ else none

def isInformational (status : Status) : Bool := status.code < 200

def isSuccess (status : Status) : Bool := 200 ≤ status.code && status.code < 300

def isServerError (status : Status) : Bool := 500 ≤ status.code && status.code < 600

/-- Whether the status reports an error of either side. -/
def isError (status : Status) : Bool := 400 ≤ status.code && status.code < 600

/-- The status itself if it reports an error, and an internal error otherwise. -/
def clampToError (status : Status) : Status := if status.isError then status else internal

theorem isError_iff {status : Status} :
    status.isError = true ↔ 400 ≤ status.code ∧ status.code ≤ 599 := by
  rw [isError, Bool.and_eq_true, decide_eq_true_eq, decide_eq_true_eq, Nat.lt_succ_iff]

theorem isError_clampToError (status : Status) : status.clampToError.isError = true := by
  unfold clampToError
  split
  · assumption
  · decide

def reasonOf : Nat → Option String
  | 100 => some "Continue"
  | 101 => some "Switching Protocols"
  | 102 => some "Processing"
  | 103 => some "Early Hints"
  | 200 => some "OK"
  | 201 => some "Created"
  | 202 => some "Accepted"
  | 203 => some "Non Authoritative Information"
  | 204 => some "No Content"
  | 205 => some "Reset Content"
  | 206 => some "Partial Content"
  | 207 => some "Multi-Status"
  | 208 => some "Already Reported"
  | 226 => some "IM Used"
  | 300 => some "Multiple Choices"
  | 301 => some "Moved Permanently"
  | 302 => some "Found"
  | 303 => some "See Other"
  | 304 => some "Not Modified"
  | 305 => some "Use Proxy"
  | 307 => some "Temporary Redirect"
  | 308 => some "Permanent Redirect"
  | 400 => some "Bad Request"
  | 401 => some "Unauthorized"
  | 402 => some "Payment Required"
  | 403 => some "Forbidden"
  | 404 => some "Not Found"
  | 405 => some "Method Not Allowed"
  | 406 => some "Not Acceptable"
  | 407 => some "Proxy Authentication Required"
  | 408 => some "Request Timeout"
  | 409 => some "Conflict"
  | 410 => some "Gone"
  | 411 => some "Length Required"
  | 412 => some "Precondition Failed"
  | 413 => some "Payload Too Large"
  | 414 => some "URI Too Long"
  | 415 => some "Unsupported Media Type"
  | 416 => some "Range Not Satisfiable"
  | 417 => some "Expectation Failed"
  | 418 => some "I'm a teapot"
  | 421 => some "Misdirected Request"
  | 422 => some "Unprocessable Entity"
  | 423 => some "Locked"
  | 424 => some "Failed Dependency"
  | 425 => some "Too Early"
  | 426 => some "Upgrade Required"
  | 428 => some "Precondition Required"
  | 429 => some "Too Many Requests"
  | 431 => some "Request Header Fields Too Large"
  | 451 => some "Unavailable For Legal Reasons"
  | 500 => some "Internal Server Error"
  | 501 => some "Not Implemented"
  | 502 => some "Bad Gateway"
  | 503 => some "Service Unavailable"
  | 504 => some "Gateway Timeout"
  | 505 => some "HTTP Version Not Supported"
  | 506 => some "Variant Also Negotiates"
  | 507 => some "Insufficient Storage"
  | 508 => some "Loop Detected"
  | 510 => some "Not Extended"
  | 511 => some "Network Authentication Required"
  | _ => none

def reason? (status : Status) : Option String := reasonOf status.code

/-- A status as it is shown in messages: the number and the reason phrase. -/
def display (status : Status) : String :=
  toString status.code ++ " " ++ status.reason?.getD "<unknown status code>"

end Status

end HttpDispatch
