import LabGrader.Duration
import LabGrader.Text.Basic

/-!
# Errors of the judge

What can go wrong when the judge is asked, the message about it, and whether asking again may help.
-/

namespace LabGrader

/-- An error that the judge's service reports itself. -/
structure ServiceReport where
  message : Text
  kind : Option Text := none
  parameter : Option Text := none
  code : Option Text := none
deriving DecidableEq, Inhabited

inductive RequestError where
  | reported (report : ServiceReport)
  | status (code : Nat) (url : Text)
  | unreachable (url : Text)
  | unreadableReply
  | fileNotSaved (reason : Text)
  | fileNotRead (reason : Text)
  | brokenStream (reason : Text)
  | invalidArgument (reason : Text)
deriving DecidableEq

inductive JudgeError where
  | timeout (limit : Duration)
  | request (error : RequestError)
  | emptyResponse
  | other (reason : Text)
deriving DecidableEq

namespace ServiceReport

def line (r : ServiceReport) : Text :=
  (match r.kind with
    | none => r.message
    | some kind => kind ++ ": ".toList ++ r.message) ++
  (match r.parameter with
    | none => []
    | some p => " (param: ".toList ++ p ++ [')']) ++
  (match r.code with
    | none => []
    | some c => " (code: ".toList ++ c ++ [')'])

/-- Trouble on the side of the service, or too many requests, passes. -/
def isTransient (r : ServiceReport) : Bool :=
  let kind := r.kind.getD []
  Text.contains kind "server_error".toList || Text.contains kind "rate_limit".toList ||
    Text.contains (Text.lowercase r.message) "rate limit".toList

end ServiceReport

def statusName : Nat → String
  | 400 => "Bad Request"
  | 401 => "Unauthorized"
  | 402 => "Payment Required"
  | 403 => "Forbidden"
  | 404 => "Not Found"
  | 405 => "Method Not Allowed"
  | 406 => "Not Acceptable"
  | 407 => "Proxy Authentication Required"
  | 408 => "Request Timeout"
  | 409 => "Conflict"
  | 410 => "Gone"
  | 411 => "Length Required"
  | 412 => "Precondition Failed"
  | 413 => "Payload Too Large"
  | 414 => "URI Too Long"
  | 415 => "Unsupported Media Type"
  | 416 => "Range Not Satisfiable"
  | 417 => "Expectation Failed"
  | 418 => "I'm a teapot"
  | 421 => "Misdirected Request"
  | 422 => "Unprocessable Entity"
  | 423 => "Locked"
  | 424 => "Failed Dependency"
  | 425 => "Too Early"
  | 426 => "Upgrade Required"
  | 428 => "Precondition Required"
  | 429 => "Too Many Requests"
  | 431 => "Request Header Fields Too Large"
  | 451 => "Unavailable For Legal Reasons"
  | 500 => "Internal Server Error"
  | 501 => "Not Implemented"
  | 502 => "Bad Gateway"
  | 503 => "Service Unavailable"
  | 504 => "Gateway Timeout"
  | 505 => "HTTP Version Not Supported"
  | 506 => "Variant Also Negotiates"
  | 507 => "Insufficient Storage"
  | 508 => "Loop Detected"
  | 510 => "Not Extended"
  | 511 => "Network Authentication Required"
  | _ => "<unknown status code>"

def isServerStatus (code : Nat) : Bool := 500 ≤ code && code < 600

namespace RequestError

def message : RequestError → Text
  | .reported r => r.line
  | .status code url =>
    "http error: HTTP status ".toList ++
      (if isServerStatus code then "server".toList else "client".toList) ++ " error (".toList ++
      Text.ofNat code ++ ' ' :: (statusName code).toList ++ ") for url (".toList ++ url ++ [')']
  | .unreachable url => "http error: error sending request for url (".toList ++ url ++ [')']
  | .unreadableReply => "failed to deserialize api response".toList
  | .fileNotSaved reason => "failed to save file: ".toList ++ reason
  | .fileNotRead reason => "failed to read file: ".toList ++ reason
  | .brokenStream reason => "stream failed: ".toList ++ reason
  | .invalidArgument reason => "invalid args: ".toList ++ reason

def isTransient : RequestError → Bool
  | .reported r => r.isTransient
  | .status code _ => isServerStatus code || code = 429
  | .unreachable _ => true
  | _ => false

end RequestError

namespace JudgeError

def message : JudgeError → Text
  | .timeout limit => "The judge did not answer within ".toList ++ limit.write
  | .request e => "The judge request failed: ".toList ++ e.message
  | .emptyResponse => "The judge returned an empty response".toList
  | .other reason => reason

/-- Whether asking again might help. -/
def isRetryable : JudgeError → Bool
  | .timeout _ => true
  | .request e => e.isTransient
  | .emptyResponse => true
  | .other _ => false

end JudgeError

end LabGrader
