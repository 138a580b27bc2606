import Firewall.Gzip
import Firewall.Url

/-!
Fetching a compressed file from the web. What the network does is a value: how
each request is answered, or why it never got through.
-/

namespace Firewall.Geo

inductive Reply
  | unreachable (reason : String)
  | response (status : Nat) (body : List UInt8)
  deriving DecidableEq, Repr

structure Web where
  ask : Url → Reply

/-- A web that no request gets through to. -/
def Web.silent (reason : String) : Web := ⟨fun _ => .unreachable reason⟩

inductive FetchFault
  | badUrl (fault : Url.Fault)
  | badScheme (url : Url)
  | unreachable (url : Url) (reason : String)
  | status (url : Url) (code : Nat)
  deriving DecidableEq, Repr

/-- The usual words for a status. -/
def statusWords (code : Nat) : String :=
  match code with
  | 400 => "Bad Request" | 401 => "Unauthorized" | 402 => "Payment Required"
  | 403 => "Forbidden" | 404 => "Not Found" | 405 => "Method Not Allowed"
  | 406 => "Not Acceptable" | 407 => "Proxy Authentication Required"
  | 408 => "Request Timeout" | 409 => "Conflict" | 410 => "Gone" | 411 => "Length Required"
  | 412 => "Precondition Failed" | 413 => "Payload Too Large" | 414 => "URI Too Long"
  | 415 => "Unsupported Media Type" | 416 => "Range Not Satisfiable"
  | 417 => "Expectation Failed" | 418 => "I'm a teapot" | 421 => "Misdirected Request"
  | 422 => "Unprocessable Entity" | 423 => "Locked" | 424 => "Failed Dependency"
  | 426 => "Upgrade Required" | 428 => "Precondition Required" | 429 => "Too Many Requests"
  | 431 => "Request Header Fields Too Large" | 451 => "Unavailable For Legal Reasons"
  | 500 => "Internal Server Error" | 501 => "Not Implemented" | 502 => "Bad Gateway"
  | 503 => "Service Unavailable" | 504 => "Gateway Timeout"
  | 505 => "HTTP Version Not Supported" | 506 => "Variant Also Negotiates"
  | 507 => "Insufficient Storage" | 508 => "Loop Detected" | 510 => "Not Extended"
  | 511 => "Network Authentication Required"
  | _ => "<unknown status code>"

def FetchFault.message : FetchFault → String
  | badUrl fault => "builder error: " ++ fault.message
  | badScheme url => "builder error for url (" ++ url.render ++ "): URL scheme is not allowed"
  | unreachable url reason =>
    "error sending request for url (" ++ url.render ++
      "): error trying to connect: tcp connect error: " ++ reason
  | status url code =>
    "HTTP status " ++ (if code < 500 then "client" else "server") ++ " error (" ++
      toString code ++ " " ++ statusWords code ++ ") for url (" ++ url.render ++ ")"

inductive DownloadFault
  | fetch (url : String) (fault : FetchFault)
  | decompress (url : String) (fault : Gzip.Fault)
  deriving DecidableEq, Repr

def DownloadFault.message : DownloadFault → String
  | fetch url fault => "fetching " ++ url ++ ": " ++ fault.message
  | decompress url fault => "decompressing " ++ url ++ ": " ++ fault.message

/-- The body of a successful answer. -/
def Web.fetch (web : Web) (url : String) : Except FetchFault (List UInt8) :=
  match Url.parse url with
  | .error fault => .error (.badUrl fault)
  | .ok u =>
    if u.scheme ≠ "http".toList ∧ u.scheme ≠ "https".toList then .error (.badScheme u)
    else match web.ask u with
      | .unreachable reason => .error (.unreachable u reason)
      | .response code body => if 400 ≤ code ∧ code < 600 then .error (.status u code) else .ok body

/-- The most bytes that a decompressed file may have. -/
def mostBytes : Nat := 256 * 1024 * 1024

def Web.download (web : Web) (url : String) : Except DownloadFault (List UInt8) :=
  match web.fetch url with
  | .error fault => .error (.fetch url fault)
  | .ok body => match Gzip.gunzip mostBytes body with
    | .error fault => .error (.decompress url fault)
    | .ok bytes => .ok bytes

end Firewall.Geo
