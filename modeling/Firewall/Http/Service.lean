import Firewall.Json.Payload
import Firewall.Json.Quoted
import Firewall.Metrics

/-!
The web service of an engine: a sign of life, the submission of requests, and
the metrics. A submission that cannot be understood is refused before anything
is scanned, written down or counted.
-/

namespace Firewall

namespace Http

structure Call where
  method : String
  /-- Path and query as they were sent. -/
  target : String
  body : Bytes
  deriving DecidableEq, Repr

structure Answer where
  status : Nat
  contentType : Option String
  /-- The methods that would have been allowed. -/
  allow : Option String
  body : String
  deriving DecidableEq, Repr

def Answer.bare (status : Nat) : Answer := ⟨status, none, none, ""⟩

def Answer.json (status : Nat) (body : String) : Answer :=
  ⟨status, some "application/json", none, body⟩

def Answer.text (status : Nat) (body : String) : Answer :=
  ⟨status, some "text/plain; charset=utf-8", none, body⟩

inductive Page
  | health
  | submit
  | metrics
  deriving DecidableEq, Repr

namespace Page

def path : Page → String
  | health => "/health"
  | submit => "/submit"
  | metrics => "/metrics"

def ofPath? (path : String) : Option Page :=
  [health, submit, metrics].find? fun p => p.path == path

def methods : Page → List String
  | health => ["GET", "HEAD"]
  | submit => ["POST"]
  | metrics => ["GET", "HEAD"]

end Page

/-- The path of a call without its query. -/
def Call.path (c : Call) : String :=
  String.ofList (c.target.toList.takeWhile fun c => c != '?' && c != '#')

/-- The most bytes that a submission may have. -/
def mostBody : Nat := 2 * 1024 * 1024

def messageBody (text : String) : String := "\x7b\"message\":" ++ Json.quoted text ++ "\x7d"

/-- The request in a submission, or the answer that refuses it. -/
def readSubmission (body : Bytes) : Except Answer Request :=
  if mostBody < body.length then
    .error (.text 413 "Failed to buffer the request body: length limit exceeded")
  else match Text.Utf8.decode body with
    | .error fault =>
      .error (.text 400 ("Request body didn't contain valid UTF-8: " ++ fault.message))
    | .ok cs =>
      match Payload.parse (String.ofList cs) with
      | .error message => .error (.json 503 (messageBody message))
      | .ok p =>
        match Request.ofParts p.remoteAddr p.url p.method with
        | .error cause => .error (.json 503 (messageBody (Error.argument cause).message))
        | .ok request => .ok request

end Http

namespace Site

open Http

variable {σ : Type} [RecordStore σ]

def submit (e : Engine) (body : Bytes) : Act σ Answer :=
  match readSubmission body with
  | .error refusal => return refusal
  | .ok request => do
    let outcome ← scan e request
    return .bare (if outcome.isAllowed then 200 else 403)

def visit (e : Engine) (page : Page) (c : Call) : Act σ Answer := do
  match page with
  | .health => return .json 200 "\x7b\"status\":\"OK\"\x7d"
  | .metrics => return .text 200 (Metrics.page (← get).world.counters)
  | .submit => submit e c.body

/-- Answers a call; a head has no body. -/
def serve (e : Engine) (c : Call) : Act σ Answer :=
  match Page.ofPath? c.path with
  | none => return .bare 404
  | some page =>
    if page.methods.contains c.method then do
      let answer ← visit e page c
      return if c.method == "HEAD" then { answer with body := "" } else answer
    else return { Answer.bare 405 with allow := some (",".intercalate page.methods) }

end Site

end Firewall
