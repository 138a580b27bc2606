import Firewall.Clock
import Firewall.Request

/-!
What is written down about each decision: the outcome of a scan, and the texts
that a line of the audit may contain.
-/

namespace Firewall

inductive Outcome
  | pass
  | blocked
  /-- Flagged, but let through. -/
  | dryrun
  deriving DecidableEq, Repr, Inhabited

namespace Outcome

def name : Outcome → String
  | pass => "pass"
  | blocked => "blocked"
  | dryrun => "dryrun"

def ofName? (s : String) : Option Outcome :=
  if s = "pass" then some pass
  else if s = "blocked" then some blocked
  else if s = "dryrun" then some dryrun
  else none

def isAllowed (o : Outcome) : Bool := o != blocked

end Outcome

structure AuditRecord where
  date : String
  timestamp : String
  url : String
  urlHost : String
  urlPath : String
  method : String
  remoteAddr : String
  outcome : Outcome
  deriving DecidableEq, Repr

/-- The record of a decision made now. -/
def AuditRecord.of (request : Request) (outcome : Outcome) (now : Instant) : AuditRecord where
  date := now.dateTime
  timestamp := toString now.seconds
  url := request.url.render
  urlHost := request.url.hostAndPort
  urlPath := request.url.pathText
  method := request.method
  remoteAddr := request.remoteAddr
  outcome := outcome

/-- The fields of a record that a template may name. -/
inductive AuditField
  | date | timestamp | url | urlHost | urlPath | method | remoteAddr | outcome
  deriving DecidableEq, Repr

namespace AuditField

def name : AuditField → String
  | date => "Date"
  | timestamp => "Timestamp"
  | url => "Url"
  | urlHost => "UrlHostname"
  | urlPath => "UrlPath"
  | method => "Method"
  | remoteAddr => "Remoteaddr"
  | outcome => "Scanresult"

def all : List AuditField :=
  [date, timestamp, url, urlHost, urlPath, method, remoteAddr, outcome]

def ofName? (s : String) : Option AuditField := all.find? fun f => f.name == s

def value (f : AuditField) (r : AuditRecord) : String :=
  match f with
  | date => r.date
  | timestamp => r.timestamp
  | url => r.url
  | urlHost => r.urlHost
  | urlPath => r.urlPath
  | method => r.method
  | remoteAddr => r.remoteAddr
  | outcome => r.outcome.name

end AuditField

end Firewall
