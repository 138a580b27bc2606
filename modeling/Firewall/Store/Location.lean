import Firewall.Store.Fault
import Firewall.Url

/-!
Where a shared store is, as its address says.
-/

namespace Firewall

inductive Location
  | host (name : String) (port : Nat)
  | socket (path : String)
  deriving DecidableEq, Repr

namespace Location

/-- The port if none is named. -/
def usualPort : Nat := 6379

/-- The host of an address; an internet address stands without brackets. -/
def hostName? (u : Url) : Option String :=
  match u.host with
  | none => none
  | some (.name []) => none
  | some (.name text) => some (String.ofList text)
  | some (.v4 bits) => some (Address.v4 bits).render
  | some (.v6 bits) => some (Address.v6 bits).render

/-- Whether a text is a whole number of 64 bits, with a sign or without. -/
def isNumber (s : List Char) : Bool :=
  let (negative, digits) : Bool × List Char := match s with
    | '-' :: r => (true, r)
    | '+' :: r => (false, r)
    | _ => (false, s)
  match Text.decimal? digits with
  | some n => if negative then n ≤ 0x8000000000000000 else n < 0x8000000000000000
  | none => false

/-- A text without the slashes at both ends. -/
def withoutSlashes (s : List Char) : List Char :=
  let isSlash (c : Char) : Bool := c == '/'
  ((s.dropWhile isSlash).reverse.dropWhile isSlash).reverse

def isText (s : List Char) : Bool := (Text.Utf8.decode? (Url.percentDecode s)).isSome

def ofHostUrl (u : Url) : Except AddressFault Location :=
  match hostName? u with
  | none => .error .noHost
  | some name =>
    let database := withoutSlashes u.pathText.toList
    if u.scheme = "rediss".toList then .error .encrypted
    else if !database.isEmpty && !isNumber database then .error .badDatabase
    else if !isText u.user then .error .badUser
    else if !isText u.password then .error .badPassword
    else .ok (.host name (u.port.getD usualPort))

/-- The place of an address that names a socket of the own machine. -/
def ofSocketUrl (u : Url) : Except AddressFault Location :=
  match u.path with
  | .flat _ => .error .noPath
  | .segments _ => .ok (.socket u.pathText)

def parse (text : String) : Except AddressFault Location :=
  match Url.parse text with
  | .error _ => .error .malformed
  | .ok u =>
    if u.scheme = "redis".toList ∨ u.scheme = "rediss".toList then ofHostUrl u
    else if u.scheme = "unix".toList ∨ u.scheme = "redis+unix".toList then ofSocketUrl u
    else .error .malformed

end Location

end Firewall
