import Firewall.Url.Host
import Firewall.Url.Path

/-!
Addresses of the web: reading the loose forms that people write, and the one
written form of each address.
-/

namespace Firewall

inductive Url.Path
  /-- Text without a hierarchy, as in `mailto:a@b`. -/
  | flat (text : List Char)
  /-- Segments, each after a slash. -/
  | segments (parts : List (List Char))
  deriving DecidableEq, Repr

/-- An address of the web. All texts are in their encoded form; a port is kept
only when it is not the usual one of the scheme. -/
structure Url where
  scheme : List Char
  user : List Char
  password : List Char
  host : Option Url.Host
  port : Option Nat
  path : Url.Path
  query : Option (List Char)
  fragment : Option (List Char)
  deriving DecidableEq, Repr

namespace Url

open Text

/-! ## Writing -/

def pathText (u : Url) : String :=
  match u.path with
  | .flat text => String.ofList text
  | .segments parts => String.ofList (renderSegments parts)

/-- The host as text, empty if there is none. -/
def hostText (u : Url) : String :=
  match u.host with
  | some host => host.render
  | none => ""

/-- The host, and the port if it is not the usual one. -/
def hostAndPort (u : Url) : String :=
  match u.port with
  | some port => u.hostText ++ ":" ++ toString port
  | none => u.hostText

/-- User name and password with the sign that ends them. -/
def credentials (u : Url) : List Char :=
  if u.user.isEmpty && u.password.isEmpty then []
  else u.user ++ (if u.password.isEmpty then [] else ':' :: u.password) ++ ['@']

/-- What stands between the scheme and the path. A path that begins with two
slashes must not be taken for a host, so it gets a dot segment in front. -/
def authority (u : Url) : List Char :=
  match u.host with
  | some _ => "//".toList ++ u.credentials ++ u.hostAndPort.toList
  | none => match u.path with
    | .segments ([] :: _ :: _) => "/.".toList
    | _ => []

/-- A part behind its sign, if there is one. -/
def marked (sign : Char) : Option (List Char) → List Char
  | some text => sign :: text
  | none => []

def render (u : Url) : String :=
  String.ofList
    (u.scheme ++ ':' :: u.authority ++ u.pathText.toList ++ marked '?' u.query ++
      marked '#' u.fragment)

/-! ## Reading -/

/-- The usual port of a scheme, for the well-known ones that have one. -/
def usualPort? (scheme : List Char) : Option Nat :=
  match String.ofList scheme with
  | "http" | "ws" => some 80
  | "https" | "wss" => some 443
  | "ftp" => some 21
  | _ => none

inductive Kind
  | web | file | foreign
  deriving DecidableEq, Repr

def kindOf (scheme : List Char) : Kind :=
  if scheme = "file".toList then .file
  else if (usualPort? scheme).isSome then .web
  else .foreign

/-- Whether a character is a control character or a space. -/
def isEdgeJunk (c : Char) : Bool := c.toNat ≤ 0x20

/-- The text without control characters and spaces at both ends, and without
tabs and line breaks anywhere. -/
def cleaned (s : List Char) : List Char :=
  ((s.dropWhile isEdgeJunk).reverse.dropWhile isEdgeJunk).reverse.filter
    fun c => !(c == '\t' || c == '\n' || c == '\r')

/-- Whether a character may follow the first one of a scheme. -/
def isSchemeCharacter (c : Char) : Bool :=
  isAsciiLetter c || isAsciiDigit c || c == '+' || c == '-' || c == '.'

/-- The scheme in lower case and what follows its colon. -/
def scheme? (s : List Char) : Option (List Char × List Char) :=
  match s.head? with
  | some c =>
    if isAsciiLetter c then
      match s.dropWhile isSchemeCharacter with
      | ':' :: rest => some ((s.takeWhile isSchemeCharacter).map asciiLower, rest)
      | _ => none
    else none
  | none => none

/-- Query and fragment from the rest of an address. -/
def tailParts (kind : Kind) (rest : List Char) : Option (List Char) × Option (List Char) :=
  let set := if kind == .foreign then querySet else specialQuerySet
  let fragment (s : List Char) := percentEncode fragmentSet s
  match rest with
  | '?' :: r =>
    match cut? '#' r with
    | some (query, f) => (some (percentEncode set query), some (fragment f))
    | none => (some (percentEncode set r), none)
  | '#' :: r => (none, some (fragment r))
  | _ => (none, none)

/-- Whether a character ends the part of an address that names the host. -/
def endsAuthority (kind : Kind) (c : Char) : Bool :=
  c == '/' || c == '?' || c == '#' || (c == '\\' && kind != .foreign)

def cutLastAt? (s : List Char) : Option (List Char × List Char) :=
  let back := s.reverse.takeWhile (· != '@')
  if back.length = s.length then none
  else some (s.take (s.length - back.length - 1), back.reverse)

/-- User name, password and host part of the text between the scheme and the path. -/
def splitAuthority (s : List Char) : List Char × List Char × List Char :=
  match cutLastAt? s with
  | none => ([], [], s)
  | some (info, host) =>
    match cut? ':' info with
    | none => (percentEncode userSet info, [], host)
    | some (user, password) => (percentEncode userSet user, percentEncode userSet password, host)

/-- Splits in front of the first colon that is not inside brackets. -/
def splitPort (inside : Bool) : List Char → List Char × List Char
  | [] => ([], [])
  | c :: r =>
    if c == ':' && !inside then ([], c :: r)
    else
      let inside := if c == '[' then true else if c == ']' then false else inside
      let (host, port) := splitPort inside r
      (c :: host, port)

/-- A port, `none` for the usual one or no digits at all, and what stands behind
it, which can only begin with a backslash. -/
def parsePort (scheme s : List Char) : Except Fault (Option Nat × List Char) :=
  let digits := s.takeWhile isAsciiDigit
  let rest := s.dropWhile isAsciiDigit
  match decimal? digits with
  | none => if rest.isEmpty ∨ rest.head? = some '\\' then .ok (none, rest) else .error .badPort
  | some n =>
    if 65535 < n ∨ ¬(rest.isEmpty ∨ rest.head? = some '\\') then .error .badPort
    else .ok (if usualPort? scheme = some n then none else some n, rest)

def Kind.pathStyle : Kind → PathStyle
  | web => .web
  | file => .file
  | foreign => .plain

/-- The path behind a host, which is empty only for foreign schemes. -/
def pathAfterHost (kind : Kind) (rest : List Char) : List (List Char) × Bool × List Char :=
  match rest with
  | c :: r =>
    if kind.pathStyle.separates c then parsePath kind.pathStyle r
    else if kind == .foreign && (c == '?' || c == '#') then ([], false, rest)
    else parsePath kind.pathStyle rest
  | [] => if kind == .foreign then ([], false, []) else parsePath kind.pathStyle []

def parseWithHost (scheme : List Char) (kind : Kind) (s : List Char) : Except Fault Url := do
  let part := s.takeWhile fun c => !endsAuthority kind c
  let rest := s.drop part.length
  let (user, password, hostPart) := splitAuthority part
  if part = ['@'] ∧ !rest.isEmpty then
    throw .emptyHost
  let (hostText, portText) := splitPort false hostPart
  if kind == .web && hostText.isEmpty then throw .emptyHost
  let host ← if kind == .web then parseDomain hostText else parseForeignHost hostText
  if host = .name [] ∧ !portText.isEmpty then throw .emptyHost
  let (port, behind) ←
    match portText with
    | [] => pure (none, [])
    | _ :: digits => parsePort scheme digits
  if host = .name [] ∧ !(user.isEmpty && password.isEmpty) then throw .emptyHost
  let (segments, _, tail) := pathAfterHost kind (behind ++ rest)
  let (query, fragment) := tailParts kind tail
  return ⟨scheme, user, password, some host, port, .segments segments, query, fragment⟩

def parseWithoutHost (scheme : List Char) (s : List Char) : Url :=
  match s with
  | '/' :: r =>
    let (segments, _, tail) := parsePath .plain r
    let (query, fragment) := tailParts .foreign tail
    ⟨scheme, [], [], none, none, .segments segments, query, fragment⟩
  | _ =>
    let text := s.takeWhile fun c => !(c == '?' || c == '#')
    let (query, fragment) := tailParts .foreign (s.drop text.length)
    ⟨scheme, [], [], none, none, .flat (percentEncode controlSet text), query, fragment⟩

/-- The host of a file, and whether it is kept: the own machine has no name. -/
def parseFileHost (s : List Char) : Except Fault Host :=
  if s.isEmpty then .ok (.name [])
  else match parseDomain s with
    | .ok (.name text) => .ok (.name (if text = "localhost".toList then [] else text))
    | other => other

def parseFile (s : List Char) : Except Fault Url := do
  let slash (c : Option Char) : Bool := c == some '/' || c == some '\\'
  let finish (host : Host) (parsed : List (List Char) × Bool × List Char) : Url :=
    let (segments, drive, tail) := parsed
    let (query, fragment) := tailParts .file tail
    ⟨"file".toList, [], [], some (if drive then .name [] else host), none,
      .segments segments, query, fragment⟩
  if slash s.head? then
    let r := s.drop 1
    if slash r.head? then
      let text := r.drop 1
      let part := text.takeWhile fun c => !endsAuthority .file c
      if isDriveLetter part then return finish (.name []) (parsePath .file text)
      let rest := text.drop part.length
      let host ← parseFileHost part
      if host = .name [] then return finish host (parsePath .file rest)
      return finish host (pathAfterHost .file rest)
    else return finish (.name []) (parsePath .file r)
  else return finish (.name []) (parsePath .file s)

def parse (text : String) : Except Fault Url :=
  match scheme? (cleaned text.toList) with
  | none => .error .noScheme
  | some (scheme, rest) =>
    match kindOf scheme with
    | .file => parseFile rest
    | .web => parseWithHost scheme .web (rest.dropWhile fun c => c == '/' || c == '\\')
    | .foreign =>
      match after? "//".toList rest with
      | some behind => parseWithHost scheme .foreign behind
      | none => .ok (parseWithoutHost scheme rest)

end Url

end Firewall
