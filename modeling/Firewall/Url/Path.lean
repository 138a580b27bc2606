import Firewall.Url.Percent

/-!
Hierarchical paths: segments between slashes, with the dot segments resolved
while they are read. A segment that looks like a drive letter is never removed
by a dot segment.
-/

namespace Firewall.Url

open Text

/-- How the scheme reads a path. -/
inductive PathStyle
  /-- Only a slash ends a segment. -/
  | plain
  /-- A backslash ends a segment as well. -/
  | web
  /-- As `web`, and a drive letter at the front is kept apart. -/
  | file
  deriving DecidableEq, Repr

def PathStyle.separates (style : PathStyle) (c : Char) : Bool :=
  c == '/' || (c == '\\' && style != .plain)

/-- A letter followed by a colon or a bar. -/
def isDriveLetter : List Char → Bool
  | [a, b] => isAsciiLetter a && (b == ':' || b == '|')
  | _ => false

/-- A segment that begins with a drive letter and ends there or at a backslash. -/
def looksLikeDrive : List Char → Bool
  | a :: b :: r =>
    isAsciiLetter a && (b == ':' || b == '|') && (r.isEmpty || r.head? == some '\\')
  | _ => false

def isSingleDot (s : List Char) : Bool :=
  let t := s.map asciiLower
  t == ['.'] || t == "%2e".toList

def isDoubleDot (s : List Char) : Bool :=
  let t := s.map asciiLower
  t == "..".toList || t == ".%2e".toList || t == "%2e.".toList || t == "%2e%2e".toList

/-- Removes the last segment unless it looks like a drive; the segments are
given last one first. -/
def stepUp : List (List Char) → List (List Char)
  | [] => []
  | s :: r => if looksLikeDrive s then s :: r else r

/-- A path under construction: the finished segments, last one first, and
whether a drive letter has been found at its front. -/
structure PathDraft where
  done : List (List Char)
  drive : Bool
  deriving Repr

/-- Puts a colon after the letter of a drive. -/
def normalizeDrive : List Char → List Char
  | a :: _ :: r => a :: ':' :: r
  | s => s

/-- Adds one segment; `final` says that no slash follows it. -/
def PathDraft.add (style : PathStyle) (draft : PathDraft) (segment : List Char) (final : Bool) :
    PathDraft :=
  let encoded := percentEncode pathSet segment
  let atFront := style == .file && draft.done.isEmpty
  if isDoubleDot segment then
    let up := stepUp draft.done
    { draft with done := if final then [] :: up else up }
  else if isSingleDot segment then
    { draft with done := if final then [] :: draft.done else draft.done }
  else if atFront && isDriveLetter segment then
    ⟨[normalizeDrive encoded], true⟩
  else match atFront, encoded with
    | true, a :: ':' :: b :: r =>
      if isAsciiLetter a then { draft with done := [b :: r, [a, ':']] }
      else { draft with done := encoded :: draft.done }
    | _, _ => { draft with done := encoded :: draft.done }

/-- Reads segments up to a question mark or a number sign; the text begins
behind the slash of the first segment and `segment` holds the characters of the
present one, last one first. The result has what follows the path. -/
def readSegments (style : PathStyle) (draft : PathDraft) (segment : List Char) :
    List Char → PathDraft × List Char
  | [] => (draft.add style segment.reverse true, [])
  | c :: r =>
    if style.separates c then
      readSegments style (draft.add style segment.reverse false) [] r
    else if c == '?' || c == '#' then (draft.add style segment.reverse true, c :: r)
    else readSegments style draft (c :: segment) r

/-- Drops empty segments at the front of a file's path; one segment is left. -/
def dropEmptyFront (segments : List (List Char)) : List (List Char) :=
  match segments.dropWhile List.isEmpty with
  | [] => [[]]
  | kept => kept

/-- The segments of a path, whether a drive letter was found, and what follows. -/
def parsePath (style : PathStyle) (text : List Char) :
    List (List Char) × Bool × List Char :=
  let (draft, rest) := readSegments style ⟨[], false⟩ [] text
  let segments := draft.done.reverse
  (if style == .file then dropEmptyFront segments else segments, draft.drive, rest)

def renderSegments (segments : List (List Char)) : List Char :=
  segments.flatMap fun s => '/' :: s

end Firewall.Url
