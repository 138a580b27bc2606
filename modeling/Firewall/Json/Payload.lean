import Firewall.Json.Scanner

/-!
The body of a submitted request: a JSON object with three texts, or a list of
them. A body that is not of this form is refused with the place of its fault.
-/

namespace Firewall

/-- A submitted request before its address has been read. -/
structure Payload where
  remoteAddr : String
  url : String
  method : String
  deriving DecidableEq, Repr

namespace Payload

open Json

def fieldNames : List String := ["remote_addr", "url", "method"]

def describe : String := "struct RequestPayload"

/-- A mismatch that is found in front of the given bytes. -/
def misfit {α : Type} (m : Mismatch) (s : List UInt8) : Except Failure α := failAt (.mismatch m) s

/-- Reports a value of another kind than the expected one; the value is read as
far as it takes to say what it is. -/
def wrongKind {α : Type} (expected : String) (s : List UInt8) : Except Failure α :=
  let report (found : Found) (rest : List UInt8) : Except Failure α :=
    misfit (.kind found expected) rest
  let word (letters : List Char) (found : Found) (r : List UInt8) : Except Failure α :=
    match readWord letters r with
    | .error e => .error e
    | .ok (_, rest) => report found rest
  let number (positive : Bool) (r : List UInt8) : Except Failure α :=
    match readNumber positive r with
    | .error e => .error e
    | .ok (n, rest) => report n.found rest
  match s with
  | [] => failOn .expectedValue s
  | b :: r =>
    if b = code 'n' then word "ull".toList .nothing r
    else if b = code 't' then word "rue".toList (.boolean true) r
    else if b = code 'f' then word "alse".toList (.boolean false) r
    else if b = code '-' then number false r
    else if isDigit b then number true s
    else if b = code '"' then
      match readString [] r with
      | .error e => .error e
      | .ok (bs, rest) => report (.text (textOf bs)) rest
    else if b = code '[' then report .list s
    else if b = code '\x7b' then report .dict s
    else failOn .expectedValue s

def readText (s : List UInt8) : Reading String :=
  match skipBlanks s with
  | [] => failOn .eofValue []
  | b :: r =>
    if b = code '"' then (readString [] r).map fun (bs, rest) => (textOf bs, rest)
    else wrongKind "a string" (b :: r)

def readColon (s : List UInt8) : Reading Unit :=
  match skipBlanks s with
  | [] => failOn .eofObject []
  | b :: r => if b = code ':' then .ok ((), r) else failOn .expectedColon (b :: r)

/-- The bytes behind the end of a container, or where its end should be if
something else is there. -/
def pastEnd (closing : UInt8) (s : List UInt8) : List UInt8 :=
  match skipBlanks s with
  | [] => []
  | b :: r => if b = closing then r else b :: r

/-! ## The form of a list -/

/-- Whether a list has one more element, and the bytes at its front. -/
def nextElement (first : Bool) (s : List UInt8) : Reading Bool :=
  match skipBlanks s with
  | [] => failOn .eofList []
  | b :: r =>
    if b = code ']' then .ok (false, b :: r)
    else if first then .ok (true, b :: r)
    else if b = code ',' then
      match skipBlanks r with
      | c :: t => if c = code ']' then failOn .trailingComma (c :: t) else .ok (true, c :: t)
      | [] => .ok (true, [])
    else failOn .expectedListEnd (b :: r)

/-- Reads the elements of a list, `index` of them being read already. -/
def readElements (index : Nat) :
    List String → List UInt8 → Except Failure (List String × List UInt8)
  | [], s => .ok ([], s)
  | _ :: names, s => do
    let (more, s) ← nextElement (index == 0) s
    if !more then
      misfit (.length index (describe ++ " with 3 elements")) (pastEnd (code ']') s)
    else
      let (text, s) ← readText s
      let (texts, s) ← readElements (index + 1) names s
      return (text :: texts, s)

def endList (s : List UInt8) : Reading Unit :=
  match skipBlanks s with
  | [] => failOn .eofList []
  | b :: r =>
    if b = code ']' then .ok ((), r)
    else if b = code ',' then
      match skipBlanks r with
      | c :: t => failOn (if c = code ']' then .trailingComma else .trailingCharacters) (c :: t)
      | [] => failOn .trailingCharacters []
    else failOn .trailingCharacters (b :: r)

/-! ## The form of an object -/

/-- Whether an object has one more key, and the bytes behind the key's quotation mark. -/
def nextKey (first : Bool) (s : List UInt8) : Reading Bool :=
  match skipBlanks s with
  | [] => failOn .eofObject []
  | b :: r =>
    if b = code '\x7d' then .ok (false, b :: r)
    else if first then
      if b = code '"' then .ok (true, r) else failOn .keyNotString (b :: r)
    else if b = code ',' then
      match skipBlanks r with
      | c :: t =>
        if c = code '"' then .ok (true, t)
        else failOn (if c = code '\x7d' then .trailingComma else .keyNotString) (c :: t)
      | [] => failOn .eofValue []
    else failOn .expectedObjectEnd (b :: r)

/-- Reads the rows of an object into the slots of the fields; every row takes
at least one byte. -/
def readRows : Nat → Bool → List (Option String) → List UInt8 →
    Except Failure (List (Option String) × List UInt8)
  | 0, _, _, s => failOn .eofObject s
  | fuel + 1, first, slots, s => do
    let (more, s) ← nextKey first s
    if !more then return (slots, s)
    let (bs, s) ← readString [] s
    match fieldNames.findIdx? (· == textOf bs) with
    | none =>
      let (_, s) ← readColon s
      let (_, s) ← skipValue s
      readRows fuel false slots s
    | some i =>
      if ((slots[i]?).bind id).isSome then
        misfit (.repeatedField (textOf bs)) (pastEnd (code '\x7d') s)
      else
        let (_, s) ← readColon s
        let (text, s) ← readText s
        readRows fuel false (slots.set i (some text)) s

def endObject (s : List UInt8) : Reading Unit :=
  match skipBlanks s with
  | [] => failOn .eofObject []
  | b :: r =>
    if b = code '\x7d' then .ok ((), r)
    else failOn (if b = code ',' then .trailingComma else .trailingCharacters) (b :: r)

/-- The first field without a value. -/
def missing? (slots : List (Option String)) : Option String :=
  ((fieldNames.zip slots).find? fun f => f.2.isNone).map (·.1)

/-! ## The whole body -/

def ofTexts : List String → Payload
  | [remoteAddr, url, method] => ⟨remoteAddr, url, method⟩
  | _ => ⟨"", "", ""⟩

def read (s : List UInt8) : Except Failure (Payload × List UInt8) :=
  match skipBlanks s with
  | [] => failOn .eofValue []
  | b :: r =>
    if b = code '[' then do
      let (texts, s) ← readElements 0 fieldNames r
      let (_, s) ← endList s
      return (ofTexts texts, s)
    else if b = code '\x7b' then do
      let (slots, s) ← readRows (r.length + 1) true (fieldNames.map fun _ => none) r
      match missing? slots with
      | some name => misfit (.missingField name) (pastEnd (code '\x7d') s)
      | none =>
        let (_, s) ← endObject s
        return (ofTexts (slots.filterMap id), s)
    else wrongKind describe (b :: r)

/-- Reads a body that holds nothing but a payload. -/
def readBody (body : List UInt8) : Except Failure Payload := do
  let (payload, rest) ← read body
  match skipBlanks rest with
  | [] => return payload
  | s => failOn .trailingCharacters s

/-- Line and column of a position, counted in bytes. -/
def lineAndColumn (before : List UInt8) : Nat × Nat :=
  (before.count (code '\n') + 1, (before.reverse.takeWhile (· != code '\n')).length)

def describeFailure (body : List UInt8) (f : Failure) : String :=
  let (line, column) := lineAndColumn (body.take (body.length - f.left))
  f.cause.message ++ " at line " ++ toString line ++ " column " ++ toString column

/-- The payload of a body, or the description of why it has none. -/
def parse (body : String) : Except String Payload :=
  let bytes := Text.Utf8.encode body.toList
  (readBody bytes).mapError (describeFailure bytes)

end Payload

end Firewall
