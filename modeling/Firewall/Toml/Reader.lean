import Firewall.Toml.Moment
import Firewall.Toml.Number
import Firewall.Toml.Text

/-!
Reading a TOML document, line by line: keys with values, headers of tables,
comments. A document that breaks a rule of the format is refused as a whole.
-/

namespace Firewall.Toml

open Text

/-! ## Keys -/

/-- Whether a character may stand in a key without quotes. -/
def isKeyCharacter (c : Char) : Bool :=
  isAsciiLetter c || isAsciiDigit c || c == '-' || c == '_'

def readKeyPart (s : List Char) : Option (String × List Char) :=
  match s with
  | [] => none
  | c :: r =>
    if c = mark then (readBasic r).map fun (k, rest) => (String.ofList k, rest)
    else if c = tick then (readLiteral r).map fun (k, rest) => (String.ofList k, rest)
    else
      let k := s.takeWhile isKeyCharacter
      if k.isEmpty then none else some (String.ofList k, s.drop k.length)

/-- The least number of parts that a key must not have. -/
def tooDeep : Nat := 80

/-- Reads up to `most` parts of a key, with dots between them and blanks around. -/
def readKeyParts : Nat → List Char → Option (List String × List Char)
  | 0, _ => none
  | most + 1, s =>
    match readKeyPart (skipSpace s) with
    | none => none
    | some (k, rest) =>
      match skipSpace rest with
      | '.' :: r => (readKeyParts most r).map fun (ks, rest) => (k :: ks, rest)
      | rest => some ([k], rest)

def readKey (s : List Char) : Option (List String × List Char) := readKeyParts (tooDeep - 1) s

/-! ## Line ends -/

/-- What follows a comment, if there is one. -/
def skipComment : List Char → List Char
  | '#' :: r => r.dropWhile isPlain
  | s => s

/-- What follows the end of a line, with a comment in front of it. -/
def lineEnd? (s : List Char) : Option (List Char) :=
  match skipComment (skipSpace s) with
  | [] => some []
  | rest => newline? rest

/-- Drops blanks, line breaks and comments that end with a line break; every
round takes at least one character. -/
def skipFiller : Nat → List Char → Option (List Char)
  | 0, s => some s
  | fuel + 1, s =>
    match skipSpace s with
    | [] => some []
    | c :: r =>
      if c = '#' ∨ c = '\n' ∨ c = '\r' then
        (newline? (skipComment (c :: r))).bind (skipFiller fuel)
      else some (c :: r)

/-- Drops what may stand between the values of a list. -/
def filler? (s : List Char) : Option (List Char) := skipFiller s.length s

/-! ## Values -/

/-- Whether a character may stand in a value without quotes. -/
def isBare (c : Char) : Bool :=
  isAsciiLetter c || isAsciiDigit c || c == '+' || c == '-' || c == '_' || c == '.' || c == ':'

/-- Reads a value without quotes. A date and a time may have a blank between them. -/
def readBare (s : List Char) : Option (Item × List Char) :=
  let word := s.takeWhile isBare
  let rest := s.drop word.length
  if word = "true".toList then some (.boolean true, rest)
  else if word = "false".toList then some (.boolean false, rest)
  else if isMoment word then
    match rest with
    | ' ' :: r =>
      let time := r.takeWhile isBare
      if isDate word && isTimeWithOffset time then
        some (.moment (word ++ ' ' :: time), r.drop time.length)
      else some (.moment word, rest)
    | _ => some (.moment word, rest)
  else match integer? word with
    | some n => some (.integer n, rest)
    | none => if isFloat word then some (.float word, rest) else none

abbrev ItemReader := List Char → Option (Item × List Char)

/-- Reads the values of a list, behind a bracket or a comma; every round takes at
least one character. -/
def readItems (read : ItemReader) : Nat → List Char → Option (List Item × List Char)
  | 0, _ => none
  | fuel + 1, s =>
    match filler? s with
    | none => none
    | some (']' :: rest) => some ([], rest)
    | some s =>
      match read s with
      | none => none
      | some (i, s) =>
        match filler? s with
        | some (']' :: rest) => some ([i], rest)
        | some (',' :: rest) => (readItems read fuel rest).map fun (is, rest) => (i :: is, rest)
        | _ => none

def readPair (read : ItemReader) (s : List Char) : Option ((List String × Item) × List Char) :=
  match readKey s with
  | some (key, '=' :: rest) => (read (skipSpace rest)).map fun (i, rest) => ((key, i), rest)
  | _ => none

/-- Reads the keys and values of a table in braces, behind a brace or a comma;
every round takes at least one character. -/
def readPairs (read : ItemReader) :
    Nat → List Char → Option (List (List String × Item) × List Char)
  | 0, _ => none
  | fuel + 1, s =>
    match readPair read s with
    | none => none
    | some (pair, s) =>
      match skipSpace s with
      | '\x7d' :: rest => some ([pair], rest)
      | ',' :: rest => (readPairs read fuel rest).map fun (pairs, rest) => (pair :: pairs, rest)
      | _ => none

/-- Reads a value that holds others at most `depth` deep. -/
def readItem : Nat → ItemReader
  | depth, s =>
    match s with
    | [] => none
    | c :: r =>
      if c = mark ∨ c = tick then (readText s).map fun (t, rest) => (.text (String.ofList t), rest)
      else if c = '[' then
        match depth with
        | 0 => none
        | depth + 1 =>
          (readItems (readItem depth) s.length r).map fun (is, rest) => (.list is, rest)
      else if c = '\x7b' then
        match depth with
        | 0 => none
        | depth + 1 =>
          match skipSpace r with
          | '\x7d' :: rest => some (.table .braces [], rest)
          | _ =>
            match readPairs (readItem depth) s.length r with
            | none => none
            | some (pairs, rest) =>
              (Rows.ofPairs pairs []).map fun rows => (.table .braces rows, rest)
      else readBare s

/-! ## Documents -/

/-- What has been read of a document, and the way to the table of the last header. -/
structure Draft where
  rows : Rows
  path : List String

/-- Reads a header, behind its first bracket. -/
def readHeader (d : Draft) (s : List Char) : Option (Draft × List Char) := do
  let several := s.head? = some '['
  let (key, s) ← readKey (if several then s.drop 1 else s)
  let s ← after? (if several then [']', ']'] else [']']) s
  let rest ← lineEnd? s
  let last ← key.getLast?
  let rows ← Rows.within (if several then Rows.openElement last else Rows.openTable last)
    key.dropLast d.rows
  return (⟨rows, key⟩, rest)

def readAssignment (d : Draft) (s : List Char) : Option (Draft × List Char) := do
  let ((key, i), s) ← readPair (readItem (tooDeep - 1)) s
  let rest ← lineEnd? s
  let rows ← Rows.within (Rows.assign i key) d.path d.rows
  return (⟨rows, d.path⟩, rest)

/-- Reads lines; every round takes at least one character. -/
def readLines : Nat → Draft → List Char → Option Rows
  | 0, _, _ => none
  | fuel + 1, d, s =>
    match skipSpace s with
    | [] => some d.rows
    | c :: r =>
      if c = '#' ∨ c = '\n' ∨ c = '\r' then (lineEnd? (c :: r)).bind (readLines fuel d)
      else
        match if c = '[' then readHeader d r else readAssignment d (c :: r) with
        | some (d, rest) => readLines fuel d rest
        | none => none

/-- The mark that may stand in front of everything. -/
def orderMark : Char := Char.ofNat 0xFEFF

def read (document : String) : Option Rows :=
  let s := document.toList
  let s := if s.head? = some orderMark then s.drop 1 else s
  readLines (s.length + 1) ⟨[], []⟩ s

end Firewall.Toml
