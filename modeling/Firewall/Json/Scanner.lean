import Firewall.Decimal
import Firewall.Mismatch
import Firewall.Text
import Firewall.Text.Utf8

/-!
The small parts of JSON text: blanks, strings, numbers, and values that are
passed over. Everything works on the bytes that are left, so that a failure can
say how many there were.
-/

namespace Firewall.Json

inductive Cause
  | eofList | eofObject | eofString | eofValue
  | expectedColon | expectedListEnd | expectedObjectEnd | expectedIdent | expectedValue
  | invalidEscape | invalidNumber | numberOutOfRange | controlCharacter
  | keyNotString | loneSurrogate | trailingComma | trailingCharacters | shortHexEscape
  | mismatch (m : Mismatch)
  deriving DecidableEq, Repr

def Cause.message : Cause → String
  | eofList => "EOF while parsing a list"
  | eofObject => "EOF while parsing an object"
  | eofString => "EOF while parsing a string"
  | eofValue => "EOF while parsing a value"
  | expectedColon => "expected `:`"
  | expectedListEnd => "expected `,` or `]`"
  | expectedObjectEnd => "expected `,` or `\x7d`"
  | expectedIdent => "expected ident"
  | expectedValue => "expected value"
  | invalidEscape => "invalid escape"
  | invalidNumber => "invalid number"
  | numberOutOfRange => "number out of range"
  | controlCharacter => "control character (\\u0000-\\u001F) found while parsing a string"
  | keyNotString => "key must be a string"
  | loneSurrogate => "lone leading surrogate in hex escape"
  | trailingComma => "trailing comma"
  | trailingCharacters => "trailing characters"
  | shortHexEscape => "unexpected end of hex escape"
  | mismatch m => m.message

/-- A cause, and the bytes left where it was found. -/
structure Failure where
  cause : Cause
  left : Nat
  deriving DecidableEq, Repr

/-- A step of reading: its result and the bytes behind it. -/
abbrev Reading (α : Type) := Except Failure (α × List UInt8)

def failAt {α : Type} (cause : Cause) (s : List UInt8) : Except Failure α :=
  .error ⟨cause, s.length⟩

/-- Fails at the next byte, as if it had been read. -/
def failOn {α : Type} (cause : Cause) (s : List UInt8) : Except Failure α :=
  .error ⟨cause, s.length - 1⟩

def code (c : Char) : UInt8 := c.toNat.toUInt8

def isBlank (b : UInt8) : Bool :=
  b == code ' ' || b == code '\n' || b == code '\t' || b == code '\r'

def skipBlanks (s : List UInt8) : List UInt8 := s.dropWhile isBlank

def isDigit (b : UInt8) : Bool := code '0' ≤ b && b ≤ code '9'

def hexValue? (b : UInt8) : Option Nat := Text.hexDigit? (Char.ofNat b.toNat)

/-! ## Strings -/

def hexEscape (s : List UInt8) : Reading Nat :=
  match s with
  | a :: b :: c :: d :: r =>
    match hexValue? a, hexValue? b, hexValue? c, hexValue? d with
    | some a, some b, some c, some d => .ok (((a * 16 + b) * 16 + c) * 16 + d, r)
    | _, _, _, _ => failAt .invalidEscape r
  | _ => failAt .eofString []

def codePoint (n : Nat) : List UInt8 := Text.Utf8.encodeChar (Char.ofNat n)

/-- The second half of a character that is written as two numbers. -/
def lowSurrogate (high : Nat) (s : List UInt8) : Reading (List UInt8) :=
  match s with
  | [] => failAt .eofString []
  | a :: r =>
    if a ≠ code '\\' then failAt .shortHexEscape r
    else match r with
      | [] => failAt .eofString []
      | b :: r =>
        if b ≠ code 'u' then failAt .shortHexEscape r
        else match hexEscape r with
          | .error e => .error e
          | .ok (low, r) =>
            if low < 0xDC00 ∨ 0xDFFF < low then failAt .loneSurrogate r
            else .ok (codePoint ((high - 0xD800) * 1024 + (low - 0xDC00) + 0x10000), r)

/-- The byte that an escape of one letter stands for. -/
def plainEscape? (b : UInt8) : Option UInt8 :=
  if b = code '"' ∨ b = code '\\' ∨ b = code '/' then some b
  else if b = code 'b' then some 8
  else if b = code 'f' then some 12
  else if b = code 'n' then some 10
  else if b = code 'r' then some 13
  else if b = code 't' then some 9
  else none

/-- The bytes that an escape stands for, behind its backslash. -/
def escape (s : List UInt8) : Reading (List UInt8) :=
  match s with
  | [] => failAt .eofString []
  | b :: r =>
    if b = code 'u' then
      match hexEscape r with
      | .error e => .error e
      | .ok (n, r) =>
        if 0xDC00 ≤ n ∧ n ≤ 0xDFFF then failAt .loneSurrogate r
        else if 0xD800 ≤ n ∧ n ≤ 0xDBFF then lowSurrogate n r
        else .ok (codePoint n, r)
    else match plainEscape? b with
      | some c => .ok ([c], r)
      | none => failAt .invalidEscape r

def skipEscape (s : List UInt8) : Reading Unit :=
  match s with
  | [] => failAt .eofString []
  | b :: r =>
    if b = code 'u' then (hexEscape r).map fun (_, r) => ((), r)
    else if (plainEscape? b).isSome then .ok ((), r)
    else failAt .invalidEscape r

theorem hexEscape_length {s r : List UInt8} {n : Nat} (h : hexEscape s = .ok (n, r)) :
    r.length < s.length := by
  unfold hexEscape at h
  split at h
  · split at h
    · simp only [Except.ok.injEq, Prod.mk.injEq] at h
      simp only [← h.2, List.length_cons]
      omega
    · simp [failAt] at h
  · simp [failAt] at h

theorem escape_length {s r bs : List UInt8} (h : escape s = .ok (bs, r)) :
    r.length < s.length := by
  unfold escape at h
  split at h
  · simp [failAt] at h
  · split at h
    · split at h
      · simp at h
      · next hx =>
        have h1 := hexEscape_length hx
        split at h
        · simp [failAt] at h
        · split at h
          · unfold lowSurrogate at h
            split at h
            · simp [failAt] at h
            · split at h
              · simp [failAt] at h
              · split at h
                · simp [failAt] at h
                · split at h
                  · simp [failAt] at h
                  · split at h
                    · simp at h
                    · next hy =>
                      have h2 := hexEscape_length hy
                      split at h
                      · simp [failAt] at h
                      · simp only [Except.ok.injEq, Prod.mk.injEq] at h
                        obtain ⟨_, rfl⟩ := h
                        simp only [List.length_cons] at *
                        omega
          · simp only [Except.ok.injEq, Prod.mk.injEq] at h
            obtain ⟨_, rfl⟩ := h
            simp only [List.length_cons]
            omega
    · split at h
      · simp at h
        simp [h]
      · simp [failAt] at h

theorem skipEscape_length {s r : List UInt8} {u : Unit} (h : skipEscape s = .ok (u, r)) :
    r.length < s.length := by
  unfold skipEscape at h
  split at h
  · simp [failAt] at h
  · split at h
    · next x r' _ =>
      cases hx : hexEscape r' with
      | error e => simp [hx, Except.map] at h
      | ok p =>
        obtain ⟨n, t⟩ := p
        have := hexEscape_length hx
        simp only [hx, Except.map, Except.ok.injEq, Prod.mk.injEq] at h
        obtain ⟨_, rfl⟩ := h
        simp only [List.length_cons]
        omega
    · split at h
      · simp at h; simp [h]
      · simp [failAt] at h

/-- Reads a string behind its opening quotation mark; `before` are its bytes so
far, the last one first. -/
def readString (before s : List UInt8) : Reading (List UInt8) :=
  match s with
  | [] => failAt .eofString []
  | b :: r =>
    if b = code '"' then .ok (before.reverse, r)
    else if b = code '\\' then
      match _h : escape r with
      | .error e => .error e
      | .ok (bs, rest) => readString (bs.reverse ++ before) rest
    else if b < 0x20 then failAt .controlCharacter r
    else readString (b :: before) r
termination_by s.length
decreasing_by
  · have := escape_length ‹_›
    simp only [List.length_cons]
    omega
  · simp

def skipString (s : List UInt8) : Reading Unit :=
  match s with
  | [] => failAt .eofString []
  | b :: r =>
    if b = code '"' then .ok ((), r)
    else if b = code '\\' then
      match _h : skipEscape r with
      | .error e => .error e
      | .ok (_, rest) => skipString rest
    else if b < 0x20 then failAt .controlCharacter (b :: r)
    else skipString r
termination_by s.length
decreasing_by
  · have := skipEscape_length ‹_›
    simp only [List.length_cons]
    omega
  · simp

/-- The text of bytes that came from a text. -/
def textOf (bs : List UInt8) : String := String.ofList ((Text.Utf8.decode? bs).getD [])

/-! ## Words and numbers -/

def readWord (word : List Char) (s : List UInt8) : Reading Unit :=
  match word, s with
  | [], s => .ok ((), s)
  | _ :: _, [] => failAt .eofValue []
  | c :: cs, b :: r => if b = code c then readWord cs r else failAt .expectedIdent r

/-- A number as it is read: whole numbers stay whole as long as they fit. -/
inductive Number
  | whole (n : Int)
  | float (x : Float)

def Number.found : Number → Found
  | whole n => .integer n
  | float x => .float (Decimal.compact x)

/-- Adds digits to a whole number as long as it fits into 64 bits. Gives how
many digits were added and how many were left over. -/
def absorb (n : Nat) : List UInt8 → Nat × Nat × Nat
  | [] => (n, 0, 0)
  | d :: ds =>
    let next := n * 10 + (d.toNat - 48)
    if next < UInt64.size then
      let (n, added, dropped) := absorb next ds
      (n, added + 1, dropped)
    else (n, 0, ds.length + 1)

def powerOfTen (k : Nat) : Float := Float.ofScientific 1 false k

/-- Multiplies by a negative power of ten in steps that a float can hold. -/
def shrink : Nat → Float → Nat → Float
  | 0, x, _ => x
  | fuel + 1, x, k =>
    if k ≤ 308 then x / powerOfTen k
    else if x == 0 then x
    else shrink fuel (x / powerOfTen 308) (k - 308)

/-- The number `n · 10 ^ k`, unless it is too large; `s` are the bytes behind it. -/
def assemble (positive : Bool) (n : Nat) (k : Int) (s : List UInt8) : Reading Number :=
  let x := (UInt64.ofNat n).toFloat
  let signed (x : Float) : Reading Number := .ok (.float (if positive then x else -x), s)
  if 0 ≤ k then
    if k ≤ 308 then
      let y := x * powerOfTen k.toNat
      if y.isInf then failAt .numberOutOfRange s else signed y
    else if n = 0 then signed x
    else failAt .numberOutOfRange s
  else signed (shrink ((-k).toNat / 308 + 2) x (-k).toNat)

/-- The largest exponent that is counted out. -/
def mostExponent : Nat := 0x7FFFFFFF

def readExponent (positive : Bool) (n : Nat) (k : Int) (s : List UInt8) : Reading Number :=
  let (up, s) := match s with
    | b :: r => if b = code '+' then (true, r) else if b = code '-' then (false, r) else (true, s)
    | [] => (true, s)
  match s with
  | [] => failAt .eofValue []
  | b :: r =>
    if !isDigit b then failAt .invalidNumber r
    else
      let digits := s.takeWhile isDigit
      let rest := s.dropWhile isDigit
      let fitting := (List.range (digits.length + 1)).filter fun i =>
        (digits.take i).foldl (fun acc d => acc * 10 + (d.toNat - 48)) 0 ≤ mostExponent
      let taken := fitting.length - 1
      if taken < digits.length then
        if n ≠ 0 && up then failAt .numberOutOfRange (s.drop (taken + 1))
        else .ok (.float (if positive then 0 else -0.0), rest)
      else
        let e : Nat := digits.foldl (fun acc d => acc * 10 + (d.toNat - 48)) 0
        assemble positive n (if up then k + (e : Int) else k - (e : Int)) rest

/-- Goes on behind the digits of a number: with an exponent, or at its end. -/
def finishNumber (positive : Bool) (n : Nat) (k : Int) (s : List UInt8) : Reading Number :=
  match s with
  | b :: r =>
    if b = code 'e' ∨ b = code 'E' then readExponent positive n k r
    else assemble positive n k s
  | [] => assemble positive n k s

def readFraction (positive : Bool) (n : Nat) (k : Int) (s : List UInt8) : Reading Number :=
  let digits := s.takeWhile isDigit
  let rest := s.dropWhile isDigit
  if digits.isEmpty then
    if rest.isEmpty then failOn .eofValue rest else failOn .invalidNumber rest
  else
    let (m, added, _) := absorb n digits
    finishNumber positive m (k - added) rest

/-- A number without fraction and exponent; minus zero is a float. -/
def wholeNumber (positive : Bool) (n : Nat) : Number :=
  if positive then .whole n
  else if n = 0 ∨ 0x8000000000000000 < n then .float (-(UInt64.ofNat n).toFloat)
  else .whole (-(n : Int))

def readNumber (positive : Bool) (s : List UInt8) : Reading Number :=
  match s with
  | [] => failAt .eofValue []
  | b :: r =>
    if !isDigit b then failAt .invalidNumber r
    else if b = code '0' ∧ (r.head?.map isDigit).getD false then failOn .invalidNumber r
    else
      let (n, _, dropped) := absorb 0 (s.takeWhile isDigit)
      match s.dropWhile isDigit with
      | c :: t =>
        if c = code '.' then readFraction positive n dropped t
        else if dropped ≠ 0 ∨ c = code 'e' ∨ c = code 'E' then
          finishNumber positive n dropped (c :: t)
        else .ok (wholeNumber positive n, c :: t)
      | [] =>
        if dropped ≠ 0 then finishNumber positive n dropped []
        else .ok (wholeNumber positive n, [])

def skipExponent (s : List UInt8) : Reading Unit :=
  let s := match s with
    | b :: r => if b = code '+' ∨ b = code '-' then r else s
    | [] => s
  match s with
  | [] => failAt .invalidNumber []
  | b :: r => if isDigit b then .ok ((), r.dropWhile isDigit) else failAt .invalidNumber r

def skipNumber (s : List UInt8) : Reading Unit :=
  let afterDigits (s : List UInt8) : Reading Unit :=
    match s with
    | b :: r =>
      if b = code '.' then
        let rest := r.dropWhile isDigit
        if rest.length = r.length then failOn .invalidNumber rest
        else match rest with
          | c :: t => if c = code 'e' ∨ c = code 'E' then skipExponent t else .ok ((), rest)
          | [] => .ok ((), rest)
      else if b = code 'e' ∨ b = code 'E' then skipExponent r
      else .ok ((), s)
    | [] => .ok ((), s)
  match s with
  | [] => failAt .invalidNumber []
  | b :: r =>
    if b = code '0' then
      if (r.head?.map isDigit).getD false then failOn .invalidNumber r else afterDigits r
    else if isDigit b then afterDigits (r.dropWhile isDigit)
    else failAt .invalidNumber r

/-! ## Passing over values -/

/-- The containers that a position is inside of. -/
inductive Frame
  | list
  | object
  deriving DecidableEq, Repr

def skipKey (s : List UInt8) : Reading Unit :=
  match skipBlanks s with
  | [] => failOn .eofObject []
  | b :: r =>
    if b ≠ code '"' then failOn .keyNotString (b :: r)
    else match skipString r with
      | .error e => .error e
      | .ok (_, r) => match skipBlanks r with
        | [] => failOn .eofObject []
        | c :: t => if c = code ':' then .ok ((), t) else failOn .expectedColon (c :: t)

/-- Goes on behind a value (`first` is false) or behind the opening of a
container: closes containers up to a comma or a first element, and gives the
containers that are still open. -/
def closeFrames (first : Bool) (frames : List Frame) (s : List UInt8) : Reading (List Frame) :=
  match frames with
  | [] => .ok ([], s)
  | f :: fs =>
    match skipBlanks s with
    | [] => failOn (if f = .list then .eofList else .eofObject) []
    | b :: r =>
      if b = code ',' ∧ !first then .ok (f :: fs, r)
      else if b = (if f = .list then code ']' else code '\x7d') then closeFrames false fs r
      else if first then .ok (f :: fs, b :: r)
      else failOn (if f = .list then .expectedListEnd else .expectedObjectEnd) (b :: r)

/-- Passes over one value, which may hold others; every round takes at least one
byte. -/
def skipValueIn : Nat → List Frame → List UInt8 → Reading Unit
  | 0, _, s => failOn .eofValue s
  | fuel + 1, frames, s =>
    let goOn (first : Bool) (frames : List Frame) (s : List UInt8) : Reading Unit :=
      match closeFrames first frames s with
      | .error e => .error e
      | .ok ([], s) => .ok ((), s)
      | .ok (.list :: fs, s) => skipValueIn fuel (.list :: fs) s
      | .ok (.object :: fs, s) => match skipKey s with
        | .error e => .error e
        | .ok (_, s) => skipValueIn fuel (.object :: fs) s
    let behind (r : Reading Unit) : Reading Unit :=
      match r with
      | .error e => .error e
      | .ok (_, s) => goOn false frames s
    match skipBlanks s with
    | [] => failOn .eofValue []
    | b :: r =>
      if b = code 'n' then behind (readWord "ull".toList r)
      else if b = code 't' then behind (readWord "rue".toList r)
      else if b = code 'f' then behind (readWord "alse".toList r)
      else if b = code '-' then behind (skipNumber r)
      else if isDigit b then behind (skipNumber (b :: r))
      else if b = code '"' then behind (skipString r)
      else if b = code '[' then goOn true (.list :: frames) r
      else if b = code '\x7b' then goOn true (.object :: frames) r
      else failOn .expectedValue (b :: r)

def skipValue (s : List UInt8) : Reading Unit := skipValueIn (s.length + 1) [] s

end Firewall.Json
