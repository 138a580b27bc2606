import Firewall.Text

/-!
Texts in TOML: between quotation marks, with escapes, or between apostrophes, as
they stand; between three of either on several lines.
-/

namespace Firewall.Toml

def mark : Char := '"'

def tick : Char := '\''

def isSpace (c : Char) : Bool := c == ' ' || c == '\t'

def skipSpace (s : List Char) : List Char := s.dropWhile isSpace

/-- Whether a character may stand for itself in a comment, and in a text if it
does not end the text or begin an escape. -/
def isPlain (c : Char) : Bool := c == '\t' || (0x20 ≤ c.toNat && c.toNat ≠ 0x7F)

def newline? : List Char → Option (List Char)
  | '\n' :: r => some r
  | '\r' :: '\n' :: r => some r
  | _ => none

theorem newline?_length {s r : List Char} (h : newline? s = some r) : r.length < s.length := by
  unfold newline? at h
  split at h
  · obtain rfl := Option.some.inj h
    simp
  · obtain rfl := Option.some.inj h
    simp only [List.length_cons]
    omega
  · cases h

def letterEscape? (c : Char) : Option Char :=
  if c = 'b' then some (Char.ofNat 8)
  else if c = 't' then some '\t'
  else if c = 'n' then some '\n'
  else if c = 'f' then some (Char.ofNat 12)
  else if c = 'r' then some '\r'
  else if c = mark ∨ c = '\\' then some c
  else none

def character? (n : Nat) : Option Char :=
  if n < 0xD800 ∨ (0xE000 ≤ n ∧ n < 0x110000) then some (Char.ofNat n) else none

/-- The character of a number in so many hexadecimal digits. -/
def numberEscape? (digits : Nat) (s : List Char) : Option (Char × List Char) :=
  if s.length < digits then none
  else match (Text.hexadecimal? (s.take digits)).bind character? with
    | some c => some (c, s.drop digits)
    | none => none

/-- The character of an escape, behind its backslash. -/
def escape? : List Char → Option (Char × List Char)
  | [] => none
  | c :: r =>
    if c = 'u' then numberEscape? 4 r
    else if c = 'U' then numberEscape? 8 r
    else (letterEscape? c).map fun x => (x, r)

theorem escape?_length {s r : List Char} {c : Char} (h : escape? s = some (c, r)) :
    r.length < s.length := by
  have number : ∀ {n : Nat} {t : List Char}, numberEscape? n t = some (c, r) →
      r.length ≤ t.length := by
    intro n t ht
    unfold numberEscape? at ht
    split at ht
    · simp at ht
    · split at ht
      · simp only [Option.some.injEq, Prod.mk.injEq] at ht
        simp [← ht.2]
      · simp at ht
  cases s with
  | nil => simp [escape?] at h
  | cons d t =>
    simp only [escape?] at h
    split at h
    · have := number h; simp; omega
    · split at h
      · have := number h; simp; omega
      · simp only [Option.map_eq_some_iff, Prod.mk.injEq] at h
        obtain ⟨_, _, _, rfl⟩ := h
        simp

/-- Reads a text on one line, behind its quotation mark. -/
def readBasic (s : List Char) : Option (List Char × List Char) :=
  match s with
  | [] => none
  | c :: r =>
    if c = mark then some ([], r)
    else if c = '\\' then
      match _h : escape? r with
      | none => none
      | some (x, rest) => (readBasic rest).map fun (xs, rest) => (x :: xs, rest)
    else if isPlain c then (readBasic r).map fun (xs, rest) => (c :: xs, rest)
    else none
termination_by s.length
decreasing_by
  · have := escape?_length ‹_›
    simp only [List.length_cons]
    omega
  · simp

/-- Reads a text on one line, behind its apostrophe. -/
def readLiteral : List Char → Option (List Char × List Char)
  | [] => none
  | c :: r =>
    if c = tick then some ([], r)
    else if isPlain c then (readLiteral r).map fun (xs, rest) => (c :: xs, rest)
    else none

def skipLines (s : List Char) : List Char :=
  match s with
  | [] => []
  | c :: r =>
    if isSpace c || c == '\n' then skipLines r
    else match _h : newline? (c :: r) with
      | some rest => skipLines rest
      | none => c :: r
termination_by s.length
decreasing_by
  · simp
  · have := newline?_length ‹_›
    simp only [List.length_cons] at *
    omega

theorem length_skipLines_le (s : List Char) : (skipLines s).length ≤ s.length := by
  fun_induction skipLines s with
  | case1 => simp
  | case2 c r _ ih => simp only [List.length_cons]; omega
  | case3 c r _ rest h ih =>
    have := newline?_length h
    omega
  | case4 => simp

/-- What follows a line break that a backslash takes away, with the blanks
around it. -/
def joinedLine? (s : List Char) : Option (List Char) := (newline? (skipSpace s)).map skipLines

theorem joinedLine?_length {s r : List Char} (h : joinedLine? s = some r) :
    r.length < s.length := by
  simp only [joinedLine?, Option.map_eq_some_iff] at h
  obtain ⟨t, ht, rfl⟩ := h
  have h1 := newline?_length ht
  have h2 := length_skipLines_le t
  have h3 : (skipSpace s).length ≤ s.length := (List.dropWhile_sublist _).length_le
  omega

def runLength (c : Char) : List Char → Nat
  | [] => 0
  | d :: r => if d = c then runLength c r + 1 else 0

/-- Reads a text on several lines that three of its quotes end; up to two more in
front of those belong to the text. Backslashes are escapes only if that is said. -/
def readLong (quote : Char) (escapes : Bool) (s : List Char) : Option (List Char × List Char) :=
  match s with
  | [] => none
  | c :: r =>
    if c = quote then
      let run := runLength quote (c :: r)
      if run < 3 then (readLong quote escapes r).map fun (xs, rest) => (c :: xs, rest)
      else some (List.replicate (min (run - 3) 2) quote, (c :: r).drop (min run 5))
    else if c = '\\' ∧ escapes then
      match _h : joinedLine? r with
      | some rest => readLong quote escapes rest
      | none =>
        match _h : escape? r with
        | none => none
        | some (x, rest) => (readLong quote escapes rest).map fun (xs, rest) => (x :: xs, rest)
    else match _h : newline? (c :: r) with
      | some rest => (readLong quote escapes rest).map fun (xs, rest) => ('\n' :: xs, rest)
      | none =>
        if isPlain c then (readLong quote escapes r).map fun (xs, rest) => (c :: xs, rest)
        else none
termination_by s.length
decreasing_by
  · simp
  · have := joinedLine?_length ‹_›
    simp only [List.length_cons]
    omega
  · have := escape?_length ‹_›
    simp only [List.length_cons]
    omega
  · exact newline?_length ‹_›
  · simp

/-- The front of a text on several lines, where a line break does not count. -/
def skipFirstBreak (s : List Char) : List Char := (newline? s).getD s

def readText (s : List Char) : Option (List Char × List Char) :=
  match s with
  | [] => none
  | c :: r =>
    if c = mark then
      match Text.after? [mark, mark] r with
      | some rest => readLong mark true (skipFirstBreak rest)
      | none => readBasic r
    else if c = tick then
      match Text.after? [tick, tick] r with
      | some rest => readLong tick false (skipFirstBreak rest)
      | none => readLiteral r
    else none

end Firewall.Toml
