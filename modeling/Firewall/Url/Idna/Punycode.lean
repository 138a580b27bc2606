/-!
The ASCII form of a label: its ASCII characters, a hyphen, and the others as
variable-length numbers that say how far each lies behind the one before, in
the order of code points and positions.
-/

namespace Firewall.Url.Idna.Punycode

def digitChar (d : Nat) : Char := if d < 26 then Char.ofNat (97 + d) else Char.ofNat (22 + d)

def digitValue? (c : Char) : Option Nat :=
  if 'a' ≤ c ∧ c ≤ 'z' then some (c.toNat - 97)
  else if 'A' ≤ c ∧ c ≤ 'Z' then some (c.toNat - 65)
  else if '0' ≤ c ∧ c ≤ '9' then some (c.toNat - 22)
  else none

/-- The digit weight at a place of a number; a smaller digit ends the number. -/
def threshold (place bias : Nat) : Nat :=
  if place ≤ bias then 1 else if bias + 26 ≤ place then 26 else place - bias

theorem threshold_bounds (place bias : Nat) :
    1 ≤ threshold place bias ∧ threshold place bias ≤ 26 := by
  unfold threshold
  split
  · omega
  · split <;> omega

/-- Divides by 35 until the value is small, and counts 36 for each division. -/
def shrink (delta acc : Nat) : Nat × Nat :=
  if 455 < delta then shrink (delta / 35) (acc + 36) else (delta, acc)
termination_by delta

/-- The bias for the number after `delta`, of which the text then has `points`
characters. -/
def adapt (delta points : Nat) (first : Bool) : Nat :=
  let halved := if first then delta / 700 else delta / 2
  let (small, acc) := shrink (halved + halved / points) 0
  acc + 36 * small / (small + 38)

def digits (bias place value : Nat) : List Char :=
  let t := threshold place bias
  if value < t then [digitChar value]
  else digitChar (t + (value - t) % (36 - t)) :: digits bias (place + 36) ((value - t) / (36 - t))
termination_by value
decreasing_by
  have ht := threshold_bounds place bias
  calc (value - threshold place bias) / (36 - threshold place bias)
      ≤ value - threshold place bias := Nat.div_le_self _ _
    _ < value := by omega

/-- The state between two characters that are not ASCII: the next code point to
look for, the distance gone since the last one, the bias, and how many
characters have been handled. -/
structure Progress where
  delta : Nat
  bias : Nat
  handled : Nat
  written : List Char

/-- Passes over one character of the label while the code point `point` is due. -/
def pass (basic point : Nat) (p : Progress) (c : Char) : Progress :=
  if c.toNat < point then { p with delta := p.delta + 1 }
  else if c.toNat = point then
    { delta := 0
      bias := adapt p.delta (p.handled + 1) (p.handled == basic)
      handled := p.handled + 1
      written := p.written ++ digits p.bias 36 p.delta }
  else p

/-- Writes the characters of the given code points, which are rising; `next` is
the first code point not yet looked at. -/
def writePoints (label : List Char) (basic : Nat) : List Nat → Nat → Progress → Progress
  | [], _, p => p
  | point :: points, next, p =>
    let ahead := { p with delta := p.delta + (point - next) * (p.handled + 1) }
    let passed := label.foldl (pass basic point) ahead
    writePoints label basic points (point + 1) { passed with delta := passed.delta + 1 }

def insertPoint (n : Nat) : List Nat → List Nat
  | [] => [n]
  | m :: r => if n < m then n :: m :: r else if n = m then m :: r else m :: insertPoint n r

/-- The ASCII form of a label, without the mark in front. -/
def encode (label : List Char) : List Char :=
  let basic := label.filter (·.toNat < 0x80)
  let points := (label.filter (0x80 ≤ ·.toNat)).foldl (fun acc c => insertPoint c.toNat acc) []
  let start : Progress := ⟨0, 72, basic.length, basic ++ (if basic.isEmpty then [] else ['-'])⟩
  (writePoints label basic.length points 0x80 start).written

def readNumber (bias place weight acc : Nat) : List Char → Option (Nat × List Char)
  | [] => none
  | c :: r => match digitValue? c with
    | none => none
    | some d =>
      let t := threshold place bias
      if d < t then some (acc + d * weight, r)
      else readNumber bias (place + 36) (weight * (36 - t)) (acc + d * weight) r

theorem readNumber_length {bias place weight acc n : Nat} {s rest : List Char}
    (h : readNumber bias place weight acc s = some (n, rest)) : rest.length < s.length := by
  induction s generalizing place weight acc with
  | nil => simp [readNumber] at h
  | cons c r ih =>
    simp only [readNumber] at h
    split at h
    · simp at h
    · split at h
      · simp at h; simp [h]
      · have := ih h; simp; omega

/-- Reads the characters that are not ASCII and puts each into its place. -/
def readPoints (label : List Nat) (point position bias : Nat) (s : List Char) :
    Option (List Nat) :=
  match s with
  | [] => some label
  | c :: r =>
    match _h : readNumber bias 36 1 0 (c :: r) with
    | none => none
    | some (delta, rest) =>
      let size := label.length + 1
      let total := position + delta
      let next := point + total / size
      let place := total % size
      if 0x10FFFF < next ∨ (0xD800 ≤ next ∧ next < 0xE000) then none
      else
        readPoints (label.take place ++ next :: label.drop place) next (place + 1)
          (adapt delta size (position == 0)) rest
termination_by s.length
decreasing_by exact readNumber_length ‹_›

/-- Splits at the last hyphen into what stands before it and what follows; a
hyphen with nothing before it does not count. -/
def splitLastHyphen (s : List Char) : List Char × List Char :=
  let back := s.reverse.takeWhile (· != '-')
  let before := s.take (s.length - back.length - 1)
  if before.isEmpty then ([], s) else (before, back.reverse)

def decode? (s : List Char) : Option (List Char) :=
  let (basic, rest) := splitLastHyphen s
  if basic.all (·.toNat < 0x80) then
    (readPoints (basic.map Char.toNat) 0x80 0 72 rest).map (·.map Char.ofNat)
  else none

end Firewall.Url.Idna.Punycode
