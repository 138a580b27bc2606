import Firewall.Url.Idna.Table

/-!
Canonical composition of characters: every character taken apart, the marks put
into the order of their classes, and everything put together again.
-/

namespace Firewall.Url.Idna

open Text

/-- The combining class of a code point, zero for most. -/
def combiningClass (n : Nat) : Nat := classes.getD n 0

/-- The parts of a Korean syllable. -/
def hangulParts (n : Nat) : List Nat :=
  let i := n - 0xAC00
  let leading := 0x1100 + i / 588
  let vowel := 0x1161 + i % 588 / 28
  if i % 28 = 0 then [leading, vowel] else [leading, vowel, 0x11A7 + i % 28]

/-- Takes a character apart, as many levels deep as `depth` says. -/
def decompose : Nat → Nat → List Nat
  | 0, n => [n]
  | depth + 1, n =>
    if 0xAC00 ≤ n ∧ n ≤ 0xD7A3 then hangulParts n
    else match decompositions[n]? with
      | some parts => parts.flatMap (decompose depth)
      | none => [n]

/-- No character of the tables decomposes in more steps. -/
def decompositionDepth : Nat := 6

/-- Inserts a mark behind all marks of its class or a lower one. -/
def insertMark (n : Nat) : List Nat → List Nat
  | [] => [n]
  | m :: r =>
    if combiningClass n < combiningClass m then n :: m :: r else m :: insertMark n r

/-- Orders each stretch of marks by class; `run` is the ordered stretch before
the present character. -/
def orderMarks (run : List Nat) : List Nat → List Nat
  | [] => run
  | n :: r =>
    if combiningClass n = 0 then run ++ n :: orderMarks [] r
    else orderMarks (insertMark n run) r

def composePair? (a b : Nat) : Option Nat :=
  if 0x1100 ≤ a ∧ a < 0x1113 ∧ 0x1161 ≤ b ∧ b < 0x1176 then
    some (0xAC00 + ((a - 0x1100) * 21 + (b - 0x1161)) * 28)
  else if 0xAC00 ≤ a ∧ a ≤ 0xD7A3 ∧ (a - 0xAC00) % 28 = 0 ∧ 0x11A7 < b ∧ b < 0x11C3 then
    some (a + (b - 0x11A7))
  else compositions[(a, b)]?

/-- Composes what follows a base character `base`. `between` are the characters
since then that could not be joined to it, last one first; the class of the last
of them says whether a further one is blocked. -/
def composeFrom (base : Nat) (between : List Nat) : List Nat → List Nat
  | [] => base :: between.reverse
  | n :: r =>
    let k := combiningClass n
    let blocked := match between with
      | [] => false
      | m :: _ => combiningClass m = 0 || k ≤ combiningClass m
    match if blocked then none else composePair? base n with
    | some c => composeFrom c between r
    | none =>
      if k = 0 then base :: (between.reverse ++ composeFrom n [] r)
      else composeFrom base (n :: between) r

/-- Composes a sequence in canonical order; marks in front of every base stay. -/
def compose : List Nat → List Nat
  | [] => []
  | n :: r => if combiningClass n = 0 then composeFrom n [] r else n :: compose r

def normalize (s : List Nat) : List Nat :=
  compose (orderMarks [] (s.flatMap (decompose decompositionDepth)))

end Firewall.Url.Idna
