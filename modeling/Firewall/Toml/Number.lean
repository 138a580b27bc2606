import Firewall.Text
import Firewall.Toml.Item

/-!
Numbers and words in TOML that stand without quotes. Digits may be parted by
underscores; whole numbers have 64 bits, and other numbers must not be too large.
-/

namespace Firewall.Toml

open Text

/-- Digits without the underscores between them; there is none at either end and
there are no two in a row. -/
def digits? (isDigit : Char → Bool) (s : List Char) : Option (List Char) :=
  let groups := pieces '_' s
  if groups.all fun g => !g.isEmpty && g.all isDigit then some groups.flatten else none

/-- A number in decimal digits that does not begin with a needless zero. -/
def decimalDigits? (s : List Char) : Option (List Char) :=
  if s.head? = some '0' ∧ s ≠ ['0'] then none else digits? isAsciiDigit s

/-- Takes off a sign; the flag says whether it was a minus. -/
def unsigned : List Char → Bool × List Char
  | '+' :: r => (false, r)
  | '-' :: r => (true, r)
  | s => (false, s)

/-- The number of whole numbers of 64 bits without a minus. -/
def halfRange : Nat := 0x8000000000000000

def basedInteger? (base : Nat) (s : List Char) : Option Int :=
  let digit (c : Char) : Option Nat := (hexDigit? c).filter (· < base)
  match (digits? (fun c => (digit c).isSome) s).bind (numeralFrom base digit 0) with
  | some n => if n < halfRange then some n else none
  | none => none

def integer? (s : List Char) : Option Int :=
  match s with
  | '0' :: 'x' :: r => basedInteger? 16 r
  | '0' :: 'o' :: r => basedInteger? 8 r
  | '0' :: 'b' :: r => basedInteger? 2 r
  | _ =>
    let (negative, body) := unsigned s
    match (decimalDigits? body).bind decimal? with
    | some n =>
      if negative then (if n ≤ halfRange then some (-(n : Int)) else none)
      else if n < halfRange then some n
      else none
    | none => none

/-- Whether `n · 10 ^ k` is rounded to infinity: it lies at least half a step
above the largest float. -/
def isHuge (n : Nat) (k : Int) : Bool :=
  let limit := Nat.pow 2 1024 - Nat.pow 2 970
  let length : Int := (Nat.toDigits 10 n).length
  if n = 0 ∨ length + k < 300 then false
  else if 320 < length + k then true
  else if 0 ≤ k then limit ≤ n * Nat.pow 10 k.toNat
  else limit * Nat.pow 10 (-k).toNat ≤ n

/-- The parts of a number with a point or an exponent: its digits in front of the
point, those behind it, and its exponent. -/
def floatParts? (s : List Char) : Option (List Char × List Char × Int) := do
  let isExponent (c : Char) : Bool := c == 'e' || c == 'E'
  let front := s.takeWhile fun c => !isExponent c
  let exponent ← match s.drop front.length with
    | [] => some (0 : Int)
    | _ :: r =>
      let (negative, body) := unsigned r
      match (digits? isAsciiDigit body).bind decimal? with
      | some n => some (if negative then -(n : Int) else n)
      | none => none
  match cut? '.' front with
  | some (whole, fraction) =>
    return (← decimalDigits? whole, ← digits? isAsciiDigit fraction, exponent)
  | none =>
    if front.length = s.length then none
    else return (← decimalDigits? front, [], exponent)

/-- Whether a text is a number other than a whole one. -/
def isFloat (s : List Char) : Bool :=
  let (negative, body) := unsigned s
  if body = "inf".toList ∨ body = "nan".toList then true
  else match floatParts? body with
    | some (whole, fraction, exponent) =>
      match decimal? (whole ++ fraction) with
      | some n => negative || !isHuge n (exponent - fraction.length)
      | none => false
    | none => false

end Firewall.Toml
