import Firewall.Text

/-!
Binary floating point numbers in decimal: the fewest digits that read back as
the same number, and of those the nearest ones. `plain` writes them without an
exponent, `compact` with one where the number is very large or very small.
-/

namespace Firewall.Decimal

/-- A positive number `mantissa · 2 ^ exponent`, and whether the gap to the
number below it is half as wide as the gap to the number above. -/
structure Binary where
  mantissa : Nat
  exponent : Int
  narrowBelow : Bool
  deriving DecidableEq, Repr

/-- The number with the given bits, if it is positive and finite. -/
def Binary.ofBits? (bits : Nat) : Option Binary :=
  let field : Nat := bits >>> 52 % 2048
  let fraction : Nat := bits % 0x10000000000000
  if field = 2047 then none
  else if field = 0 then
    if fraction = 0 then none else some ⟨fraction, -1074, false⟩
  else some ⟨0x10000000000000 + fraction, (field : Int) - 1075, fraction == 0 && 1 < field⟩

structure Ratio where
  num : Nat
  den : Nat
  deriving DecidableEq, Repr

/-- `n · base ^ k`. -/
def Ratio.scaled (base n : Nat) (k : Int) : Ratio :=
  if 0 ≤ k then ⟨n * Nat.pow base k.toNat, 1⟩ else ⟨n, Nat.pow base (-k).toNat⟩

def Ratio.lt (a b : Ratio) : Bool := a.num * b.den < b.num * a.den

/-- Whether `x` reads back as the number: it lies nearer to it than to its
neighbours, or just between when the mantissa is even. -/
def Binary.covers (b : Binary) (x : Ratio) : Bool :=
  let low := Ratio.scaled 2 (4 * b.mantissa - (if b.narrowBelow then 1 else 2)) (b.exponent - 2)
  let high := Ratio.scaled 2 (4 * b.mantissa + 2) (b.exponent - 2)
  if b.mantissa % 2 = 0 then !x.lt low && !high.lt x else low.lt x && x.lt high

/-- The distance of two fractions, times the product of their denominators. -/
def Ratio.spread (a b : Ratio) : Nat :=
  let x := a.num * b.den
  let y := b.num * a.den
  (x - y) + (y - x)

/-- The exponent of the leading decimal digit of a fraction, found by trying at
most `fuel` exponents upwards from a low one. -/
def leadingExponent (v : Ratio) : Nat → Int → Int
  | 0, k => k
  | fuel + 1, k => if v.lt (Ratio.scaled 10 1 (k + 1)) then k else leadingExponent v fuel (k + 1)

/-- The digits `c` on the grid of `10 ^ k` that read back, nearest to the value. -/
def onGrid? (b : Binary) (k : Int) : Option Nat :=
  let value := Ratio.scaled 2 b.mantissa b.exponent
  let unit := Ratio.scaled 10 1 k
  let below := value.num * unit.den / (value.den * unit.num)
  let reads (c : Nat) : Bool := c != 0 && b.covers (Ratio.scaled 10 c k)
  let near (c : Nat) : Nat := (Ratio.scaled 10 c k).spread value
  match reads below, reads (below + 1) with
  | true, true =>
    if near below < near (below + 1) ∨
        (near below = near (below + 1) ∧ below % 2 = 0) then some below
    else some (below + 1)
  | true, false => some below
  | false, true => some (below + 1)
  | false, false => none

/-- The coarsest grid on which the number has digits, from `k` down to finer ones. -/
def coarsest (b : Binary) : Nat → Int → Nat × Int
  | 0, k => (0, k)
  | fuel + 1, k => match onGrid? b k with
    | some c => (c, k)
    | none => coarsest b fuel (k - 1)

/-- The fewest digits that read back, and the exponent of the last of them. -/
def shortest (b : Binary) : Nat × Int :=
  let value := Ratio.scaled 2 b.mantissa b.exponent
  coarsest b 18 (leadingExponent value 700 (-330) + 1)

/-- Digits and the exponent of the last one, written with a point and at least
one digit on both sides of it. -/
def positional (digits : Nat) (k : Int) : String :=
  let ds := (toString digits).toList
  if 0 ≤ k then String.ofList (ds ++ List.replicate k.toNat '0') ++ ".0"
  else
    let places := (-k).toNat
    let padded := Text.padZeros (places + 1) ds
    String.ofList (padded.take (padded.length - places)) ++ "." ++
      String.ofList (padded.drop (padded.length - places))

/-- Digits and the exponent of the last one, with an exponent outside the
numbers from a hundred-thousandth to ten thousand million million. -/
def abridged (digits : Nat) (k : Int) : String :=
  let ds := (toString digits).toList
  let lead : Int := ds.length + k
  if -5 < lead ∧ lead ≤ 16 then positional digits k
  else
    let fraction := if ds.length = 1 then [] else '.' :: ds.drop 1
    String.ofList (ds.take 1 ++ fraction) ++ "e" ++ toString (lead - 1)

def signBit : Nat := 0x8000000000000000

/-- A number, with `write` for the digits of its absolute value. -/
def renderWith (write : Nat → Int → String) (x : Float) : String :=
  if x.isNaN then "NaN"
  else
    let bits := x.toBits.toNat
    let sign := if signBit ≤ bits then "-" else ""
    match Binary.ofBits? (bits % signBit) with
    | some b => let (digits, k) := shortest b; sign ++ write digits k
    | none => if bits % signBit = 0 then sign ++ "0.0" else sign ++ "inf"

/-- A number without an exponent. -/
def plain (x : Float) : String := renderWith positional x

/-- A number with an exponent where it is very large or very small. -/
def compact (x : Float) : String := renderWith abridged x

end Firewall.Decimal
