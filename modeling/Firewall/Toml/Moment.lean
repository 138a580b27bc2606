import Firewall.Text

/-!
Dates and times in TOML, such as `1979-05-27T07:32:00.5-07:00`: which texts are
some. Nothing is computed with them.
-/

namespace Firewall.Toml

open Text

/-- A number of exactly so many digits at the front of a text. -/
def field? (width : Nat) (s : List Char) : Option (Nat × List Char) :=
  if s.length < width then none
  else (decimal? (s.take width)).map fun n => (n, s.drop width)

def daysIn (year month : Nat) : Nat :=
  match month with
  | 2 => if year % 4 = 0 ∧ (year % 100 ≠ 0 ∨ year % 400 = 0) then 29 else 28
  | 4 | 6 | 9 | 11 => 30
  | _ => 31

def afterDate? (s : List Char) : Option (List Char) := do
  let (year, s) ← field? 4 s
  let (month, s) ← field? 2 (← after? ['-'] s)
  let (day, s) ← field? 2 (← after? ['-'] s)
  if 1 ≤ month ∧ month ≤ 12 ∧ 1 ≤ day ∧ day ≤ daysIn year month then some s else none

/-- What follows the fraction of a second, which may be missing. -/
def afterFraction? (s : List Char) : Option (List Char) :=
  match s with
  | '.' :: r =>
    let rest := r.dropWhile isAsciiDigit
    if rest.length = r.length then none else some rest
  | _ => some s

def afterTime? (s : List Char) : Option (List Char) := do
  let (hour, s) ← field? 2 s
  let (minute, s) ← field? 2 (← after? [':'] s)
  let (second, s) ← field? 2 (← after? [':'] s)
  let s ← afterFraction? s
  if hour ≤ 23 ∧ minute ≤ 59 ∧ second ≤ 60 then some s else none

/-- What follows an offset from universal time, which may be missing. -/
def afterOffset? (s : List Char) : Option (List Char) := do
  match s with
  | c :: r =>
    if c = 'Z' ∨ c = 'z' then some r
    else if c = '+' ∨ c = '-' then
      let (hour, r) ← field? 2 r
      let (minute, r) ← field? 2 (← after? [':'] r)
      if hour ≤ 23 ∧ minute ≤ 59 then some r else none
    else some s
  | [] => some []

def isTimeWithOffset (s : List Char) : Bool :=
  ((afterTime? s).bind afterOffset?).any List.isEmpty

def isDate (s : List Char) : Bool := (afterDate? s).any List.isEmpty

/-- Whether a text is a date, a time, or both with a `T` between them. -/
def isMoment (s : List Char) : Bool :=
  (afterTime? s).any List.isEmpty ||
    match afterDate? s with
    | some [] => true
    | some (c :: r) => (c == 'T' || c == 't') && isTimeWithOffset r
    | none => false

end Firewall.Toml
