/-!
Words over characters: white space, trimming, splitting at a separator, and
search. Everything here works on character lists; the rest of the library turns
a string into its characters at its own boundary.
-/

namespace Firewall.Text

/-- The characters with the Unicode property White_Space. -/
def isBlank (c : Char) : Bool :=
  let n := c.toNat
  (9 ≤ n && n ≤ 13) || n == 0x20 || n == 0x85 || n == 0xA0 || n == 0x1680 ||
    (0x2000 ≤ n && n ≤ 0x200A) || n == 0x2028 || n == 0x2029 || n == 0x202F ||
    n == 0x205F || n == 0x3000

def trimStart (s : List Char) : List Char := s.dropWhile isBlank

def trimEnd (s : List Char) : List Char := (s.reverse.dropWhile isBlank).reverse

def trim (s : List Char) : List Char := trimEnd (trimStart s)

/-- The pieces between separators; there is always one more piece than
separators, so the empty text is one empty piece. -/
def pieces (sep : Char) : List Char → List (List Char)
  | [] => [[]]
  | c :: r =>
    if c = sep then [] :: pieces sep r
    else match pieces sep r with
      | [] => [[c]]
      | p :: ps => (c :: p) :: ps

/-- What follows `lead` in a text that begins with it. -/
def after? : List Char → List Char → Option (List Char)
  | [], s => some s
  | _ :: _, [] => none
  | l :: ls, c :: r => if l = c then after? ls r else none

def occurs (part : List Char) : List Char → Bool
  | [] => part.isEmpty
  | c :: r => (after? part (c :: r)).isSome || occurs part r

/-- Splits at the first occurrence of `sep`, which belongs to neither side. -/
def cut? (sep : Char) : List Char → Option (List Char × List Char)
  | [] => none
  | c :: r => if c = sep then some ([], r) else (cut? sep r).map fun (a, b) => (c :: a, b)

/-- Replaces every occurrence of a non-empty `part`, from left to right and
without overlaps. The number counts characters of a match still to be passed over. -/
def replaceFrom (part new : List Char) : Nat → List Char → List Char
  | _, [] => []
  | skip + 1, _ :: r => replaceFrom part new skip r
  | 0, c :: r =>
    match part with
    | [] => c :: replaceFrom part new 0 r
    | _ :: tail =>
      if (after? part (c :: r)).isSome then new ++ replaceFrom part new tail.length r
      else c :: replaceFrom part new 0 r

def replace (part new s : List Char) : List Char := replaceFrom part new 0 s

def join (sep : List Char) : List (List Char) → List Char
  | [] => []
  | [p] => p
  | p :: q :: ps => p ++ sep ++ join sep (q :: ps)

def digit? (c : Char) : Option Nat :=
  if '0' ≤ c ∧ c ≤ '9' then some (c.toNat - '0'.toNat) else none

/-- The value of a hexadecimal digit of either case. -/
def hexDigit? (c : Char) : Option Nat :=
  if '0' ≤ c ∧ c ≤ '9' then some (c.toNat - '0'.toNat)
  else if 'a' ≤ c ∧ c ≤ 'f' then some (c.toNat - 'a'.toNat + 10)
  else if 'A' ≤ c ∧ c ≤ 'F' then some (c.toNat - 'A'.toNat + 10)
  else none

/-- Reads digits of a base, most significant first, onto `acc`; `none` at the
first character that is no digit. -/
def numeralFrom (base : Nat) (digit : Char → Option Nat) (acc : Nat) : List Char → Option Nat
  | [] => some acc
  | c :: r => match digit c with
    | none => none
    | some d => numeralFrom base digit (acc * base + d) r

/-- A non-empty run of decimal digits, leading zeros allowed. -/
def decimal? (s : List Char) : Option Nat :=
  if s.isEmpty then none else numeralFrom 10 digit? 0 s

/-- A non-empty run of hexadecimal digits, leading zeros allowed. -/
def hexadecimal? (s : List Char) : Option Nat :=
  if s.isEmpty then none else numeralFrom 16 hexDigit? 0 s

/-- A machine number: decimal digits after an optional plus sign, not above `max`. -/
def bounded? (max : Nat) (s : List Char) : Option Nat :=
  let digits := match s with
    | '+' :: r => r
    | _ => s
  match decimal? digits with
  | some n => if n ≤ max then some n else none
  | none => none

def padZeros (width : Nat) (s : List Char) : List Char :=
  List.replicate (width - s.length) '0' ++ s

def isAsciiLetter (c : Char) : Bool := ('a' ≤ c && c ≤ 'z') || ('A' ≤ c && c ≤ 'Z')

def isAsciiDigit (c : Char) : Bool := '0' ≤ c && c ≤ '9'

def asciiLower (c : Char) : Char :=
  if 'A' ≤ c ∧ c ≤ 'Z' then Char.ofNat (c.toNat + 32) else c

def asciiUpper (c : Char) : Char :=
  if 'a' ≤ c ∧ c ≤ 'z' then Char.ofNat (c.toNat - 32) else c

theorem pieces_ne_nil (sep : Char) (s : List Char) : pieces sep s ≠ [] := by
  cases s with
  | nil => simp [pieces]
  | cons c r =>
    simp only [pieces]
    split
    · simp
    · split <;> simp

theorem after?_eq_some_iff {lead s rest : List Char} :
    after? lead s = some rest ↔ s = lead ++ rest := by
  induction lead generalizing s with
  | nil => simp [after?, eq_comm]
  | cons l ls ih =>
    cases s with
    | nil => simp [after?]
    | cons c r =>
      simp only [after?, List.cons_append, List.cons.injEq]
      split
      · next h => subst h; simp [ih]
      · next h => simp [Ne.symm h]

end Firewall.Text
