import Firewall.Text

/-!
Internet addresses and their written forms. Version 4 is four decimal octets
without leading zeros; version 6 is groups of hexadecimal digits, where `::`
stands for one or more zero groups and the last two groups may be written as a
version 4 address.
-/

namespace Firewall

inductive Address
  | v4 (bits : BitVec 32)
  | v6 (bits : BitVec 128)
  deriving DecidableEq, Repr

namespace Address

/-- The number of bits of an address of its version. -/
def width : Address → Nat
  | v4 _ => 32
  | v6 _ => 128

def toNat : Address → Nat
  | v4 b => b.toNat
  | v6 b => b.toNat

open Text

/-! ## Reading -/

/-- An octet: at most three digits, no leading zero, at most 255. -/
def octet? (s : List Char) : Option Nat :=
  if s.length ≤ 3 ∧ (s.length = 1 ∨ s.head? ≠ some '0') then
    match decimal? s with
    | some n => if n ≤ 255 then some n else none
    | none => none
  else none

/-- The value of digits of a base, most significant first. -/
def ofDigits (base : Nat) (ds : List Nat) : Nat := ds.foldl (fun acc d => acc * base + d) 0

def parseV4? (s : List Char) : Option (BitVec 32) :=
  match (pieces '.' s).mapM octet? with
  | some [a, b, c, d] => some (BitVec.ofNat 32 (ofDigits 256 [a, b, c, d]))
  | _ => none

/-- A group of one to four hexadecimal digits. -/
def group? (s : List Char) : Option Nat :=
  if s.length ≤ 4 then hexadecimal? s else none

/-- Groups between colons, none at all for the empty text. -/
def groupPieces (s : List Char) : List (List Char) :=
  if s.isEmpty then [] else pieces ':' s

/-- The values of groups, the last of which may be a version 4 address, worth
two groups, if `tailV4` says so. -/
def groups? (tailV4 : Bool) : List (List Char) → Option (List Nat)
  | [] => some []
  | [g] => match group? g with
    | some n => some [n]
    | none =>
      if tailV4 then (parseV4? g).map fun b => [b.toNat / 65536, b.toNat % 65536] else none
  | g :: h :: r =>
    match group? g, groups? tailV4 (h :: r) with
    | some n, some ns => some (n :: ns)
    | _, _ => none

/-- Splits at the first `::`. -/
def cutDoubleColon? : List Char → Option (List Char × List Char)
  | [] => none
  | [_] => none
  | a :: b :: r =>
    if a = ':' ∧ b = ':' then some ([], r)
    else (cutDoubleColon? (b :: r)).map fun (x, y) => (a :: x, y)

def ofGroups (gs : List Nat) : BitVec 128 := BitVec.ofNat 128 (ofDigits 65536 gs)

def parseV6? (s : List Char) : Option (BitVec 128) :=
  match cutDoubleColon? s with
  | none =>
    match groups? true (groupPieces s) with
    | some gs => if gs.length = 8 then some (ofGroups gs) else none
    | none => none
  | some (left, right) =>
    match groups? false (groupPieces left), groups? true (groupPieces right) with
    | some l, some r =>
      if l.length + r.length ≤ 7 then
        some (ofGroups (l ++ List.replicate (8 - l.length - r.length) 0 ++ r))
      else none
    | _, _ => none

def parse? (s : String) : Option Address :=
  match parseV4? s.toList with
  | some b => some (v4 b)
  | none => (parseV6? s.toList).map v6

/-! ## Writing -/

def octets (b : BitVec 32) : List Nat :=
  [b.toNat / 16777216, b.toNat / 65536 % 256, b.toNat / 256 % 256, b.toNat % 256]

def dotted (b : BitVec 32) : String :=
  ".".intercalate ((octets b).map toString)

def groups (b : BitVec 128) : List Nat :=
  (List.range 8).map fun i => b.toNat >>> (16 * (7 - i)) % 65536

def groupText (n : Nat) : String := String.ofList (Nat.toDigits 16 n)

/-- The length of the run of zeros at the front. -/
def zeroRun (gs : List Nat) : Nat := (gs.takeWhile (· == 0)).length

/-- Start and length of the longest run of zeros, the first of several; `start`
is the index of the first element. -/
def longestZeroRun (start : Nat) : List Nat → Nat × Nat
  | [] => (start, 0)
  | g :: gs =>
    let here := zeroRun (g :: gs)
    let later := longestZeroRun (start + 1) gs
    if later.2 > here then later else (start, here)

/-- Groups in hexadecimal with the longest run of two or more zeros written `::`. -/
def compressed (gs : List Nat) : String :=
  let run := longestZeroRun 0 gs
  let text (part : List Nat) := ":".intercalate (part.map groupText)
  if 1 < run.2 then text (gs.take run.1) ++ "::" ++ text (gs.drop (run.1 + run.2))
  else text gs

/-- The version 4 address inside one of version 6 of the form `::ffff:a.b.c.d`. -/
def mapped? (b : BitVec 128) : Option (BitVec 32) :=
  if b.toNat / 4294967296 = 65535 then some (BitVec.ofNat 32 b.toNat) else none

def render : Address → String
  | v4 b => dotted b
  | v6 b => match mapped? b with
    | some inner => "::ffff:" ++ dotted inner
    | none => compressed (groups b)

end Address

end Firewall
