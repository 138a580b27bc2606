import Firewall.Text.Utf8
import Firewall.Url.Idna.Normal
import Firewall.Url.Idna.Bidi
import Firewall.Url.Idna.Punycode

/-!
International domain names in ASCII: mapping, composition, validity of each
label, and the ASCII form of labels that need one.
-/

namespace Firewall.Url.Idna

open Text

/-- Characters that a domain may not hold even though they are ASCII. -/
def isDenied (n : Nat) : Bool :=
  n ≤ 0x20 || n == 0x7F || ("%#/:<>?@[\\]^|".toList.map Char.toNat).contains n

/-- The mapped characters of one, `none` if it may not occur. -/
def mapChar? (n : Nat) : Option (List Nat) :=
  match mapping[n]? with
  | some target => some target
  | none =>
    if inRanges ignored n then some []
    else if inRanges allowed n then some [n]
    else none

/-- Whether mapping and composing leave a label as it is. -/
def isSettled (label : List Nat) : Bool :=
  label.all (fun n => mapChar? n == some [n]) && normalize label == label

def joinsForward : Array Range := ranges dualJoiningRanges ++ ranges leftJoiningRanges

def joinsBackward : Array Range := ranges dualJoiningRanges ++ ranges rightJoiningRanges

/-- Characters that joining looks through. -/
def transparent : Array Range := ranges transparentRanges

/-- Whether the joiners of a label stand where they have an effect. `before` is
the part already passed, last character first. -/
def joinersFit (before : List Nat) : List Nat → Bool
  | [] => true
  | n :: r =>
    let afterVirama := match before with
      | b :: _ => combiningClass b == 9
      | [] => false
    let fits :=
      if n = 0x200D then afterVirama
      else if n = 0x200C then
        afterVirama ||
          ((match before.dropWhile (inRanges transparent) with
            | b :: _ => inRanges joinsForward b
            | [] => false) &&
          (match r.dropWhile (inRanges transparent) with
            | a :: _ => inRanges joinsBackward a
            | [] => false))
      else true
    fits && joinersFit (n :: before) r

def isValidLabel (label : List Nat) : Bool :=
  (match label with
    | [] => true
    | n :: _ => !inRanges marks n) &&
  label.all (fun n => !isDenied n) && joinersFit [] label

/-- The mark in front of a label's ASCII form. -/
def aceMark : List Char := "xn--".toList

/-- The longest ASCII form that is read. -/
def longestAscii : Nat := 2000

/-- The longest label that an ASCII form is made of. -/
def longestLabel : Nat := 1000

/-- The characters a label stands for, with the check of the form it is in. -/
def readLabel? (label : List Nat) : Option (List Nat) :=
  let text := label.map Char.ofNat
  match Text.after? aceMark text with
  | some ascii =>
    if ascii.length ≤ longestAscii then
      match Punycode.decode? ascii with
      | some inner =>
        let points := inner.map Char.toNat
        if points.any (0x80 ≤ ·) && isSettled points && isValidLabel points then some points
        else none
      | none => none
    else none
  | none => if isValidLabel label then some label else none

def writeLabel? (label : List Nat) : Option (List Char) :=
  let text := label.map Char.ofNat
  if label.all (· < 0x80) then some text
  else if label.length ≤ longestLabel then some (aceMark ++ Punycode.encode text)
  else none

def toAscii? (domain : List Char) : Option (List Char) := do
  let mapped ← (domain.map Char.toNat).mapM mapChar?
  let settled := (normalize mapped.flatten).map Char.ofNat
  let labels ← (Text.pieces '.' settled).mapM fun label => readLabel? (label.map Char.toNat)
  let rightward := labels.any fun label => label.any fun n => (direction n).isRightward
  if rightward && !labels.all labelFitsBidi then none
  else
    let written ← labels.mapM writeLabel?
    some (Text.join ['.'] written)

end Firewall.Url.Idna
