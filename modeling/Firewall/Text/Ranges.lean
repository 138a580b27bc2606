import Firewall.Text

/-!
Tables of character data in their written form: rows of hexadecimal numbers
separated by commas, with blanks or line ends between the rows.
-/

namespace Firewall.Text

def row (s : List Char) : List Nat := (pieces ',' s).filterMap hexadecimal?

def rows (text : String) : List (List Nat) :=
  let spaced := text.toList.map fun c => if c = '\n' then ' ' else c
  (pieces ' ' spaced).map row

structure Range where
  first : Nat
  last : Nat
  deriving DecidableEq, Repr

/-- The ranges of a table; a single number is a range of one. -/
def ranges (text : String) : Array Range :=
  ((rows text).filterMap fun
    | [a] => some (Range.mk a a)
    | [a, b] => some (Range.mk a b)
    | _ => none).toArray

def inRanges (table : Array Range) (n : Nat) : Bool :=
  table.any fun r => r.first ≤ n && n ≤ r.last

end Firewall.Text
