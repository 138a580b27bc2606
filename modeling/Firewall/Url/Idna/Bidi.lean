import Firewall.Url.Idna.Table

/-!
Domains with text that runs from right to left: which labels such a domain may
have.
-/

namespace Firewall.Url.Idna

open Text

/-- How a character behaves in text of mixed direction. -/
inductive Direction
  | left | right | arabic | arabicNumber | european | separator | terminator | common | mark
  | boundary | neutral
  | forbidden
  deriving DecidableEq, Repr

/-- The characters of each direction other than `left`. -/
def directionTables : List (Direction × Array Range) :=
  [(.right, ranges rightToLeftRanges), (.arabic, ranges arabicLetterRanges),
    (.arabicNumber, ranges arabicNumberRanges), (.european, ranges europeanNumberRanges),
    (.separator, ranges europeanSeparatorRanges), (.terminator, ranges europeanTerminatorRanges),
    (.common, ranges commonSeparatorRanges), (.mark, ranges nonspacingMarkRanges),
    (.boundary, ranges boundaryNeutralRanges), (.neutral, ranges otherNeutralRanges)]

def direction (n : Nat) : Direction :=
  match directionTables.find? fun (_, table) => inRanges table n with
  | some (d, _) => d
  | none => .left

/-- Whether a domain with this character has right-to-left text. -/
def Direction.isRightward (d : Direction) : Bool :=
  d == .right || d == .arabic || d == .arabicNumber

/-- Whether a label may stand in a domain with right-to-left text. -/
def labelFitsBidi (label : List Nat) : Bool :=
  let ds := label.map direction
  let last := (ds.reverse.dropWhile (· == .mark)).head?
  let weak : List Direction :=
    [.european, .separator, .common, .terminator, .neutral, .boundary, .mark]
  match ds.head? with
  | none => true
  | some .left =>
    ds.all (fun d => d == .left || weak.contains d) &&
      (last == some .left || last == some .european)
  | some d =>
    (d == .right || d == .arabic) &&
      ds.all (fun d => d.isRightward || weak.contains d) &&
      (match last with
        | some l => l.isRightward || l == .european
        | none => false) &&
      !(ds.contains .european && ds.contains .arabicNumber)

end Firewall.Url.Idna
