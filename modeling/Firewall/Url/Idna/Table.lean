import Std.Data.HashMap
import Firewall.Text.Ranges
import Firewall.Url.Idna.MappingTable
import Firewall.Url.Idna.NormalTable
import Firewall.Url.Idna.ClassTable

/-!
The character data of international domain names, read once from its written form.
-/

namespace Firewall.Url.Idna

open Text

/-- The characters that one row of replacement runs maps, with what they map to. -/
def runEntries : List Nat → List (Nat × List Nat)
  | [a, b] => [(a, [b])]
  | [a, b, count] => (List.range count).map fun i => (a + i, [b + i])
  | [a, b, count, gap] => (List.range count).map fun i => (a + gap * i, [b + gap * i])
  | _ => []

def expansionEntry? : List Nat → Option (Nat × List Nat)
  | a :: b :: r => some (a, b :: r)
  | _ => none

def mapping : Std.HashMap Nat (List Nat) :=
  Std.HashMap.ofList
    ((rows replacementRuns).flatMap runEntries ++ (rows expansions).filterMap expansionEntry?)

def ignored : Array Range := ranges ignoredRanges

def allowed : Array Range := ranges allowedRanges

/-- One step of canonical decomposition. -/
def decompositions : Std.HashMap Nat (List Nat) :=
  Std.HashMap.ofList
    ((rows compositionPairs ++ rows oneWayDecompositions).filterMap expansionEntry?)

/-- The character composed of a pair. -/
def compositions : Std.HashMap (Nat × Nat) Nat :=
  Std.HashMap.ofList ((rows compositionPairs).filterMap fun
    | [c, a, b] => some ((a, b), c)
    | _ => none)

/-- The combining classes that are not zero. -/
def classes : Std.HashMap Nat Nat :=
  Std.HashMap.ofList ((rows combiningClasses).flatMap fun
    | [k, a] => [(a, k)]
    | [k, a, b] => (List.range (b + 1 - a)).map fun i => (a + i, k)
    | _ => [])

def marks : Array Range := ranges markRanges

end Firewall.Url.Idna
