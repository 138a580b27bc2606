/-!
Codes in which no code word begins another: built from the lengths of the code
words, and read bit by bit.
-/

namespace Firewall.Gzip

/-- A code as a tree of bits; the symbols are at the leaves. -/
inductive CodeTree
  | empty
  | leaf (symbol : Nat)
  | node (zero one : CodeTree)
  deriving DecidableEq, Repr

namespace CodeTree

/-- Puts a symbol at the end of a code word, unless another word is in the way. -/
def insert? (symbol : Nat) : List Bool → CodeTree → Option CodeTree
  | [], empty => some (leaf symbol)
  | false :: w, empty => (insert? symbol w empty).map (node · empty)
  | true :: w, empty => (insert? symbol w empty).map (node empty ·)
  | false :: w, node z o => (insert? symbol w z).map (node · o)
  | true :: w, node z o => (insert? symbol w o).map (node z ·)
  | _, _ => none

/-- The symbol whose code word comes next. -/
def read? : CodeTree → List Bool → Option (Nat × List Bool)
  | leaf s, bits => some (s, bits)
  | node z _, false :: bits => read? z bits
  | node _ o, true :: bits => read? o bits
  | _, _ => none

/-- The bits of a code word, the most significant one first. -/
def word (length code : Nat) : List Bool :=
  (List.range length).map fun i => code.testBit (length - 1 - i)

/-- The first code word of each length: words of one length are consecutive, and
follow those of the length before with a zero appended. -/
def firstCodes (lengths : List Nat) : Nat → Nat
  | 0 => 0
  | l + 1 => (firstCodes lengths l + (if l = 0 then 0 else lengths.count l)) * 2

/-- Inserts the symbols in order; `lengths` are those still to come, `seen`
those before them. -/
def insertAll (all : List Nat) : List Nat → List Nat → CodeTree → Option CodeTree
  | _, [], t => some t
  | seen, l :: ls, t =>
    if l = 0 then insertAll all (l :: seen) ls t
    else
      match insert? seen.length (word l (firstCodes all l + seen.count l)) t with
      | some t => insertAll all (l :: seen) ls t
      | none => none

/-- Whether the words of the given lengths fill the whole code; a code of at
most one word may have room left. -/
def fills (lengths : List Nat) : Bool :=
  let used := lengths.filter (· != 0)
  used.length ≤ 1 || used.foldl (fun filled l => filled + 1 <<< (15 - l)) 0 == 1 <<< 15

/-- The code of symbols with the given lengths, zero for a symbol that does not occur. -/
def ofLengths? (lengths : List Nat) : Option CodeTree :=
  if fills lengths then insertAll lengths [] lengths empty else none

end CodeTree

end Firewall.Gzip
