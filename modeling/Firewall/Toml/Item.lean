/-!
What a TOML document says: values and tables. A table remembers how it came
about, because that decides what may still be added to it.
-/

namespace Firewall.Toml

/-- How a table came about. -/
inductive Origin
  /-- By a header of its own. -/
  | header
  /-- As a value in braces, to which nothing can be added. -/
  | braces
  /-- By the header of a table inside it. -/
  | implied
  /-- By a key with dots. -/
  | dotted
  deriving DecidableEq, Repr

/-- A value or a table. Numbers other than whole ones, and moments, are kept as
they were written. -/
inductive Item
  | text (s : String)
  | integer (n : Int)
  | float (written : List Char)
  | boolean (b : Bool)
  | moment (written : List Char)
  | list (items : List Item)
  | table (origin : Origin) (rows : List (String × Item))
  /-- Tables that came about one by one, each by a header. -/
  | tables (elements : List (List (String × Item)))

/-- The rows of a table, in the order in which their keys first came in. -/
abbrev Rows := List (String × Item)

namespace Rows

/-- Puts another item at a key that is there. -/
def replace (key : String) (i : Item) : Rows → Rows
  | [] => []
  | r :: rs => if r.1 = key then (key, i) :: rs else r :: replace key i rs

/-- Changes the table that a path of headers leads to. Tables on the way come
about where there are none, and of tables in a row the last one is meant. -/
def within (change : Rows → Option Rows) : List String → Rows → Option Rows
  | [], rows => change rows
  | k :: ks, rows =>
    match rows.lookup k with
    | none => (within change ks []).map fun inner => rows ++ [(k, .table .implied inner)]
    | some (.table origin inner) =>
      if origin = .braces then none
      else (within change ks inner).map fun inner => replace k (.table origin inner) rows
    | some (.tables elements) =>
      (within change ks (elements.getLast?.getD [])).map fun inner =>
        replace k (.tables (elements.dropLast ++ [inner])) rows
    | some _ => none

/-- Begins the table of a header: there is none yet, or only tables inside it
have been there. -/
def openTable (key : String) (rows : Rows) : Option Rows :=
  match rows.lookup key with
  | none => some (rows ++ [(key, .table .header [])])
  | some (.table .implied inner) => some (replace key (.table .header inner) rows)
  | some _ => none

def openElement (key : String) (rows : Rows) : Option Rows :=
  match rows.lookup key with
  | none => some (rows ++ [(key, .tables [[]])])
  | some (.tables elements) => some (replace key (.tables (elements ++ [[]])) rows)
  | some _ => none

/-- Puts an item at a key with dots. Nothing may be there yet. What stands in
front of the last dot must be a table that came about by dots itself; in front
of earlier dots it may also have come about by the header of another table. -/
def assign (i : Item) : List String → Rows → Option Rows
  | [], _ => none
  | [k], rows => if (rows.lookup k).isSome then none else some (rows ++ [(k, i)])
  | k :: l :: ks, rows =>
    match rows.lookup k with
    | none => (assign i (l :: ks) []).map fun inner => rows ++ [(k, .table .dotted inner)]
    | some (.table origin inner) =>
      if origin = .header ∨ origin = .braces ∨ (ks.isEmpty ∧ origin ≠ .dotted) then none
      else (assign i (l :: ks) inner).map fun inner => replace k (.table origin inner) rows
    | some (.tables elements) =>
      if ks.isEmpty then none
      else (assign i (l :: ks) (elements.getLast?.getD [])).map fun inner =>
        replace k (.tables (elements.dropLast ++ [inner])) rows
    | some _ => none

/-- The rows of pairs of keys and items, put in one after the other. -/
def ofPairs : List (List String × Item) → Rows → Option Rows
  | [], rows => some rows
  | (path, i) :: rest, rows =>
    match assign i path rows with
    | some rows => ofPairs rest rows
    | none => none

end Rows

end Firewall.Toml
