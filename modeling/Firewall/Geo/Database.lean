import Firewall.Geo.Database.Datum
import Firewall.Net.Address

/-!
Country databases: a binary search tree over the bits of addresses, whose leaves
point into a section of data, and a description of both at the end of the file.
-/

namespace Firewall.Geo

structure Database where
  nodeCount : Nat
  recordSize : Nat
  /-- The tree, as the bytes of the whole file. -/
  tree : Array UInt8
  /-- The data section and what follows it. -/
  data : Array UInt8
  /-- The node at which addresses of version 4 begin. -/
  v4Start : Nat
  deriving DecidableEq, Repr

namespace Database

/-! ## The description -/

def metadataMark : List UInt8 :=
  [0xAB, 0xCD, 0xEF] ++ Text.Utf8.encode "MaxMind.com".toList

/-- What follows the last mark in a file. -/
def afterMark? (bytes : List UInt8) : Option (List UInt8) :=
  match bytes with
  | [] => none
  | b :: r =>
    match afterMark? r with
    | some found => some found
    | none =>
      if metadataMark.isPrefixOf (b :: r) then some ((b :: r).drop metadataMark.length) else none

def metadataForm : Wanted :=
  .record "Metadata"
    [("binary_format_major_version", true, .natural 16),
      ("binary_format_minor_version", true, .natural 16),
      ("build_epoch", true, .natural 64),
      ("database_type", true, .text),
      ("description", true, .dictOf .text),
      ("ip_version", true, .natural 16),
      ("languages", true, .listOf .text),
      ("node_count", true, .natural 32),
      ("record_size", true, .natural 16)]

/-- The number in a field of a record, zero if there is none. -/
def numberIn (fields : List (Option Datum)) (index : Nat) : Nat :=
  match fields[index]? with
  | some (some (.natural n)) => n
  | _ => 0

/-! ## The tree -/

/-- One of the two records of a node: where the search goes on. -/
def child (tree : Array UInt8) (recordSize node : Nat) (right : Bool) : Except Fault Nat := do
  let base := node * recordSize / 4
  let side := if right then 1 else 0
  match recordSize with
  | 24 => return bigEndian (← bytesAt tree 3 (base + side * 3)).1
  | 28 =>
    let middle := (← byteAt tree (base + 3)).1
    let low := bigEndian (← bytesAt tree 3 (base + side * 4)).1
    return (if right then middle % 16 else middle / 16) * 0x1000000 + low
  | 32 => return bigEndian (← bytesAt tree 4 (base + side * 4)).1
  | size => throw (.recordSize size)

/-- Follows bits from a node until the search leaves the tree. -/
def descend (tree : Array UInt8) (recordSize nodeCount : Nat) :
    Nat → List Bool → Except Fault Nat
  | node, [] => .ok node
  | node, bit :: bits =>
    if nodeCount ≤ node then .ok node
    else match child tree recordSize node bit with
      | .ok next => descend tree recordSize nodeCount next bits
      | .error e => .error e

/-- The bits of a number, the most significant one first. -/
def bitsOf (width n : Nat) : List Bool :=
  (List.range width).map fun i => n.testBit (width - 1 - i)

/-! ## Loading -/

/-- The gap between the tree and the data section. -/
def separator : Nat := 16

/-- Reads a database. In a tree for addresses of version 6, those of version 4
lie below 96 zero bits. -/
def ofBytes (bytes : List UInt8) : Except Fault Database :=
  match afterMark? bytes with
  | none => .error .noMetadata
  | some description =>
    match datumAt description.toArray metadataForm 0 with
    | .error e => .error e
    | .ok (.record fields) =>
      let version := numberIn fields 5
      let nodeCount := numberIn fields 7
      let recordSize := numberIn fields 8
      let tree := bytes.toArray
      let data := tree.extract (nodeCount * recordSize / 4 + separator) tree.size
      if version = 6 then
        match descend tree recordSize nodeCount 0 (List.replicate 96 false) with
        | .ok start => .ok ⟨nodeCount, recordSize, tree, data, start⟩
        | .error e => .error e
      else .ok ⟨nodeCount, recordSize, tree, data, 0⟩
    | .ok _ => .error .noMetadata

/-! ## Look-up -/

def namesForm : String × Bool × Wanted := ("names", false, .dictOf .text)

def countryFields : List (String × Bool × Wanted) :=
  [("geoname_id", false, .natural 32), ("is_in_european_union", false, .truth),
    ("iso_code", false, .text), namesForm]

def answerForm : Wanted :=
  .record "Country"
    [("continent", false,
        .record "Continent"
          [("code", false, .text), ("geoname_id", false, .natural 32), namesForm]),
      ("country", false, .record "Country" countryFields),
      ("registered_country", false, .record "Country" countryFields),
      ("represented_country", false,
        .record "RepresentedCountry" (countryFields ++ [("type", false, .text)])),
      ("traits", false,
        .record "Traits"
          [("is_anonymous_proxy", false, .truth), ("is_anycast", false, .truth),
            ("is_satellite_provider", false, .truth)])]

def isoCode? (answer : Datum) : Option String :=
  match answer with
  | .record (_ :: some (.record (_ :: _ :: some (.text code) :: _)) :: _) => some code
  | _ => none

/-- Where the data about an address begin, `none` if there are none. -/
def find (db : Database) (a : Address) : Except Fault (Option Nat) :=
  let start := match a with
    | .v4 _ => db.v4Start
    | .v6 _ => 0
  match descend db.tree db.recordSize db.nodeCount start (bitsOf a.width a.toNat) with
  | .error e => .error e
  | .ok node =>
    if node = db.nodeCount then .ok none
    else if node < db.nodeCount + separator then .error .badTree
    else .ok (some (node - db.nodeCount - separator))

/-- The country of an address; `none` also when the data about it cannot be read. -/
def countryOf? (db : Database) (a : Address) : Option String :=
  match db.find a with
  | .ok (some i) => match datumAt db.data answerForm i with
    | .ok answer => isoCode? answer
    | .error _ => none
  | _ => none

end Database

end Firewall.Geo
