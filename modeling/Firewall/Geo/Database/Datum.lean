import Firewall.Decimal
import Firewall.Mismatch
import Firewall.Text.Utf8

/-!
The data section of a country database: self-describing values, some of them
pointers to values elsewhere. A value is read against the form that is wanted,
so that the first difference in the order of the bytes is the one reported.
-/

namespace Firewall.Geo.Database

open Text

inductive Fault
  | noMetadata
  | recordSize (size : Nat)
  | unknownKind (kind : Nat)
  /-- A value of a kind that cannot be that long. -/
  | badSize (kind : String) (size : Nat)
  | badText
  | mismatch (m : Mismatch)
  | pastEnd
  | badTree
  | tooDeep
  deriving DecidableEq, Repr

def Fault.message : Fault → String
  | noMetadata => "InvalidDatabaseError: Could not find MaxMind DB metadata in file."
  | recordSize size => "InvalidDatabaseError: unknown record size: " ++ toString size
  | unknownKind kind => "InvalidDatabaseError: Unknown data type: " ++ toString kind
  | badSize kind size => "InvalidDatabaseError: " ++ kind ++ " of size " ++ toString size
  | badText => "InvalidDatabaseError: error decoding string"
  | mismatch m => "DecodingError: " ++ m.message
  | pastEnd => "InvalidDatabaseError: unexpected end of data"
  | badTree => "InvalidDatabaseError: the MaxMind DB file's search tree is corrupt"
  | tooDeep => "InvalidDatabaseError: data nested too deeply"

/-- The form that a value must have. -/
inductive Wanted
  | anything
  | truth
  | text
  /-- A natural number of at most so many bits. -/
  | natural (bits : Nat)
  | listOf (element : Wanted)
  /-- Texts as keys, values of one form. -/
  | dictOf (value : Wanted)
  /-- Named fields, each with whether it must be there and its form. -/
  | record (name : String) (fields : List (String × Bool × Wanted))

/-- A value of the form that was wanted; the fields of a record stand in the
order of its form. -/
inductive Datum
  | skipped
  | truth (b : Bool)
  | text (s : String)
  | natural (n : Nat)
  | list (elements : List Datum)
  | dict (rows : List (String × Datum))
  | record (fields : List (Option Datum))

/-- A value that is neither a pointer nor a container. -/
inductive Scalar
  | text (s : String)
  | bytes (bs : List UInt8)
  | double (x : Float)
  | unsigned (n : Nat)
  | wide (n : Nat)
  | signed (n : Int)
  | truth (b : Bool)

/-- Reading at a position: the result and the position behind it. -/
abbrev Reader (α : Type) := Nat → Except Fault (α × Nat)

/-! ## Bytes -/

def byteAt (data : Array UInt8) : Reader Nat := fun i =>
  match data[i]? with
  | some b => .ok (b.toNat, i + 1)
  | none => .error .pastEnd

def bytesAt (data : Array UInt8) (count : Nat) : Reader (List UInt8) := fun i =>
  if i + count ≤ data.size then .ok ((data.extract i (i + count)).toList, i + count)
  else .error .pastEnd

/-- Bytes as a number, the most significant one first. -/
def bigEndian (bs : List UInt8) : Nat := bs.foldl (fun acc b => acc * 256 + b.toNat) 0

/-! ## Heads -/

/-- The kind of a value and its size. Kinds above seven take a byte of their
own, sizes from 29 on take up to three. -/
def headAt (data : Array UInt8) : Reader (Nat × Nat) := fun i => do
  let (control, i) ← byteAt data i
  let (kind, i) ← if control / 32 = 0 then
      (byteAt data i).map fun (b, i) => (b + 7, i)
    else .ok (control / 32, i)
  let short := control % 32
  if short < 29 then return ((kind, short), i)
  let (extra, i) ← bytesAt data (short - 28) i
  let base := match short with
    | 29 => 29
    | 30 => 285
    | _ => 65821
  return ((kind, base + bigEndian extra), i)

/-- The position that a pointer leads to; its size field holds the number of
its bytes and, for up to three bytes, the highest bits. -/
def pointerAt (data : Array UInt8) (size : Nat) : Reader Nat := fun i => do
  let width := size / 8 % 4 + 1
  let (bs, i) ← bytesAt data width i
  let high := if width = 4 then 0 else size % 8
  let base := match width with
    | 2 => 2048
    | 3 => 526336
    | _ => 0
  return (base + high <<< (8 * width) + bigEndian bs, i)

/-- A number of at most `width` bytes. -/
def numberAt (data : Array UInt8) (name : String) (width size : Nat) : Reader Nat := fun i =>
  if size ≤ width then (bytesAt data size i).map fun (bs, i) => (bigEndian bs, i)
  else .error (.badSize name size)

/-- A number of exactly `width` bytes. -/
def exactAt (data : Array UInt8) (name : String) (width size : Nat) : Reader Nat := fun i => do
  let (bs, i) ← bytesAt data size i
  if size = width then return (bigEndian bs, i) else throw (.badSize name size)

def scalarAt (data : Array UInt8) (kind size : Nat) : Reader Scalar := fun i =>
  match kind with
  | 2 => do
    let (bs, i) ← bytesAt data size i
    match Utf8.decode? bs with
    | some cs => return (.text (String.ofList cs), i)
    | none => throw .badText
  | 3 => (exactAt data "double" 8 size i).map fun (n, i) =>
      (.double (Float.ofBits (UInt64.ofNat n)), i)
  | 4 => (bytesAt data size i).map fun (bs, i) => (.bytes bs, i)
  | 5 => (numberAt data "u16" 2 size i).map fun (n, i) => (.unsigned n, i)
  | 6 => (numberAt data "u32" 4 size i).map fun (n, i) => (.unsigned n, i)
  | 8 => (numberAt data "int32" 4 size i).map fun (n, i) =>
      (.signed (if n < 0x80000000 then n else (n : Int) - UInt32.size), i)
  | 9 => (numberAt data "u64" 8 size i).map fun (n, i) => (.unsigned n, i)
  | 10 => (numberAt data "u128" 16 size i).map fun (n, i) => (.wide n, i)
  | 14 => if size ≤ 1 then .ok (.truth (size != 0), i) else .error (.badSize "bool" size)
  | 15 => (exactAt data "float" 4 size i).map fun (n, i) =>
      (.double (Float32.ofBits (UInt32.ofNat n)).toFloat, i)
  | _ => .error (.unknownKind kind)

/-! ## Forms -/

/-- How a record is described when something else stands in its place. -/
def Wanted.describe : Wanted → String
  | anything => "anything at all"
  | truth => "a boolean"
  | text => "a string"
  | natural bits => "u" ++ toString bits
  | listOf _ => "a sequence"
  | dictOf _ => "a map"
  | record name _ => "struct " ++ name

/-- How a record is described when it stands as a list. -/
def elementsOf (name : String) (count : Nat) : String :=
  "struct " ++ name ++ " with " ++ toString count ++
    (if count = 1 then " element" else " elements")

/-- A scalar in the words of a report. -/
def Scalar.found : Scalar → Found
  | text s => .text s
  | bytes _ => .bytes
  | double x => .float (Decimal.plain x)
  | unsigned n => .integer n
  | wide n => .wideInteger n
  | signed n => .integer n
  | truth b => .boolean b

/-- The datum of a scalar, if it has the wanted form. Bytes that are valid text
count as text, and integers of any width as long as they fit. -/
def Scalar.fit (wanted : Wanted) (s : Scalar) : Except Fault Datum :=
  let wrong : Except Fault Datum := .error (.mismatch (.kind s.found wanted.describe))
  let outside : Except Fault Datum := .error (.mismatch (.range s.found wanted.describe))
  match wanted, s with
  | .anything, _ => .ok .skipped
  | .truth, .truth b => .ok (.truth b)
  | .text, .text t => .ok (.text t)
  | .text, .bytes bs => match Utf8.decode? bs with
    | some cs => .ok (.text (String.ofList cs))
    | none => outside
  | .natural bits, .unsigned n => if n < 1 <<< bits then .ok (.natural n) else outside
  | .natural bits, .signed n =>
    if 0 ≤ n ∧ n.toNat < 1 <<< bits then .ok (.natural n.toNat) else outside
  | _, _ => wrong

/-- A key that names a field: its name, or its number. -/
inductive FieldKey
  | named (name : String)
  | numbered (n : Nat)
  | other

def Scalar.fieldKey : Scalar → Except Fault FieldKey
  | .text s => .ok (.named s)
  | .bytes bs => .ok (match Utf8.decode? bs with
    | some cs => .named (String.ofList cs)
    | none => .other)
  | .unsigned n => .ok (.numbered n)
  | s => .error (.mismatch (.kind s.found "field identifier"))

def FieldKey.index? (fields : List (String × Bool × Wanted)) : FieldKey → Option Nat
  | named name => fields.findIdx? fun f => f.1 == name
  | numbered n => if n < fields.length then some n else none
  | other => none

/-! ## Containers -/

def repeatRead {α : Type} (one : Reader α) : Nat → Reader (List α)
  | 0, i => .ok ([], i)
  | count + 1, i => do
    let (x, i) ← one i
    let (xs, i) ← repeatRead one count i
    return (x :: xs, i)

/-- Reads the fields of a record that stands as a list of `left` elements. -/
def positionalFields (readAs : Wanted → Reader Datum) (name : String) (total : Nat) :
    Nat → Nat → List (String × Bool × Wanted) → Reader (List (Option Datum))
  | _, _, [], i => .ok ([], i)
  | 0, index, _ :: _, _ =>
    .error (.mismatch (.length index (elementsOf name total)))
  | left + 1, index, (_, _, wanted) :: fields, i => do
    let (x, i) ← readAs wanted i
    let (xs, i) ← positionalFields readAs name total left (index + 1) fields i
    return (some x :: xs, i)

/-- Reads the rows of a record into the slots of its fields. -/
def namedFields (readAs : Wanted → Reader Datum) (readKey : Reader FieldKey)
    (fields : List (String × Bool × Wanted)) :
    Nat → List (Option Datum) → Reader (List (Option Datum))
  | 0, slots, i => .ok (slots, i)
  | count + 1, slots, i => do
    let (key, i) ← readKey i
    match (key.index? fields).bind fun k => (fields[k]?).map fun f => (k, f) with
    | none =>
      let (_, i) ← readAs .anything i
      namedFields readAs readKey fields count slots i
    | some (k, (name, _, wanted)) =>
      if ((slots[k]?).bind id).isSome then throw (.mismatch (.repeatedField name))
      let (x, i) ← readAs wanted i
      namedFields readAs readKey fields count (slots.set k (some x)) i

/-- The first field that must be there and is not. -/
def missingField? : List (String × Bool × Wanted) → List (Option Datum) → Option String
  | (name, needed, _) :: fields, slot :: slots =>
    if needed && slot.isNone then some name else missingField? fields slots
  | _, _ => none

def keyText (d : Datum) : String :=
  match d with
  | .text s => s
  | _ => ""

/-- Reads a value and hands it to one of three continuations: for a scalar, for
a list of so many elements, for a dictionary of so many rows. Pointers are
followed, and reading goes on behind them. -/
def valueAt {α : Type} (data : Array UInt8) (scalar : Scalar → Except Fault α)
    (list dict : Nat → Reader α) : Nat → Reader α
  | 0, _ => .error .tooDeep
  | depth + 1, i => do
    let ((kind, size), i) ← headAt data i
    match kind with
    | 1 =>
      let (target, i) ← pointerAt data size i
      let (x, _) ← valueAt data scalar list dict depth target
      return (x, i)
    | 7 => dict size i
    | 11 => list size i
    | _ =>
      let (s, i) ← scalarAt data kind size i
      return (← scalar s, i)

def fieldKeyAt (data : Array UInt8) (depth : Nat) : Reader FieldKey :=
  let wrong (found : Found) : Reader FieldKey := fun _ =>
    .error (.mismatch (.kind found "field identifier"))
  valueAt data Scalar.fieldKey (fun _ => wrong .list) (fun _ => wrong .dict) depth

/-- Reads a value of a form, at most so many levels deep. -/
def readDatum (data : Array UInt8) : Nat → Wanted → Reader Datum
  | 0, _, _ => .error .tooDeep
  | depth + 1, wanted, i =>
    let readAs := readDatum data depth
    let wrong (found : Found) : Except Fault (Datum × Nat) :=
      .error (.mismatch (.kind found wanted.describe))
    let list (size : Nat) : Reader Datum := fun i =>
      match wanted with
      | .anything => (repeatRead (readAs .anything) size i).map fun (_, i) => (.skipped, i)
      | .listOf element => (repeatRead (readAs element) size i).map fun (xs, i) => (.list xs, i)
      | .record name fields =>
        (positionalFields readAs name fields.length size 0 fields i).map fun (xs, i) =>
          (.record xs, i)
      | _ => wrong .list
    let row (value : Wanted) (key : Wanted) : Reader (String × Datum) := fun i => do
      let (k, i) ← readAs key i
      let (v, i) ← readAs value i
      return ((keyText k, v), i)
    let dict (size : Nat) : Reader Datum := fun i =>
      match wanted with
      | .anything =>
        (repeatRead (row .anything .anything) size i).map fun (_, i) => (.skipped, i)
      | .dictOf value => (repeatRead (row value .text) size i).map fun (rs, i) => (.dict rs, i)
      | .record _ fields => do
        let (slots, i) ←
          namedFields readAs (fieldKeyAt data (data.size + 1)) fields size
            (fields.map fun _ => none) i
        match missingField? fields slots with
        | some name => throw (.mismatch (.missingField name))
        | none => return (.record slots, i)
      | _ => wrong .dict
    valueAt data (Scalar.fit wanted) list dict (data.size + 1) i

def datumAt (data : Array UInt8) (wanted : Wanted) (i : Nat) : Except Fault Datum :=
  (readDatum data (data.size + 1) wanted i).map (·.1)

end Firewall.Geo.Database
