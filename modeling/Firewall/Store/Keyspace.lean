import Firewall.Dict
import Firewall.Store.Record
import Firewall.Text
import Firewall.Text.Utf8

/-!
A flat space of keys that hold texts or hashes, and the commands on it. A
command on a key that holds the other kind fails and changes nothing.
-/

namespace Firewall

def Bytes.ofText (s : String) : Bytes := Text.Utf8.encode s.toList

def Bytes.text? (b : Bytes) : Option String := (Text.Utf8.decode? b).map String.ofList

inductive Cell
  | text (value : Bytes)
  | hash (fields : Dict String Bytes)
  deriving DecidableEq, Repr

abbrev Keyspace := Dict String Cell

namespace Keyspace

/-- The text at a key, if there is one. -/
def get (k : Keyspace) (key : String) : Except StoreFault (Option Bytes) :=
  match k.get? key with
  | none => .ok none
  | some (.text value) => .ok (some value)
  | some (.hash _) => .error .wrongType

/-- The fields of the hash at a key; there are none at a key without one. -/
def fields (k : Keyspace) (key : String) : Except StoreFault (Dict String Bytes) :=
  match k.get? key with
  | none => .ok Dict.empty
  | some (.hash fields) => .ok fields
  | some (.text _) => .error .wrongType

/-- Puts a text at a key, whatever it held. -/
def set (k : Keyspace) (key : String) (value : Bytes) : Keyspace := k.insert key (.text value)

def setFields (k : Keyspace) (key : String) (rows : List (String × Bytes)) :
    Except StoreFault Keyspace :=
  match k.fields key with
  | .error e => .error e
  | .ok fields => .ok (k.insert key (.hash (rows.foldl (fun d r => d.insert r.1 r.2) fields)))

def field (k : Keyspace) (key name : String) : Except StoreFault (Option Bytes) :=
  (k.fields key).map (·.get? name)

/-- Puts a hash with other fields in the place of what a key held; without
fields there is no hash. -/
def replaceFields (k : Keyspace) (key : String) (rows : List (String × Bytes)) :
    Except StoreFault Keyspace :=
  let cleared := k.erase key
  if rows.isEmpty then .ok cleared else setFields cleared key rows

/-- A whole number in its usual decimal form. -/
def integer? (b : Bytes) : Option Int :=
  match b.text?.map String.toList with
  | some ('-' :: r) => (Text.decimal? r).map fun n => -(n : Int)
  | some ('+' :: r) => (Text.decimal? r).map fun n => (n : Int)
  | some r => (Text.decimal? r).map fun n => (n : Int)
  | none => none

/-- Appends a log entry: the fields of the entry are written first and the
counter last, so that no number is given out without its entry. -/
def appendEntry (k : Keyspace) (counter entryRoot : String) (rows : List (String × Bytes)) :
    Except StoreFault (Int × Keyspace) :=
  match k.get counter with
  | .error e => .error e
  | .ok held =>
    match integer? (held.getD (Bytes.ofText "0")) with
    | none => .error .badReply
    | some n =>
      match k.setFields (entryRoot ++ toString (n + 1)) rows with
      | .error e => .error e
      | .ok k => .ok (n + 1, k.set counter (Bytes.ofText (toString (n + 1))))

end Keyspace

end Firewall
