import Firewall.Dict
import Firewall.Store.Record

/-!
A record store in the memory of one process: plain tables. No call on it fails
except for records that are not there.
-/

namespace Firewall

/-- The tables of a record store. The entry with number `n` is the `n`-th of the log. -/
structure Tables where
  log : List (Table × String)
  settings : Dict String String
  rules : List CountryRule
  dataset : Option CachedDataset
  deriving Inhabited, DecidableEq, Repr

namespace Tables

def empty : Tables := ⟨[], Dict.empty, [], none⟩

def head? (t : Tables) : Except StoreError Nat :=
  if t.log.isEmpty then .error (.absent .log) else .ok t.log.length

def entryAt? (t : Tables) (id : Nat) : Except StoreError LogEntry :=
  match if id = 0 then none else t.log[id - 1]? with
  | some (table, key) => .ok ⟨id, table, key⟩
  | none => .error (.absent (.logEntry id))

def setting? (t : Tables) (key : String) : Except StoreError String :=
  match t.settings.get? key with
  | some value => .ok value
  | none => .error (.absent (.setting key))

def dataset? (t : Tables) : Except StoreError CachedDataset :=
  match t.dataset with
  | some d => .ok d
  | none => .error (.absent .dataset)

def logged (t : Tables) (table : Table) (key : String) : Tables :=
  { t with log := t.log ++ [(table, key)] }

instance : RecordStore Tables where
  append table key := .of fun t => (t.log.length + 1, t.logged table key)
  latest := .view head?
  entry id := .view (·.entryAt? id)
  settings := .view fun t => .ok t.settings.rows
  setting key := .view (·.setting? key)
  putSetting key value := .of fun t => ((), { t with settings := t.settings.insert key value })
  rules := .view fun t => .ok t.rules
  putRules rules := .of fun t => ((), { t with rules := rules })
  datasetTime := .view fun t => t.dataset?.map (·.time)
  dataset := .view dataset?
  putDataset time bytes := .of fun t => ((), { t with dataset := some ⟨time, bytes⟩ })

end Tables

end Firewall
