import Firewall.Clock
import Firewall.Store.Fault

/-!
The records that instances of the firewall share, and the calls by which they
read and write them. A call leaves a store behind whether it succeeds or fails.
-/

namespace Firewall

abbrev Bytes := List UInt8

/-- The tables whose changes are logged. -/
inductive Table
  | config
  | geoip
  deriving DecidableEq, Repr

def Table.name : Table → String
  | config => "config"
  | geoip => "geoip"

def Table.ofName (name : String) : Except StoreError Table :=
  if name = "config" then .ok .config
  else if name = "geoip" then .ok .geoip
  else .error (.fault (.unknownTable name))

theorem Table.ofName_name (t : Table) : Table.ofName t.name = .ok t := by
  cases t <;> rfl

structure LogEntry where
  id : Nat
  table : Table
  key : String
  deriving DecidableEq, Repr

/-- Whether requests from a country are let through. -/
structure CountryRule where
  code : String
  allow : Bool
  deriving DecidableEq, Repr

/-- The cached country database and the time it counts from. -/
structure CachedDataset where
  time : Instant
  bytes : Bytes
  deriving DecidableEq, Repr

/-- A call on a store. -/
abbrev Access (σ : Type) (α : Type) := ExceptT StoreError (StateM σ) α

def Access.on {σ α : Type} (a : Access σ α) (s : σ) : Except StoreError α × σ := a.run s

/-- A call that cannot fail. -/
def Access.of {σ α : Type} (f : σ → α × σ) : Access σ α := ExceptT.lift (fun s => f s)

/-- A call that reads and leaves the store as it is. -/
def Access.view {σ α : Type} (f : σ → Except StoreError α) : Access σ α := fun s => (f s, s)

class RecordStore (σ : Type) where
  /-- Appends an entry to the change log and gives its number. -/
  append : Table → String → Access σ Nat
  /-- The number of the last entry of the change log. -/
  latest : Access σ Nat
  /-- An entry of the change log. -/
  entry : Nat → Access σ LogEntry
  /-- All settings with their values. -/
  settings : Access σ (List (String × String))
  /-- The value of a setting. -/
  setting : String → Access σ String
  /-- Gives a setting a value. -/
  putSetting : String → String → Access σ Unit
  /-- The country rules. -/
  rules : Access σ (List CountryRule)
  /-- Puts other rules in the place of all country rules. -/
  putRules : List CountryRule → Access σ Unit
  /-- The time of the cached dataset. -/
  datasetTime : Access σ Instant
  /-- The cached dataset. -/
  dataset : Access σ CachedDataset
  /-- Puts another dataset in the place of the cached one. -/
  putDataset : Instant → Bytes → Access σ Unit

inductive StoreCall
  | append | latest | entry | settings | setting | putSetting | rules | putRules
  | datasetTime | dataset | putDataset
  deriving DecidableEq, Repr

def StoreCall.name : StoreCall → String
  | append => "append"
  | latest => "latest"
  | entry => "entry"
  | settings => "config_entries"
  | setting => "config_entry"
  | putSetting => "set_config"
  | rules => "rules"
  | putRules => "set_rules"
  | datasetTime => "source_time"
  | dataset => "source"
  | putDataset => "set_source"

end Firewall
