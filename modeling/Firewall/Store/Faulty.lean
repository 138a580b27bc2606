import Firewall.Store.Record

/-!
A record store some of whose calls are made to fail. A failing call does nothing.
-/

namespace Firewall

/-- Which calls fail: all calls of the given names, the reading of log entries
only for one number if there is one. -/
structure Failing where
  calls : List String
  entryId : Option Nat
  deriving DecidableEq, Repr, Inhabited

def Failing.none : Failing := ⟨[], .none⟩

/-- Whether a call other than the reading of an entry fails. -/
def Failing.stops (f : Failing) (call : StoreCall) : Bool := f.calls.contains call.name

def Failing.stopsEntry (f : Failing) (id : Nat) : Bool :=
  f.stops .entry && (match f.entryId with
    | some n => n == id
    | .none => true)

structure Faulty (σ : Type) where
  store : σ
  failing : Failing
  deriving Repr

namespace Faulty

variable {σ α : Type}

/-- Makes a call on the store inside, unless it has to fail. -/
def guarded (stops : Failing → Bool) (call : StoreCall) (inner : Access σ α) :
    Access (Faulty σ) α := fun s =>
  if stops s.failing then (.error (.fault (.injected call.name)), s)
  else
    let (result, store) := inner.on s.store
    (result, { s with store })

def named (call : StoreCall) (inner : Access σ α) : Access (Faulty σ) α :=
  guarded (·.stops call) call inner

instance [RecordStore σ] : RecordStore (Faulty σ) where
  append table key := named .append (RecordStore.append table key)
  latest := named .latest RecordStore.latest
  entry id := guarded (·.stopsEntry id) .entry (RecordStore.entry id)
  settings := named .settings RecordStore.settings
  setting key := named .setting (RecordStore.setting key)
  putSetting key value := named .putSetting (RecordStore.putSetting key value)
  rules := named .rules RecordStore.rules
  putRules rules := named .putRules (RecordStore.putRules rules)
  datasetTime := named .datasetTime RecordStore.datasetTime
  dataset := named .dataset RecordStore.dataset
  putDataset time bytes := named .putDataset (RecordStore.putDataset time bytes)

end Faulty

end Firewall
