import Firewall.Store.Record

/-!
Following the change log: a feed remembers the last entry it has delivered and
hands each later one to the subscribers of its table, in the order of the log.
-/

namespace Firewall

/-- A reader of the change log with subscribers of kind `ι`. -/
structure Feed (ι : Type) where
  /-- The number of the last entry that was delivered. -/
  last : Nat
  /-- Who hears of which table, in the order of subscription. -/
  subscribers : List (Table × ι)
  deriving DecidableEq, Repr

namespace Feed

variable {ι : Type}

/-- A feed that begins behind an entry. -/
def startAt (last : Nat) : Feed ι := ⟨last, []⟩

/-- Adds a subscriber of a table, unless it is one already. -/
def subscribe [DecidableEq ι] (f : Feed ι) (table : Table) (who : ι) : Feed ι :=
  if (table, who) ∈ f.subscribers then f
  else { f with subscribers := f.subscribers ++ [(table, who)] }

def listeners (f : Feed ι) (table : Table) : List ι :=
  (f.subscribers.filter fun s => s.1 = table).map (·.2)

def advance (f : Feed ι) : Feed ι := { f with last := f.last + 1 }

/-- What the answer to the question for the last entry says: an empty log has
its end at zero. -/
def headOf (answer : Except StoreError Nat) : Except StoreError Nat :=
  match answer with
  | .error (.absent _) => .ok 0
  | other => other

end Feed

end Firewall
