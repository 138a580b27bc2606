import Firewall.Store.Fault

/-!
A shared store is used over one connection that is kept between calls. When a
kept connection turns out to be broken, the operation is run once more on a new
one; a connection that broke is never used again.
-/

namespace Firewall

/-- Whether a fault says that the connection is of no more use. -/
def StoreFault.isLoss : StoreFault → Bool
  | unreachable _ => true
  | connectionLost => true
  | _ => false

namespace Connection

variable {γ σ α : Type}

/-- An operation on a connection, in some surroundings. -/
abbrev Operation (γ σ α : Type) := γ → σ → Except StoreFault α × σ

abbrev Opening (γ σ : Type) := σ → Except StoreFault γ × σ

/-- What a call gives: its result, the connection that is kept, the surroundings. -/
structure Outcome (γ σ α : Type) where
  result : Except StoreFault α
  kept : Option γ
  state : σ

/-- Runs an operation on a connection and keeps the connection unless it broke. -/
def once (op : Operation γ σ α) (c : γ) (s : σ) : Outcome γ σ α :=
  match op c s with
  | (.ok a, s) => ⟨.ok a, some c, s⟩
  | (.error e, s) => ⟨.error e, if e.isLoss then none else some c, s⟩

def fresh (opening : Opening γ σ) (op : Operation γ σ α) (s : σ) : Outcome γ σ α :=
  match opening s with
  | (.error e, s) => ⟨.error e, none, s⟩
  | (.ok c, s) => once op c s

/-- Runs an operation on the kept connection, or on a new one if there is none
or the kept one has broken. -/
def run (opening : Opening γ σ) (op : Operation γ σ α) (kept : Option γ) (s : σ) :
    Outcome γ σ α :=
  match kept with
  | none => fresh opening op s
  | some c =>
    match op c s with
    | (.ok a, s) => ⟨.ok a, some c, s⟩
    | (.error e, s) => if e.isLoss then fresh opening op s else ⟨.error e, some c, s⟩

/-- Tries up to `tries + 1` times to open a connection. -/
def openWithin (opening : Opening γ σ) : Nat → σ → Except StoreFault γ × σ
  | 0, s => opening s
  | tries + 1, s =>
    match opening s with
    | (.ok c, s) => (.ok c, s)
    | (.error _, s) => openWithin opening tries s

end Connection

end Firewall
