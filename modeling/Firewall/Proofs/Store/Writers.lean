import Firewall.Proofs.Store.Script
import Mathlib.Logic.Function.Basic

/-!
Clients that append to the log of one shared store, with their steps in any order. A client that
finds the connection it kept to be broken sends the script once more on a new one, without
knowing whether it has been run already; and a script that was sent over a connection which has
broken since may still reach the server, at any time after that. `Writers.Solo` shows that a
client which nobody disturbs does what the shared store does.
-/

namespace Firewall

/-- An append: its number among all of them, the client that makes it, and the change it is for. -/
structure Append (ι : Type) where
  number : Nat
  client : ι
  table : Table
  key : String
  deriving DecidableEq

def Append.record {ι : Type} (c : Append ι) : Table × String := (c.table, c.key)

namespace Writers

variable {ι : Type}

inductive Attempt
  /-- The first one, on a connection that had been kept. -/
  | kept
  /-- The first one, on a connection opened for it. -/
  | first
  /-- The second one, after the connection of the first has broken. -/
  | again
  deriving DecidableEq, Repr

/-- How many connections have broken before an attempt. -/
def Attempt.losses : Attempt → Nat
  | kept => 0
  | first => 0
  | again => 1

inductive Stage (ι : Type)
  | idle (kept : Bool)
  /-- It is opening a connection, the first one or another. -/
  | opening (c : Append ι) (again : Bool)
  /-- It has sent the script. -/
  | sent (c : Append ι) (t : Attempt)
  /-- The script has been run, the `n`th of all runs, and its reply is on the way. -/
  | ran (c : Append ι) (t : Attempt) (n : Nat) (answer : Except StoreFault Nat)

def Stage.append? : Stage ι → Option (Append ι)
  | idle _ => none
  | opening c _ => some c
  | sent c _ => some c
  | ran c _ _ _ => some c

structure Run (ι : Type) where
  append : Append ι
  answer : Except StoreFault Nat
  deriving DecidableEq

/-- An append that has ended: what its caller is told, whether a connection broke on it, and the
run that the answer is from. -/
structure Ended (ι : Type) where
  append : Append ι
  answer : Except StoreFault Nat
  lost : Bool
  run : Option Nat
  deriving DecidableEq

inductive Act (ι : Type)
  /-- A client begins an append. -/
  | begin (i : ι) (table : Table) (key : String)
  /-- The connection that a client is opening is there, or cannot be had. -/
  | connect (i : ι) (refusal : Option StoreFault)
  /-- The script of a client is run; its second command may be made to fail. -/
  | run (i : ι) (refusal : Option StoreFault)
  /-- A reply reaches its client. -/
  | reply (i : ι)
  /-- The connection of a client breaks; a script that it has sent may still arrive. -/
  | lose (i : ι) (arrives : Bool)
  /-- A script whose connection has broken is run. -/
  | late (n : Nat) (refusal : Option StoreFault)

end Writers

open Writers

/-- Clients with names from `ι` that append to one log: the keys of the server, the appends that
have begun, the runs of the script, the scripts that are under way on broken connections, the
appends that have ended, and the clients. -/
structure Writers (ι : Type) where
  keys : Keyspace
  begun : List (Append ι)
  runs : List (Run ι)
  strays : List (Append ι)
  ended : List (Ended ι)
  clients : ι → Stage ι

namespace Writers

variable {ι : Type}

def start (keys : Keyspace) (kept : ι → Bool) : Writers ι :=
  ⟨keys, [], [], [], [], fun i => .idle (kept i)⟩

def ran (w : Writers ι) (root : String) (c : Append ι) (refusal : Option StoreFault) : Writers ι :=
  { w with
    keys := (appendOnce root c.table c.key refusal w.keys).2
    runs := w.runs ++ [⟨c, (appendOnce root c.table c.key refusal w.keys).1⟩] }

section Steps

variable [DecidableEq ι]

def put (w : Writers ι) (i : ι) (s : Stage ι) : Writers ι :=
  { w with clients := Function.update w.clients i s }

def finish (w : Writers ι) (i : ι) (kept : Bool) (e : Ended ι) : Writers ι :=
  put { w with ended := w.ended ++ [e] } i (.idle kept)

/-- What a client does when its connection breaks: it opens another one, unless this one had been
opened for the append. -/
def broke (w : Writers ι) (i : ι) (c : Append ι) (t : Attempt) (n : Option Nat)
    (fault : StoreFault) : Writers ι :=
  if t = .kept then w.put i (.opening c true) else w.finish i false ⟨c, .error fault, true, n⟩

def settle (w : Writers ι) (i : ι) (c : Append ι) (t : Attempt) (n : Option Nat) :
    Except StoreFault Nat → Writers ι
  | .ok id => w.finish i true ⟨c, .ok id, t.losses != 0, n⟩
  | .error e =>
    if e.isLoss then w.broke i c t n e else w.finish i true ⟨c, .error e, t.losses != 0, n⟩

/-- The clients after something has happened; what cannot happen changes nothing. -/
def step (root : String) (w : Writers ι) : Act ι → Writers ι
  | .begin i table key =>
    match w.clients i with
    | .idle kept =>
      let c : Append ι := ⟨w.begun.length, i, table, key⟩
      put { w with begun := w.begun ++ [c] } i (if kept then .sent c .kept else .opening c false)
    | _ => w
  | .connect i refusal =>
    match w.clients i, refusal with
    | .opening c again, some fault => w.finish i false ⟨c, .error fault, again, none⟩
    | .opening c again, none => w.put i (.sent c (if again then .again else .first))
    | _, _ => w
  | .run i refusal =>
    match w.clients i with
    | .sent c t =>
      (w.ran root c refusal).put i
        (.ran c t w.runs.length (appendOnce root c.table c.key refusal w.keys).1)
    | _ => w
  | .reply i =>
    match w.clients i with
    | .ran c t n answer => w.settle i c t (some n) answer
    | _ => w
  | .lose i arrives =>
    match w.clients i with
    | .sent c t =>
      broke { w with strays := w.strays ++ if arrives then [c] else [] } i c t none .connectionLost
    | .ran c t _ _ => w.broke i c t none .connectionLost
    | _ => w
  | .late n refusal =>
    match w.strays[n]? with
    | some c => { w.ran root c refusal with strays := w.strays.eraseIdx n }
    | none => w

def run (root : String) (w : Writers ι) (acts : List (Act ι)) : Writers ι :=
  acts.foldl (step root) w

theorem put_self (w : Writers ι) (i : ι) (s : Stage ι) : (w.put i s).clients i = s := by
  simp [put]

theorem put_of_ne (w : Writers ι) {i j : ι} (s : Stage ι) (h : j ≠ i) :
    (w.put i s).clients j = w.clients j := by
  simp [put, h]

end Steps

end Writers

end Firewall
