/-!
Stopping everything at once. A stop is announced on a channel; whoever listens
has a place of its own on it, and hears what is announced after it began to
listen. `Shutdown.signal` announces the stop at its first call only.
-/

namespace Firewall

/-- What a listener finds when it looks at its channel. -/
inductive Heard
  | signal
  | nothing
  /-- So many announcements were lost, because the listener was too slow. -/
  | missed (count : Nat)
  deriving DecidableEq, Repr

/-- A channel for announcements, which says how many were made. Only the last few
are kept. -/
structure Channel where
  sent : Nat
  deriving DecidableEq, Repr, Inhabited

namespace Channel

/-- How many announcements are kept. -/
def capacity : Nat := 16

def quiet : Channel := ⟨0⟩

def announce (c : Channel) : Channel := ⟨c.sent + 1⟩

/-- What a listener hears that has heard or lost `past` announcements, and how
many it has then. -/
def listen (c : Channel) (past : Nat) : Heard × Nat :=
  if c.sent ≤ past then (.nothing, past)
  else if past + capacity < c.sent then (.missed (c.sent - capacity - past), c.sent - capacity)
  else (.signal, past + 1)

end Channel

/-- The state of the stopping, with all who ever began to listen; those who have
stopped listening are gone. -/
structure Shutdown where
  stopping : Bool
  channel : Channel
  listeners : List (Option Nat)
  deriving DecidableEq, Repr, Inhabited

namespace Shutdown

def initial : Shutdown := ⟨false, .quiet, []⟩

/-- Lets one more listen; it gets the next number. -/
def subscribe (s : Shutdown) : Nat × Shutdown :=
  (s.listeners.length, { s with listeners := s.listeners ++ [some s.channel.sent] })

/-- Announces the stop, unless that has been done. -/
def signal (s : Shutdown) : Shutdown :=
  if s.stopping then s else { s with stopping := true, channel := s.channel.announce }

/-- What the listener of a number hears, `none` if there is no such listener. -/
def receive (s : Shutdown) (n : Nat) : Option Heard × Shutdown :=
  match s.listeners[n]? with
  | some (some past) =>
    let (heard, past) := s.channel.listen past
    (some heard, { s with listeners := s.listeners.set n (some past) })
  | _ => (none, s)

def drop (s : Shutdown) (n : Nat) : Shutdown := { s with listeners := s.listeners.set n none }

inductive Step
  | subscribe
  | signal
  | state
  | receive (n : Nat)
  | drop (n : Nat)
  deriving DecidableEq, Repr

inductive Answer
  | done
  | number (n : Nat)
  | state (stopping : Bool)
  | heard (h : Heard)
  | noListener
  deriving DecidableEq, Repr

def step (s : Shutdown) : Step → Answer × Shutdown
  | .subscribe => let (n, s) := s.subscribe; (.number n, s)
  | .signal => (.done, s.signal)
  | .state => (.state s.stopping, s)
  | .receive n =>
    match s.receive n with
    | (some h, s) => (.heard h, s)
    | (none, s) => (.noListener, s)
  | .drop n => (.done, s.drop n)

def run (s : Shutdown) : List Step → List Answer
  | [] => []
  | x :: xs => let (a, s) := s.step x; a :: run s xs

end Shutdown

end Firewall
