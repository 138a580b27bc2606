import Firewall.Audit.Record
import Firewall.Policy

/-!
The decision on a request: the mode first, then the networks, then the plugins
in the order of their registration up to the first that flags the request.
-/

namespace Firewall

inductive Verdict
  | allow
  | block
  deriving DecidableEq, Repr

namespace Scan

variable {π : Type}

/-- Adds a plugin to a chain; one that has the name of an earlier one takes its place. -/
def register (name : π → String) (new : π) : List π → List π
  | [] => [new]
  | p :: ps => if name p = name new then new :: ps else p :: register name new ps

/-- Asks the plugins that are switched on, up to the first that blocks. Gives
whether one blocked, and those that were asked. -/
def consult (isOn : π → Bool) (ask : π → Verdict) : List π → Bool × List π
  | [] => (false, [])
  | p :: ps =>
    if isOn p then
      match ask p with
      | .block => (true, [p])
      | .allow => let (flagged, asked) := consult isOn ask ps; (flagged, p :: asked)
    else consult isOn ask ps

def flaggedOutcome (m : Mode) : Outcome :=
  match m with
  | .dryrun => .dryrun
  | _ => .blocked

/-- The decision of the plugins, and those that were asked. -/
def byPlugins (policy : Policy) (name : π → String) (ask : π → Verdict) (chain : List π) :
    Outcome × List π :=
  let (flagged, asked) := consult (fun p => policy.isOn (name p)) ask chain
  (if flagged then flaggedOutcome policy.mode else .pass, asked)

/-- The decision on a request from a remote address, which may be unknown, and
the plugins that were asked. -/
def decide (policy : Policy) (remote : Option Address) (name : π → String) (ask : π → Verdict)
    (chain : List π) : Outcome × List π :=
  if policy.mode = .disabled then (.pass, [])
  else match remote with
    | some a =>
      if policy.allows a then (.pass, [])
      else if policy.denies a then (.blocked, [])
      else byPlugins policy name ask chain
    | none => byPlugins policy name ask chain

end Scan

end Firewall
