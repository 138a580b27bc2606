import Firewall.Error
import Firewall.Net.Network

/-!
Lists of networks as people write them, with commas between the networks. The
strict reading refuses a list with a malformed network; the lenient one leaves
out malformed networks and keeps the rest.
-/

namespace Firewall

namespace Networks

open Text

/-- The trimmed texts between the commas; a blank list has none. -/
def entries (list : List Char) : List (List Char) :=
  let trimmed := trim list
  if trimmed.isEmpty then [] else (pieces ',' trimmed).map trim

/-- Reads one network, which must say how many leading bits count. -/
def parseOne (entry : List Char) : Except BadArgument Network :=
  if entry.contains '/' then
    match Network.parse? entry with
    | some n => .ok n
    | none => .error (.network (String.ofList entry))
  else .error (.noPrefixLength (String.ofList entry))

/-- Reads a list and refuses it at the first malformed network. -/
def parse (list : String) : Except BadArgument (List Network) :=
  (entries list.toList).mapM parseOne

/-- Reads a list without its malformed networks. -/
def parseLenient (list : String) : List Network :=
  (entries list.toList).filterMap fun e => (parseOne e).toOption

end Networks

end Firewall
