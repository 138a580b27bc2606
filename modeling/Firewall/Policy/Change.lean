import Firewall.Policy
import Firewall.Store.Record

/-!
Changes that an operator makes. A change is checked as a whole first; then it is
carried out step by step, and what fails stops it where it stands. Settings are
published in the own process first and reach the others through the change log.
-/

namespace Firewall

inductive Step
  /-- Puts an edit into force in the own process. -/
  | publish (e : Edit)
  /-- Stores a setting. -/
  | putSetting (key value : String)
  /-- Stores the country rules. -/
  | putRules (rules : List CountryRule)
  /-- Tells all processes through the change log. -/
  | announce (table : Table) (key : String)
  deriving DecidableEq, Repr

namespace Change

/-- The steps that put a setting into force. -/
def ofSetting (e : Edit) (key value : String) : List Step :=
  [.publish e, .putSetting key value, .announce .config key]

def setMode (text : String) : Except BadArgument (List Step) :=
  (Mode.parse text).map fun m => ofSetting (.mode m) modeKey m.name

def setAllowed (list : String) : Except BadArgument (List Step) :=
  (Networks.parse list).map fun ns => ofSetting (.allowed ns) allowedKey list

def setDenied (list : String) : Except BadArgument (List Step) :=
  (Networks.parse list).map fun ns => ofSetting (.denied ns) deniedKey list

def setPlugin (plugin : String) (on : Bool) : List Step :=
  ofSetting (.toggle plugin on) (pluginKey plugin) (switchName on)

/-- A country code of two letters, in upper case. -/
def parseCode (text : String) : Except BadArgument String :=
  match Text.trim text.toList with
  | [a, b] =>
    if Text.isAsciiLetter a && Text.isAsciiLetter b then
      .ok (String.ofList [Text.asciiUpper a, Text.asciiUpper b])
    else .error (.country (String.ofList [a, b]))
  | other => .error (.country (String.ofList other))

def ruleWord (allow : Bool) : String := if allow then "allow" else "deny"

/-- Lets only requests from the given countries through, or blocks those. -/
def setCountries (codes : List String) (allow : Bool) : Except BadArgument (List Step) :=
  (codes.mapM parseCode).map fun cs =>
    [.putRules (cs.map fun c => ⟨c, allow⟩), .announce .geoip (ruleWord allow)]

end Change

end Firewall
