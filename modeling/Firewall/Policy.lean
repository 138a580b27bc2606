import Firewall.Dict
import Firewall.Policy.Networks

/-!
What the firewall does with requests: its mode, the plugins that are switched on,
and the networks that are always let through or always blocked. A policy changes
by edits, and stored settings are read as edits.
-/

namespace Firewall

/-- The stance towards requests that a plugin flags. -/
inductive Mode
  /-- They are blocked. -/
  | enabled
  /-- They are let through and noted. -/
  | dryrun
  /-- Nothing is scanned. -/
  | disabled
  deriving DecidableEq, Repr, Inhabited

namespace Mode

def name : Mode → String
  | enabled => "enabled"
  | dryrun => "dryrun"
  | disabled => "disabled"

def ofName? (s : String) : Option Mode :=
  if s = "enabled" then some enabled
  else if s = "dryrun" then some dryrun
  else if s = "disabled" then some disabled
  else none

def parse (s : String) : Except BadArgument Mode :=
  match ofName? s with
  | some m => .ok m
  | none => .error (.mode s)

theorem ofName?_name (m : Mode) : ofName? m.name = some m := by
  cases m <;> rfl

end Mode

/-- A policy; it is replaced as a whole when it changes. -/
structure Policy where
  mode : Mode
  toggles : Dict String Bool
  allowed : List Network
  denied : List Network
  deriving DecidableEq, Repr

inductive Edit
  | mode (m : Mode)
  | allowed (networks : List Network)
  | denied (networks : List Network)
  | toggle (plugin : String) (on : Bool)
  deriving DecidableEq, Repr

namespace Policy

def initial : Policy := ⟨.enabled, Dict.empty, [], []⟩

instance : Inhabited Policy := ⟨initial⟩

def isOn (p : Policy) (plugin : String) : Bool := (p.toggles.get? plugin).getD false

/-- Whether an address lies in a network that is always let through. -/
def allows (p : Policy) (a : Address) : Bool := p.allowed.any (·.contains a)

/-- Whether an address lies in a network that is always blocked. -/
def denies (p : Policy) (a : Address) : Bool := p.denied.any (·.contains a)

def edit (p : Policy) : Edit → Policy
  | .mode m => { p with mode := m }
  | .allowed networks => { p with allowed := networks }
  | .denied networks => { p with denied := networks }
  | .toggle plugin on => { p with toggles := p.toggles.insert plugin on }

end Policy

/-! ## Settings -/

def modeKey : String := "mode"

def allowedKey : String := "allowlist"

def deniedKey : String := "denylist"

def pluginRoot : String := "plugin_"

def pluginKey (plugin : String) : String := pluginRoot ++ plugin

def pluginOf? (key : String) : Option String :=
  (Text.after? pluginRoot.toList key.toList).map String.ofList

def switchName (on : Bool) : String := if on then "enabled" else "disabled"

def switch? (s : String) : Option Bool :=
  if s = "enabled" then some true else if s = "disabled" then some false else none

/-- The edit that a stored setting stands for; settings that are not known and
values that make no sense stand for none. -/
def Edit.ofSetting? (key value : String) : Option Edit :=
  if key = modeKey then (Mode.ofName? value).map .mode
  else if key = allowedKey then some (.allowed (Networks.parseLenient value))
  else if key = deniedKey then some (.denied (Networks.parseLenient value))
  else match pluginOf? key with
    | some plugin => (switch? value).map (.toggle plugin)
    | none => none

def Policy.readSetting (p : Policy) (key value : String) : Policy :=
  match Edit.ofSetting? key value with
  | some e => p.edit e
  | none => p

def Policy.ofSettings (rows : List (String × String)) : Policy :=
  rows.foldl (fun p r => p.readSetting r.1 r.2) initial

end Firewall
