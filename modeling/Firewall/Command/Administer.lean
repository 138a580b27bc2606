import Firewall.Command
import Firewall.Command.Console

/-!
The commands of administration. Those that change something write to the record
store, and running instances follow through the change log.
-/

namespace Firewall

namespace Job

variable {σ : Type} [RecordStore σ]

/-- The texts in the order of their characters. -/
def sorted (texts : List String) : List String := texts.mergeSort fun a b => !decide (b < a)

def listed (texts : List String) : String := ", ".intercalate texts

def codesIn (list : String) : List String :=
  (((Text.pieces ',' list.toList).map Text.trim).filter (!·.isEmpty)).map String.ofList

/-- Carries out a change of the live policy of a number. -/
def change (n : Nat) (plan : Except BadArgument (List Step)) : Job σ Unit :=
  within .failed (Site.change n plan)

/-- The lines about the switches of plugins, in the order of their names. -/
def toggleLines (p : Policy) : List String :=
  (p.toggles.rows.mergeSort fun a b => !decide (b.1 < a.1)).map fun (name, on) =>
    "  " ++ name ++ ": " ++ switchName on

def report (n : Nat) : Job σ Unit := do
  let p ← act (Site.policyAt n)
  say "=== WAF Policy ==="
  say ""
  say ("Mode: " ++ p.mode.name)
  say ("Allow list: " ++ listed (p.allowed.map Network.render))
  say ("Deny list: " ++ listed (p.denied.map Network.render))
  say "Plugins:"
  (toggleLines p).forM say
  let rules ← within .failed (Site.need RecordStore.rules)
  let table := Geo.CountryTable.ofRules rules
  say ("GeoIP countries (" ++ Change.ruleWord table.allowMode ++ "): " ++
    listed (sorted table.countries.keys))

/-- Runs one request through an engine with the usual plugins. -/
def test (s : Settings) (n : Nat) (remoteAddr url method : String) : Job σ Unit := do
  match Url.parse url with
  | .error fault => throw (.badUrl url fault)
  | .ok u =>
    within .failed (Site.startEngine n s.audit.outputs s.audit.format)
    act (Site.registerUsual s.countries.enable s.countries.source)
    match (← get).self.engine with
    | none => return
    | some e =>
      let outcome ← act (Site.scan e ⟨remoteAddr, u, method⟩)
      say ("Plugins: " ++ listed (e.plugins.map Plugin.name))
      say ("Result: " ++ outcome.name)

/-- Carries out an act of administration as an instance that has joined. -/
def administer (s : Settings) (n : Nat) : Administration → Job σ Unit
  | .mode text => do
    change n (Change.setMode text)
    say ("[OK] WAF mode set to " ++ text)
  | .allowed list => do
    change n (Change.setAllowed list)
    say "[OK] Allow list updated"
  | .denied list => do
    change n (Change.setDenied list)
    say "[OK] Deny list updated"
  | .plugin name on => do
    change n (.ok (Change.setPlugin name on))
    say ("[OK] Plugin " ++ name ++ " " ++ switchName on)
  | .countries list deny => do
    let codes := codesIn list
    within .failed (Site.changeCountries codes (!deny))
    say ("[OK] " ++ toString codes.length ++ " countries " ++
      (if deny then "denied" else "allowed"))
  | .report => report n
  | .test remoteAddr url method => test s n remoteAddr url method

end Job

namespace Console

/-- Carries out an act of administration on the store that a file of settings names. -/
def administer (c : Console) (path : String) (act : Administration) :
    Except CommandFault Unit × Console :=
  match Settings.load c.paper.disk path with
  | .error fault => (.error (.settings fault), c)
  | .ok s =>
    if act.isMutating && s.store.kind? == some .memory then (.error (.shortLived path), c)
    else c.withStore s.store do
      let n ← Job.join
      Job.administer s n act

end Console

end Firewall
