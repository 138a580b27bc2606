import Firewall.Command.Console
import Firewall.Settings.Findings

/-!
The commands about settings: checking a file, and writing one with the usual
values.
-/

namespace Firewall.Console

def sayAll (c : Console) (lines : List String) : Console := lines.foldl say c

def validate (c : Console) (path : String) : Except CommandFault Unit × Console :=
  let c := c.say ("Checking configuration: " ++ path)
  match Settings.load c.paper.disk path with
  | .error fault => (.error (.settings fault), c)
  | .ok s =>
    let findings := s.findings c.paper.disk
    if findings.isEmpty then (.ok (), c.say "[OK] Configuration is valid!")
    else
      let c := c.sayAll
        (["Configuration loaded with warnings:", ""] ++ findings.map Finding.message)
      (if Settings.hasFatal findings then .error .fatalFindings else .ok (), c)

/-- Writes the usual settings to a file. -/
def generate (c : Console) (path : String) : Except CommandFault Unit × Console :=
  match Settings.save c.paper.disk path Settings.usual with
  | .error fault => (.error (.settings fault), c)
  | .ok disk =>
    (.ok (),
      { c with paper := { c.paper with disk } }.say
        ("[OK] Default configuration written to " ++ path))

end Firewall.Console
