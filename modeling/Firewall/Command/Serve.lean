import Firewall.Command.Console
import Firewall.Service
import Firewall.Settings.Findings

/-!
The command that starts the service: everything that has to go well before it can
answer its first call.
-/

namespace Firewall

def ServerSettings.address (s : ServerSettings) : String := s.host ++ ":" ++ toString s.port

namespace Job

variable {σ : Type} [RecordStore σ]

/-- Sets up the engine of a service. Gives it with its plugins. -/
def setUp (s : Settings) : Job σ Engine := do
  let n ← join
  within .noAudit (Site.startEngine n s.audit.outputs s.audit.format)
  act (Site.registerUsual s.countries.enable s.countries.source)
  return ((← get).self.engine).getD ⟨n, [], ⟨⟨[]⟩, []⟩⟩

/-- Starts a service, and lets it do its work once it has its address. -/
def serve {α : Type} (s : Settings) (listen : ServerSettings → Option String)
    (work : Engine → Service → Act σ α) : Job σ α := do
  let engine ← setUp s
  match listen s.server with
  | some reason => throw (.cannotListen s.server.address reason)
  | none => act (work engine .started)

end Job

namespace Console

variable {α : Type}

/-- Starts the service with the settings in a file. `listen` says why an address
cannot be had, and `work` is what the service does. -/
def serve (c : Console) (path : String) (listen : ServerSettings → Option String)
    (work : {σ : Type} → [RecordStore σ] → Engine → Service → Act σ α) :
    Except CommandFault α × Console :=
  match Settings.load c.paper.disk path with
  | .error fault => (.error (.settings fault), c)
  | .ok s =>
    if Settings.hasFatal (s.findings c.paper.disk) then (.error .fatalFindings, c)
    else c.withStore s.store (Job.serve s listen work)

end Console

end Firewall
