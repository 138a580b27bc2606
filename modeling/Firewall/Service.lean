import Firewall.Http.Service
import Firewall.Shutdown

/-!
The service of an instance while it starts, runs and stops. Two parts of it must
hear when it is to stop: the one that follows the change log, and the one that
answers calls. A request to stop may come as soon as such requests are awaited.
-/

namespace Firewall

/-- How far a service has come, and who of it listens for the stop. -/
structure Service where
  shutdown : Shutdown
  /-- The listener of the part that follows the change log. -/
  watcher : Option Nat
  /-- Whether requests to stop are awaited. -/
  awaiting : Bool
  /-- Whether the address is taken. -/
  bound : Bool
  /-- The listener of the part that answers calls. -/
  server : Option Nat
  deriving DecidableEq, Repr

namespace Service

def idle : Service := ⟨.initial, none, false, false, none⟩

inductive Stage
  | watchLog
  | awaitStop
  | bind
  | answerCalls
  deriving DecidableEq, Repr

def stages : List Stage := [.watchLog, .awaitStop, .bind, .answerCalls]

def enter (s : Service) : Stage → Service
  | .watchLog =>
    let (n, shutdown) := s.shutdown.subscribe
    { s with shutdown, watcher := some n }
  | .awaitStop => { s with awaiting := true }
  | .bind => { s with bound := true }
  | .answerCalls =>
    let (n, shutdown) := s.shutdown.subscribe
    { s with shutdown, server := some n }

/-- A request to stop, which is not heard as long as nobody awaits it. -/
def stop (s : Service) : Service :=
  if s.awaiting then { s with shutdown := s.shutdown.signal } else s

inductive Event
  | stage (x : Stage)
  | stopRequest
  deriving DecidableEq, Repr

def after (s : Service) : Event → Service
  | .stage x => s.enter x
  | .stopRequest => s.stop

def afterAll (s : Service) (events : List Event) : Service := events.foldl after s

def started : Service := idle.afterAll (stages.map .stage)

end Service

end Firewall
