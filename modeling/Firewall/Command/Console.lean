import Firewall.Instance
import Firewall.Settings.File
import Firewall.Store.Location
import Firewall.Store.Shared
import Firewall.Store.Tables

/-!
What a command works with, and what it can fail with. A command that needs the
record store opens it first, and joins the instances that share it.
-/

namespace Firewall

inductive CommandFault
  | settings (fault : SettingsFault)
  | fatalFindings
  /-- A change to a store that ends with the command. -/
  | shortLived (path : String)
  | unknownBackend (name : String)
  | noStore (url : String) (fault : StoreFault)
  | noFeed (cause : Error)
  | noPolicy (cause : Error)
  | noAudit (cause : Error)
  | badUrl (text : String) (fault : Url.Fault)
  | cannotListen (address reason : String)
  | failed (cause : Error)
  deriving DecidableEq, Repr

/-- The description of a fault, and those of its causes. -/
def CommandFault.chain : CommandFault → List String
  | settings fault => fault.chain
  | fatalFindings => ["Configuration has fatal errors"]
  | shortLived path =>
    ["The memory store only lives as long as this command, so the change would be lost. " ++
      "Set [store] backend = \"redis\" in " ++ path ++ " to share changes with running instances"]
  | unknownBackend name => ["Unknown store backend: " ++ name]
  | noStore url fault =>
    ["Failed to connect to Redis at " ++ url, (StoreError.fault fault).message]
  | noFeed cause => ["Failed to read the change log", cause.message]
  | noPolicy cause => ["Failed to load WAF config", cause.message]
  | noAudit cause => ["Failed to set up WAF audit output", cause.message]
  | badUrl text fault => ["Invalid URL: " ++ text, fault.message]
  | cannotListen address reason => ["Failed to bind " ++ address, reason]
  | failed cause => [cause.message]

/-- What a command works with. -/
structure Console where
  paper : Paper
  /-- What the server of shared stores holds, and the way to each place. -/
  keys : Keyspace
  link : Location → Link
  web : Geo.Web
  clock : Instant

abbrev Job (σ α : Type) := ExceptT CommandFault (StateM (Site σ)) α

namespace Job

variable {σ α : Type}

/-- Does what cannot fail. -/
def act (a : Act σ α) : Job σ α := ExceptT.lift a

/-- Does what can fail, and says in which words. -/
def within (words : Error → CommandFault) (a : Attempt σ α) : Job σ α := do
  match ← act a.run with
  | .ok x => return x
  | .error e => throw (words e)

def say (line : String) : Job σ Unit :=
  act (modify fun s =>
    let paper := s.world.paper
    { s with world :=
      { s.world with paper := { paper with stdout := paper.stdout ++ [line] } } })

/-- Joins the instances that share the store: reads the end of the change log,
then all settings. Gives the number of the live policy. -/
def join [RecordStore σ] : Job σ Nat := do
  let _ ← within .noFeed Site.startFeed
  within .noPolicy Site.startPolicy

end Job

namespace Console

variable {σ α : Type}

def say (c : Console) (line : String) : Console :=
  { c with paper := { c.paper with stdout := c.paper.stdout ++ [line] } }

def site (c : Console) (store : σ) : Site σ where
  world :=
    { store
      paper := c.paper
      counters := Dict.empty
      asked := []
      web := c.web
      clock := c.clock }
  self := .fresh

/-- Does a job as a new instance on a store. -/
def run (c : Console) (store : σ) (job : Job σ α) : Except CommandFault α × σ × Console :=
  let (result, site) := StateT.run job.run (c.site store)
  (result, site.world.store, { c with paper := site.world.paper })

/-- Opens a shared store, with up to so many tries. -/
def openShared (c : Console) (s : StoreSettings) : Except StoreFault Shared :=
  match Location.parse s.url with
  | .error fault => .error (.badAddress fault)
  | .ok location => (Shared.connect s.root s.tries.toNat ⟨c.keys, c.link location⟩).1

/-- Opens the store that is set and does a job on it. -/
def withStore (c : Console) (s : StoreSettings)
    (job : {σ : Type} → [RecordStore σ] → Job σ α) : Except CommandFault α × Console :=
  match s.kind? with
  | some .memory =>
    let (result, _, c) := c.run Tables.empty job
    (result, c)
  | some .shared =>
    match c.openShared s with
    | .error fault => (.error (.noStore s.url fault), c)
    | .ok store =>
      let (result, store, c) := c.run store job
      (result, { c with keys := store.server.keys })
  | none => (.error (.unknownBackend s.backend), c)

end Console

end Firewall
