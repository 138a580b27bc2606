import Firewall.Audit.Output
import Firewall.Feed
import Firewall.Geo.Country
import Firewall.Geo.Dataset
import Firewall.Policy.Change

/-!
An instance of the firewall: a feed of the change log, live policies and country
guards that listen to it, and an engine that scans requests. Instances share a
world: the record store, the files, and what they print and count.
-/

namespace Firewall

inductive Counter
  | scans (o : Outcome)
  | delivered (t : Table)
  | pollErrors
  deriving DecidableEq, Repr

def Counter.name : Counter → String
  | scans o => "fe_waf_scan_total\x7bresult=\"" ++ o.name ++ "\"\x7d"
  | delivered t => "fe_waf_changelog_delivered_total\x7btable=\"" ++ t.name ++ "\"\x7d"
  | pollErrors => "fe_waf_changelog_poll_errors_total"

abbrev Counters := Dict Counter Nat

def Counters.count (c : Counters) (k : Counter) : Counters :=
  Dict.insert c k ((Dict.get? c k).getD 0 + 1)

/-- Someone who hears of changes. -/
inductive Listener
  /-- The live policy of a number. -/
  | policy (n : Nat)
  /-- The country guard of a number. -/
  | guard (n : Nat)
  /-- A recorder of a name. -/
  | recorder (name : String)
  deriving DecidableEq, Repr

inductive Plugin
  /-- Always the same verdict; the tag tells plugins of one name apart. -/
  | fixed (name tag : String) (verdict : Verdict)
  /-- The scanner for signatures, which has none yet. -/
  | signatures
  /-- The country guard of a number. -/
  | country (guard : Nat)
  deriving DecidableEq, Repr

/-- The name of a plugin, under which it is switched on. -/
def Plugin.name : Plugin → String
  | fixed name _ _ => name
  | signatures => "axsi"
  | country _ => "geoip"

/-- A live country table and the source of countries it is used with. -/
structure Guard where
  table : Geo.CountryTable
  lookup : Geo.Lookup

/-- The scanning part of an instance: the live policy it obeys, its plugins in
order, and where its audit goes. -/
structure Engine where
  policy : Nat
  plugins : List Plugin
  output : AuditOutput

/-- An instance. Live policies and guards stay alive as long as something
listens for them or uses them, also after newer ones have been set up. -/
structure Instance where
  feed : Option (Feed Listener)
  policies : List Policy
  guards : List Guard
  recorders : Dict String (List String)
  engine : Option Engine

def Instance.fresh : Instance := ⟨none, [], [], Dict.empty, none⟩

instance : Inhabited Instance := ⟨Instance.fresh⟩

/-- What instances share. -/
structure World (σ : Type) where
  store : σ
  paper : Paper
  counters : Counters
  /-- The tags of fixed plugins in the order in which they were asked. -/
  asked : List String
  web : Geo.Web
  clock : Instant

structure Site (σ : Type) where
  world : World σ
  self : Instance

abbrev Act (σ α : Type) := StateM (Site σ) α

/-- What an instance does and may fail with. -/
abbrev Attempt (σ α : Type) := ExceptT Error (StateM (Site σ)) α

namespace Site

variable {σ : Type}

def ask {α : Type} (a : Access σ α) : Act σ (Except StoreError α) := fun s =>
  let (result, store) := a.on s.world.store
  (result, { s with world := { s.world with store } })

/-- Makes a store call that the rest depends on. -/
def need {α : Type} (a : Access σ α) : Attempt σ α := do
  match ← (ask a : Act σ _) with
  | .ok x => return x
  | .error e => throw (.store e)

def own (f : Instance → Instance) : Act σ Unit := modify fun s => { s with self := f s.self }

def count (k : Counter) : Act σ Unit :=
  modify fun s => { s with world := { s.world with counters := s.world.counters.count k } }

/-! ## Hearing of changes -/

def applySetting (n : Nat) (key value : String) : Act σ Unit :=
  own fun i => { i with policies := i.policies.modify n (·.readSetting key value) }

def applyRules (n : Nat) (rules : List CountryRule) : Act σ Unit :=
  own fun i =>
    { i with guards := i.guards.modify n fun g => { g with table := .ofRules rules } }

/-- Adds a key to what a recorder has heard. -/
def record (name key : String) : Act σ Unit :=
  own fun i =>
    { i with recorders := i.recorders.insert name ((i.recorders.get? name).getD [] ++ [key]) }

variable [RecordStore σ]

/-- Lets a listener hear of a change. Listeners read the store again; one that
cannot leaves things as they are. -/
def hear (key : String) : Listener → Act σ Unit
  | .policy n => do
    match ← ask (RecordStore.setting key) with
    | .ok value => applySetting n key value
    | .error _ => return
  | .guard n => do
    match ← ask RecordStore.rules with
    | .ok rules => applyRules n rules
    | .error _ => return
  | .recorder name => record name key

/-- Lets each listener hear of an entry, and counts the delivery. -/
def deliver (listeners : List Listener) (e : LogEntry) : Act σ Unit := do
  listeners.forM (hear e.key)
  count (.delivered e.table)

def listenersOf (table : Table) : Act σ (List Listener) := do
  return match (← get).self.feed with
    | some f => f.listeners table
    | none => []

def advance : Act σ Unit := own fun i => { i with feed := i.feed.map Feed.advance }

/-- Delivers the next entries, `count` of them, up to the first that cannot be
read. Gives how many were delivered, `done` before them. -/
def catchUp : Nat → Nat → Nat → Attempt σ Nat
  | 0, _, done => return done
  | count + 1, next, done => do
    let e ← need (RecordStore.entry next)
    let listeners ← (listenersOf e.table : Act σ _)
    (deliver listeners e : Act σ Unit)
    (advance : Act σ Unit)
    catchUp count (next + 1) (done + 1)

/-- Delivers everything between the last delivered entry and the end of the log.
Gives how many entries were delivered. -/
def poll (last : Nat) : Attempt σ Nat := do
  match Feed.headOf (← (ask RecordStore.latest : Act σ _)) with
  | .error e => throw (.store e)
  | .ok head => catchUp (head - last) (last + 1) 0

/-- One round of following the log: a poll whose failure is counted, and nothing else. -/
def round : Act σ Unit := do
  let last := match (← get).self.feed with
    | some f => f.last
    | none => 0
  match ← (poll last).run with
  | .ok _ => return
  | .error _ => count .pollErrors

/-! ## Starting -/

/-- Starts a feed at the present end of the log. -/
def startFeed : Attempt σ Nat := do
  match Feed.headOf (← (ask RecordStore.latest : Act σ _)) with
  | .error e => throw (.store e)
  | .ok head =>
    (own fun i => { i with feed := some (.startAt head) } : Act σ Unit)
    return head

def subscribe (table : Table) (who : Listener) : Act σ Unit :=
  own fun i => { i with feed := i.feed.map (·.subscribe table who) }

/-- Reads all settings into a live policy that hears of their changes. Gives its
number. -/
def startPolicy : Attempt σ Nat := do
  let rows ← need RecordStore.settings
  let n := (← get).self.policies.length
  (own fun i => { i with policies := i.policies ++ [.ofSettings rows] } : Act σ Unit)
  (subscribe .config (.policy n) : Act σ Unit)
  return n

/-- Sets up a country guard with the stored rules, which hears of their changes.
Gives its number. -/
def startGuard (lookup : Geo.Lookup) : Attempt σ Nat := do
  match ← (ask RecordStore.rules : Act σ _) with
  | .error e => throw (.setup (.loadCountries e))
  | .ok rules =>
    let n := (← get).self.guards.length
    (own fun i => { i with guards := i.guards ++ [⟨.ofRules rules, lookup⟩] } : Act σ Unit)
    (subscribe .geoip (.guard n) : Act σ Unit)
    return n

/-- Gets hold of a country database and sets up a guard with it. -/
def startDatasetGuard (source : Geo.DatasetSource) : Attempt σ Nat := do
  let s ← get
  let (prepared, store) :=
    (Geo.prepare s.world.web s.world.paper.disk source s.world.clock).run s.world.store
  set { s with world := { s.world with store } }
  match prepared.database with
  | .error fault => throw (.setup fault)
  | .ok db => startGuard db.countryOf?

/-! ## Changing -/

/-- Carries out one step of a change; an edit goes to the live policy of a number. -/
def perform (n : Nat) : Step → Attempt σ Unit
  | .publish e =>
    (own fun i => { i with policies := i.policies.modify n (·.edit e) } : Act σ Unit)
  | .putSetting key value => need (RecordStore.putSetting key value)
  | .putRules rules => need (RecordStore.putRules rules)
  | .announce table key => do
    let _ ← need (RecordStore.append table key)

/-- Carries out the steps of a change up to the first that fails. -/
def performAll (n : Nat) : List Step → Attempt σ Unit
  | [] => return
  | step :: steps => do
    perform n step
    performAll n steps

/-- Carries out a change, if it has been accepted. -/
def change (n : Nat) (plan : Except BadArgument (List Step)) : Attempt σ Unit :=
  match plan with
  | .error cause => throw (.argument cause)
  | .ok steps => performAll n steps

/-- Changes the country rules. They are published only through the change log, so
that it does not matter which policy is named. -/
def changeCountries (codes : List String) (allow : Bool) : Attempt σ Unit :=
  change 0 (Change.setCountries codes allow)

def policyAt (n : Nat) : Act σ Policy := do
  return ((← get).self.policies[n]?).getD .initial

/-! ## Scanning -/

/-- Sets up an engine that obeys the live policy of a number. -/
def startEngine (policy : Nat) (outputs format : String) : Attempt σ Unit := do
  let s ← get
  let paper := s.world.paper
  let (output, disk) := AuditOutput.build outputs format paper.disk
  set { s with world := { s.world with paper := { paper with disk } } }
  match output with
  | .error cause => throw (.output cause)
  | .ok output =>
    (own fun i => { i with engine := some ⟨policy, [], output⟩ } : Act σ Unit)

def register (p : Plugin) : Act σ Unit :=
  own fun i =>
    { i with engine := i.engine.map fun e =>
        { e with plugins := Scan.register Plugin.name p e.plugins } }

/-- Registers the usual plugins: the country guard, if it is wanted and can be
set up, and the scanner for signatures. -/
def registerUsual (countries : Bool) (source : Geo.DatasetSource) : Act σ Unit := do
  if countries then
    match ← (startDatasetGuard source).run with
    | .ok n => register (.country n)
    | .error _ => pure ()
  register .signatures

def askPlugin (guards : List Guard) (r : Request) : Plugin → Verdict
  | .fixed _ _ verdict => verdict
  | .signatures => .allow
  | .country n => match guards[n]? with
    | some g => Geo.scan g.table g.lookup r
    | none => .allow

/-- The tag of a plugin that keeps account of being asked. -/
def tag? : Plugin → Option String
  | .fixed _ tag _ => some tag
  | _ => none

/-- Decides on a request, writes the decision down and counts it. -/
def scan (e : Engine) (r : Request) : Act σ Outcome := do
  let s ← get
  let policy ← policyAt e.policy
  let (outcome, asked) :=
    Scan.decide policy r.remote? Plugin.name (askPlugin s.self.guards r) e.plugins
  let record := AuditRecord.of r outcome s.world.clock
  set { s with world :=
    { s.world with
      paper := e.output.emit record s.world.paper
      asked := s.world.asked ++ asked.filterMap tag? } }
  count (.scans outcome)
  return outcome

end Site

end Firewall
