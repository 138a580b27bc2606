import Firewall.Instance
import Firewall.Store.Faulty
import Mathlib.Logic.Function.Basic

/-!
A fleet: instances of the firewall on one record store, with the steps of all of
them in any order. What an instance does is cut where another instance, or another
thread of the same one, may come in between:

* a start reads the end of the log, then reads settings or rules, then lets a
  listener join; polls begin only after that (`connect`, `load`, `join`);
* a change is carried out one `Step` at a time (`submit`, `carry`);
* a poll reads the end of the log, fetches an entry, lets each listener of the table
  read the store again and apply what it read, and moves the feed on (`poll`).

Store calls fail as the weather says. Each node keeps an account of what its
listeners heard and how its polls ended. `Proofs.Fleet.Solo` shows that an instance
which nobody disturbs does what `Site.poll` and its like do.
-/

namespace Firewall

/-! ## Polls, one step at a time -/

/-- A key that a listener heard of, and whether the listener could read the store. -/
structure Hearing where
  who : Listener
  entry : LogEntry
  read : Bool
  deriving DecidableEq, Repr

inductive Ending
  /-- The end of the log could not be read. -/
  | noHead (cause : StoreError)
  /-- The entry of a number could not be read. -/
  | noEntry (head id : Nat) (cause : StoreError)
  /-- So many entries were delivered, up to the head. -/
  | complete (head count : Nat)
  deriving DecidableEq, Repr

/-- A poll that has ended: where the feed stood before and after it, and its ending. -/
structure Report where
  before : Nat
  after : Nat
  ending : Ending
  deriving DecidableEq, Repr

/-- How far a poll has come: where the feed stood when it began, the head it read,
and how many entries it has delivered. -/
structure Progress where
  start : Nat
  head : Nat
  done : Nat
  deriving DecidableEq, Repr

def Progress.last (p : Progress) : Nat := p.start + p.done

/-- What a listener has read and will apply. -/
inductive News
  | setting (policy : Nat) (key value : String)
  | rules (guard : Nat) (rules : List CountryRule)
  deriving DecidableEq, Repr

def News.who : News → Listener
  | setting n _ _ => .policy n
  | rules n _ => .guard n

/-- Where the reading of the change log stands. -/
inductive Phase
  | idle
  /-- Between two entries. -/
  | catching (p : Progress)
  /-- An entry has been fetched, and these listeners have not heard of it yet. -/
  | delivering (p : Progress) (e : LogEntry) (todo : List Listener)
  /-- A listener has read the store and is about to apply what it read. -/
  | applying (p : Progress) (e : LogEntry) (news : News) (todo : List Listener)
  deriving DecidableEq, Repr

inductive Note
  | heard (h : Hearing)
  | ended (r : Report)
  deriving DecidableEq, Repr

structure Moved (σ : Type) where
  phase : Phase
  note : Option Note
  site : Site σ

def Instance.last (i : Instance) : Nat := (i.feed.map (·.last)).getD 0

namespace Site

variable {σ : Type}

def apply (s : Site σ) : News → Site σ
  | .setting n key value => (applySetting n key value s).2
  | .rules n rules => (applyRules n rules s).2

variable [RecordStore σ]

/-- A poll begins: it reads the end of the log. -/
def begin (s : Site σ) : Moved σ :=
  let (answer, s) := ask RecordStore.latest s
  match Feed.headOf answer with
  | .error cause => ⟨.idle, some (.ended ⟨s.self.last, s.self.last, .noHead cause⟩), s⟩
  | .ok head => ⟨.catching ⟨s.self.last, head, 0⟩, none, s⟩

/-- A poll fetches the next entry, or ends if there is none up to the head. -/
def fetch (p : Progress) (s : Site σ) : Moved σ :=
  if p.last < p.head then
    let (answer, s) := ask (RecordStore.entry (p.last + 1)) s
    match answer with
    | .error cause =>
      ⟨.idle, some (.ended ⟨p.start, s.self.last, .noEntry p.head (p.last + 1) cause⟩), s⟩
    | .ok e =>
      let (listeners, s) := listenersOf e.table s
      ⟨.delivering p e listeners, none, s⟩
  else ⟨.idle, some (.ended ⟨p.start, s.self.last, .complete p.head p.done⟩), s⟩

/-- A listener hears of an entry: it reads the store again, or notes the key. -/
def tell (p : Progress) (e : LogEntry) (todo : List Listener) (who : Listener) (s : Site σ) :
    Moved σ :=
  match who with
  | .policy n =>
    let (answer, s) := ask (RecordStore.setting e.key) s
    match answer with
    | .ok value => ⟨.applying p e (.setting n e.key value) todo, some (.heard ⟨who, e, true⟩), s⟩
    | .error _ => ⟨.delivering p e todo, some (.heard ⟨who, e, false⟩), s⟩
  | .guard n =>
    let (answer, s) := ask RecordStore.rules s
    match answer with
    | .ok rules => ⟨.applying p e (.rules n rules) todo, some (.heard ⟨who, e, true⟩), s⟩
    | .error _ => ⟨.delivering p e todo, some (.heard ⟨who, e, false⟩), s⟩
  | .recorder name =>
    ⟨.delivering p e todo, some (.heard ⟨who, e, true⟩), (record name e.key s).2⟩

/-- The entry has been delivered: it is counted, and the feed moves on. -/
def moveOn (p : Progress) (e : LogEntry) (s : Site σ) : Moved σ :=
  let s := (count (.delivered e.table) s).2
  ⟨.catching { p with done := p.done + 1 }, none, (advance s).2⟩

def pollStep (s : Site σ) : Phase → Moved σ
  | .idle => begin s
  | .catching p => fetch p s
  | .delivering p e [] => moveOn p e s
  | .delivering p e (who :: todo) => tell p e todo who s
  | .applying p e news todo => ⟨.delivering p e todo, none, s.apply news⟩

end Site

/-! ## Instances among others -/

/-- What a starting instance has read and will use. -/
inductive Boot
  | settings (rows : List (String × String))
  | rules (rules : List CountryRule) (lookup : Geo.Lookup)

def Boot.table : Boot → Table
  | settings _ => .config
  | rules _ _ => .geoip

def Boot.listener (i : Instance) : Boot → Listener
  | settings _ => .policy i.policies.length
  | rules _ _ => .guard i.guards.length

def Instance.equip (i : Instance) : Boot → Instance
  | .settings rows => { i with policies := i.policies ++ [.ofSettings rows] }
  | .rules rules lookup => { i with guards := i.guards ++ [⟨.ofRules rules, lookup⟩] }

inductive Part
  | settings
  | rules (lookup : Geo.Lookup)

/-- An instance and what it is in the middle of. -/
structure Node where
  self : Instance
  boot : Option Boot
  phase : Phase
  /-- Whether polls have begun. -/
  polling : Bool
  /-- The changes that are being carried out: the policy of each and its steps to come. -/
  changes : List (Nat × List Step)
  /-- What the listeners have heard, the latest last. -/
  heard : List Hearing
  /-- The polls that have ended, the latest last. -/
  reports : List Report
  /-- Where the feed stood when a listener first subscribed to a table. -/
  joined : Dict (Table × Listener) Nat

namespace Node

variable {σ : Type}

def fresh : Node := ⟨.fresh, none, .idle, false, [], [], [], Dict.empty⟩

instance : Inhabited Node := ⟨fresh⟩

/-- Subscribes a listener, and keeps account of where it joined in. -/
def subscribe (n : Node) (table : Table) (who : Listener) : Node :=
  match n.self.feed with
  | none => n
  | some f =>
    { n with
      self := { n.self with feed := some (f.subscribe table who) }
      joined :=
        if n.joined.contains (table, who) then n.joined else n.joined.insert (table, who) f.last }

/-- Lets the listener begin to live that was being prepared. -/
def join (n : Node) : Node :=
  match n.boot with
  | none => n
  | some b =>
    { n with self := n.self.equip b, boot := none }.subscribe b.table (b.listener n.self)

def note (n : Node) : Option Note → Node
  | none => n
  | some (.heard h) => { n with heard := n.heard ++ [h] }
  | some (.ended r) => { n with reports := n.reports ++ [r] }

/-- The node after a change has got behind its next step; a change without further
steps is over. -/
def proceed (n : Node) (j policy : Nat) (rest : List Step) : Node :=
  { n with
    changes := if rest.isEmpty then n.changes.eraseIdx j else n.changes.set j (policy, rest) }

variable [RecordStore σ]

/-- Starts the feed of an instance that has none. -/
def connect (w : World σ) (n : Node) : World σ × Node :=
  match n.self.feed with
  | some _ => (w, n)
  | none =>
    let (_, s) := Site.startFeed.run ⟨w, n.self⟩
    (s.world, { n with self := s.self })

/-- Reads what a listener begins with, as long as no poll has begun. -/
def load (w : World σ) (n : Node) (part : Part) : World σ × Node :=
  if n.self.feed.isNone || n.polling || n.boot.isSome then (w, n)
  else match part with
    | .settings =>
      match Site.ask RecordStore.settings ⟨w, n.self⟩ with
      | (.ok rows, s) => (s.world, { n with boot := some (.settings rows) })
      | (.error _, s) => (s.world, n)
    | .rules lookup =>
      match Site.ask RecordStore.rules ⟨w, n.self⟩ with
      | (.ok rules, s) => (s.world, { n with boot := some (.rules rules lookup) })
      | (.error _, s) => (s.world, n)

/-- Goes on with the poll, or begins one if nothing is being prepared any more. -/
def poll (w : World σ) (n : Node) : World σ × Node :=
  if n.self.feed.isNone || n.boot.isSome then (w, n)
  else
    let m := Site.pollStep ⟨w, n.self⟩ n.phase
    (m.site.world, { n with self := m.site.self, phase := m.phase, polling := true }.note m.note)

/-- Goes on with a change; one that fails is over. -/
def carry (w : World σ) (n : Node) (j : Nat) : World σ × Node :=
  match n.changes[j]? with
  | none => (w, n)
  | some (_, []) => (w, { n with changes := n.changes.eraseIdx j })
  | some (policy, step :: rest) =>
    match (Site.perform policy step).run ⟨w, n.self⟩ with
    | (.ok _, s) => (s.world, { n with self := s.self }.proceed j policy rest)
    | (.error _, s) => (s.world, { n with self := s.self, changes := n.changes.eraseIdx j })

end Node

def World.around {σ : Type} (store : σ) : World σ :=
  ⟨store, default, Dict.empty, [], .silent "", default⟩

/-- Instances with names from `ι`, and the world that they share. -/
structure Fleet (ι σ : Type) where
  world : World (Faulty σ)
  nodes : ι → Node

inductive Action (ι : Type)
  /-- From now on these store calls fail. -/
  | weather (failing : Failing)
  /-- An instance starts its feed. -/
  | connect (i : ι)
  /-- A starting instance reads settings or rules. -/
  | load (i : ι) (part : Part)
  /-- What it has read becomes a listener. -/
  | join (i : ι)
  /-- A listener subscribes between polls. -/
  | subscribe (i : ι) (table : Table) (who : Listener)
  /-- A change begins in an instance, at the policy of a number. -/
  | submit (i : ι) (policy : Nat) (steps : List Step)
  /-- A change in an instance gets one step further. -/
  | carry (i : ι) (j : Nat)
  /-- The poll of an instance gets one step further. -/
  | poll (i : ι)

namespace Fleet

variable {ι σ : Type} [DecidableEq ι] [RecordStore σ]

def start (w : World (Faulty σ)) : Fleet ι σ := ⟨w, fun _ => .fresh⟩

def act (c : Fleet ι σ) (i : ι)
    (f : World (Faulty σ) → Node → World (Faulty σ) × Node) : Fleet ι σ :=
  ⟨(f c.world (c.nodes i)).1, Function.update c.nodes i (f c.world (c.nodes i)).2⟩

def step (c : Fleet ι σ) : Action ι → Fleet ι σ
  | .weather failing => { c with world := { c.world with store := { c.world.store with failing } } }
  | .connect i => c.act i Node.connect
  | .load i part => c.act i fun w n => n.load w part
  | .join i => c.act i fun w n => (w, n.join)
  | .subscribe i table who =>
    c.act i fun w n => (w, if n.phase = .idle then n.subscribe table who else n)
  | .submit i policy steps =>
    c.act i fun w n => (w, { n with changes := n.changes ++ [(policy, steps)] })
  | .carry i j => c.act i fun w n => n.carry w j
  | .poll i => c.act i Node.poll

def run (c : Fleet ι σ) (actions : List (Action ι)) : Fleet ι σ := actions.foldl step c

/-- No change is half done. -/
def Quiet (c : Fleet ι σ) : Prop := ∀ i, (c.nodes i).changes = []

end Fleet

end Firewall
