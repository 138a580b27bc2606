import Firewall.Store.Connection
import Firewall.Store.Keyspace

/-!
A record store in a key space that several processes share. Every key begins
with the root of the store, so that stores with different roots keep apart.
-/

namespace Firewall

/-- What happens to the connection around the running of one operation. -/
inductive Mishap
  | none
  /-- It breaks before the operation is run. -/
  | before
  /-- It breaks after the operation has been run, and the reply is lost. -/
  | after
  deriving DecidableEq, Repr

/-- The way to the server: what the next openings and the next operations meet.
Past the end of a list, openings meet `lasting` and operations meet nothing. -/
structure Link where
  openings : List (Option StoreFault)
  lasting : Option StoreFault
  mishaps : List Mishap
  deriving DecidableEq, Repr, Inhabited

def Link.sound : Link := ⟨[], none, []⟩

def Link.broken (reason : String) : Link := ⟨[], some (.unreachable reason), []⟩

structure Server where
  keys : Keyspace
  link : Link
  deriving DecidableEq, Repr, Inhabited

namespace Server

/-- Opens a connection; connections are told apart by nothing. -/
def connect (s : Server) : Except StoreFault Unit × Server :=
  let (meets, link) := match s.link.openings with
    | [] => (s.link.lasting, s.link)
    | o :: os => (o, { s.link with openings := os })
  match meets with
  | some fault => (.error fault, { s with link })
  | none => (.ok (), { s with link })

/-- Runs a command, with what happens to the connection meanwhile. -/
def command {α : Type} (f : Keyspace → Except StoreFault (α × Keyspace)) (s : Server) :
    Except StoreFault α × Server :=
  let (mishap, link) := match s.link.mishaps with
    | [] => (Mishap.none, s.link)
    | m :: ms => (m, { s.link with mishaps := ms })
  match mishap with
  | .before => (.error .connectionLost, { s with link })
  | m =>
    match f s.keys with
    | .error e => (.error (if m = .after then .connectionLost else e), { s with link })
    | .ok (a, keys) =>
      (if m = .after then .error .connectionLost else .ok a, ⟨keys, link⟩)

end Server

/-- A record store on a server: the root of its keys, and whether it keeps a
connection. -/
structure Shared where
  root : String
  kept : Option Unit
  server : Server
  deriving DecidableEq, Repr, Inhabited

namespace Shared

/-- Opens a store, with up to so many tries, one at least. -/
def connect (root : String) (tries : Nat) (server : Server) : Except StoreFault Shared × Server :=
  match Connection.openWithin (fun s => Server.connect s) (tries - 1) server with
  | (.ok c, s) => (.ok ⟨root, some c, s⟩, s)
  | (.error e, s) => (.error e, s)

/-! ## Keys -/

def counterKey (root : String) : String := root ++ "changelog:seq"

def entryRoot (root : String) : String := root ++ "changelog:"

def entryKey (root : String) (id : Nat) : String := root ++ ("changelog:" ++ toString id)

def settingsKey (root : String) : String := root ++ "config"

def rulesKey (root : String) : String := root ++ "geoip:countries"

def datasetKey (root : String) : String := root ++ "geoip:source"

/-! ## Values -/

def textOf (b : Bytes) : Except StoreFault String :=
  match b.text? with
  | some s => .ok s
  | none => .error .badReply

def textRows (fields : Dict String Bytes) : Except StoreFault (List (String × String)) :=
  fields.rows.mapM fun (k, v) => (textOf v).map fun s => (k, s)

def integerOf (b : Bytes) : Except StoreFault Int :=
  match Keyspace.integer? b with
  | some n => .ok n
  | none => .error .badReply

/-- A text or nothing, in the reply of a reading command. -/
def optional {α : Type} (f : Bytes → Except StoreFault α) :
    Option Bytes → Except StoreFault (Option α)
  | none => .ok none
  | some b => (f b).map some

/-- The mark of a rule that lets requests through. -/
def flag (allow : Bool) : Bytes := Bytes.ofText (if allow then "1" else "0")

/-- Inserts a rule into rules sorted by code. -/
def insertRule (r : CountryRule) : List CountryRule → List CountryRule
  | [] => [r]
  | s :: rest => if r.code ≤ s.code then r :: s :: rest else s :: insertRule r rest

def rulesOf (rows : List (String × String)) : List CountryRule :=
  (rows.map fun (code, mark) => CountryRule.mk code (mark == "1")).foldr insertRule []

/-- The moment at a whole second, if it is one that is supported. -/
def momentOf (seconds : Option Int) : Option Instant := seconds.bind (Instant.ofParts? · 0)

/-! ## Calls -/

def call {α : Type} (f : String → Keyspace → Except StoreFault (α × Keyspace)) :
    Access Shared α := fun s =>
  let out := Connection.run (fun v => Server.connect v)
    (fun (_ : Unit) v => Server.command (f s.root) v) s.kept s.server
  (out.result.mapError .fault, { s with kept := out.kept, server := out.state })

/-- Runs a command that only reads. -/
def ask {α : Type} (f : String → Keyspace → Except StoreFault α) : Access Shared α :=
  call fun root k => (f root k).map fun a => (a, k)

/-- Goes on with a result, or fails because a record is not there. -/
def found {α : Type} (absent : Absent) : Option α → Access Shared α
  | some a => pure a
  | none => throw (.absent absent)

def entryRows (table : Table) (key : String) : List (String × Bytes) :=
  [("table", Bytes.ofText table.name), ("key", Bytes.ofText key)]

instance : RecordStore Shared where
  append table key := call fun root k =>
    (k.appendEntry (counterKey root) (entryRoot root) (entryRows table key)).bind fun (id, k) =>
      if 0 ≤ id then .ok (id.toNat, k) else .error .badReply
  latest := do
    let id ← ask fun root k => (k.get (counterKey root)).bind (optional integerOf)
    match id with
    | some id =>
      if id < 0 then throw (.fault .badReply)
      else if id = 0 then throw (.absent .log)
      else return id.toNat
    | none => throw (.absent .log)
  entry id := do
    let rows ← ask fun root k => (k.fields (entryKey root id)).bind textRows
    match rows.lookup "table", rows.lookup "key" with
    | some table, some key =>
      match Table.ofName table with
      | .ok table => return ⟨id, table, key⟩
      | .error e => throw e
    | _, _ => throw (.absent (.logEntry id))
  settings := ask fun root k => (k.fields (settingsKey root)).bind textRows
  setting key := do
    let value ← ask fun root k => (k.field (settingsKey root) key).bind (optional textOf)
    found (.setting key) value
  putSetting key value := call fun root k =>
    (k.setFields (settingsKey root) [(key, Bytes.ofText value)]).map fun k => ((), k)
  rules := do
    let rows ← ask fun root k => (k.fields (rulesKey root)).bind textRows
    return rulesOf rows
  putRules rules := call fun root k =>
    (k.replaceFields (rulesKey root) (rules.map fun r => (r.code, flag r.allow))).map
      fun k => ((), k)
  datasetTime := do
    let seconds ← ask fun root k =>
      (k.field (datasetKey root) "timestamp").bind (optional integerOf)
    found .dataset (momentOf seconds)
  dataset := do
    let (seconds, bytes) ← ask fun root k => do
      let fields ← k.fields (datasetKey root)
      let seconds ← optional integerOf (fields.get? "timestamp")
      return (seconds, fields.get? "source")
    match momentOf seconds, bytes with
    | some time, some bytes => return ⟨time, bytes⟩
    | _, _ => throw (.absent .dataset)
  putDataset time bytes := call fun root k =>
    (k.setFields (datasetKey root)
      [("timestamp", Bytes.ofText (toString time.seconds)), ("source", bytes)]).map fun k => ((), k)

end Shared

end Firewall
