import Firewall.Settings
import Firewall.Toml.Printer
import Firewall.Toml.Reader

/-!
Settings as a TOML document. What a document leaves out has its usual value, and
what it says beyond the settings is passed over; a section may also be written
as a list of its fields in order.
-/

namespace Firewall

open Toml

/-! ## Reading -/

/-- What a document says about the fields of a section. -/
inductive Section
  | named (rows : Rows)
  | listed (items : List Item)

namespace Section

/-- An item as a section. A moment is one whose fields are none of a section's. -/
def ofItem? : Item → Option Section
  | .table _ rows => some (.named rows)
  | .list items => some (.listed items)
  | .moment _ => some (.named [])
  | _ => none

/-- The settings of a section. If there is none they are the usual ones, and nothing is read. -/
def read? {α : Type} (rows : Rows) (key : String) (usual : α) (read : Section → Option α) :
    Option α :=
  match rows.lookup key with
  | none => some usual
  | some i => (ofItem? i).bind read

/-- What is said about a field, by its name or its place. -/
def field? (s : Section) (place : Nat) (name : String) : Option Item :=
  match s with
  | named rows => rows.lookup name
  | listed items => items[place]?

def text? (s : Section) (place : Nat) (name usual : String) : Option String :=
  match s.field? place name with
  | none => some usual
  | some (.text t) => some t
  | some _ => none

def switch? (s : Section) (place : Nat) (name : String) (usual : Bool) : Option Bool :=
  match s.field? place name with
  | none => some usual
  | some (.boolean b) => some b
  | some _ => none

/-- A natural number below a bound. -/
def natural? (s : Section) (place : Nat) (name : String) (bound usual : Nat) : Option Nat :=
  match s.field? place name with
  | none => some usual
  | some (.integer (.ofNat n)) => if n < bound then some n else none
  | some _ => none

end Section

def ServerSettings.ofSection? (s : Section) : Option ServerSettings := do
  let host ← s.text? 0 "host" usualHost
  let port ← s.natural? 1 "port" UInt16.size usualPort.toNat
  return ⟨host, .ofNat port⟩

def LoggingSettings.ofSection? (s : Section) : Option LoggingSettings := do
  let level ← s.text? 0 "level" usualLevel
  let format ← s.text? 1 "format" usualFormat
  return ⟨level, format⟩

def StoreSettings.ofSection? (s : Section) : Option StoreSettings := do
  let backend ← s.text? 0 "backend" usualBackend
  let url ← s.text? 1 "url" usualUrl
  let root ← s.text? 2 "prefix" usualRoot
  let pollMillis ← s.natural? 3 "poll_interval_ms" UInt64.size usualPollMillis.toNat
  let tries ← s.natural? 4 "connect_retry_attempts" UInt32.size usualTries.toNat
  let retryMillis ← s.natural? 5 "connect_retry_delay_ms" UInt64.size usualRetryMillis.toNat
  return ⟨backend, url, root, .ofNat pollMillis, .ofNat tries, .ofNat retryMillis⟩

def AuditSettings.ofSection? (s : Section) : Option AuditSettings := do
  let outputs ← s.text? 0 "output" usualOutputs
  let format ← s.text? 1 "output_format" usualFormat
  return ⟨outputs, format⟩

def CountrySettings.ofSection? (s : Section) : Option CountrySettings := do
  let enable ← s.switch? 0 "enable" usualEnable
  let fallbackPath ← s.text? 1 "fallback_path" usualFallbackPath
  let remoteUrl ← s.text? 2 "remote_url" usualRemoteUrl
  let timeout ← s.natural? 3 "download_timeout_secs" UInt64.size usualTimeout.toNat
  return ⟨enable, fallbackPath, remoteUrl, .ofNat timeout⟩

namespace Settings

def ofRows? (rows : Rows) : Option Settings := do
  let server ← Section.read? rows "server" .usual ServerSettings.ofSection?
  let logging ← Section.read? rows "logging" .usual LoggingSettings.ofSection?
  let store ← Section.read? rows "store" .usual StoreSettings.ofSection?
  let audit ← Section.read? rows "waf" .usual AuditSettings.ofSection?
  let countries ← Section.read? rows "geoip" .usual CountrySettings.ofSection?
  return ⟨server, logging, store, audit, countries⟩

def parse? (document : String) : Option Settings := (Toml.read document).bind ofRows?

/-! ## Writing -/

/-- A value as it is written in a section. -/
inductive Field
  | text (s : String)
  | switch (b : Bool)
  | natural (n : Nat)
  deriving DecidableEq, Repr

/-- Whether a value can be written: numbers have 64 bits with their sign. -/
def Field.fits : Field → Bool
  | natural n => n < 0x8000000000000000
  | _ => true

def Field.render : Field → List Char
  | text s => Toml.quote s.toList
  | switch b => (toString b).toList
  | natural n => (toString n).toList

/-- All sections with their fields, in the order in which they are written. -/
def sections (s : Settings) : List (String × List (String × Field)) :=
  [("server", [("host", .text s.server.host), ("port", .natural s.server.port.toNat)]),
    ("logging", [("level", .text s.logging.level), ("format", .text s.logging.format)]),
    ("store",
      [("backend", .text s.store.backend), ("url", .text s.store.url),
        ("prefix", .text s.store.root),
        ("poll_interval_ms", .natural s.store.pollMillis.toNat),
        ("connect_retry_attempts", .natural s.store.tries.toNat),
        ("connect_retry_delay_ms", .natural s.store.retryMillis.toNat)]),
    ("waf", [("output", .text s.audit.outputs), ("output_format", .text s.audit.format)]),
    ("geoip",
      [("enable", .switch s.countries.enable), ("fallback_path", .text s.countries.fallbackPath),
        ("remote_url", .text s.countries.remoteUrl),
        ("download_timeout_secs", .natural s.countries.timeout.toNat)])]

def fieldLine (f : String × Field) : List Char :=
  f.1.toList ++ " = ".toList ++ f.2.render ++ ['\n']

def sectionLines (s : String × List (String × Field)) : List Char :=
  '[' :: s.1.toList ++ "]\n".toList ++ s.2.flatMap fieldLine

/-- Sections with a blank line between neighbours. -/
def documentOf (sections : List (String × List (String × Field))) : List Char :=
  Text.join ['\n'] (sections.map sectionLines)

/-- The document of settings, unless a number does not fit. -/
def render? (s : Settings) : Option String :=
  if s.sections.all fun part => part.2.all fun f => f.2.fits then
    some (String.ofList (documentOf s.sections))
  else none

end Settings

end Firewall
