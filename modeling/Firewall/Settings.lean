import Firewall.Audit.Record
import Firewall.Geo.Dataset

/-!
The settings that an instance is started with, in five sections. Each field has a
usual value for when it is not said, and each section has usual settings for when
it is not there at all.
-/

namespace Firewall

structure ServerSettings where
  host : String
  port : UInt16
  deriving DecidableEq, Repr

structure LoggingSettings where
  level : String
  format : String
  deriving DecidableEq, Repr

structure StoreSettings where
  backend : String
  url : String
  /-- What all keys of the store begin with. -/
  root : String
  /-- Milliseconds between two looks at the change log. -/
  pollMillis : UInt64
  /-- How often the first connection is tried. -/
  tries : UInt32
  /-- Milliseconds between two tries. -/
  retryMillis : UInt64
  deriving DecidableEq, Repr

structure AuditSettings where
  outputs : String
  format : String
  deriving DecidableEq, Repr

/-- The guard that judges by countries. -/
structure CountrySettings where
  enable : Bool
  fallbackPath : String
  remoteUrl : String
  /-- Seconds after which a download is given up. -/
  timeout : UInt64
  deriving DecidableEq, Repr

structure Settings where
  server : ServerSettings
  logging : LoggingSettings
  store : StoreSettings
  audit : AuditSettings
  countries : CountrySettings
  deriving DecidableEq, Repr

inductive Backend
  | memory
  | shared
  deriving DecidableEq, Repr

def Backend.name : Backend → String
  | memory => "memory"
  | shared => "redis"

def Backend.ofName? (s : String) : Option Backend :=
  if s = "memory" then some memory else if s = "redis" then some shared else none

namespace ServerSettings

def usualHost : String := "0.0.0.0"

def usualPort : UInt16 := 18000

def usual : ServerSettings where
  host := usualHost
  port := usualPort

end ServerSettings

namespace LoggingSettings

def usualLevel : String := "info"

def usualFormat : String := "json"

def usual : LoggingSettings where
  level := usualLevel
  format := usualFormat

end LoggingSettings

namespace StoreSettings

def kind? (s : StoreSettings) : Option Backend := Backend.ofName? s.backend

/-- The pause between two polls of the change log, in seconds and nanoseconds. -/
def pause (s : StoreSettings) : UInt64 × UInt32 :=
  (s.pollMillis / 1000, (s.pollMillis % 1000).toUInt32 * 1000000)

def usualBackend : String := "memory"

def usualUrl : String := "redis://127.0.0.1:6379"

def usualRoot : String := "fe_waf:"

def usualPollMillis : UInt64 := 1000

def usualTries : UInt32 := 10

def usualRetryMillis : UInt64 := 1000

def usual : StoreSettings where
  backend := usualBackend
  url := usualUrl
  root := usualRoot
  pollMillis := usualPollMillis
  tries := usualTries
  retryMillis := usualRetryMillis

end StoreSettings

/-- The place of a field in a template of audit lines. -/
def Settings.placeholder (f : AuditField) : String := "\x7b\x7b." ++ f.name ++ "\x7d\x7d"

namespace AuditSettings

def usualOutputs : String := "all:log"

def usualFormat : String :=
  " ".intercalate ([.date, .remoteAddr, .method, .url, .outcome].map Settings.placeholder)

def usual : AuditSettings where
  outputs := usualOutputs
  format := usualFormat

end AuditSettings

namespace CountrySettings

def source (s : CountrySettings) : Geo.DatasetSource := ⟨s.fallbackPath, s.remoteUrl⟩

def usualEnable : Bool := true

def usualFallbackPath : String := "/usr/share/fe-waf/dbip-country-lite.mmdb"

def usualRemoteUrl : String :=
  "https://download.db-ip.com/free/dbip-country-lite-\x7byear\x7d-\x7bmonth\x7d.mmdb.gz"

def usualTimeout : UInt64 := 60

def usual : CountrySettings where
  enable := usualEnable
  fallbackPath := usualFallbackPath
  remoteUrl := usualRemoteUrl
  timeout := usualTimeout

end CountrySettings

/-- The settings when nothing is said. -/
def Settings.usual : Settings where
  server := .usual
  logging := .usual
  store := .usual
  audit := .usual
  countries := .usual

instance : Inhabited Settings := ⟨.usual⟩

end Firewall
