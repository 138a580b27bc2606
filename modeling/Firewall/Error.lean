import Firewall.Disk
import Firewall.Geo.Database
import Firewall.Geo.Download
import Firewall.Store.Fault

/-!
Everything that an operation of the firewall can fail with: what went wrong, the
five kinds it is sorted into, and the wording of each.
-/

namespace Firewall

/-- An argument that was rejected before anything changed. -/
inductive BadArgument
  | mode (text : String)
  | noPrefixLength (text : String)
  | network (text : String)
  | country (code : String)
  | url (text : String) (fault : Url.Fault)
  deriving DecidableEq, Repr

def BadArgument.message : BadArgument → String
  | mode text => "bad mode '" ++ text ++ "' (must be enabled, dryrun or disabled)"
  | noPrefixLength text => "'" ++ text ++ "' is not a CIDR network (missing prefix length)"
  | network text => "invalid CIDR '" ++ text ++ "': invalid address: " ++ text
  | country code => "'" ++ code ++ "' is not a two letter country code"
  | url text fault => "bad url '" ++ text ++ "': " ++ fault.message

inductive BadOutput
  | malformed (text : String)
  | unknownField (name : String)
  | emptyTarget (entry : String)
  | cannotOpen (path : String) (fault : FileFault)
  deriving DecidableEq, Repr

def BadOutput.message : BadOutput → String
  | malformed text => "malformed output format near '" ++ text ++ "'"
  | unknownField name => "unknown output format field '" ++ name ++ "'"
  | emptyTarget entry => "empty output target in '" ++ entry ++ "'"
  | cannotOpen path fault => "not able to open " ++ path ++ " for output: " ++ fault.message

inductive SetupFault
  | badDataset (fault : Geo.Database.Fault)
  | download (fault : Geo.DownloadFault)
  | readFallback (path : String) (fault : FileFault)
  | undatable
  | cacheDataset (cause : StoreError)
  | loadCountries (cause : StoreError)
  deriving DecidableEq, Repr

def SetupFault.message : SetupFault → String
  | badDataset fault => "invalid geoip dataset: " ++ fault.message
  | download fault => fault.message
  | readFallback path fault => "reading " ++ path ++ ": " ++ fault.message
  | undatable => "dating the geoip dataset: before the first supported year"
  | cacheDataset cause => "caching geoip dataset: " ++ cause.message
  | loadCountries cause => "loading geoip countries: " ++ cause.message

inductive Error
  | store (cause : StoreError)
  | argument (cause : BadArgument)
  | output (cause : BadOutput)
  | setup (cause : SetupFault)
  deriving DecidableEq, Repr

inductive ErrorKind
  | persistence | notFound | invalidArgument | config | pluginInit
  deriving DecidableEq, Repr

def Error.kind : Error → ErrorKind
  | store (.fault _) => .persistence
  | store (.absent _) => .notFound
  | argument _ => .invalidArgument
  | output _ => .config
  | setup _ => .pluginInit

def Error.message : Error → String
  | store cause => cause.message
  | argument cause => "invalid argument: " ++ cause.message
  | output cause => "configuration error: " ++ cause.message
  | setup cause => "plugin initialization failed: " ++ cause.message

end Firewall
