import Firewall.Settings
import Firewall.Audit.Output

/-!
What an operator should know about settings before an instance is started with
them. A fatal finding keeps the instance from starting; the others do not.
-/

namespace Firewall

inductive Finding
  | lowPort (port : UInt16)
  | badLevel (level : String)
  | badFormat (format : String)
  | badBackend (backend : String)
  | neverPolls
  | oneTry
  | noTimeout
  | ownMemory
  | badTemplate (cause : BadOutput)
  | noOutput
  | noFallback (path : String)
  | undatedUrl
  | chatty
  deriving DecidableEq, Repr

namespace Finding

inductive Weight
  | fatal
  | warning
  | advice
  deriving DecidableEq, Repr

def Weight.sign : Weight → String
  | fatal => "[X] "
  | warning => "[!] "
  | advice => "[*] "

def weight : Finding → Weight
  | lowPort _ => .warning
  | badLevel _ => .fatal
  | badFormat _ => .fatal
  | badBackend _ => .fatal
  | neverPolls => .fatal
  | oneTry => .warning
  | noTimeout => .fatal
  | ownMemory => .advice
  | badTemplate _ => .fatal
  | noOutput => .warning
  | noFallback _ => .warning
  | undatedUrl => .warning
  | chatty => .advice

def body : Finding → String
  | lowPort port =>
    "Port " ++ toString port ++ " requires root privileges. Consider using a port >= 1024"
  | badLevel level =>
    "Invalid log level: " ++ level ++ ". Must be one of: trace, debug, info, warn, error"
  | badFormat format =>
    "Invalid log format: " ++ format ++ ". Must be 'json', 'pretty' or 'text'"
  | badBackend backend =>
    "Invalid store backend: " ++ backend ++ ". Must be 'memory' or 'redis'"
  | neverPolls => "Store poll interval cannot be 0"
  | oneTry => "Store connect_retry_attempts is 0. One connection attempt will be made"
  | noTimeout => "GeoIP download timeout cannot be 0"
  | ownMemory =>
    "Memory store is local to this process. Use 'redis' to share configuration between instances"
  | badTemplate cause => "Invalid WAF output format: " ++ (Error.output cause).message
  | noOutput => "No WAF output configured. Scan decisions will not be audited."
  | noFallback path =>
    "GeoIP fallback dataset not found: " ++ path ++ ". GeoIP depends on the download succeeding"
  | undatedUrl =>
    "GeoIP remote URL has no \x7byear\x7d/\x7bmonth\x7d placeholders. " ++
      "The same file will be fetched every month"
  | chatty => "Recommendation: Use 'info' or 'warn' log level in production"

/-- The line about a finding. -/
def message (f : Finding) : String := f.weight.sign ++ f.body

end Finding

namespace Settings

def levels : List String := ["trace", "debug", "info", "warn", "error"]

def formats : List String := ["json", "pretty", "text"]

/-- The findings of one check. -/
def found (is : Bool) (f : Finding) : List Finding := if is then [f] else []

/-- Whether no output is named. -/
def isSilent (outputs : String) : Bool :=
  (Text.pieces ',' outputs.toList).all fun p => (Text.trim p).isEmpty

/-- Whether an address has places for year and month. -/
def isDated (url : String) : Bool :=
  Text.occurs Geo.DatasetSource.yearPlace url.toList &&
    Text.occurs Geo.DatasetSource.monthPlace url.toList

def templateFindings (format : String) : List Finding :=
  match Template.parse format with
  | .ok _ => []
  | .error cause => [.badTemplate cause]

def countryFindings (d : Disk) (c : CountrySettings) : List Finding :=
  if c.enable then
    found (!d.hasPath c.fallbackPath) (.noFallback c.fallbackPath) ++
      found (!isDated c.remoteUrl) .undatedUrl
  else []

def findings (s : Settings) (d : Disk) : List Finding :=
  found (s.server.port < 1024) (.lowPort s.server.port) ++
    found (!levels.contains s.logging.level) (.badLevel s.logging.level) ++
    found (!formats.contains s.logging.format) (.badFormat s.logging.format) ++
    found s.store.kind?.isNone (.badBackend s.store.backend) ++
    found (s.store.pollMillis == 0) .neverPolls ++
    found (s.store.kind? == some .shared && s.store.tries == 0) .oneTry ++
    found (s.countries.enable && s.countries.timeout == 0) .noTimeout ++
    found (s.store.kind? == some .memory) .ownMemory ++
    templateFindings s.audit.format ++
    found (isSilent s.audit.outputs) .noOutput ++
    countryFindings d s.countries ++
    found (s.logging.level == "debug" || s.logging.level == "trace") .chatty

/-- Whether an instance must not be started. -/
def hasFatal (fs : List Finding) : Bool := fs.any fun f => f.weight == .fatal

end Settings

end Firewall
