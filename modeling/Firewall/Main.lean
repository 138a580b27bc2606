import Std.Time.DateTime.Timestamp
import Firewall.Command.Administer
import Firewall.Command.Serve
import Firewall.Command.Settings

/-!
The program: reads its command line, lets the command work on a copy of the files
it may touch, then prints what it said and writes the files that it changed. The
program has no network of its own, so that shared stores cannot be reached,
nothing can be downloaded, and no address can be listened at.
-/

namespace Firewall.Main

def noNetwork : String := "Network is unreachable (os error 101)"

def bytesAt? (path : String) : IO (Option Bytes) := do
  try
    return some (← IO.FS.readBinFile path).toList
  catch _ => return none

def isDirectoryAt (path : String) : IO Bool := do
  try
    return ← (← IO.FS.realPath path).isDir
  catch _ => return false

def directoryOf (path : String) : String :=
  let back := path.toList.reverse.dropWhile (· != '/')
  if back.isEmpty then "." else String.ofList back.reverse

def copy (d : Disk) (path : String) : IO Disk := do
  let directory := directoryOf path
  let d ← do
    if ← isDirectoryAt directory then pure (d.keepDirectory directory) else pure d
  if ← isDirectoryAt path then return d.keepDirectory path
  match ← bytesAt? path with
  | some bytes => return d.place path bytes
  | none => return d

/-- The files that audit lines may go to. -/
def auditFiles (s : AuditSettings) : List String :=
  (AuditOutput.entries s.outputs).map fun e => String.ofList (Sink.split e).2

/-- The file that a command begins with. -/
def firstFile : Command → String
  | .serve path => path
  | .validate path => path
  | .generate path => path
  | .administer path _ => path

/-- Copies the files that a command may touch. -/
def snapshot (c : Command) : IO Disk := do
  let d ← copy .empty (firstFile c)
  match Settings.load d (firstFile c) with
  | .error _ => return d
  | .ok s => (s.countries.fallbackPath :: auditFiles s.audit).foldlM copy d

def now : IO Instant := do
  let nanos := (← Std.Time.Timestamp.now).toNanosecondsSinceUnixEpoch.toInt
  let each : Int := Instant.nanosPerSecond
  return ⟨nanos / each, (nanos % each).toNat⟩

def run (c : Console) : Command → Except CommandFault Unit × Console
  | .serve path => c.serve path (fun _ => some noNetwork) fun _ _ => pure ()
  | .validate path => c.validate path
  | .generate path => c.generate path
  | .administer path act => c.administer path act

/-- Writes the files that have changed. -/
def writeBack (old new : Disk) : IO Unit :=
  new.files.rows.forM fun (place, bytes) =>
    if old.contentAt? place = some bytes || place.getLast? = some [] then pure ()
    else IO.FS.writeBinFile (Disk.pathOf place) bytes.toByteArray

/-- Runs a command on the files. Gives the exit code. -/
def execute (command : Command) : IO UInt32 := do
  let disk ← snapshot command
  let console : Console :=
    { paper := ⟨disk, [], []⟩
      keys := Dict.empty
      link := fun _ => .broken noNetwork
      web := .silent noNetwork
      clock := ← now }
  let (result, console) := run console command
  console.paper.stdout.forM IO.println
  console.paper.log.forM fun (_, line) => IO.eprintln line
  writeBack disk console.paper.disk
  match result with
  | .ok () => return 0
  | .error fault =>
    match fault.chain with
    | [] => return 1
    | reason :: causes =>
      IO.eprintln ("Error: " ++ reason)
      if !causes.isEmpty then IO.eprintln "\nCaused by:"
      causes.forM fun cause => IO.eprintln ("    " ++ cause)
      return 1

def usage : String :=
  "Usage: fe-waf serve [--config FILE]\n" ++
  "       fe-waf config validate --config FILE\n" ++
  "       fe-waf config generate [--output FILE]\n" ++
  "       fe-waf waf [--config FILE] mode MODE\n" ++
  "       fe-waf waf [--config FILE] allowlist|denylist NETWORKS\n" ++
  "       fe-waf waf [--config FILE] plugin NAME --enable|--disable\n" ++
  "       fe-waf waf [--config FILE] countries CODES [--deny]\n" ++
  "       fe-waf waf [--config FILE] show\n" ++
  "       fe-waf waf [--config FILE] test --remote-addr ADDR --url URL [--method METHOD]"

def version : String := "fe-waf 0.1.0"

/-- Says why a command line makes no command. Gives the exit code. -/
def refuse : Usage.Refusal → IO UInt32
  | .help => do IO.println usage; return 0
  | .version => do IO.println version; return 0
  | _ => do IO.eprintln usage; return 2

end Firewall.Main

def main (args : List String) : IO UInt32 :=
  match Firewall.Command.read [.serve, .config, .waf] args with
  | .ok command => Firewall.Main.execute command
  | .error refusal => Firewall.Main.refuse refusal
