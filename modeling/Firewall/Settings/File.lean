import Firewall.Settings.Document

/-!
Settings in files.
-/

namespace Firewall

inductive SettingsFault
  | unreadable (path : String) (fault : FileFault)
  | malformed (path : String)
  | unwritable (path : String) (fault : FileFault)
  /-- A number does not fit into the format. -/
  | unprintable
  deriving DecidableEq, Repr

/-- The description of a fault, and that of its cause if there is one to tell. -/
def SettingsFault.chain : SettingsFault → List String
  | unreadable path fault => ["Failed to read config file: " ++ path, fault.message]
  | malformed path => ["Failed to parse config file: " ++ path]
  | unwritable path fault => ["Failed to write config file: " ++ path, fault.message]
  | unprintable => ["Failed to serialize config", "out-of-range integer"]

namespace Settings

def load (d : Disk) (path : String) : Except SettingsFault Settings :=
  match d.readText path with
  | .error fault => .error (.unreadable path fault)
  | .ok text =>
    match parse? text with
    | some s => .ok s
    | none => .error (.malformed path)

def save (d : Disk) (path : String) (s : Settings) : Except SettingsFault Disk :=
  match s.render? with
  | none => .error .unprintable
  | some text =>
    match d.write path (Text.Utf8.encode text.toList) with
    | .ok d => .ok d
    | .error fault => .error (.unwritable path fault)

end Settings

end Firewall
