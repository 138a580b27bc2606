import Firewall.Audit.Template

/-!
Where audit lines go: the log, the standard output, or files that are opened
when the outputs are set up and only ever added to.
-/

namespace Firewall

/-- The decisions that a sink takes. -/
inductive Scope
  | all
  | blocked
  deriving DecidableEq, Repr

def Scope.name : Scope → String
  | all => "all"
  | blocked => "blocked"

inductive Target
  | log
  | stdout
  | file (place : Place)
  deriving DecidableEq, Repr

def Target.name : Target → String
  | log => "log"
  | stdout => "stdout"
  | file _ => "file"

structure Sink where
  scope : Scope
  target : Target
  deriving DecidableEq, Repr

namespace Sink

open Text

/-- Scope and target of an entry such as `blocked:waf.log`; without a scope all
decisions are meant. -/
def split (entry : List Char) : Scope × List Char :=
  match after? "all:".toList entry with
  | some target => (.all, target)
  | none => match after? "blocked:".toList entry with
    | some target => (.blocked, target)
    | none => (.all, entry)

/-- Sets up a sink; a file is opened at once. -/
def parse (entry : List Char) (d : Disk) : Except BadOutput Sink × Disk :=
  let (scope, target) := split entry
  if target = "log".toList then (.ok ⟨scope, .log⟩, d)
  else if target = "stdout".toList then (.ok ⟨scope, .stdout⟩, d)
  else if target.isEmpty then (.error (.emptyTarget (String.ofList entry)), d)
  else match d.openAppend (String.ofList target) with
    | .ok (place, d) => (.ok ⟨scope, .file place⟩, d)
    | .error fault => (.error (.cannotOpen (String.ofList target) fault), d)

def accepts (s : Sink) (o : Outcome) : Bool := s.scope == .all || o == .blocked

end Sink

structure AuditOutput where
  template : Template
  sinks : List Sink
  deriving DecidableEq, Repr

namespace AuditOutput

open Text

def entries (outputs : String) : List (List Char) :=
  ((pieces ',' outputs.toList).map trim).filter (!·.isEmpty)

/-- Sets up sinks one after the other, up to the first that fails; files opened
before it stay. -/
def openAll : List (List Char) → Disk → Except BadOutput (List Sink) × Disk
  | [], d => (.ok [], d)
  | e :: es, d =>
    match Sink.parse e d with
    | (.error fault, d) => (.error fault, d)
    | (.ok sink, d) =>
      let (rest, d) := openAll es d
      (rest.map (sink :: ·), d)

/-- Reads the template, then sets up the sinks. -/
def build (outputs format : String) (d : Disk) : Except BadOutput AuditOutput × Disk :=
  match Template.parse format with
  | .error fault => (.error fault, d)
  | .ok template =>
    let (sinks, d) := openAll (entries outputs) d
    (sinks.map fun sinks => ⟨template, sinks⟩, d)

end AuditOutput

/-- Everything that audit lines are written to. -/
structure Paper where
  disk : Disk
  stdout : List String
  log : List (Outcome × String)
  deriving Repr, Inhabited

namespace Paper

def writeLine (p : Paper) (outcome : Outcome) (line : String) : Target → Paper
  | .log => { p with log := p.log ++ [(outcome, line)] }
  | .stdout => { p with stdout := p.stdout ++ [line] }
  | .file place =>
    { p with disk := p.disk.append place (Text.Utf8.encode (line ++ "\n").toList) }

end Paper

/-- Writes the line about a decision to every sink that takes it. -/
def AuditOutput.emit (o : AuditOutput) (r : AuditRecord) (p : Paper) : Paper :=
  let line := o.template.render r
  (o.sinks.filter (·.accepts r.outcome)).foldl (fun p s => p.writeLine r.outcome line s.target) p

end Firewall
