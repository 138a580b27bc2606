import Firewall.Command.Usage

/-!
The commands of the program, and how they are written on a command line.
-/

namespace Firewall

open Usage

inductive Administration
  | mode (text : String)
  | allowed (list : String)
  | denied (list : String)
  | plugin (name : String) (on : Bool)
  | countries (list : String) (deny : Bool)
  | report
  | test (remoteAddr url method : String)
  deriving DecidableEq, Repr

/-- Whether an act is meant to change the record store. -/
def Administration.isMutating : Administration → Bool
  | .report => false
  | .test _ _ _ => false
  | _ => true

/-- A command, with the file that its settings are in. -/
inductive Command
  | serve (settings : String)
  | validate (settings : String)
  | generate (output : String)
  | administer (settings : String) (act : Administration)
  deriving DecidableEq, Repr

namespace Command

/-- The file of the settings if none is named. -/
def usualFile : String := "fe-waf.toml"

/-! ## Grammars -/

def helpFlag : Flag := ⟨"help", some 'h', .help⟩

def helpVerb : String := "help"

def settingsFlag : Flag := ⟨"config", some 'c', .value true⟩

def textFlag (name : String) : Flag := ⟨name, none, .value false⟩

def switchFlag (name : String) : Flag := ⟨name, none, .switch⟩

/-- A level with nothing below it. -/
def leaf (flags : List Flag) (operands : Nat) : Grammar := ⟨flags ++ [helpFlag], operands, []⟩

def branch (flags : List Flag) (verbs : List String) : Grammar :=
  ⟨flags ++ [helpFlag], 0, verbs ++ [helpVerb]⟩

inductive Verb
  | serve
  | config
  | waf
  deriving DecidableEq, Repr

def Verb.name : Verb → String
  | serve => "serve"
  | config => "config"
  | waf => "waf"

inductive SettingsVerb
  | validate
  | generate
  deriving DecidableEq, Repr

def SettingsVerb.name : SettingsVerb → String
  | validate => "validate"
  | generate => "generate"

def SettingsVerb.all : List SettingsVerb := [validate, generate]

def SettingsVerb.grammar : SettingsVerb → Grammar
  | validate => leaf [settingsFlag] 0
  | generate => leaf [⟨"output", some 'o', .value true⟩] 0

inductive ActVerb
  | mode | allowed | denied | plugin | countries | report | test
  deriving DecidableEq, Repr

def ActVerb.name : ActVerb → String
  | mode => "mode"
  | allowed => "allowlist"
  | denied => "denylist"
  | plugin => "plugin"
  | countries => "countries"
  | report => "show"
  | test => "test"

def ActVerb.all : List ActVerb := [mode, allowed, denied, plugin, countries, report, test]

/-- The level of a verb of administration; each takes the file of the settings too. -/
def ActVerb.grammar : ActVerb → Grammar
  | mode => leaf [settingsFlag] 1
  | allowed => leaf [settingsFlag] 1
  | denied => leaf [settingsFlag] 1
  | plugin => leaf [settingsFlag, switchFlag "enable", switchFlag "disable"] 1
  | countries => leaf [settingsFlag, switchFlag "deny"] 1
  | report => leaf [settingsFlag] 0
  | test => leaf [settingsFlag, textFlag "remote-addr", textFlag "url", textFlag "method"] 0

/-! ## Reading -/

/-- A value that must have been given. -/
def required {α : Type} : Option α → Except Refusal α
  | some a => .ok a
  | none => .error .missingWord

def operand (r : Reading) : Except Refusal String := required r.operands.head?

/-- What comes of a request for help about a path of verbs: help, if there is such
a path. The tree says which verbs there are below which. -/
def helpFor (below : List String → List String) (path : List String) : List String → Refusal
  | [] => .help
  | w :: ws =>
    if (below path).contains w || (w == helpVerb && !(below path).isEmpty) then
      helpFor below (path ++ [w]) ws
    else .unknownVerb

def below (offered : List Verb) : List String → List String
  | [] => offered.map Verb.name
  | [v] =>
    if v = Verb.config.name then SettingsVerb.all.map SettingsVerb.name
    else if v = Verb.waf.name then ActVerb.all.map ActVerb.name
    else []
  | _ => []

/-- Reads the words of a level that has nothing below it. -/
def readLeaf (g : Grammar) (words : List String) : Except Refusal Reading :=
  (readLevel g .empty words).map (·.1)

def readSettings (words : List String) : Except Refusal Command := do
  let (_, found) ← readLevel (branch [] (SettingsVerb.all.map SettingsVerb.name)) .empty words
  let (word, rest) ← required found
  match SettingsVerb.all.find? fun v => v.name == word with
  | none => throw (helpFor (below [.config]) [Verb.config.name] rest)
  | some v =>
    let r ← readLeaf v.grammar rest
    match v with
    | .validate => return .validate (← required (r.given.get? settingsFlag.name))
    | .generate => return .generate ((r.given.get? "output").getD usualFile)

/-- The act that a verb and what follows it stand for. -/
def actOf (v : ActVerb) (r : Reading) : Except Refusal Administration := do
  let is (name : String) : Bool := r.given.contains name
  match v with
  | .mode => return .mode (← operand r)
  | .allowed => return .allowed (← operand r)
  | .denied => return .denied (← operand r)
  | .plugin =>
    if is "enable" && is "disable" then throw .conflict
    let name ← operand r
    if is "enable" || is "disable" then return .plugin name (is "enable") else throw .missingWord
  | .countries => return .countries (← operand r) (is "deny")
  | .report => return .report
  | .test =>
    let remoteAddr ← required (r.given.get? "remote-addr")
    let url ← required (r.given.get? "url")
    return .test remoteAddr url ((r.given.get? "method").getD "GET")

/-- Reads a command of administration. The file of the settings may be named in
front of the verb or behind it, and the latter counts. -/
def readAdministration (words : List String) : Except Refusal Command := do
  let (front, found) ←
    readLevel (branch [settingsFlag] (ActVerb.all.map ActVerb.name)) .empty words
  let (word, rest) ← required found
  match ActVerb.all.find? fun v => v.name == word with
  | none => throw (helpFor (below [.waf]) [Verb.waf.name] rest)
  | some v =>
    let r ← readLeaf v.grammar rest
    let act ← actOf v r
    let named := (r.given.get? settingsFlag.name).orElse fun _ => front.given.get? settingsFlag.name
    return .administer (named.getD usualFile) act

def read (offered : List Verb) (words : List String) : Except Refusal Command := do
  let top := branch [⟨"version", some 'V', .version⟩] (offered.map Verb.name)
  let (_, found) ← readLevel top .empty words
  let (word, rest) ← required found
  match offered.find? fun v => v.name == word with
  | none => throw (helpFor (below offered) [] rest)
  | some .serve =>
    let r ← readLeaf (leaf [settingsFlag] 0) rest
    return .serve ((r.given.get? settingsFlag.name).getD usualFile)
  | some .config => readSettings rest
  | some .waf => readAdministration rest

end Command

end Firewall
