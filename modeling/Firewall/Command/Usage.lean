import Firewall.Dict
import Firewall.Text

/-!
Reading the words of a command line: verbs, options and operands. A grammar says
what one level of the command line may hold; what follows a verb is read with the
grammar of that verb.
-/

namespace Firewall.Usage

/-- Why the words of a command line make no command. Asking for help or for the
version makes none either. -/
inductive Refusal
  | help
  | version
  /-- Nothing at all was said where a verb is needed. -/
  | nothingSaid
  | missingVerb
  | unknownVerb
  | unknownWord
  | missingWord
  | missingValue
  | uselessValue
  | conflict
  deriving DecidableEq, Repr

inductive Effect
  | help
  | version
  /-- It is given or not. -/
  | switch
  /-- It has a value, which must not be empty if it is the path of a file. -/
  | value (isPath : Bool)
  deriving DecidableEq, Repr

structure Flag where
  name : String
  letter : Option Char
  effect : Effect
  deriving DecidableEq, Repr

/-- What one level of the command line may hold. -/
structure Grammar where
  flags : List Flag
  operands : Nat
  verbs : List String
  deriving DecidableEq, Repr

/-- What has been read of one level. -/
structure Reading where
  /-- The options with their values; those without a value have an empty one. -/
  given : Dict String String
  operands : List String
  /-- An option whose value comes next. -/
  pending : Option Flag
  /-- Whether two dashes have ended the options. -/
  plain : Bool
  deriving DecidableEq, Repr

def Reading.empty : Reading := ⟨Dict.empty, [], none, false⟩

def Flag.takesValue (f : Flag) : Bool :=
  match f.effect with
  | .value _ => true
  | _ => false

namespace Reading

/-- An option that still waits for its value has none. -/
def settled (r : Reading) : Except Refusal Reading :=
  if r.pending.isSome then .error .missingValue else .ok r

/-- Gives an option its value; it can have one only once. -/
def give (r : Reading) (f : Flag) (value : String) : Except Refusal Reading :=
  if r.given.contains f.name then .error .conflict
  else if f.effect = .value true ∧ value.isEmpty then .error .missingValue
  else .ok { r with given := r.given.insert f.name value, pending := none }

def raise (r : Reading) (f : Flag) : Except Refusal Reading :=
  match r.settled with
  | .error e => .error e
  | .ok r =>
    match f.effect with
    | .help => .error .help
    | .version => .error .version
    | _ => r.give f ""

/-- Takes an option, with the value that is attached to it if there is one. -/
def take (r : Reading) (f : Flag) (attached : Option String) : Except Refusal Reading :=
  if f.takesValue then
    match r.settled, attached with
    | .error e, _ => .error e
    | .ok r, some value => r.give f value
    | .ok r, none => .ok { r with pending := some f }
  else if attached.isSome then .error .uselessValue
  else r.raise f

end Reading

/-- The name and the attached value of a long option. -/
def long? (word : String) : Option (String × Option String) :=
  match Text.after? "--".toList word.toList with
  | none => none
  | some body =>
    match Text.cut? '=' body with
    | some (name, value) => some (String.ofList name, some (String.ofList value))
    | none => some (String.ofList body, none)

/-- The letters of short options. -/
def short? (word : String) : Option (List Char) :=
  match word.toList with
  | '-' :: c :: r => if c = '-' then none else some (c :: r)
  | _ => none

def attached? (letters : List Char) : Option String :=
  match letters with
  | [] => none
  | '=' :: r => some (String.ofList r)
  | _ => some (String.ofList letters)

/-- Reads short options written together; what follows one with a value is its value. -/
def readLetters (g : Grammar) (r : Reading) : List Char → Except Refusal Reading
  | [] => .ok r
  | c :: rest =>
    match g.flags.find? fun f => f.letter == some c with
    | none => .error .unknownWord
    | some f =>
      if f.takesValue then r.take f (attached? rest)
      else match r.raise f with
        | .error e => .error e
        | .ok r => readLetters g r rest

def readOperand (g : Grammar) (r : Reading) (word : String) : Except Refusal Reading :=
  if r.operands.length < g.operands then
    r.settled.map fun r => { r with operands := r.operands ++ [word] }
  else .error
    (if g.verbs.isEmpty || (r.plain && g.verbs.contains word) then .unknownWord else .unknownVerb)

/-- Reads one word that is no verb. -/
def readWord (g : Grammar) (r : Reading) (word : String) : Except Refusal Reading :=
  if r.plain then readOperand g r word
  else if word = "--" then .ok { r with plain := true }
  else match long? word with
    | some (name, attached) =>
      match g.flags.find? fun f => f.name == name with
      | none => .error .unknownWord
      | some f => r.take f attached
    | none =>
      match short? word with
      | some letters => readLetters g r letters
      | none =>
        match r.pending with
        | some f => r.give f word
        | none => readOperand g r word

/-- Reads one level, up to a verb. Gives the verb and the words behind it. -/
def readLevel (g : Grammar) (r : Reading) :
    List String → Except Refusal (Reading × Option (String × List String))
  | [] =>
    match r.settled with
    | .error e => .error e
    | .ok r =>
      if g.verbs.isEmpty then .ok (r, none)
      else if r.given.isEmpty then .error .nothingSaid
      else .error .missingVerb
  | word :: rest =>
    if !r.plain && r.pending.isNone && g.verbs.contains word then .ok (r, some (word, rest))
    else match readWord g r word with
      | .error e => .error e
      | .ok r => readLevel g r rest

end Firewall.Usage
