import Firewall.Dict
import Firewall.Text.Utf8
import Firewall.Text

/-!
The files a process works on, by path. A directory is there as long as a file
lies in it; the working directory and everything above it are always there.
-/

namespace Firewall

inductive FileFault
  | missing
  | notDirectory
  | isDirectory
  | nameTooLong
  | nulInName
  | notText
  deriving DecidableEq, Repr

def FileFault.message : FileFault → String
  | missing => "No such file or directory (os error 2)"
  | notDirectory => "Not a directory (os error 20)"
  | isDirectory => "Is a directory (os error 21)"
  | nameTooLong => "File name too long (os error 36)"
  | nulInName => "file name contained an unexpected NUL byte"
  | notText => "stream did not contain valid UTF-8"

/-- The place of a file: the names on the way to it from the working directory. -/
abbrev Place := List (List Char)

/-- The files, each at a place of its own. -/
structure Disk where
  files : Dict Place (List UInt8)
  deriving Repr, Inhabited

namespace Disk

open Text

def empty : Disk := ⟨Dict.empty⟩

def contentAt? (d : Disk) (p : Place) : Option (List UInt8) :=
  d.files.get? p

def top : List Char := ['/']

def up : List Char := ['.', '.']

def hasDirectory (d : Disk) (p : Place) : Bool :=
  p.all (· == up) || p == [top] || d.files.keys.any fun f => p.isPrefixOf f && f != p

/-- The place reached from a directory by one name. -/
def descend (here : Place) (name : List Char) : Place :=
  if name = up then
    match here.getLast? with
    | none => [up]
    | some l => if l = up then here ++ [up] else if l = top then here else here.dropLast
  else here ++ [name]

/-- Whether a name stays in the directory it is looked up in. -/
def isIdle (name : List Char) : Bool := name.isEmpty || name == ['.']

/-- Follows names to a place; every step but the last must lead to a directory. -/
def follow (d : Disk) (here : Place) : List (List Char) → Except FileFault Place
  | [] => .ok here
  | [name] =>
    if isIdle name then .ok here
    else if 255 < (Utf8.encode name).length then .error .nameTooLong
    else .ok (descend here name)
  | name :: next :: rest =>
    if isIdle name then follow d here (next :: rest)
    else if 255 < (Utf8.encode name).length then .error .nameTooLong
    else
      let there := descend here name
      if d.hasDirectory there then follow d there (next :: rest)
      else if (d.contentAt? there).isSome then .error .notDirectory
      else if (next :: rest).all isIdle then .ok there
      else .error .missing

/-- What a path leads to, which may be nothing yet, and whether it names a directory. -/
def locate (d : Disk) (path : String) : Except FileFault (Place × Bool) :=
  let cs := path.toList
  if cs.contains (Char.ofNat 0) then .error .nulInName
  else if cs.isEmpty then .error .missing
  else if 4096 ≤ (Utf8.encode cs).length then .error .nameTooLong
  else
    let start : Place := if cs.head? = some '/' then [top] else []
    match d.follow start (pieces '/' cs) with
    | .error e => .error e
    | .ok p => .ok (p, ((pieces '/' cs).getLast?.map isIdle).getD false)

def hasPath (d : Disk) (path : String) : Bool :=
  match d.locate path with
  | .error _ => false
  | .ok (p, asDirectory) => d.hasDirectory p || (!asDirectory && (d.contentAt? p).isSome)

def read (d : Disk) (path : String) : Except FileFault (List UInt8) :=
  match d.locate path with
  | .error e => .error e
  | .ok (p, asDirectory) =>
    if d.hasDirectory p then .error .isDirectory
    else match d.contentAt? p with
      | some bytes => if asDirectory then .error .notDirectory else .ok bytes
      | none => .error .missing

def readText (d : Disk) (path : String) : Except FileFault String :=
  match d.read path with
  | .error e => .error e
  | .ok bytes => match Utf8.decode? bytes with
    | some cs => .ok (String.ofList cs)
    | none => .error .notText

/-- Puts bytes at a place, whatever was there. -/
def put (d : Disk) (p : Place) (bytes : List UInt8) : Disk :=
  ⟨d.files.insert p bytes⟩

/-- Where a file can be written at a path. -/
def writable (d : Disk) (path : String) : Except FileFault Place :=
  match d.locate path with
  | .error e => .error e
  | .ok (p, asDirectory) =>
    if d.hasDirectory p then .error .isDirectory
    else if asDirectory then
      .error (if (d.contentAt? p).isSome then .notDirectory else .isDirectory)
    else .ok p

def write (d : Disk) (path : String) (bytes : List UInt8) : Except FileFault Disk :=
  match d.writable path with
  | .error e => .error e
  | .ok p => .ok (d.put p bytes)

/-- Opens a file to append to it: it is created empty if there is none. -/
def openAppend (d : Disk) (path : String) : Except FileFault (Place × Disk) :=
  match d.writable path with
  | .error e => .error e
  | .ok p => .ok (p, if (d.contentAt? p).isSome then d else d.put p [])

def append (d : Disk) (p : Place) (bytes : List UInt8) : Disk :=
  d.put p (((d.contentAt? p).getD []) ++ bytes)

/-- Puts a file at a path with all the directories on the way. -/
def place (d : Disk) (path : String) (bytes : List UInt8) : Disk :=
  let names := (pieces '/' path.toList).filter (!isIdle ·)
  d.put (names.foldl descend (if path.toList.head? = some '/' then [top] else [])) bytes

/-- Keeps a directory at a path by a file without a name, which no path leads to. -/
def keepDirectory (d : Disk) (path : String) : Disk :=
  let names := (pieces '/' path.toList).filter (!isIdle ·)
  d.put (names.foldl descend (if path.toList.head? = some '/' then [top] else []) ++ [[]]) []

def pathOf (p : Place) : String := String.ofList (join ['/'] p)

/-- Paths of the files below the working directory, in the order of creation. -/
def paths (d : Disk) : List String :=
  d.files.keys.filter (fun p => p.head? != some up && p.head? != some top) |>.map pathOf

@[simp] theorem contentAt?_put (d : Disk) (p q : Place) (bytes : List UInt8) :
    (d.put p bytes).contentAt? q = if q = p then some bytes else d.contentAt? q :=
  Dict.get?_insert d.files p q bytes

end Disk

end Firewall
