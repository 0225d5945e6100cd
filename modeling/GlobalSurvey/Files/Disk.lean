import GlobalSurvey.Files.Fault
import GlobalSurvey.Files.Node
import GlobalSurvey.Files.Path

/-!
# The file system

A disk is a tree of files with a working directory. `resolve` finds the node that a path leads to, through symbolic
links; the other operations are stated by way of it. An operation that fails changes nothing.
-/
namespace GlobalSurvey.Files

/-- A tree of files, and the directories from which a program sees it. -/
structure Disk where
  root : Node
  working : Location
  temporary : Location

def pathOf (location : Location) : String := "/" ++ "/".intercalate location

/-- Where a path leads: to a node, or to a name that a directory does not have. -/
inductive Place where
  | present (location : Location)
  | absent (directory : Location) (name : String)
deriving DecidableEq, Repr

def nameLimit : Nat := 255
/-- The number of bytes that a path has to stay below. -/
def pathLimit : Nat := 4096
/-- The most symbolic links that may be followed on the way. -/
def linkLimit : Nat := 40

/-- The steps that a path prescribes. A slash at the end asks for a directory, as a last step that stays in place does. -/
def steps (path : String) : List String :=
  components path ++ (if path.toList.getLast? = some '/' then ["."] else [])

/-- Takes steps from a location. The last link is followed only if asked for. -/
def follow (root : Node) (followLast : Bool) (links : Nat) (location : Location) (pending : List String) :
    Except Cause Place :=
  match pending with
  | [] => .ok (.present location)
  | name :: rest =>
    match root.get? location with
    | some (.directory es) =>
      if name = "." then follow root followLast links location rest
      else if name = ".." then follow root followLast links location.dropLast rest
      else if nameLimit < name.utf8ByteSize then .error .nameTooLong
      else match entry? name es with
        | none => if rest.isEmpty then .ok (.absent location name) else .error .notFound
        | some (.link target) =>
          if rest.isEmpty ∧ !followLast then .ok (.present (location ++ [name]))
          else match links with
            | 0 => .error .tooManyLinks
            | links + 1 =>
              if target.isEmpty then .error .notFound
              else follow root followLast links (if target.toList.head? = some '/' then [] else location)
                (steps target ++ rest)
        | some _ => follow root followLast links (location ++ [name]) rest
    | _ => .error .notDirectory
termination_by (links, pending.length)

namespace Disk

/-- Finds where a path leads. -/
def resolve (d : Disk) (followLast : Bool) (path : String) : Except Cause Place :=
  if path.isEmpty then .error .notFound
  else if pathLimit ≤ path.utf8ByteSize then .error .nameTooLong
  else follow d.root followLast linkLimit (if path.toList.head? = some '/' then [] else d.working) (steps path)

/-- A path with the character NUL is refused before anything else. -/
def checked {α : Type} (path : String) (act : Except Cause α) : Except FileFault α :=
  if path.toList.contains '\x00' then .error .nullCharacter
  else match act with
    | .ok a => .ok a
    | .error cause => .error (.refused cause path)

def node? (d : Disk) (path : String) : Except FileFault Node :=
  checked path do
    match ← d.resolve true path with
    | .absent _ _ => .error .notFound
    | .present location =>
      match d.root.get? location with
      | some node => .ok node
      | none => .error .notFound

def isDirectory (d : Disk) (path : String) : Bool :=
  match d.node? path with
  | .ok node => node.isDirectory
  | .error _ => false

/-- The path leads to a file or a directory. -/
def pathExists (d : Disk) (path : String) : Bool :=
  match d.node? path with
  | .ok _ => true
  | .error _ => false

def contents (d : Disk) (path : String) : Except FileFault (List UInt8) := do
  match ← d.node? path with
  | .file content => .ok content
  | .directory _ => .error (.refused .isDirectory path)
  | .link _ => .error (.refused .tooManyLinks path)

def put (d : Disk) (location : Location) (node : Node) : Disk := { d with root := d.root.put node location }

/-- The path without the slashes at its end, unless there is nothing else. -/
def withoutEndSlashes (path : String) : String :=
  let trimmed := (path.toList.reverse.dropWhile (· = '/')).reverse
  if trimmed.isEmpty then path else String.ofList trimmed

/-- The last component of a path is a name, not a step that stays in place or goes up. -/
def endsInName (path : String) : Bool :=
  match (components path).getLast? with
  | some last => last != "." && last != ".."
  | none => false

def makeDirectory (d : Disk) (path : String) : Except FileFault Disk :=
  checked path do
    let plain := withoutEndSlashes path
    if !plain.isEmpty && !endsInName plain then
      let _ ← d.resolve true (directoryOf plain)
      .error .alreadyExists
    else match ← d.resolve false plain with
      | .present _ => .error .alreadyExists
      | .absent directory name => .ok (d.put (directory ++ [name]) (.directory []))

/-- Makes a directory unless it is there already. -/
def ensureDirectory (d : Disk) (path : String) : Disk × Option FileFault :=
  match d.makeDirectory path with
  | .ok d => (d, none)
  | .error .nullCharacter => (d, some .nullCharacter)
  | .error fault => if d.isDirectory path then (d, none) else (d, some fault)

/-- Makes a directory and those above it, up to `depth` of them. -/
def makeDirectories (d : Disk) (path : String) : (depth : Nat) → Disk × Option FileFault
  | 0 => d.ensureDirectory path
  | depth + 1 =>
    let (head, tail) := splitPath path
    let (head, tail) := if tail.isEmpty then splitPath head else (head, tail)
    if !head.isEmpty && !tail.isEmpty && !d.pathExists head then
      match d.makeDirectories head depth with
      | (d, none) => if tail = "." then (d, none) else d.ensureDirectory path
      | (d, some (.refused .alreadyExists _)) => if tail = "." then (d, none) else d.ensureDirectory path
      | (d, some fault) => (d, some fault)
    else d.ensureDirectory path

/-- Makes a directory and all those above it that are missing. Those made before a fault stay. -/
def makePath (d : Disk) (path : String) : Disk × Option FileFault := d.makeDirectories path path.length

/-- Makes a new empty file where there is nothing, not even a link; gives its location. -/
def make (d : Disk) (path : String) : Except FileFault (Disk × Location) :=
  checked path do
    if path.toList.getLast? = some '/' then
      let _ ← d.resolve true (directoryOf (withoutEndSlashes path))
      .error .isDirectory
    else match ← d.resolve false path with
      | .present _ => .error .alreadyExists
      | .absent directory name => .ok (d.put (directory ++ [name]) (.file []), directory ++ [name])

/-- Writes a file, new or in the place of its old content. -/
def store (d : Disk) (path : String) (content : List UInt8) : Except FileFault Disk :=
  checked path do
    if path.toList.getLast? = some '/' then
      let _ ← d.resolve true (directoryOf (withoutEndSlashes path))
      .error .isDirectory
    else match ← d.resolve true path with
      | .absent directory name => .ok (d.put (directory ++ [name]) (.file content))
      | .present location =>
        match d.root.get? location with
        | some (.directory _) => .error .isDirectory
        | _ => .ok (d.put location (.file content))

/-- Writes bytes over the start of the file at a location, if there still is one. -/
def overwrite (d : Disk) (location : Location) (bytes : List UInt8) : Disk :=
  match d.root.get? location with
  | some (.file old) => d.put location (.file (bytes ++ old.drop bytes.length))
  | _ => d

def remove (d : Disk) (location : Location) : Disk := { d with root := d.root.remove location }

/-- Removes the directory that a path names with all that is in it. A link is left alone. -/
def discard (d : Disk) (path : String) : Disk :=
  match d.resolve false path with
  | .ok (.present location) =>
    match d.root.get? location with
    | some (.directory _) => d.remove location
    | _ => d
  | _ => d

/-- The entries of the directory that a path leads to. -/
def entriesAt (d : Disk) (path : String) : List (String × Node) :=
  match d.node? path with
  | .ok node => node.entries
  | .error _ => []

/-! ## Fresh names -/

def freshDigit (n : Nat) : Char := if n < 10 then Char.ofNat (48 + n) else Char.ofNat (87 + n)

/-- A number in the base 36, with at least `width` digits. -/
def freshDigits : (width : Nat) → Nat → List Char
  | 0, _ => []
  | width + 1, n => freshDigits width (n / 36) ++ [freshDigit (n % 36)]

/-- The candidates for the varying part of a fresh name. -/
def freshName (n : Nat) : String := String.ofList (freshDigits 8 n)

/-- Makes a directory that was not there, the first of the candidates from `n` on whose name is free. -/
def makeFresh (d : Disk) (directory stem : String) : (tries n : Nat) → Except FileFault (Disk × String)
  | 0, n =>
    let path := joinPath directory (stem ++ freshName n)
    match d.makeDirectory path with
    | .ok d => .ok (d, path)
    | .error fault => .error fault
  | tries + 1, n =>
    let path := joinPath directory (stem ++ freshName n)
    match d.makeDirectory path with
    | .ok d => .ok (d, path)
    | .error (.refused .alreadyExists _) => d.makeFresh directory stem tries (n + 1)
    | .error fault => .error fault

/-- Makes a fresh directory below another; gives its path. Of as many candidates as the directory has entries, and one
more, one is free. -/
def makeFreshDirectory (d : Disk) (directory stem : String) : Except FileFault (Disk × String) :=
  d.makeFresh directory stem (d.entriesAt (if directory.isEmpty then "." else directory)).length 0

end Disk

end GlobalSurvey.Files
