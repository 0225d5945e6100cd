/-!
# Trees of files

A node is a file with its bytes, a symbolic link with its target, or a directory with its entries by name. A name is a
text: names whose bytes are not UTF-8 are not modelled. A location is the row of names that leads from the root to a node; it
goes through directories only.
-/
namespace GlobalSurvey.Files

/-- A file, a symbolic link, or a directory. -/
inductive Node where
  | file (content : List UInt8)
  | link (target : String)
  | directory (entries : List (String × Node))

/-- The names from the root to a node. -/
abbrev Location := List String

def entry? (name : String) : List (String × Node) → Option Node
  | [] => none
  | (n, node) :: rest => if n = name then some node else entry? name rest

/-- Sets the entry with a name. A new entry comes last. -/
def setEntry (name : String) (node : Node) : List (String × Node) → List (String × Node)
  | [] => [(name, node)]
  | (n, old) :: rest => if n = name then (n, node) :: rest else (n, old) :: setEntry name node rest

def dropEntry (name : String) : List (String × Node) → List (String × Node)
  | [] => []
  | (n, old) :: rest => if n = name then rest else (n, old) :: dropEntry name rest

namespace Node

/-- The entries of a directory; any other node has none. -/
def entries : Node → List (String × Node)
  | .directory es => es
  | _ => []

def isDirectory : Node → Bool
  | .directory _ => true
  | _ => false

def get? (root : Node) : Location → Option Node
  | [] => some root
  | name :: rest =>
    match entry? name root.entries with
    | some child => child.get? rest
    | none => none

/-- Puts a node at a location whose directory is there, in the place of the node that is there. -/
def put (root : Node) (new : Node) : Location → Node
  | [] => new
  | name :: rest =>
    match root with
    | .directory es =>
      match entry? name es, rest with
      | some child, rest => .directory (setEntry name (child.put new rest) es)
      | none, [] => .directory (setEntry name new es)
      | none, _ :: _ => root
    | other => other

/-- Removes the node at a location other than the root. -/
def remove (root : Node) : Location → Node
  | [] => root
  | name :: rest =>
    match root with
    | .directory es =>
      match rest, entry? name es with
      | [], _ => .directory (dropEntry name es)
      | rest, some child => .directory (setEntry name (child.remove rest) es)
      | _, none => root
    | other => other

end Node

end GlobalSurvey.Files
