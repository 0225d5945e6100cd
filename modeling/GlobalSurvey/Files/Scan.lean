import GlobalSurvey.Failure
import GlobalSurvey.Files.Disk
import GlobalSurvey.Text.Blank
import GlobalSurvey.Text.Order

/-!
# Finding units

`scan` lists the files with given extensions below a directory. Some directories are passed over, and so are links to
directories and directories whose paths are too long to be opened; links to files count as files. `readUnitList` reads units
from a file with one unit a line.
-/
namespace GlobalSurvey.Files

/-! ## Below a directory -/

/-- The names of directories that hold no sources of their own. -/
def ignoredDirectories : List String :=
  [".git", "node_modules", "dist", "build", "__pycache__", ".venv", "venv", ".tox"]

mutual
/-- The files of a node at a path, if its last name is `name`: the node itself, or those in the directory if it is opened. -/
def filesOf (leadsToDirectory : String → Bool) (extensions : List String) (path name : String) : Node → List String
  | .file _ => if hasExtension name extensions then [path] else []
  | .link _ => if !leadsToDirectory path && hasExtension name extensions then [path] else []
  | .directory entries =>
    if ignoredDirectories.contains name ∨ pathLimit ≤ path.utf8ByteSize then []
    else filesIn leadsToDirectory extensions path entries
def filesIn (leadsToDirectory : String → Bool) (extensions : List String) (path : String) :
    List (String × Node) → List String
  | [] => []
  | (name, node) :: rest =>
    filesOf leadsToDirectory extensions (joinPath path name) name node
      ++ filesIn leadsToDirectory extensions path rest
end

/-- The files below a directory that have one of the extensions, in ascending order. -/
def scan (d : Disk) (root : String) (extensions : List String) : Except ConfigurationFault (List String) :=
  match d.node? root with
  | .ok (.directory entries) => .ok (Text.sortTexts (filesIn d.isDirectory extensions root entries))
  | _ => .error (.invalidRoot root)

/-! ## In a list -/

/-- The units that the lines of a list name: blank lines and comments name none. -/
def listedUnits (lines : List (List Char)) : List String :=
  (lines.filter fun line => !(Text.trim line).isEmpty && (Text.trimStart line).head? != some '#').map
    fun line => String.ofList (Text.trim line)

/-- The units that the text of a list names. -/
def unitsOfText (text : List Char) : List String := listedUnits (Text.lines (Text.unifyLineEnds text))

def readUnitList (d : Disk) (path : String) : Except Failure (List String) :=
  match d.contents path with
  | .error .nullCharacter => .error (.file .nullCharacter)
  | .error fault => .error (.configuration (.unreadableList path fault.message))
  | .ok bytes =>
    match Text.Codec.decodeUtf8 bytes with
    | .error what => .error (.configuration (.unreadableList path what.message))
    | .ok text => .ok (unitsOfText text)

end GlobalSurvey.Files
