import GlobalSurvey.CommandLine.Run

/-!
# The program

The program takes a picture of the files that a command line can reach, runs the command on the picture, and brings the
changes back to the file system. What is done is decided in `CommandLine.run`; here is only the way there and back.
-/
namespace GlobalSurvey.Program
open Files (Disk Location Node)

/-! ## The picture of the file system -/

/-- The node at an entry of a directory. What cannot be read is left out, and a link that leads nowhere stays one. -/
partial def nodeOf (throughLink : Bool) (entry : IO.FS.DirEntry) : IO (Option Node) := do
  try
    let metadata ← if throughLink then entry.path.metadata else entry.path.symlinkMetadata
    match metadata.type with
    | .file => return some (.file (← IO.FS.readBinFile entry.path).toList)
    | .other => return none
    | .symlink =>
      match ← (IO.FS.realPath entry.path).toBaseIO with
      | .ok target => return some (.link target.toString)
      | .error _ => return some (.link "")
    | .dir =>
      let entries ← (← entry.path.readDir).toList.filterMapM fun inner => do
        return (← nodeOf false inner).map fun node => (inner.fileName, node)
      return some (.directory entries)
  catch _ => return none

/-- Puts a node at a location where there is none yet, with the directories on the way. -/
def plant (new : Node) : Location → Option Node → Node
  | [], none => new
  | [], some old => old
  | name :: rest, none => .directory [(name, plant new rest none)]
  | name :: rest, some (.directory entries) =>
    .directory (Files.setEntry name (plant new rest (Files.entry? name entries)) entries)
  | _ :: _, some other => other

/-- The locations of the directories above a place, the outermost first. -/
def above (place : Location) : List Location := (List.range place.length).map place.take

/-- The picture of some places, given by their absolute paths, and of the names in the directory for temporary files. -/
def picture (working temporary : String) (places : List String) : IO Disk := do
  let here ← IO.currentDir
  let mut root : Node := .directory []
  for place in places.mergeSort fun a b => (Files.components a).length ≤ (Files.components b).length do
    match ← nodeOf true ⟨here, place⟩ with
    | some node => root := plant node (Files.components place) (some root)
    | none =>
      for directory in above (Files.components place) do
        if ← (here / Files.pathOf directory).isDir then root := plant (.directory []) directory (some root)
  root := plant (.directory []) (Files.components temporary) (some root)
  for entry in ← (here / temporary).readDir do
    root := plant (.directory []) (Files.components temporary ++ [entry.fileName]) (some root)
  return { root, working := Files.components working, temporary := Files.components temporary }

/-! ## The way back -/

/-- Makes the file system below a path like a picture, where it differs from an older one. -/
partial def bringBack (path : String) (old new : Option Node) : IO Unit := do
  match old, new with
  | some (.directory _), none => IO.FS.removeDirAll path
  | some _, none => IO.FS.removeFile path
  | _, some (.file bytes) =>
    let unchanged := match old with
      | some (.file oldBytes) => oldBytes == bytes
      | _ => false
    unless unchanged do IO.FS.writeBinFile path ⟨bytes.toArray⟩
  | old, some (.directory entries) =>
    let oldEntries := (old.map Node.entries).getD []
    if old.isNone then IO.FS.createDirAll path
    for (name, node) in entries do
      bringBack (path ++ "/" ++ name) (Files.entry? name oldEntries) (some node)
    for (name, node) in oldEntries do
      if (Files.entry? name entries).isNone then bringBack (path ++ "/" ++ name) (some node) none
  | _, _ => pure ()

/-! ## The environment -/

/-- The variables of the environment that can matter: those of the settings, and those that a text names. -/
def environmentFor (text : String) : IO Settings.Environment := do
  let stems := Settings.names.map (Settings.variableStem ++ ·)
  let named := (text.split fun c => !(c.isAlphanum || c == '_')).toList.map (·.toString)
  (stems ++ stems.map String.toUpper ++ named).eraseDups.filterMapM fun name => do
    return (← IO.getEnv name).map fun value => (name, value)

/-- The text of the file of variables; nothing if there is none. -/
def variablesText : IO String := do
  match ← (IO.FS.readFile Settings.filePath).toBaseIO with
  | .ok text => return text
  | .error _ => return ""

/-! ## A run -/

def run (words : List String) : IO UInt32 := do
  let working := (← IO.currentDir).toString
  let temporary := (← IO.getEnv "TMPDIR").getD "/tmp"
  let environment ← environmentFor (← variablesText)
  let near ← picture working temporary [working]
  let settings := (Settings.load [] environment near).toOption.getD {}
  let named := words ++ settings.outputPath.toList ++ settings.shardDirectory.toList
  let before ← picture working temporary
    (working :: (named.filter (· ≠ "")).map (Files.absolutePath working))
  let outcome := CommandLine.run words (.globalVariables {}) environment before
  bringBack "" (some before.root) (some outcome.disk.root)
  let stderr ← IO.getStderr
  for entry in outcome.log do stderr.putStrLn (entry.line outcome.logFormat)
  stderr.putStr outcome.errors
  (← IO.getStdout).putStr outcome.output
  match outcome.served with
  | some service => stderr.putStrLn ("nothing listens at " ++ service.host ++ ":" ++ toString service.port)
  | none => pure ()
  match outcome.status with
  | some (.ok status) => return status.toUInt32
  | some (.error failure) =>
    stderr.putStrLn failure.text
    return 1
  | none => return 1

end GlobalSurvey.Program

/-- The program: the words of the command line are its arguments. -/
def main (words : List String) : IO UInt32 := GlobalSurvey.Program.run words
