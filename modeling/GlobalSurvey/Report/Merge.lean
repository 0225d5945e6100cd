import GlobalSurvey.Log
import GlobalSurvey.Report.Sink

/-!
# Reports

A report is the lines of several sinks in the order of their UTF-8 bytes. Lines are texts, so every line has such bytes.
-/
namespace GlobalSurvey.Report
open GlobalSurvey.Files GlobalSurvey.Text

/-- The bytes that decide the place of a line. -/
def lineKey (line : String) : List Nat := (Utf8.encode line.toList).map UInt8.toNat

/-- The first line does not come after the second, by their bytes. -/
def lineLE (a b : String) : Bool := rowLE (lineKey a) (lineKey b)

def sortLines (lines : List String) : List String := lines.mergeSort lineLE

/-- The lines of several sinks, one sink after the other. -/
def allLines (d : Disk) : List Sink → Except Failure (List String)
  | [] => .ok []
  | s :: rest =>
    match s.readLines d with
    | .error failure => .error failure
    | .ok lines =>
      match allLines d rest with
      | .ok more => .ok (lines ++ more)
      | .error failure => .error failure

/-- The report of several sinks, all of which have to be finalized. -/
def merge (d : Disk) (sinks : List Sink) : Except Failure (List String) :=
  match (sinks.filter fun s => !s.finalized).map (·.name) with
  | [] =>
    match allLines d sinks with
    | .ok lines => .ok (sortLines lines)
    | .error failure => .error failure
  | unfinished => .error (.sink (.unfinishedMerge unfinished))

def render (lines : List String) : String := String.join (lines.map (· ++ "\n"))

/-- What writing a report leaves behind. -/
structure Written where
  disk : Disk
  /-- The absolute path of the report, or why it could not be written. -/
  path : Except FileFault String

/-- Writes a report, after the directories above it. -/
def write (d : Disk) (lines : List String) (path : String) : Written :=
  let path := absolutePath (pathOf d.working) path
  match d.makePath (directoryOf path) with
  | (d, some fault) => ⟨d, .error fault⟩
  | (d, none) =>
    match d.store path (Utf8.encode (render lines).toList) with
    | .ok d => ⟨d, .ok path⟩
    | .error fault => ⟨d, .error fault⟩

/-- The sinks that can be read, of sinks with their shards. -/
def readable (sinks : List (Int × Sink)) : List Sink := (sinks.filter (·.2.finalized)).map (·.2)

/-- The log of the sinks that cannot be read. -/
def unreadableEvents (sinks : List (Int × Sink)) : List Event :=
  (sinks.filter fun s => !s.2.finalized).map fun s => .sinkUnreadable s.1 s.2.name

end GlobalSurvey.Report
