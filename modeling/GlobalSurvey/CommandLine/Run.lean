import GlobalSurvey.Batch.Pipeline
import GlobalSurvey.CommandLine.Command
import GlobalSurvey.Files.Scan
import GlobalSurvey.Log.Filter

/-!
# Running commands

A command ends with a status: 0 if every unit is in the report, 1 if some are not, 2 if nothing was begun, 3 if the
workers did not end in time. The report goes to a file or to the standard output, log entries and complaints to the
standard error.
-/
namespace GlobalSurvey.CommandLine
open GlobalSurvey.Batch GlobalSurvey.Files

/-- Status of a run whose report has every unit. -/
def statusDone : Nat := 0
/-- Status of a run whose report lacks units. -/
def statusFailed : Nat := 1
def statusRefused : Nat := 2
/-- Status of a run whose workers did not end in time. -/
def statusLate : Nat := 3

structure Outcome where
  /-- The status, or the failure that nobody handles; nothing if the command waits without end. -/
  status : Option (Except Failure Nat)
  output : String := ""
  /-- The text on the standard error, log entries aside. -/
  errors : String := ""
  log : List Entry := []
  logFormat : LogFormat := .console
  served : Option Serve := none
  refused : Bool := false
  calls : List String := []
  disk : Disk

/-! ## Analyzing -/

namespace Analyze

def override (a : Analyze) (s : Settings) : Settings :=
  { s with
    workers := a.workers.getD s.workers
    outputPath := a.output <|> s.outputPath
    shardDirectory := a.shardDirectory <|> s.shardDirectory
    keepShards := a.keepShards || s.keepShards
    joinTimeout := a.joinTimeout <|> s.joinTimeout
    extensions := if a.extensions.isEmpty then s.extensions else ",".intercalate a.extensions
    logLevel := a.logLevel.getD s.logLevel
    logFormat := a.logFormat.getD s.logFormat }

def listed (a : Analyze) (d : Disk) : Except Failure (List String) :=
  let path := a.list.getD ""
  if path.isEmpty then .ok [] else readUnitList d path

/-- The units below a directory, if one is given. -/
def found (a : Analyze) (d : Disk) (s : Settings) : Except Failure (List String) :=
  let path := a.root.getD ""
  if path.isEmpty then .ok []
  else match scan d path s.extensionList with
    | .ok units => .ok units
    | .error fault => .error (.configuration fault)

/-- All units: those on the command line, those listed, and those found. -/
def units (a : Analyze) (d : Disk) (s : Settings) : Except Failure (List String) :=
  match a.listed d with
  | .error failure => .error failure
  | .ok listed =>
    match a.found d s with
    | .error failure => .error failure
    | .ok found => .ok (a.paths ++ listed ++ found)

end Analyze

def requestOf (s : Settings) (provider : Provider) (units : List String) : Request where
  units := .list (units.map .str)
  workers := .int s.workers
  provider := provider
  outputPath := s.outputPath
  shardDirectory := s.shardDirectory
  shardStem := s.shardStem
  keepShards := s.keepShards
  inMemorySinks := s.inMemorySinks
  joinTimeout := s.joinTimeout.map .float

/-- What is said about a worker that did not get to the end of its shard. -/
def workerComplaint? (r : WorkerResult) : Option String :=
  let start := "shard " ++ toString r.shard ++ ": "
  match r.fatalError with
  | some error => some (start ++ error ++ "\n")
  | none => if r.cancelled then some (start ++ "cancelled\n") else none

/-- What is said about a unit that could not be analyzed. -/
def unitComplaint (f : UnitFailure) : String :=
  "shard " ++ toString f.shard ++ ": " ++ f.unit ++ ": " ++ f.message ++ "\n"

/-- What is said about a result that is not as it should be. -/
def complaints (r : PipelineResult) : String :=
  if r.ok then ""
  else String.join (r.workers.filterMap workerComplaint? ++ r.failedUnits.map unitComplaint)

def outcomeOf (s : Settings) (run : Run) : Outcome :=
  let entries (events : List Event) : List Entry := loggedAt s.logLevel.rank (events.map (·.entry))
  let base : Outcome := { status := none, logFormat := s.logFormat, calls := run.calls, disk := run.disk }
  match run.completion with
  | .waiting => { base with log := entries run.log }
  | .done result =>
    { base with
      status := some (.ok (if result.ok then statusDone else statusFailed))
      output := if result.outputPath.isNone then Report.render result.lines else ""
      errors := complaints result
      log := entries run.log }
  | .failed (.configuration fault) =>
    { base with
      status := some (.ok statusRefused)
      log := entries (run.log ++ [.configurationError fault.message]) }
  | .failed (.joinTimeout limit pending) =>
    { base with
      status := some (.ok statusLate)
      log := entries (run.log ++ [.pipelineTimedOut (Failure.joinTimeout limit pending).message]) }
  | .failed failure => { base with status := some (.error failure), log := entries run.log }

/-- Analyzes what a command line asks for, with settings that are loaded; the workers follow a schedule. -/
def analyzeWith (schedule : Pool → List Move) (a : Analyze) (s : Settings) (provider : Provider) (d : Disk) : Outcome :=
  match a.units d s with
  | .error failure => outcomeOf s ⟨.failed failure, [], d, []⟩
  | .ok units => outcomeOf s (Batch.runScheduled schedule (requestOf s provider units) d)

/-- Analyzes what a command line asks for; the workers follow a schedule. -/
def analyze (schedule : Pool → List Move) (a : Analyze) (provider : Provider) (environment : Settings.Environment)
    (d : Disk) : Outcome :=
  match Settings.load [] environment d with
  | .error (.misfits misfits) =>
    { status := some (.ok statusRefused), errors := "invalid settings: " ++ (Failure.misfits misfits).message ++ "\n"
      disk := d }
  | .error failure => { status := some (.error failure), disk := d }
  | .ok s => analyzeWith schedule a (a.override s) provider d

/-! ## Serving -/

def serve (s : Serve) (environment : Settings.Environment) (d : Disk) : Outcome :=
  match Settings.load [] environment d with
  | .error failure => { status := some (.error failure), disk := d }
  | .ok settings => { status := some (.ok statusDone), served := some s, logFormat := settings.logFormat, disk := d }

/-! ## Any command -/

/-- Runs a command line; the workers follow a schedule. -/
def runScheduled (schedule : Pool → List Move) (texts : List String) (provider : Provider)
    (environment : Settings.Environment) (d : Disk) : Outcome :=
  match Command.read texts with
  | .error r => { status := some (.ok statusRefused), errors := r.message, refused := true, disk := d }
  | .ok .help => { status := some (.ok statusDone), refused := true, disk := d }
  | .ok (.analyze a) => analyze schedule a provider environment d
  | .ok (.serve s) => serve s environment d

/-- Runs a command line until only calls that wait are left. -/
def run (texts : List String) (provider : Provider) (environment : Settings.Environment) (d : Disk) : Outcome :=
  runScheduled Pool.oneByOne texts provider environment d

end GlobalSurvey.CommandLine
