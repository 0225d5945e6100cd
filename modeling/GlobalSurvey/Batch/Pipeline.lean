import GlobalSurvey.Batch.Pool
import GlobalSurvey.Batch.Units
import GlobalSurvey.Report.Merge

/-!
# A whole batch

A batch is checked, cut into shards, analyzed by one worker a shard, merged, and written. Every shard has a sink of its
own, in memory or in a file of a fresh directory, which is removed at the end unless it is to be kept. Nothing is
written, logged or analyzed before the checks are over; nothing is merged or reported unless all workers have ended.
-/
namespace GlobalSurvey.Batch
open GlobalSurvey.Files GlobalSurvey.Report

structure Request where
  units : Value
  workers : Value
  provider : Provider
  /-- The path of the report; none or an empty one if it is not written to a file. -/
  outputPath : Option String := none
  /-- The directory for the fresh directory of the sinks. -/
  shardDirectory : Option String := none
  shardStem : String := "threaded_output_"
  keepShards : Bool := false
  inMemorySinks : Bool := false
  joinTimeout : Option Number := none
  /-- A sink that is to be used for a shard in the place of a new one. -/
  givenSink : Shard → Option Sink := fun _ => none
  /-- The failure that closing the new sink of a shard ends in, if it does. -/
  closingFault : Shard → Option Failure := fun _ => none

inductive Completion where
  | done (result : PipelineResult)
  | failed (failure : Failure)
  /-- It waits for workers without a limit to the time. -/
  | waiting

structure Run where
  completion : Completion
  log : List Event
  disk : Disk
  /-- The units whose analysis was begun, shard by shard. -/
  calls : List String

namespace Request

/-! ## Checks -/

/-- The units and the number of workers, if the request is as it should be. -/
def check (r : Request) : Except Failure (List String × Nat) := do
  let units ← validateUnits r.units
  let workers ← (validateWorkers r.workers).mapError .configuration
  match r.joinTimeout with
  | some limit => if limit.isAtMostZero then .error (.configuration (.invalidTimeout limit))
  | none => pure ()
  match r.provider with
  | .value v => .error (.configuration (.noAnalyzer v))
  | .capability _ => .ok (units, workers)

/-! ## The directory of the sinks -/

def directoryStem : String := "globscan-"

/-- Makes the fresh directory of the sinks, if they are kept in files. -/
def openDirectory (r : Request) (d : Disk) : Disk × Except FileFault (Option String) :=
  if r.inMemorySinks then (d, .ok none)
  else
    let parent := r.shardDirectory.getD (pathOf d.temporary)
    let (d, fault) := if (r.shardDirectory.getD "").isEmpty then (d, none) else d.makePath parent
    match fault with
    | some fault => (d, .error fault)
    | none =>
      match d.makeFreshDirectory parent directoryStem with
      | .ok (d, path) => (d, .ok (some path))
      | .error fault => (d, .error fault)

/-- Removes the fresh directory of the sinks, unless it is to be kept. -/
def closeDirectory (r : Request) (directory : Option String) (d : Disk) : Disk × List Event :=
  match directory with
  | none => (d, [])
  | some path => if r.keepShards then (d, [.shardsKept path]) else (d.discard path, [])

def newSink (r : Request) (directory : Option String) (d : Disk) (shard : Shard) : Except FileFault (Disk × Sink) :=
  let name := sinkName r.shardStem shard.index
  match r.givenSink shard, directory with
  | some sink, _ => .ok (d, sink)
  | none, none => .ok (d, { Sink.inMemory name with closingFault := r.closingFault shard })
  | none, some path =>
    match Sink.inFile d (joinPath path name) with
    | .ok (d, sink) => .ok (d, { sink with closingFault := r.closingFault shard })
    | .error fault => .error fault

/-- New sinks for shards. Files made before a fault stay. -/
def newSinks (r : Request) (directory : Option String) (d : Disk) :
    List Shard → Disk × Except FileFault (List Sink)
  | [] => (d, .ok [])
  | shard :: rest =>
    match r.newSink directory d shard with
    | .error fault => (d, .error fault)
    | .ok (d, sink) =>
      match newSinks r directory d rest with
      | (d, .ok sinks) => (d, .ok (sink :: sinks))
      | (d, .error fault) => (d, .error fault)

end Request

/-! ## The run -/

/-- The worker has closed its sink, or tried to. -/
def Worker.hasClosed (w : Worker) : Bool := w.hasEnded || w.sink.finalized

/-- The disk after the lines of all sinks of a pool that were to be closed have reached their files. -/
def Pool.flush (p : Pool) (d : Disk) : Disk :=
  p.workers.foldl (fun d w => if w.hasClosed then w.sink.flush d else d) d

def Pool.sinks (p : Pool) : List (Int × Sink) := p.workers.map fun w => (w.shard.index, w.sink)

/-- The last log entry of a run that ends with a result. -/
def PipelineResult.event (r : PipelineResult) : Event :=
  if r.ok then .pipelineFinished r.lines.length
  else .pipelineFailed r.lines.length (r.failedUnits.map (·.unit)) r.fatalShards

/-- Writes the report, if it is to be written, and ends the run. -/
def publish (r : Request) (d : Disk) (log : List Event) (calls : List String) (lines : List String)
    (workers : List WorkerResult) : Run :=
  let path := r.outputPath.getD ""
  if path.isEmpty then
    let result : PipelineResult := ⟨lines, workers, none⟩
    ⟨.done result, log ++ [result.event], d, calls⟩
  else
    let written := Report.write d lines path
    match written.path with
    | .error fault => ⟨.failed (.file fault), log, written.disk, calls⟩
    | .ok path =>
      let result : PipelineResult := ⟨lines, workers, some path⟩
      ⟨.done result, log ++ [.reportWritten path lines.length, result.event], written.disk, calls⟩

/-- Merges the sinks of a pool whose workers have all ended, removes their directory and publishes the report. -/
def mergeAndPublish (r : Request) (directory : Option String) (d : Disk) (log : List Event) (p : Pool)
    (workers : List WorkerResult) : Run :=
  let d := p.flush d
  let sinks := readable p.sinks
  let log := log ++ unreadableEvents p.sinks
  match merge d sinks with
  | .error failure =>
    let (d, kept) := r.closeDirectory directory d
    ⟨.failed failure, log ++ kept, d, p.calls⟩
  | .ok lines =>
    let (d, kept) := r.closeDirectory directory d
    publish r d (log ++ .sinksMerged sinks.length lines.length :: kept) p.calls lines workers

/-- Ends a run whose workers cannot be joined. The calls that wait end some time later. -/
def giveUp (r : Request) (directory : Option String) (d : Disk) (log : List Event) (analyze : Nat → Capability)
    (p : Pool) (failure : Failure) : Run :=
  let (d, kept) := r.closeDirectory directory (p.flush d)
  let final := p.abandon analyze
  ⟨.failed failure, log ++ kept, final.flush d, final.calls⟩

/-- Analyzes the shards by a pool that follows a schedule, and goes on from there. -/
def work (r : Request) (directory : Option String) (d : Disk) (log : List Event) (schedule : Pool → List Move)
    (p : Pool) : Run :=
  let analyze (_ : Nat) : Capability := r.provider.analyze d
  let p := p.follow analyze (schedule p)
  match p.join r.joinTimeout with
  | (p, events, .results workers) => mergeAndPublish r directory d (log ++ p.log ++ events) p workers
  | (p, events, .failed failure) => giveUp r directory d (log ++ p.log ++ events) analyze p failure
  | (p, events, .waiting) => ⟨.waiting, log ++ p.log ++ events, d, p.calls⟩

/-- Runs a batch whose request is as it should be. -/
def runShards (r : Request) (d : Disk) (schedule : Pool → List Move) (workers : Nat) (log : List Event)
    (shards : List Shard) : Run :=
  match r.openDirectory d with
  | (d, .error fault) => ⟨.failed (.file fault), log, d, []⟩
  | (d, .ok directory) =>
    match r.newSinks directory d shards with
    | (d, .error fault) =>
      let (d, kept) := r.closeDirectory directory d
      ⟨.failed (.file fault), log ++ kept, d, []⟩
    | (d, .ok sinks) =>
      work r directory d log schedule
        { size := workers, workers := (shards.zip sinks).map fun s => { shard := s.1, sink := s.2 } }

/-- Runs a batch; the workers follow a schedule. -/
def runScheduled (schedule : Pool → List Move) (r : Request) (d : Disk) : Run :=
  match r.check with
  | .error failure => ⟨.failed failure, [], d, []⟩
  | .ok (units, workers) =>
    match partition units workers with
    | .error fault => ⟨.failed (.configuration fault), [], d, []⟩
    | .ok shards =>
      runShards r d schedule workers [.pipelineStarted units.length workers] shards

/-- Runs a batch until only calls that wait are left. -/
def run (r : Request) (d : Disk) : Run := runScheduled Pool.oneByOne r d

end GlobalSurvey.Batch
