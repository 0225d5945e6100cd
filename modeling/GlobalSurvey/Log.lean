import GlobalSurvey.Decimal.Number

/-!
# Log entries

An event has a level, a name and fields. An event of one shard names the shard; one that a worker reports names its sink
as well.
-/
namespace GlobalSurvey

/-- How important a log entry is. -/
inductive Level where
  | debug
  | info
  | warning
  | error
  | critical
deriving DecidableEq, Repr

namespace Level

def rank : Level → Nat
  | .debug => 10
  | .info => 20
  | .warning => 30
  | .error => 40
  | .critical => 50

def word : Level → String
  | .debug => "debug"
  | .info => "info"
  | .warning => "warning"
  | .error => "error"
  | .critical => "critical"

end Level

structure Entry where
  level : Level
  event : String
  fields : List (String × Value)

/-- All that an entry says, by name: its fields, its event and its level. -/
def Entry.values (e : Entry) : List (String × Value) :=
  e.fields ++ [("event", .str e.event), ("level", .str e.level.word)]

inductive Event where
  | pipelineStarted (units workers : Nat)
  | workerSpawned (shard : Int) (units : Nat)
  | workerStarted (shard : Int) (sink : String) (units : Nat)
  | unitFailed (shard : Int) (sink unit reason : String)
  | workerFailed (shard : Int) (sink unit : String)
  | workerCancelled (shard : Int) (sink : String) (remaining : Nat)
  | workerFinished (shard : Int) (sink : String) (records failed : Nat) (fatal : Bool)
  | workerCrashed (shard : Int) (error : String)
  | joinTimeout (timeout : Number) (pending : List Int)
  | sinkUnreadable (shard : Int) (sink : String)
  | sinksMerged (sinks lines : Nat)
  | shardsKept (directory : String)
  | reportWritten (path : String) (lines : Nat)
  | pipelineFinished (lines : Nat)
  | pipelineFailed (lines : Nat) (failedUnits : List String) (fatalShards : List Int)
  | configurationError (error : String)
  | pipelineTimedOut (error : String)

namespace Event

/-- The shard that an event is about, if it is about one. -/
def shard? : Event → Option Int
  | .workerSpawned shard _ => some shard
  | .workerStarted shard _ _ => some shard
  | .unitFailed shard _ _ _ => some shard
  | .workerFailed shard _ _ => some shard
  | .workerCancelled shard _ _ => some shard
  | .workerFinished shard _ _ _ _ => some shard
  | .workerCrashed shard _ => some shard
  | .sinkUnreadable shard _ => some shard
  | _ => none

def count (n : Nat) : Value := .int n

def entry : Event → Entry
  | .pipelineStarted units workers => ⟨.info, "pipeline_started", [("units", count units), ("workers", count workers)]⟩
  | .workerSpawned shard units => ⟨.debug, "worker_spawned", [("shard", .int shard), ("units", count units)]⟩
  | .workerStarted shard sink units =>
    ⟨.debug, "worker_started", [("shard", .int shard), ("sink", .str sink), ("units", count units)]⟩
  | .unitFailed shard sink unit reason =>
    ⟨.warning, "unit_analysis_failed",
      [("shard", .int shard), ("sink", .str sink), ("unit", .str unit), ("error", .str reason)]⟩
  | .workerFailed shard sink unit =>
    ⟨.error, "worker_failed", [("shard", .int shard), ("sink", .str sink), ("unit", .str unit)]⟩
  | .workerCancelled shard sink remaining =>
    ⟨.warning, "worker_cancelled", [("shard", .int shard), ("sink", .str sink), ("remaining", count remaining)]⟩
  | .workerFinished shard sink records failed fatal =>
    ⟨.info, "worker_finished",
      [("shard", .int shard), ("sink", .str sink), ("records", count records), ("failed", count failed),
        ("fatal", .bool fatal)]⟩
  | .workerCrashed shard error => ⟨.error, "worker_crashed", [("shard", .int shard), ("error", .str error)]⟩
  | .joinTimeout timeout pending =>
    ⟨.error, "join_timeout", [("timeout", timeout.value), ("pending_shards", .list (pending.map .int))]⟩
  | .sinkUnreadable shard sink => ⟨.error, "sink_unreadable", [("shard", .int shard), ("sink", .str sink)]⟩
  | .sinksMerged sinks lines => ⟨.debug, "sinks_merged", [("sinks", count sinks), ("lines", count lines)]⟩
  | .shardsKept directory => ⟨.info, "shards_kept", [("directory", .str directory)]⟩
  | .reportWritten path lines => ⟨.info, "report_written", [("path", .str path), ("lines", count lines)]⟩
  | .pipelineFinished lines => ⟨.info, "pipeline_finished", [("lines", count lines)]⟩
  | .pipelineFailed lines failedUnits fatalShards =>
    ⟨.error, "pipeline_failed",
      [("lines", count lines), ("failed_units", .list (failedUnits.map .str)),
        ("fatal_shards", .list (fatalShards.map .int))]⟩
  | .configurationError error => ⟨.error, "configuration_error", [("error", .str error)]⟩
  | .pipelineTimedOut error => ⟨.error, "pipeline_timed_out", [("error", .str error)]⟩

end Event

end GlobalSurvey
