import GlobalSurvey.Value.Form

/-!
# Results

What a worker reports about its shard, and what a batch reports about all of them.
-/
namespace GlobalSurvey.Batch

structure UnitFailure where
  unit : String
  shard : Int
  message : String
deriving DecidableEq, Repr

structure WorkerResult where
  shard : Int
  units : Int
  recordsWritten : Int := 0
  failedUnits : List UnitFailure := []
  /-- The failure that ended the work early, if one did. -/
  fatalError : Option String := none
  /-- The work was cancelled before its end. -/
  cancelled : Bool := false
deriving DecidableEq, Repr

/-- Every unit of the shard has its record. -/
def WorkerResult.ok (r : WorkerResult) : Bool := r.fatalError.isNone && r.failedUnits.isEmpty && !r.cancelled

/-- The work ended before the end of the shard. -/
def WorkerResult.fatal (r : WorkerResult) : Bool := r.fatalError.isSome || r.cancelled

structure PipelineResult where
  lines : List String
  workers : List WorkerResult
  /-- The absolute path of the report, if it was written to a file. -/
  outputPath : Option String
deriving DecidableEq, Repr

namespace PipelineResult

/-- The units that could not be analyzed, shard by shard. -/
def failedUnits (r : PipelineResult) : List UnitFailure := r.workers.flatMap (·.failedUnits)

def fatalShards (r : PipelineResult) : List Int := (r.workers.filter (·.fatal)).map (·.shard)

def ok (r : PipelineResult) : Bool := r.workers.all (·.ok)

end PipelineResult

/-! ## Results from values -/

def UnitFailure.form : Form UnitFailure
  | .dict entries =>
    .apply (.apply (.apply (.ok UnitFailure.mk) (Form.required "unit" Form.text entries))
      (Form.required "shard" Form.integer entries)) (Form.required "message" Form.text entries)
  | _ => .misfit "model_type"

def WorkerResult.form : Form WorkerResult
  | .dict entries =>
    .apply (.apply (.apply (.apply (.apply (.apply (.ok WorkerResult.mk)
      (Form.required "shard" Form.integer entries))
      (Form.required "units" Form.integer entries))
      (Form.withDefault "records_written" Form.integer 0 entries))
      (Form.withDefault "failed_units" (Form.listOf UnitFailure.form) [] entries))
      (Form.withDefault "fatal_error" (Form.optional Form.text) none entries))
      (Form.withDefault "cancelled" Form.switch false entries)
  | _ => .misfit "model_type"

/-- The results of several workers; the first one that does not fit tells where. -/
def workerResults : List Value → Except Failure (List WorkerResult)
  | [] => .ok []
  | v :: rest =>
    match WorkerResult.form v with
    | .error misfits => .error (.misfits misfits)
    | .ok result =>
      match workerResults rest with
      | .ok results => .ok (result :: results)
      | .error failure => .error failure

def PipelineResult.ofValues (lines : Value) (workers : List Value) (outputPath : Value) :
    Except Failure PipelineResult :=
  match Checked.below (.field "lines") (Form.listOf Form.text lines) with
  | .error misfits => .error (.misfits misfits)
  | .ok lines =>
    match workerResults workers with
    | .error failure => .error failure
    | .ok workers =>
      match Checked.below (.field "output_path") (Form.optional Form.text outputPath) with
      | .error misfits => .error (.misfits misfits)
      | .ok outputPath => .ok ⟨lines, workers, outputPath⟩

end GlobalSurvey.Batch
