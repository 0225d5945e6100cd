import GlobalSurvey.Batch.Capability
import GlobalSurvey.Batch.Partition
import GlobalSurvey.Batch.Result
import GlobalSurvey.Log
import GlobalSurvey.Report.Sink

/-!
# Workers

A worker goes through its shard in order. Before each unit it looks at the flag that all workers share: if the flag is up
it leaves the rest of the shard. A unit that cannot be analyzed is skipped; any other failure ends the work. Whatever
happens, the worker closes its sink at the end. `Worker.step` is one step of this: between two steps of a worker any
number of steps of others may happen.
-/
namespace GlobalSurvey.Batch
open GlobalSurvey.Report

inductive Ending where
  | finished (result : WorkerResult)
  /-- The worker breaks down without a result. -/
  | crashed (failure : Failure)

/-- What a worker is about to do. -/
inductive Stage where
  | queued
  /-- To look at the flag before the next unit. -/
  | checking
  /-- To begin the analysis of the next unit. -/
  | calling
  /-- To end the analysis of the next unit. -/
  | answering
  | writing (record : Record)
  | closing
  | ended (ending : Ending)

/-- A worker and what it has done so far. -/
structure Worker where
  shard : Shard
  sink : Sink
  stage : Stage := .queued
  /-- The units that it has not dealt with. -/
  remaining : List String := shard.units
  /-- The units whose analysis it began, in order. -/
  called : List String := []
  written : Nat := 0
  failures : List UnitFailure := []
  /-- The failure that ended the work, if one did. -/
  stopped : Option Failure := none
  /-- The worker left units because the flag was up. -/
  cancelled : Bool := false
  log : List Event := []

def severalLinesText : String := "record spans several lines"

namespace Worker

def hasEnded (w : Worker) : Bool :=
  match w.stage with
  | .ended _ => true
  | _ => false

def hasBegun (w : Worker) : Bool :=
  match w.stage with
  | .queued => false
  | _ => true

def size (w : Worker) : Nat := w.shard.units.length

def logging (w : Worker) (e : Event) : Worker := { w with log := w.log ++ [e] }

def begin (w : Worker) : Worker :=
  { w with stage := .checking }.logging (.workerStarted w.shard.index w.sink.name w.size)

/-- Looks at the flag, then turns to the next unit. -/
def check (cancelled : Bool) (w : Worker) : Worker :=
  match w.remaining with
  | [] => { w with stage := .closing }
  | unit :: rest =>
    if cancelled then
      { w with stage := .closing, cancelled := true }.logging
        (.workerCancelled w.shard.index w.sink.name (unit :: rest).length)
    else { w with stage := .calling }

def call (w : Worker) (unit : String) : Worker := { w with stage := .answering, called := w.called ++ [unit] }

def skip (w : Worker) (unit : String) (rest : List String) (reason : String) : Worker :=
  { w with
    stage := .checking
    remaining := rest
    failures := w.failures ++ [UnitFailure.mk unit w.shard.index reason] }.logging
      (.unitFailed w.shard.index w.sink.name unit reason)

/-- Ends the work because of a failure at a unit. -/
def stop (w : Worker) (unit : String) (failure : Failure) : Worker :=
  let w := { w with stage := .closing, stopped := some failure }
  if failure.escapes then w else w.logging (.workerFailed w.shard.index w.sink.name unit)

def receive (w : Worker) (unit : String) (rest : List String) : Outcome → Worker
  | .facts all =>
    let record := Record.make unit all
    if isSingleLine record.render then { w with stage := .writing record } else w.skip unit rest severalLinesText
  | .rejected reason => w.skip unit rest reason
  | .failed failure => w.stop unit failure

def write (w : Worker) (unit : String) (rest : List String) (record : Record) : Worker :=
  match w.sink.append record with
  | .ok sink => { w with stage := .checking, remaining := rest, sink, written := w.written + 1 }
  | .error fault => w.stop unit (.sink fault)

def result (w : Worker) : WorkerResult where
  shard := w.shard.index
  units := w.size
  recordsWritten := w.written
  failedUnits := w.failures
  fatalError := w.stopped.map (·.text)
  cancelled := w.cancelled

def finish (w : Worker) : Worker :=
  { w with stage := .ended (.finished w.result) }.logging
    (.workerFinished w.shard.index w.sink.name w.written w.failures.length w.stopped.isSome)

def close (w : Worker) : Worker :=
  match w.sink.finalize with
  | .error failure => { w with stage := .ended (.crashed failure) }
  | .ok sink =>
    let w := { w with sink }
    match w.stopped with
    | none => w.finish
    | some failure => if failure.escapes then { w with stage := .ended (.crashed failure) } else w.finish

/-- One step, from the replies to each call and the state of the shared flag. Waiting calls end if they are `released`.
The second value says that the step puts the flag up. -/
def step (analyze : Nat → Capability) (cancelled released : Bool) (w : Worker) : Worker × Bool :=
  match w.stage, w.remaining with
  | .queued, _ => (w.begin, false)
  | .checking, _ => (w.check cancelled, false)
  | .calling, unit :: _ => (w.call unit, false)
  | .answering, unit :: rest =>
    let reply := analyze (w.called.length - 1) unit
    (if reply.waits && !released then w else w.receive unit rest reply.outcome, reply.cancels)
  | .writing record, unit :: rest => (w.write unit rest record, false)
  | .closing, _ => (w.close, false)
  | .calling, [] => ({ w with stage := .closing }, false)
  | .answering, [] => ({ w with stage := .closing }, false)
  | .writing _, [] => ({ w with stage := .closing }, false)
  | .ended _, _ => (w, false)

/-- Some steps of a worker on its own, which starts with the flag as given. -/
def steps (analyze : Nat → Capability) (released : Bool) : (count : Nat) → Bool → Worker → Worker × Bool
  | 0, cancelled, w => (w, cancelled)
  | count + 1, cancelled, w =>
    let (w, cancels) := w.step analyze cancelled released
    steps analyze released count (cancelled || cancels) w

/-- Enough steps for a worker to end if no call waits. -/
def stepCount (w : Worker) : Nat := 4 * w.remaining.length + 3

/-- The worker on its own, to its end. -/
def run (analyze : Nat → Capability) (cancelled : Bool) (w : Worker) : Worker × Bool :=
  w.steps analyze true w.stepCount cancelled

end Worker

end GlobalSurvey.Batch
