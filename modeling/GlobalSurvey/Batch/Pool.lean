import GlobalSurvey.Batch.Worker

/-!
# The pool of workers

At most `size` workers run at the same time, and they begin in the order in which they were handed to the pool. The pool
moves by steps of any of its workers, and by what is done to it from outside; a schedule is a list of such moves. Every
interleaving of the workers is the run of some schedule.
-/
namespace GlobalSurvey.Batch

/-- Workers that share one flag. -/
structure Pool where
  /-- The most workers that run at the same time. -/
  size : Nat
  /-- The workers, in the order in which they were handed to the pool. -/
  workers : List Worker
  /-- The flag that tells the workers to leave the rest of their shards. -/
  cancelled : Bool := false
  /-- Calls that wait may end. -/
  released : Bool := false
  /-- No further worker begins. -/
  shut : Bool := false

inductive Move where
  | step (position : Nat)
  | cancel
  | release
  /-- Workers that have not begun are told not to. -/
  | shut
deriving DecidableEq, Repr

namespace Pool

def running (p : Pool) : Nat := (p.workers.filter fun w => w.hasBegun && !w.hasEnded).length

/-- The worker at a position may make a step: it has begun, or it may begin now. -/
def mayStep (p : Pool) (position : Nat) (w : Worker) : Bool :=
  w.hasBegun || (!p.shut && p.running < p.size && (p.workers.take position).all (·.hasBegun))

def move (analyze : Nat → Capability) (p : Pool) : Move → Pool
  | .step position =>
    match p.workers[position]? with
    | none => p
    | some w =>
      if p.mayStep position w then
        let (w, cancels) := w.step analyze p.cancelled p.released
        { p with workers := p.workers.set position w, cancelled := p.cancelled || cancels }
      else p
  | .cancel => { p with cancelled := true }
  | .release => { p with released := true }
  | .shut => { p with shut := true }

def follow (analyze : Nat → Capability) (p : Pool) (schedule : List Move) : Pool := schedule.foldl (move analyze) p

/-- The schedule in which one worker after the other goes as far as it gets: to its end, or to a call that waits. -/
def oneByOne (p : Pool) : List Move :=
  (List.range p.workers.length).flatMap fun position =>
    List.replicate ((p.workers[position]?.map Worker.stepCount).getD 0) (.step position)

/-- The units whose analysis was begun, worker by worker. -/
def calls (p : Pool) : List String := p.workers.flatMap (·.called)

/-- What was logged about the workers up to now. -/
def log (p : Pool) : List Event :=
  p.workers.map (fun w => .workerSpawned w.shard.index w.size) ++ p.workers.flatMap (·.log)

/-! ## Joining -/

def inOrder (workers : List Worker) : List Worker :=
  workers.mergeSort fun a b => decide (a.shard.index ≤ b.shard.index)

/-- The results of workers that have ended, and the log of those that broke down. A failure that escapes ends the whole
batch. -/
def results : List Worker → List Event × Except Failure (List WorkerResult)
  | [] => ([], .ok [])
  | w :: rest =>
    let onward (events : List Event) (result : WorkerResult) : List Event × Except Failure (List WorkerResult) :=
      let (more, others) := results rest
      (events ++ more, match others with
        | .ok results => .ok (result :: results)
        | .error failure => .error failure)
    match w.stage with
    | .ended (.finished result) => onward [] result
    | .ended (.crashed failure) =>
      if failure.escapes then ([], .error failure)
      else onward [.workerCrashed w.shard.index failure.message]
        { shard := w.shard.index, units := w.size, fatalError := some failure.text }
    | _ => results rest

inductive Joined where
  | results (all : List WorkerResult)
  | failed (failure : Failure)
  /-- Workers are still running, and there is no limit to the time. -/
  | waiting

def pending (p : Pool) : List Worker := p.workers.filter fun w => !w.hasEnded

/-- Waits for the workers, with a limit to the time or without one; the pool is as it is when the waiting ends. -/
def join (p : Pool) (timeout : Option Number) : Pool × List Event × Joined :=
  if p.pending.isEmpty then
    let (events, outcome) := results (inOrder p.workers)
    (p, events, match outcome with
      | .ok all => .results all
      | .error failure => .failed failure)
  else
    match timeout with
    | none => (p, [], .waiting)
    | some limit =>
      ({ p with cancelled := true }, [.joinTimeout limit ((inOrder p.pending).map (·.shard.index))],
        .failed (.joinTimeout limit p.pending.length))

/-- What happens to a pool that is left because of a failure: workers that have not begun never do, and the calls that
wait are released at last. -/
def abandon (analyze : Nat → Capability) (p : Pool) : Pool :=
  p.follow analyze (.shut :: .release :: p.oneByOne)

end Pool

end GlobalSurvey.Batch
