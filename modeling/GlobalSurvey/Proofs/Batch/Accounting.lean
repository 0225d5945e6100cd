import GlobalSurvey.Proofs.Batch.Gathering
import Mathlib.Algebra.GroupWithZero.Nat
import Mathlib.Algebra.Order.BigOperators.Group.List
import Mathlib.Algebra.Ring.Int.Defs

/-!
# Every unit is accounted for

The records that the workers count are the lines of the report, and a batch is all right exactly if it has a line for each
of its units. The counters are kept by the workers and the lines by their sinks; that they agree is true of each worker
that has ended, however it ended (`Settled.lines_written`, `Settled.ok_iff`), and so of the batch (`accounts_of_done`).
-/
namespace GlobalSurvey.Batch
open GlobalSurvey.Files GlobalSurvey.Report

namespace Worker

section
variable {analyze : Nat → Capability} {shard : Shard} {sink : Sink} {w : Worker}

/-! ## One worker -/

/-- A worker counts the lines of its sink. -/
theorem Settled.lines_written (settled : Settled analyze shard sink w) (new : sink.IsNew) :
    w.sink.lines.length = w.written := by
  have balance := Ledger.lines_written_enterAll analyze shard.index { sink } 0 w.called
  rw [settled.lines, settled.written, ledgerOf]
  simpa [new.lines] using balance

theorem Settled.count_le (settled : Settled analyze shard sink w) :
    w.written + w.failures.length + w.stopped.toList.length ≤ w.called.length := by
  have bound := Ledger.count_enterAll_le analyze shard.index 0 { sink } w.called
  rw [settled.written, settled.failures, settled.stopped, ledgerOf]
  simpa [Ledger.count] using bound

theorem Settled.called_le (settled : Settled analyze shard sink w) : w.called.length ≤ shard.units.length :=
  settled.called_prefix.length_le

/-- No worker counts more records than its shard has units. -/
theorem Settled.written_le (settled : Settled analyze shard sink w) : w.written ≤ shard.units.length := by
  have count := settled.count_le
  have called := settled.called_le
  omega

/-- A worker is all right if and only if it counts a record for each unit of its shard. -/
theorem Settled.ok_iff (settled : Settled analyze shard sink w) :
    w.result.ok = true ↔ w.written = shard.units.length := by
  constructor
  · intro ok
    obtain ⟨failures, calm⟩ := WorkerResult.ok_iff.mp ok
    have failures : w.failures = [] := failures
    obtain ⟨stopped, uncancelled⟩ : w.stopped = none ∧ w.cancelled = false := by
      simpa [WorkerResult.fatal, result] using calm
    have open_ : (ledgerOf analyze shard sink shard.units).stopped = none := by
      rw [← settled.whole uncancelled, ← settled.stopped, stopped]
    have count := Ledger.count_enterAll open_
    rw [← ledgerOf, ← settled.whole uncancelled] at count
    simp only [Ledger.count, ← settled.written, ← settled.failures, ← settled.stopped, failures, stopped] at count
    simpa using count
  · intro all
    have count := settled.count_le
    have called := settled.called_le
    have failures : w.failures = [] := by
      rw [← List.length_eq_zero_iff]
      omega
    have stopped : w.stopped = none := by
      cases failure : w.stopped with
      | none => rfl
      | some failure =>
        simp only [failure, Option.toList_some, List.length_singleton] at count
        omega
    have uncancelled : w.cancelled = false := by
      cases settled.leaves with
      | done _ _ _ cancelled => exact cancelled
      | stopped _ _ _ _ _ _ _ cancelled => exact cancelled
      | cancelled unit rest next parted _ _ =>
        have length := congrArg List.length parted
        rw [List.length_append, List.length_cons] at length
        omega
    rw [WorkerResult.ok_iff]
    exact ⟨failures, by simp [WorkerResult.fatal, result, stopped, uncancelled]⟩

/-- What the result that joining gives for a worker says about the lines of its sink. -/
structure Accounted (w : Worker) : Prop where
  written : (if w.sink.finalized then (w.sink.lines.length : Int) else 0) = w.report.recordsWritten
  written_le : w.report.recordsWritten ≤ w.report.units
  whole : w.report.ok = true → w.report.recordsWritten = w.report.units
  ok : w.sink.finalized = true → w.report.recordsWritten = w.report.units → w.report.ok = true

/-- A worker accounts for its lines, also one whose sink could not be closed. -/
theorem accounted (settled : Settled analyze shard sink w) (new : sink.IsNew) (reported : Reported w w.report) :
    Accounted w := by
  have lines := settled.lines_written new
  have bound := settled.written_le
  have size : w.size = shard.units.length := by rw [Worker.size, settled.owner]
  generalize same : w.report = report at reported
  cases reported with
  | finished finalized =>
    have units : w.result.units = (shard.units.length : Int) := by rw [← size]; rfl
    have records : w.result.recordsWritten = (w.written : Int) := rfl
    have verdict := settled.ok_iff
    refine ⟨?_, ?_, ?_, ?_⟩ <;> rw [same]
    · simp [finalized, lines, records]
    · omega
    · intro ok
      have all := verdict.mp ok
      omega
    · intro _ all
      exact verdict.mpr (by omega)
  | madeUp failure unfinished fault =>
    refine ⟨?_, ?_, ?_, ?_⟩ <;> rw [same]
    · simp [unfinished]
    · simp
    · intro ok
      cases ok
    · intro finalized
      rw [unfinished] at finalized
      cases finalized

end

end Worker

/-! ## All workers -/

/-- The sizes of the shards add up to the size of the batch. -/
theorem IsCut.sum {units : List String} {workers : Nat} {shards : List Shard} (cut : IsCut units workers shards) :
    (shards.map (·.units.length)).sum = units.length := by
  rw [← cut.whole, List.length_flatMap]

namespace Pool

/-- The report has as many lines as the workers counted records. -/
theorem length_lines {p : Pool} (accounted : ∀ v ∈ p.workers, v.Accounted) :
    (p.lines.length : Int) = ((p.workers.map Worker.report).map (·.recordsWritten)).sum := by
  unfold lines
  generalize p.workers = workers at accounted
  induction workers with
  | nil => rfl
  | cons v rest ih =>
    have later := ih fun u member => accounted u (List.mem_cons_of_mem v member)
    have own := (accounted v List.mem_cons_self).written
    rw [List.filter_cons, List.map_cons, List.map_cons, List.sum_cons, ← later, ← own]
    cases v.sink.finalized with
    | true => simp
    | false => simp

/-- The results say how large the shards are. -/
theorem sum_units {workers : List Worker} (sized : ∀ v ∈ workers, v.report.units = v.size) :
    ((workers.map Worker.report).map (·.units)).sum = ((workers.map (·.shard)).map (·.units.length)).sum := by
  induction workers with
  | nil => rfl
  | cons v rest ih =>
    have own := sized v List.mem_cons_self
    have later := ih fun u member => sized u (List.mem_cons_of_mem v member)
    simp only [List.map_cons, List.sum_cons, Int.natCast_add, own, later]
    rfl

end Pool

/-- All workers of a joined batch account for their lines. -/
theorem Gathered.accounted {analyze : Nat → Capability} {l : Launch} {shards : List Shard} {p : Pool}
    {results : List WorkerResult} (gathered : Gathered analyze l shards p results) (ready : l.pool.IsReady l.disk) :
    ∀ v ∈ p.workers, v.Accounted ∧ Worker.Reported v v.report := by
  intro v member
  obtain ⟨w, inside, progress⟩ := Pool.exists_start gathered.progress member
  have ended := gathered.ended v member
  have reported := progress.reported ended (gathered.stay v member)
  exact ⟨Worker.accounted (progress.settled ended).1 (ready.new w inside).sink reported, reported⟩

section
variable (results : List WorkerResult)

/-- Results that are all right count a record for each unit. -/
theorem sum_of_ok (whole : ∀ result ∈ results, result.ok = true → result.recordsWritten = result.units)
    (ok : ∀ result ∈ results, result.ok = true) :
    (results.map (·.recordsWritten)).sum = (results.map (·.units)).sum := by
  congr 1
  exact List.map_congr_left fun result member => whole result member (ok result member)

/-- If as many records as units are counted, then in each result. -/
theorem each_of_sum (bounded : ∀ result ∈ results, result.recordsWritten ≤ result.units)
    (sum : (results.map (·.recordsWritten)).sum = (results.map (·.units)).sum) :
    ∀ result ∈ results, result.recordsWritten = result.units := by
  intro result member
  by_cases same : result.recordsWritten = result.units
  · exact same
  · have fewer : result.recordsWritten < result.units := lt_of_le_of_ne (bounded result member) same
    have strict := List.sum_lt_sum (·.recordsWritten) (·.units) bounded ⟨result, member, fewer⟩
    exact absurd sum (ne_of_lt strict)

end

/-- The books of a batch whose workers were joined: one result for each shard, in order, with the sizes of the shards, and a
line for each record that was counted. -/
structure Balanced (units : List String) (workers : Nat) (p : Pool) (results : List WorkerResult) : Prop where
  indices : results.map (·.shard) = (List.range workers).map fun i : Nat => (i : Int)
  sizes : (results.map (·.units)).sum = units.length
  lines : (p.lines.length : Int) = (results.map (·.recordsWritten)).sum
  bounded : p.lines.length ≤ units.length
  whole : (∀ result ∈ results, result.ok = true) → p.lines.length = units.length
  ok : (∀ v ∈ p.workers, v.sink.finalized = true) → p.lines.length = units.length → ∀ result ∈ results, result.ok = true

theorem Gathered.balanced {analyze : Nat → Capability} {l : Launch} {units : List String} {workers : Nat}
    {shards : List Shard} {p : Pool} {results : List WorkerResult} (gathered : Gathered analyze l shards p results)
    (ready : l.pool.IsReady l.disk) (cut : IsCut units workers shards) : Balanced units workers p results := by
  have accounted := gathered.accounted ready
  have sizes : (results.map (·.units)).sum = units.length := by
    rw [← cut.sum, ← gathered.shards, gathered.results]
    exact Pool.sum_units fun v member => (accounted v member).2.size
  have lines : (p.lines.length : Int) = (results.map (·.recordsWritten)).sum := by
    rw [gathered.results]
    exact Pool.length_lines fun v member => (accounted v member).1
  have each : ∀ report ∈ results, ∃ v ∈ p.workers, v.report = report ∧ v.Accounted := by
    intro report member
    rw [gathered.results] at member
    obtain ⟨v, inside, same⟩ := List.mem_map.mp member
    exact ⟨v, inside, same, (accounted v inside).1⟩
  have bounded : ∀ report ∈ results, report.recordsWritten ≤ report.units := by
    intro report member
    obtain ⟨v, -, rfl, own⟩ := each report member
    exact own.written_le
  have total : (results.map (·.recordsWritten)).sum ≤ (results.map (·.units)).sum := List.sum_le_sum bounded
  refine ⟨?_, sizes, lines, by omega, ?_, ?_⟩
  · rw [← cut.indices, ← gathered.shards, gathered.results, List.map_map, List.map_map]
    exact List.map_congr_left fun v member => (accounted v member).2.index
  · intro ok
    have sum := sum_of_ok results ?_ ok
    · omega
    · intro report member
      obtain ⟨v, -, rfl, own⟩ := each report member
      exact own.whole
  · intro finalized length report member
    have all := each_of_sum results bounded (by omega)
    obtain ⟨v, inside, rfl, own⟩ := each report member
    exact own.ok (finalized v inside) (all v.report member)

section
variable {r : Request} {d : Disk} {schedule : Pool → List Move} {units : List String} {workers : Nat}
  {result : PipelineResult}

/-- A run with a result has one worker result for each shard, in order, with the sizes of the shards. The lines of the
report are the records that the workers counted. The batch is all right if and only if no unit failed and no shard ended
early; then it has a line for each unit, and if all sinks were closed it is all right whenever it has so many lines. -/
theorem accounts_of_done (given : r.GivesNewSinks) (accepted : r.check = .ok (units, workers))
    (done : (runScheduled schedule r d).completion = .done result) :
    result.workers.map (·.shard) = (List.range workers).map (fun i : Nat => (i : Int)) ∧
      (result.workers.map (·.units)).sum = units.length ∧
      (result.lines.length : Int) = (result.workers.map (·.recordsWritten)).sum ∧
      (result.ok = true ↔ result.failedUnits = [] ∧ result.fatalShards = []) ∧
      (result.ok = true → result.lines.length = units.length) ∧
      ∀ l, r.launch d = some l →
        (∀ v ∈ (l.pool.follow (fun _ => r.provider.analyze l.disk) (schedule l.pool)).workers,
          v.sink.finalized = true) →
        result.lines.length = units.length → result.ok = true := by
  obtain ⟨l, shards, launched, whole, ready, gathered, sorted, -⟩ := gathered_of_done given accepted done
  have balanced := gathered.balanced ready.pool whole
  have length : result.lines.length =
      (l.pool.follow (fun _ => r.provider.analyze l.disk) (schedule l.pool)).lines.length := by
    rw [sorted, length_sortLines]
  refine ⟨balanced.indices, balanced.sizes, length ▸ balanced.lines, PipelineResult.ok_iff, ?_, ?_⟩
  · intro ok
    rw [length]
    exact balanced.whole (List.all_eq_true.mp ok)
  · intro other again finalized same
    rw [launched] at again
    cases again
    rw [length] at same
    exact List.all_eq_true.mpr (balanced.ok finalized same)

end

theorem accounts_of_cancelled_batch :
    ∃ result, (runScheduled (fun _ => .cancel :: sampleMoves) sampleRequest bareDisk).completion = .done result ∧
      result.workers.map (·.shard) = (List.range 2).map (fun i : Nat => (i : Int)) ∧
      (result.workers.map (·.units)).sum = 3 ∧
      (result.lines.length : Int) = (result.workers.map (·.recordsWritten)).sum := by
  have given : sampleRequest.GivesNewSinks := fun _ _ none_ => by cases none_
  have accepted : sampleRequest.check = .ok (["c", "b", "a"], 2) := rfl
  have launched : sampleRequest.launch bareDisk = some sampleLaunch := rfl
  obtain ⟨_, -, whole, ready⟩ := ready_launch given accepted launched
  obtain ⟨result, done⟩ := ready.done_of_ended (fun _ => .cancel :: sampleMoves) whole accepted launched rfl
    (by decide +kernel) (by decide +kernel)
  obtain ⟨indices, sizes, lines, -⟩ := accounts_of_done given accepted done
  exact ⟨result, done, indices, sizes, lines⟩

end GlobalSurvey.Batch
