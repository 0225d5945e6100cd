import GlobalSurvey.Proofs.Batch.Breaking
import GlobalSurvey.Proofs.Batch.Independence
import GlobalSurvey.Proofs.Batch.Verdict

/-!
# What determines a result

If nothing cancels a batch, its result does not depend on the schedule: two runs of one batch that both come to a result
come to the same one (`result_unique`). If all sinks can be closed, its lines are those of the units before the first fatal
one of each shard (`Undivided.lines_filed`), and it is all right exactly if every unit has a line (`Undivided.ok_iff`).
-/
namespace GlobalSurvey.Batch
open GlobalSurvey.Files GlobalSurvey.Report

/-- No move of a schedule raises the flag. -/
def IsUndisturbed (schedule : Pool → List Move) : Prop := ∀ p, Move.cancel ∉ schedule p

theorem undisturbed_oneByOne : IsUndisturbed Pool.oneByOne := by
  intro p member
  obtain ⟨position, -, step⟩ := List.mem_flatMap.mp member
  cases List.eq_of_mem_replicate step

/-- Every unit has a line. -/
def IsFull (outcome : String → Outcome) (units : List String) : Prop :=
  ∀ unit ∈ units, ((outcome unit).line? unit).isSome = true

/-- A line for each unit makes as many lines as units. -/
theorem length_linesOf_full {outcome : String → Outcome} {units : List String} (full : IsFull outcome units) :
    (linesOf outcome units).length = units.length := by
  induction units with
  | nil => rfl
  | cons unit rest ih =>
    obtain ⟨line, own⟩ := Option.isSome_iff_exists.mp (full unit List.mem_cons_self)
    have harmless : (outcome unit).isFatal = false := by
      cases outcome : outcome unit with
      | failed failure => simp [outcome, Outcome.line?] at own
      | facts all => rfl
      | rejected reason => rfl
    rw [linesOf_cons harmless, own, List.length_append, ih fun other member => full other (List.mem_cons_of_mem unit member)]
    simp [Nat.add_comm]

section
variable {r : Request} {d : Disk} {schedule other : Pool → List Move} {units : List String} {workers : Nat}
  {result again : PipelineResult}

/-- The workers of a batch that nothing cancels, once they are joined: each of them is the one that ran alone. -/
structure Undivided (r : Request) (l : Launch) (units : List String) (workers : Nat) (shards : List Shard) (p : Pool)
    (result : PipelineResult) : Prop where
  cut : IsCut units workers shards
  ready : l.IsReady r shards
  gathered : Gathered (fun _ => r.provider.analyze l.disk) l shards p result.workers
  alone : p.workers = l.pool.workers.map fun w => (w.run (fun _ => r.provider.analyze l.disk) false).1
  complete : List.Forall₂ (Worker.Complete fun unit => (r.provider.analyze l.disk unit).outcome) l.pool.workers p.workers
  lines : result.lines = sortLines p.lines

theorem undivided_of_done (given : r.GivesNewSinks) (accepted : r.check = .ok (units, workers))
    (quiet : ∀ d, IsQuiet fun _ => r.provider.analyze d) (undisturbed : IsUndisturbed schedule)
    (done : (runScheduled schedule r d).completion = .done result) :
    ∃ l shards, r.launch d = some l ∧ partition units workers = .ok shards ∧
      Undivided r l units workers shards (r.joined schedule l) result := by
  obtain ⟨l, shards, launched, cut, ready, gathered, lines, -⟩ := gathered_of_done given accepted done
  obtain ⟨others, slices, -, same⟩ := ready_launch given accepted launched
  obtain rfl : others = shards := same.shards.symm.trans ready.shards
  obtain ⟨alone, complete⟩ := alone_of_quiet ready (cut.different (Request.check_eq_ok accepted).1) (quiet l.disk)
    (undisturbed l.pool) gathered.ended
  exact ⟨l, others, launched, slices, cut, ready, gathered, alone, complete, lines⟩

/-- Two runs of one batch that both come to a result come to the same result. -/
theorem result_unique (given : r.GivesNewSinks) (accepted : r.check = .ok (units, workers))
    (quiet : ∀ d, IsQuiet fun _ => r.provider.analyze d) (undisturbed : IsUndisturbed schedule)
    (undisturbed' : IsUndisturbed other) (done : (runScheduled schedule r d).completion = .done result)
    (done' : (runScheduled other r d).completion = .done again) : result = again := by
  obtain ⟨l, shards, launched, -, first⟩ := undivided_of_done given accepted quiet undisturbed done
  obtain ⟨_, _, launched', -, second⟩ := undivided_of_done given accepted quiet undisturbed' done'
  rw [launched] at launched'
  cases launched'
  have same : (r.joined schedule l).workers = (r.joined other l).workers := first.alone.trans second.alone.symm
  have lines : result.lines = again.lines := by rw [first.lines, second.lines, Pool.lines, Pool.lines, same]
  have results : result.workers = again.workers := by rw [first.gathered.results, second.gathered.results, same]
  have path : result.outputPath = again.outputPath :=
    (outputPath_of_done given accepted done).trans (outputPath_of_done given accepted done').symm
  cases result
  cases again
  simp only at lines results path
  rw [lines, results, path]

variable {l : Launch} {shards : List Shard} {p : Pool}

namespace Undivided

/-- The lines of a batch whose sinks can all be closed, before they are sorted. -/
theorem lines_filed (all : Undivided r l units workers shards p result) (closable : ∀ shard, r.sinkFault shard = none) :
    p.lines = shards.flatMap fun s => linesOf (fun unit => (r.provider.analyze l.disk unit).outcome) s.units := by
  have every : (shards.filter fun s => (r.sinkFault s).isNone) = shards := by
    rw [List.filter_eq_self]
    intro shard _
    rw [closable]
    rfl
  have filed := all.ready.lines_eq all.complete
  rwa [every] at filed

/-- A batch whose sinks can all be closed is all right exactly if every unit has a line. -/
theorem ok_iff (all : Undivided r l units workers shards p result) (accepted : r.check = .ok (units, workers))
    (closable : ∀ shard, r.sinkFault shard = none) :
    result.ok = true ↔ IsFull (fun unit => (r.provider.analyze l.disk unit).outcome) units := by
  constructor
  · intro ok
    exact (all.gathered.line_each all.ready all.cut (Request.check_eq_ok accepted).1 closable
      (List.all_eq_true.mp ok)).2
  · intro full
    have length : p.lines.length = units.length := by
      rw [all.lines_filed closable, ← all.cut.whole, List.length_flatMap, List.length_flatMap]
      congr 1
      refine List.map_congr_left fun s member => length_linesOf_full fun unit inside => full unit ?_
      rw [← all.cut.whole]
      exact List.mem_flatMap.mpr ⟨s, member, inside⟩
    have balanced := all.gathered.balanced all.ready.pool all.cut
    refine List.all_eq_true.mpr (balanced.ok ?_ length)
    intro v member
    obtain ⟨w, inside, complete⟩ := Pool.exists_start all.complete member
    rw [complete.finalized, all.ready.faults w inside, closable]
    rfl

end Undivided

end

end GlobalSurvey.Batch
