import GlobalSurvey.Proofs.Batch.Keeping

/-!
# What a result says about the units

A batch whose sinks can all be closed has at most one line for each unit, and it is all right exactly if it has one for
each (`Gathered.line_each`). The failures that a worker reports are failures of its own shard, and a report that is written
to a file is written to the path that was asked for (`verdict_of_done`).
-/
namespace GlobalSurvey.Batch
open GlobalSurvey.Files GlobalSurvey.Report

/-! ## As many lines as units -/

section
variable {outcome : String → Outcome}

theorem length_linesOf_le (units : List String) : (linesOf outcome units).length ≤ units.length :=
  (List.length_filterMap_le _ _).trans (List.takeWhile_sublist _).length_le

/-- As many lines as units are a line for each unit, in order. -/
theorem linesOf_full {units : List String} (full : (linesOf outcome units).length = units.length) :
    (linesOf outcome units = units.filterMap fun unit => (outcome unit).line? unit) ∧
      ∀ unit ∈ units, ((outcome unit).line? unit).isSome = true := by
  induction units with
  | nil => exact ⟨rfl, fun _ member => (List.not_mem_nil member).elim⟩
  | cons unit rest ih =>
    cases fatal : (outcome unit).isFatal with
    | true =>
      rw [linesOf_cons_fatal fatal] at full
      cases full
    | false =>
      have bound : (linesOf outcome rest).length ≤ rest.length := length_linesOf_le rest
      rw [linesOf_cons fatal, List.length_append, List.length_cons] at full
      cases line : (outcome unit).line? unit with
      | none =>
        rw [line, Option.toList_none, List.length_nil] at full
        omega
      | some text =>
        rw [line, Option.toList_some, List.length_singleton] at full
        obtain ⟨lines, each⟩ := ih (by omega)
        rw [linesOf_cons fatal, line, lines, List.filterMap_cons, line]
        refine ⟨rfl, List.forall_mem_cons.mpr ⟨by rw [line]; rfl, each⟩⟩

end

section
variable {r : Request} {d : Disk} {l : Launch} {p : Pool} {units : List String} {workers : Nat} {shards : List Shard}
  {capability : Capability} {results : List WorkerResult} {schedule : Pool → List Move} {result : PipelineResult}

/-- A batch that is all right, and whose sinks can all be closed, has a line for each of its units. -/
theorem Gathered.line_each (gathered : Gathered (fun _ => capability) l shards p results) (ready : l.IsReady r shards)
    (cut : IsCut units workers shards) (different : units.Nodup) (closable : ∀ shard, r.sinkFault shard = none)
    (ok : ∀ result ∈ results, result.ok = true) :
    (p.lines = units.filterMap fun unit => (capability unit).outcome.line? unit) ∧
      ∀ unit ∈ units, ((capability unit).outcome.line? unit).isSome = true := by
  have own : ∀ v ∈ p.workers,
      (v.sink.lines = v.shard.units.filterMap fun unit => (capability unit).outcome.line? unit) ∧
        ∀ unit ∈ v.shard.units, ((capability unit).outcome.line? unit).isSome = true := by
    intro v member
    have records := gathered.holdsRecords ready (cut.different different) member
    rw [closable] at records
    obtain ⟨accounted, reported⟩ := gathered.accounted ready.pool v member
    have fine := ok v.report (gathered.results ▸ List.mem_map_of_mem member)
    have uncancelled : v.report.cancelled = false := by
      have calm := (WorkerResult.ok_iff.mp fine).2
      simp only [WorkerResult.fatal, Bool.or_eq_false_iff] at calm
      exact calm.2
    have whole : v.sink.lines = linesOf (fun unit => (capability unit).outcome) v.shard.units :=
      records.whole rfl uncancelled
    have size : (v.sink.lines.length : Int) = v.shard.units.length :=
      ((records.counted rfl).trans (accounted.whole fine)).trans reported.size
    have full : (linesOf (fun unit => (capability unit).outcome) v.shard.units).length = v.shard.units.length := by
      rw [← whole]
      omega
    obtain ⟨each, all⟩ := linesOf_full full
    exact ⟨whole.trans each, all⟩
  refine ⟨?_, ?_⟩
  · have all : p.workers.filter (·.sink.finalized) = p.workers := by
      refine List.filter_eq_self.mpr fun v member => ?_
      rw [gathered.finalized_eq ready member, closable]
      rfl
    have lines : p.workers.flatMap (·.sink.lines) = (p.workers.map (·.shard)).flatMap fun s =>
        s.units.filterMap fun unit => (capability unit).outcome.line? unit := by
      rw [List.flatMap_map, List.flatMap_def, List.flatMap_def, List.map_congr_left fun v member => (own v member).1]
    rw [Pool.lines, all, lines, gathered.shards, ← cut.whole, List.filterMap_flatMap]
  · intro unit member
    rw [← cut.whole, ← gathered.shards] at member
    obtain ⟨shard, inside, here⟩ := List.mem_flatMap.mp member
    obtain ⟨v, among, rfl⟩ := List.mem_map.mp inside
    exact (own v among).2 unit here

/-- The failures that a worker reports are failures of its own shard. -/
theorem Gathered.failures_owned (gathered : Gathered (fun _ => capability) l shards p results) (ready : l.IsReady r shards)
    (different : ∀ s ∈ shards, s.units.Nodup) : ∀ report ∈ results, ∀ f ∈ report.failedUnits, f.shard = report.shard := by
  intro report member f failed
  rw [gathered.results] at member
  obtain ⟨v, among, rfl⟩ := List.mem_map.mp member
  obtain ⟨w, inside, progress⟩ := Pool.exists_start gathered.progress among
  obtain ⟨settled, -⟩ := progress.settled (gathered.ended v among)
  have reported := (gathered.accounted ready.pool v among).2
  have new := (ready.pool.new w inside).sink
  rw [reported.index]
  generalize v.report = report at reported failed
  cases reported with
  | madeUp failure unfinished fault => cases failed
  | finished finalized =>
    have owned : w.shard.units.Nodup := different _ (ready.shards ▸ List.mem_map_of_mem inside)
    have failures := (Ledger.enterAll_different capability w.shard.index 0 (l := { sink := w.sink }) rfl new.finalized
      (owned.sublist settled.called_prefix.sublist) (by simp [new.units])).2.1
    have mine : f ∈ v.failures := failed
    rw [settled.failures, ledgerOf, failures, List.nil_append] at mine
    obtain ⟨complaint, -, rfl⟩ := List.mem_map.mp mine
    rw [settled.owner]
    rfl

/-! ## The path of the report -/

theorem working_flush (p : Pool) (d : Disk) : (p.flush d).working = d.working := by
  have each (s : Sink) (d : Disk) : (s.flush d).working = d.working := by
    unfold Sink.flush Disk.overwrite
    repeat' split
    all_goals rfl
  unfold Pool.flush
  induction p.workers generalizing d with
  | nil => rfl
  | cons w rest ih =>
    refine (ih _).trans ?_
    dsimp only
    split
    · exact each w.sink d
    · rfl

theorem working_closeDirectory (r : Request) (directory : Option String) (d : Disk) :
    (r.closeDirectory directory d).1.working = d.working := by
  unfold Request.closeDirectory Disk.discard
  repeat' split
  all_goals rfl

theorem working_launch (given : r.GivesNewSinks) (accepted : r.check = .ok (units, workers))
    (launched : r.launch d = some l) : l.disk.working = d.working := by
  obtain ⟨shards, cut, -⟩ := cut_partition units (Request.check_eq_ok accepted).2
  obtain ⟨between, sinks, opened, made, -⟩ := exists_sinks accepted cut launched
  obtain ⟨base, changes, own⟩ := Request.opened_openDirectory r d fun _ => False
  have first : (r.openDirectory d).1.working = base.working := by
    generalize r.openDirectory d = between at own
    cases own <;> rfl
  rw [opened] at first
  rw [(Request.newSinks_made given made).1.keeps.working, first, changes.keeps.working]

/-- A run with a result has written its report to the path that was asked for, or to none. -/
theorem outputPath_of_done (given : r.GivesNewSinks) (accepted : r.check = .ok (units, workers))
    (done : (runScheduled schedule r d).completion = .done result) : result.outputPath = r.report? d := by
  obtain ⟨shards, cut, -⟩ := cut_partition units (Request.check_eq_ok accepted).2
  have course := course_runScheduled (d := d) given accepted cut schedule
  generalize runScheduled schedule r d = run at course done
  cases course with
  | unopened opened => cases done
  | unfurnished opened made => cases done
  | waiting launched joined => cases done
  | gaveUp launched joined => cases done
  | published launched joined merged =>
    rename_i l q events results
    unfold Request.report?
    cases nonempty : (r.outputPath.getD "").isEmpty with
    | true =>
      simp only [publish, nonempty, if_true, Completion.done.injEq] at done
      rw [← done]
      rfl
    | false =>
      have working := working_closeDirectory r l.directory (q.flush l.disk)
      rw [working_flush, working_launch given accepted launched] at working
      have written := (publish_written nonempty done).1
      rw [reportPath, working] at written
      exact written

/-- A run with a result, if no sink fails to close: its report is where it was asked for; it has at most as many lines as
there are units, and so many exactly if the batch is all right, a line for each unit then. The failures of each worker are
of its own shard. -/
theorem verdict_of_done (new : ∀ shard, r.givenSink shard = none) (closable : ∀ shard, r.closingFault shard = none)
    (accepted : r.check = .ok (units, workers)) (done : (runScheduled schedule r d).completion = .done result) :
    ∃ l, r.launch d = some l ∧ result.lines.length ≤ units.length ∧
      (result.ok = true ↔ result.lines.length = units.length) ∧
      (result.ok = true →
        result.lines.Perm (units.filterMap fun unit => (r.provider.analyze l.disk unit).outcome.line? unit) ∧
          ∀ unit ∈ units, ((r.provider.analyze l.disk unit).outcome.line? unit).isSome = true) ∧
      ∀ report ∈ result.workers, ∀ f ∈ report.failedUnits, f.shard = report.shard := by
  have given : r.GivesNewSinks := fun shard sink own => by rw [new shard] at own; cases own
  have free : ∀ shard, r.sinkFault shard = none := fun shard => by rw [Request.sinkFault, new, closable]
  have different := (Request.check_eq_ok accepted).1
  obtain ⟨l, shards, launched, whole, ready, gathered, sorted, -⟩ := gathered_of_done given accepted done
  have balanced := gathered.balanced ready.pool whole
  generalize l.pool.follow (fun _ => r.provider.analyze l.disk) (schedule l.pool) = p at gathered sorted balanced
  have length : result.lines.length = p.lines.length := by rw [sorted, length_sortLines]
  have finalized : ∀ v ∈ p.workers, v.sink.finalized = true := by
    intro v member
    obtain ⟨w, inside, progress⟩ := Pool.exists_start gathered.progress member
    rw [(progress.settled (gathered.ended v member)).2, ready.faults w inside, free]
    exact Bool.or_true _
  refine ⟨l, launched, length ▸ balanced.bounded, ⟨?_, ?_⟩, ?_, gathered.failures_owned ready (whole.different different)⟩
  · intro ok
    rw [length]
    exact balanced.whole (List.all_eq_true.mp ok)
  · intro full
    exact List.all_eq_true.mpr (balanced.ok finalized (length ▸ full))
  · intro ok
    obtain ⟨lines, each⟩ := gathered.line_each ready whole different free (List.all_eq_true.mp ok)
    exact ⟨sorted ▸ lines ▸ sortLines_perm _, each⟩

end

end GlobalSurvey.Batch
