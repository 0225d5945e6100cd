import GlobalSurvey.Proofs.Batch.Gathering

/-!
# The report does not depend on the schedule

As long as nothing cancels the batch, each worker does what it does alone, whatever the others do in between. So the
report is the same for every schedule: one line for each unit that comes to one, in the order of the bytes.
-/
namespace GlobalSurvey.Batch
open GlobalSurvey.Files GlobalSurvey.Report

section
variable {r : Request} {d : Disk} {l : Launch} {units : List String} {workers : Nat} {shards : List Shard}

/-- Workers that end while nothing cancels the batch are those that ran alone, and they have done their whole shards. -/
theorem alone_of_quiet {capability : Capability} {moves : List Move} (ready : l.IsReady r shards)
    (different : ∀ s ∈ shards, s.units.Nodup) (quiet : IsQuiet fun _ => capability) (undisturbed : Move.cancel ∉ moves)
    (ended : ∀ v ∈ (l.pool.follow (fun _ => capability) moves).workers, v.hasEnded = true) :
    (l.pool.follow (fun _ => capability) moves).workers =
        l.pool.workers.map (fun w => (w.run (fun _ => capability) false).1) ∧
      List.Forall₂ (Worker.Complete fun unit => (capability unit).outcome) l.pool.workers
        (l.pool.follow (fun _ => capability) moves).workers := by
  have alone := (Pool.evolves_follow_quiet quiet ready.down undisturbed).eq_alone ready.pool.new quiet ended
  refine ⟨alone, ?_⟩
  rw [alone, List.forall₂_map_right_iff, List.forall₂_same]
  intro w member
  have inside : w.shard ∈ shards := by
    rw [← ready.shards]
    exact List.mem_map_of_mem member
  exact Worker.complete_run (ready.pool.new w member) (different w.shard inside) quiet

/-- The lines of workers that have done their whole shards, by the shards. -/
theorem Launch.IsReady.lines_eq {outcome : String → Outcome} {p : Pool} (ready : l.IsReady r shards)
    (complete : List.Forall₂ (Worker.Complete outcome) l.pool.workers p.workers) :
    p.lines = (shards.filter fun s => (r.sinkFault s).isNone).flatMap fun s => linesOf outcome s.units := by
  rw [Pool.lines, Pool.lines_of_complete complete]
  exact ready.flatMap_closable (linesOf outcome ·.units)

/-- Once the workers are joined, each of them is the one that ran alone, and so are their results. The report has one line
for each unit before the first fatal one of its shard, if the unit could be analyzed and its record is a single line; only
the lines of a shard whose sink could not be closed are left out. -/
theorem report_of_every_schedule (schedule : Pool → List Move) {q : Pool} {events : List Event} {results : List WorkerResult}
    (given : r.GivesNewSinks) (accepted : r.check = .ok (units, workers)) (cut : partition units workers = .ok shards)
    (launched : r.launch d = some l) (quiet : ∀ unit, (r.provider.analyze l.disk unit).cancels = false)
    (undisturbed : Move.cancel ∉ schedule l.pool)
    (joined : (l.pool.follow (fun _ => r.provider.analyze l.disk) (schedule l.pool)).join r.joinTimeout =
      (q, events, .results results)) :
    l.pool.workers.map (·.shard) = shards ∧
      q.workers = l.pool.workers.map (fun w => (w.run (fun _ => r.provider.analyze l.disk) false).1) ∧
      results = q.workers.map Worker.report ∧
      ∃ lines, merge (q.flush l.disk) (readable q.sinks) = .ok lines ∧
        lines.Pairwise (fun a b => lineLE a b = true) ∧
        lines.Perm ((shards.filter fun s => (r.sinkFault s).isNone).flatMap fun s =>
          linesOf (fun unit => (r.provider.analyze l.disk unit).outcome) s.units) ∧
        ∀ result, (runScheduled schedule r d).completion = .done result →
          result.lines = lines ∧ result.workers = results := by
  obtain ⟨others, same, whole, ready⟩ := ready_launch given accepted launched
  obtain rfl : others = shards := by
    rw [cut] at same
    cases same
    rfl
  obtain ⟨rfl, gathered⟩ := ready.gathered whole joined
  have quiet : IsQuiet fun _ => r.provider.analyze l.disk := fun _ unit => quiet unit
  obtain ⟨alone, complete⟩ :=
    alone_of_quiet ready (whole.different (Request.check_eq_ok accepted).1) quiet undisturbed gathered.ended
  refine ⟨ready.shards, alone, gathered.results, _, gathered.merged, pairwise_sortLines _, ?_, ?_⟩
  · rw [ready.lines_eq complete]
    exact sortLines_perm _
  · intro result done
    obtain ⟨q, events, again, merged⟩ := (completed_of_done accepted launched done).joined
    rw [joined] at again
    cases again
    rw [gathered.merged] at merged
    exact ⟨(Except.ok.inj merged).symm, rfl⟩

end

theorem report_of_turns :
    ∃ q events results lines,
      (sampleLaunch.pool.follow (fun _ => sampleReply) sampleMoves).join none = (q, events, .results results) ∧
        merge (q.flush bareDisk) (readable q.sinks) = .ok lines ∧ lines.Perm ["c", "a"] := by
  obtain ⟨events, joined⟩ : ∃ events, (sampleLaunch.pool.follow (fun _ => sampleReply) sampleMoves).join none =
      (_, events, .results _) := by
    refine (Pool.join_eq_results_iff ?_).mpr ⟨?_, ?_, rfl, rfl⟩ <;> decide +kernel
  have given : sampleRequest.GivesNewSinks := fun _ _ none_ => by cases none_
  have accepted : sampleRequest.check = .ok (["c", "b", "a"], 2) := rfl
  have launched : sampleRequest.launch bareDisk = some sampleLaunch := rfl
  obtain ⟨-, -, -, lines, merged, -, perm, -⟩ :=
    report_of_every_schedule (fun _ => sampleMoves) given accepted rfl launched quiet_sampleReply (by decide) joined
  have each : ([⟨0, ["c"]⟩, ⟨1, ["b", "a"]⟩] : List Shard).flatMap
      (fun s => linesOf (fun unit => (sampleReply unit).outcome) s.units) = ["c", "a"] := by decide +kernel
  refine ⟨_, events, _, lines, joined, merged, ?_⟩
  rw [← each]
  exact perm

end GlobalSurvey.Batch
