import GlobalSurvey.Proofs.Batch.Launch

/-!
# The report of a pool

Whatever schedule a pool of new workers follows, the lines of its finalized sinks can be merged at any time
(`merge_of_evolves`). A worker that nobody cancelled has the lines and the failures of its whole shard
(`complete_of_progress`), and as long as the flag is down each worker that ends is the one that ran alone
(`Evolves.eq_alone`).
-/
namespace GlobalSurvey.Batch
open GlobalSurvey.Files GlobalSurvey.Report

namespace Pool

/-- The lines of all finalized sinks, worker by worker. -/
def lines (p : Pool) : List String := (p.workers.filter (·.sink.finalized)).flatMap (·.sink.lines)

section
variable {analyze : Nat → Capability} {flag : Bool → Prop} {start p : Pool} {d : Disk}

/-- How far the workers of a pool are that began as new ones. -/
theorem Evolves.progress {a b : List Worker} (new : ∀ w ∈ a, w.IsNew) (evolves : Evolves analyze flag a b) :
    List.Forall₂ (fun w v => Worker.Progress analyze w.shard w.sink v) a b := by
  induction evolves with
  | nil => exact .nil
  | cons first _ ih =>
    exact .cons ((new _ List.mem_cons_self).progress first) (ih fun w member => new w (List.mem_cons_of_mem _ member))

/-- The workers keep what they were given: their shards, and the places for the lines of their sinks. -/
theorem keeps_of_progress {a b : List Worker}
    (progress : List.Forall₂ (fun w v => Worker.Progress analyze w.shard w.sink v) a b) :
    b.map (·.shard) = a.map (·.shard) ∧ b.map (·.sink.store) = a.map (·.sink.store) := by
  induction progress with
  | nil => exact ⟨rfl, rfl⟩
  | cons first _ ih =>
    obtain ⟨shards, stores⟩ := ih
    simp only [List.map_cons, first.keeps.owner, first.keeps.store, shards, stores, and_self]

theorem clean_of_evolves {a b : List Worker} (new : ∀ w ∈ a, w.IsNew) (evolves : Evolves analyze flag a b) :
    ∀ v ∈ b, v.sink.IsClean := by
  intro v member
  obtain ⟨w, inside, reaches⟩ := exists_start evolves member
  exact ((new w inside).progress reaches).keeps.clean (new w inside).sink.clean

theorem lines_eq (p : Pool) : (readable p.sinks).flatMap Sink.lines = p.lines := by
  simp only [readable, sinks, lines, List.filter_map, List.map_map, List.flatMap_map]
  rfl

/-- The sinks that were to be closed, worker by worker. -/
def closed (p : Pool) : List Sink := (p.workers.filter (·.hasClosed)).map (·.sink)

theorem flush_eq_flushAll (p : Pool) (d : Disk) : p.flush d = Sink.flushAll p.closed d := by
  simp only [flush, Sink.flushAll, closed, List.foldl_map, List.foldl_filter]

/-- The sinks that were to be closed, of workers that began as new ones, have places of their own. -/
theorem stores_of_evolves (ready : start.IsReady d) (evolves : Evolves analyze flag start.workers p.workers) :
    Stores d (p.closed.map Sink.store) := by
  have places := ready.stores
  rw [← (keeps_of_progress (evolves.progress ready.new)).2] at places
  refine places.sublist ?_
  rw [closed, List.map_map]
  exact List.filter_sublist.map _

/-- Each sink that can be read is finalized, and read back. -/
theorem reads_of_evolves (ready : start.IsReady d) (evolves : Evolves analyze flag start.workers p.workers) {s : Sink}
    (member : s ∈ readable p.sinks) : s.finalized = true ∧ s.readLines (p.flush d) = .ok s.lines := by
  obtain ⟨inside, finalized⟩ := mem_readable_iff.mp member
  obtain ⟨_, entry, rfl⟩ := List.mem_map.mp inside
  obtain ⟨v, working, rfl⟩ := List.mem_map.mp entry
  change v.sink.finalized = true at finalized
  have closed : v.sink ∈ p.closed :=
    List.mem_map_of_mem (List.mem_filter.mpr ⟨working, by rw [Worker.hasClosed, finalized, Bool.or_true]⟩)
  rw [flush_eq_flushAll]
  exact ⟨finalized, Sink.readLines_flushAll (stores_of_evolves ready evolves) closed
    (clean_of_evolves ready.new evolves v working) finalized⟩

/-- The merge of what the workers of a pool have finalized. -/
theorem merge_of_evolves (ready : start.IsReady d) (evolves : Evolves analyze flag start.workers p.workers) :
    merge (p.flush d) (readable p.sinks) = .ok (sortLines p.lines) := by
  rw [merge_eq (fun _ member => (reads_of_evolves ready evolves member).1)
    fun _ member => (reads_of_evolves ready evolves member).2, lines_eq]

end

end Pool

/-! ## Workers that nobody cancelled -/

namespace Worker

/-- The worker has done the whole shard of another one, as far as no outcome is fatal. -/
structure Complete (outcome : String → Outcome) (w v : Worker) : Prop where
  owner : v.shard = w.shard
  lines : v.sink.lines = linesOf outcome w.shard.units
  finalized : v.sink.finalized = w.sink.closingFault.isNone
  failures : v.failures = (complaintsOf outcome w.shard.units).map (Ledger.failureOf w.shard.index)
  stopped : v.stopped = none ↔ ∀ unit ∈ w.shard.units, (outcome unit).isFatal = false
  uncancelled : v.cancelled = false

section
variable {capability : Capability} {w v : Worker}

theorem complete_of_progress (new : w.IsNew) (different : w.shard.units.Nodup)
    (progress : Progress (fun _ => capability) w.shard w.sink v) (ended : v.hasEnded = true)
    (uncancelled : v.cancelled = false) : Complete (fun unit => (capability unit).outcome) w v := by
  obtain ⟨settled, closes⟩ := progress.settled ended
  have whole := settled.whole uncancelled
  have absent : ∀ unit ∈ w.shard.units, unit ∉ ({ sink := w.sink } : Ledger).sink.units := by
    simp [new.sink.units]
  obtain ⟨lines, failures, stopped⟩ :=
    Ledger.enterAll_different capability w.shard.index 0 rfl new.sink.finalized different absent
  refine ⟨settled.owner, ?_, ?_, ?_, ?_, uncancelled⟩
  · rw [settled.lines, whole, ledgerOf, lines, new.sink.lines, List.nil_append]
  · rw [closes, new.sink.finalized, Bool.false_or]
  · rw [settled.failures, whole, ledgerOf, failures, List.nil_append]
  · rw [settled.stopped, whole]
    exact stopped

/-- A worker that ran alone, with the flag down, has done its whole shard. -/
theorem complete_run (new : w.IsNew) (different : w.shard.units.Nodup) (quiet : IsQuiet fun _ => capability) :
    Complete (fun unit => (capability unit).outcome) w (w.run (fun _ => capability) false).1 := by
  have reaches := reaches_run quiet w
  exact complete_of_progress new different (new.progress reaches) (new.hasEnded_run _ false)
    (reaches.uncancelled new.uncancelled)

end

end Worker

namespace Pool

section
variable {analyze : Nat → Capability} {outcome : String → Outcome} {a b : List Worker}

/-- As long as the flag is down, each new worker that ends is the one that ran alone. -/
theorem Evolves.eq_alone (new : ∀ w ∈ a, w.IsNew) (quiet : IsQuiet analyze) (evolves : Evolves analyze (· = false) a b)
    (ended : ∀ v ∈ b, v.hasEnded = true) : b = a.map fun w => (w.run analyze false).1 := by
  induction evolves with
  | nil => rfl
  | cons first _ ih =>
    have head := (new _ List.mem_cons_self).eq_run quiet first (ended _ List.mem_cons_self)
    have tail := ih (fun w member => new w (List.mem_cons_of_mem _ member))
      fun v member => ended v (List.mem_cons_of_mem _ member)
    rw [List.map_cons, ← head, ← tail]

/-- Workers that have done their whole shards have the lines of the shards whose sinks could be closed. -/
theorem lines_of_complete (complete : List.Forall₂ (Worker.Complete outcome) a b) :
    (b.filter (·.sink.finalized)).flatMap (·.sink.lines) =
      (a.filter (·.sink.closingFault.isNone)).flatMap fun w => linesOf outcome w.shard.units := by
  induction complete with
  | nil => rfl
  | cons first _ ih =>
    rw [List.filter_cons, List.filter_cons, first.finalized]
    split
    · rw [List.flatMap_cons, List.flatMap_cons, ih, first.lines]
    · exact ih

end

end Pool

/-! ## Verdicts -/

theorem WorkerResult.ok_iff {result : WorkerResult} :
    result.ok = true ↔ result.failedUnits = [] ∧ result.fatal = false := by
  simp only [ok, fatal, Bool.and_eq_true, Bool.or_eq_false_iff, Bool.not_eq_true', List.isEmpty_iff]
  cases result.fatalError <;> simp

/-- A batch is all right if and only if no unit failed and no shard ended early. -/
theorem PipelineResult.ok_iff {result : PipelineResult} :
    result.ok = true ↔ result.failedUnits = [] ∧ result.fatalShards = [] := by
  simp only [ok, failedUnits, fatalShards, List.all_eq_true, List.flatMap_eq_nil_iff, List.map_eq_nil_iff,
    List.filter_eq_nil_iff, WorkerResult.ok_iff, Bool.not_eq_true]
  exact ⟨fun all => ⟨fun w member => (all w member).1, fun w member => (all w member).2⟩,
    fun both w member => ⟨both.1 w member, both.2 w member⟩⟩

/-! ## Joined workers -/

/-- What has become of the workers of a batch once they are joined. -/
structure Gathered (analyze : Nat → Capability) (l : Launch) (shards : List Shard) (p : Pool)
    (results : List WorkerResult) : Prop where
  progress : List.Forall₂ (fun w v => Worker.Progress analyze w.shard w.sink v) l.pool.workers p.workers
  ended : ∀ v ∈ p.workers, v.hasEnded = true
  stay : ∀ v ∈ p.workers, v.endsBatch = false
  results : results = p.workers.map Worker.report
  shards : p.workers.map (·.shard) = shards
  merged : merge (p.flush l.disk) (readable p.sinks) = .ok (sortLines p.lines)

namespace Launch.IsReady

variable {r : Request} {l : Launch} {units : List String} {workers : Nat} {shards : List Shard}

/-- The workers stay in the order of their shards. -/
theorem shards_follow (ready : l.IsReady r shards) (whole : IsCut units workers shards) (analyze : Nat → Capability)
    (moves : List Move) : (l.pool.follow analyze moves).workers.map (·.shard) = shards ∧
      ((l.pool.follow analyze moves).workers.map (·.shard.index)).Pairwise (· ≤ ·) := by
  have progress := (Pool.evolves_follow_any analyze l.pool moves).progress ready.pool.new
  have same := (Pool.keeps_of_progress progress).1.trans ready.shards
  have indices := whole.ordered
  rw [← same, List.map_map] at indices
  exact ⟨same, indices⟩

theorem gathered {analyze : Nat → Capability} {moves : List Move} {timeout : Option Number} {q : Pool}
    {events : List Event} {results : List WorkerResult} (ready : l.IsReady r shards) (whole : IsCut units workers shards)
    (joined : (l.pool.follow analyze moves).join timeout = (q, events, .results results)) :
    q = l.pool.follow analyze moves ∧ Gathered analyze l shards q results := by
  obtain ⟨same, ordered⟩ := ready.shards_follow whole analyze moves
  have evolves := Pool.evolves_follow_any analyze l.pool moves
  obtain ⟨ended, stay, rfl, rfl⟩ := (Pool.join_eq_results_iff ordered).mp ⟨events, joined⟩
  exact ⟨rfl, evolves.progress ready.pool.new, ended, stay, rfl, same, Pool.merge_of_evolves ready.pool evolves⟩

/-- A batch comes to its report as soon as all workers have ended, if none of them ends the batch. -/
theorem publishes_of_ended {d : Disk} (schedule : Pool → List Move) (ready : l.IsReady r shards)
    (whole : IsCut units workers shards) (accepted : r.check = .ok (units, workers)) (launched : r.launch d = some l)
    (ended : ∀ v ∈ (l.pool.follow (fun _ => r.provider.analyze l.disk) (schedule l.pool)).workers, v.hasEnded = true)
    (stay : ∀ v ∈ (l.pool.follow (fun _ => r.provider.analyze l.disk) (schedule l.pool)).workers,
      v.endsBatch = false) :
    ∃ log calls, runScheduled schedule r d = publish r
      (r.closeDirectory l.directory
        ((l.pool.follow (fun _ => r.provider.analyze l.disk) (schedule l.pool)).flush l.disk)).1 log calls
      (sortLines (l.pool.follow (fun _ => r.provider.analyze l.disk) (schedule l.pool)).lines)
      ((l.pool.follow (fun _ => r.provider.analyze l.disk) (schedule l.pool)).workers.map Worker.report) := by
  obtain ⟨-, ordered⟩ := ready.shards_follow whole (fun _ => r.provider.analyze l.disk) (schedule l.pool)
  obtain ⟨events, joined⟩ : ∃ events,
      (l.pool.follow (fun _ => r.provider.analyze l.disk) (schedule l.pool)).join r.joinTimeout = (_, events, .results _) :=
    (Pool.join_eq_results_iff ordered).mpr ⟨ended, stay, rfl, rfl⟩
  have merged := (ready.gathered whole joined).2.merged
  rw [runScheduled_of_launch schedule accepted launched]
  simp only [work, joined, mergeAndPublish, merged]
  exact ⟨_, _, rfl⟩

/-- A batch whose report is not to be written has a result as soon as all workers have ended, if none of them ends the
batch. -/
theorem done_of_ended {d : Disk} (schedule : Pool → List Move) (ready : l.IsReady r shards)
    (whole : IsCut units workers shards) (accepted : r.check = .ok (units, workers)) (launched : r.launch d = some l)
    (nowhere : (r.outputPath.getD "").isEmpty = true)
    (ended : ∀ v ∈ (l.pool.follow (fun _ => r.provider.analyze l.disk) (schedule l.pool)).workers, v.hasEnded = true)
    (stay : ∀ v ∈ (l.pool.follow (fun _ => r.provider.analyze l.disk) (schedule l.pool)).workers,
      v.endsBatch = false) :
    ∃ result, (runScheduled schedule r d).completion = .done result := by
  obtain ⟨log, calls, run⟩ := ready.publishes_of_ended schedule whole accepted launched ended stay
  rw [run]
  simp only [publish, nowhere, if_true]
  exact ⟨_, rfl⟩

/-- Workers with sinks that can be closed, by their shards. -/
theorem flatMap_closable (ready : l.IsReady r shards) (f : Shard → List String) :
    ((l.pool.workers.filter (·.sink.closingFault.isNone)).flatMap fun w => f w.shard) =
      (shards.filter fun s => (r.sinkFault s).isNone).flatMap f := by
  rw [← ready.shards, List.filter_map, List.flatMap_map]
  congr 1
  refine List.filter_congr ?_
  intro w member
  simp [ready.faults w member]

end Launch.IsReady

/-- The sinks of joined workers are finalized, but for those that cannot be closed. -/
theorem Gathered.finalized_eq {analyze : Nat → Capability} {r : Request} {l : Launch} {shards : List Shard} {p : Pool}
    {results : List WorkerResult} (gathered : Gathered analyze l shards p results) (ready : l.IsReady r shards)
    {v : Worker} (member : v ∈ p.workers) : v.sink.finalized = (r.sinkFault v.shard).isNone := by
  obtain ⟨w, inside, progress⟩ := Pool.exists_start gathered.progress member
  obtain ⟨settled, closes⟩ := progress.settled (gathered.ended v member)
  rw [closes, (ready.pool.new w inside).sink.finalized, Bool.false_or, ready.faults w inside, settled.owner]

/-- A batch with a result has joined its workers. Its report is the lines of all sinks that were closed, sorted, and is
found in the file that it was written to. -/
theorem gathered_of_done {r : Request} {d : Disk} {schedule : Pool → List Move} {units : List String} {workers : Nat}
    {result : PipelineResult} (given : r.GivesNewSinks) (accepted : r.check = .ok (units, workers))
    (done : (runScheduled schedule r d).completion = .done result) :
    ∃ l shards, r.launch d = some l ∧ IsCut units workers shards ∧ l.IsReady r shards ∧
      Gathered (fun _ => r.provider.analyze l.disk) l shards
        (l.pool.follow (fun _ => r.provider.analyze l.disk) (schedule l.pool)) result.workers ∧
      result.lines = sortLines (l.pool.follow (fun _ => r.provider.analyze l.disk) (schedule l.pool)).lines ∧
      ∀ path, result.outputPath = some path →
        (runScheduled schedule r d).disk.contents path = .ok (reportBytes result.lines) := by
  obtain ⟨l, launched⟩ := launch_of_done done
  obtain ⟨shards, -, whole, ready⟩ := ready_launch given accepted launched
  have completed := completed_of_done accepted launched done
  obtain ⟨q, events, joined, merged⟩ := completed.joined
  obtain ⟨rfl, gathered⟩ := ready.gathered whole joined
  rw [gathered.merged] at merged
  exact ⟨l, shards, launched, whole, ready, gathered, (Except.ok.inj merged).symm, completed.file⟩

/-! ## A batch of three units for two workers -/

/-- A disk without files. -/
def bareDisk : Disk := ⟨.directory [], [], []⟩

/-- Unit `b` cannot be analyzed, and the others come to no facts. -/
def sampleReply (unit : String) : Reply :=
  if unit = "b" then { outcome := .rejected "no source" } else { outcome := .facts [] }

/-- The batch, with sinks in memory. -/
def sampleRequest : Request where
  units := .list [.str "c", .str "b", .str "a"]
  workers := .int 2
  provider := .capability fun _ => sampleReply
  inMemorySinks := true

/-- The batch when its workers begin. -/
def sampleLaunch : Launch where
  disk := bareDisk
  directory := none
  pool :=
    { size := 2
      workers :=
        [{ shard := ⟨0, ["c"]⟩, sink := .inMemory "threaded_output_0.txt" },
          { shard := ⟨1, ["b", "a"]⟩, sink := .inMemory "threaded_output_1.txt" }] }

/-- A schedule in which the workers take turns. -/
def sampleMoves : List Move :=
  ([0, 1, 1, 1, 0, 0, 1, 0, 1, 0, 0, 1, 0, 1, 1, 1, 1] : List Nat).map .step

theorem quiet_sampleReply (unit : String) : (sampleReply unit).cancels = false := by
  unfold sampleReply
  split <;> rfl

end GlobalSurvey.Batch
