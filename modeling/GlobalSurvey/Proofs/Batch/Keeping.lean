import GlobalSurvey.Proofs.Batch.Accounting
import GlobalSurvey.Proofs.Batch.Furnishing
import GlobalSurvey.Proofs.Batch.Leavings

/-!
# Directories that are kept

The directory of the sinks, when it is kept, has a file for each shard and nothing else, and the file has the lines of the
records that the worker of the shard has written (`flush_below`), also if it could not be closed. The report has the lines
of the files that could be closed, sorted (`kept_files_tell_report`).
-/
namespace GlobalSurvey.Batch
open GlobalSurvey.Files GlobalSurvey.Report

/-! ## The lines in the file of a sink -/

/-- The lines reach the files of the directory one after the other; no file is added. -/
theorem flush_below {base : Disk} {path : String} {home : Location} (vacancy : base.Vacancy path home)
    {name : Worker → String} {workers : List Worker} (done : List (String × Node))
    (places : ∀ w ∈ workers, ∃ file, w.sink.store = .file file (home ++ [name w])) (different : (workers.map name).Nodup)
    (new : ∀ w ∈ workers, entry? (name w) done = none) (closed : ∀ w ∈ workers, w.hasClosed = true) :
    workers.foldl (fun d w => if w.hasClosed then w.sink.flush d else d)
        (base.put home (.directory (done ++ workers.map fun w => (name w, .file [])))) =
      base.put home (.directory (done ++ workers.map fun w => (name w, .file (Sink.lineBytes w.sink.lines)))) := by
  induction workers generalizing done with
  | nil => rfl
  | cons w rest ih =>
    rw [List.map_cons, List.nodup_cons] at different
    have absent := new w List.mem_cons_self
    have empty : entry? (name w) (done ++ (name w, .file []) :: rest.map fun w => (name w, .file [])) = some (.file []) := by
      rw [entry?_append absent, entry?_cons, if_pos rfl]
    -- The file of the first worker is written, and counts as done from then on.
    have first : w.sink.flush
        (base.put home (.directory (done ++ (name w, .file []) :: rest.map fun w => (name w, .file [])))) =
        base.put home (.directory ((done ++ [(name w, .file (Sink.lineBytes w.sink.lines))]) ++
          rest.map fun w => (name w, .file []))) := by
      obtain ⟨file, place⟩ := places w List.mem_cons_self
      simp only [Sink.flush, place]
      rw [Disk.overwrite_entry (vacancy.keeps _).2.2 empty, setEntry_append absent, List.append_assoc, List.singleton_append]
    have later : ∀ v ∈ rest, entry? (name v) (done ++ [(name w, .file (Sink.lineBytes w.sink.lines))]) = none := by
      intro v member
      have other : name w ≠ name v := fun same => different.1 (same ▸ List.mem_map_of_mem member)
      rw [entry?_append (new v (List.mem_cons_of_mem w member)), entry?_cons, if_neg other]
      rfl
    rw [List.map_cons, List.foldl_cons, if_pos (closed w List.mem_cons_self), first,
      ih _ (fun v member => places v (List.mem_cons_of_mem w member)) different.2 later
        fun v member => closed v (List.mem_cons_of_mem w member),
      List.append_assoc, List.singleton_append, List.map_cons]

/-! ## Files and records -/

/-- The file of a sink at the end of a run: the shard, what is reported about it, and the lines. -/
structure SinkFile where
  shard : Shard
  report : WorkerResult
  lines : List String

/-- The file has the records that were written for a shard: of the units that were analyzed, in the order of the shard. If
the file could be closed these are counted, and are those of all units of the shard unless the worker was cancelled. If not,
none is counted, and the shard is reported as one whose work ended early. -/
structure SinkFile.HoldsRecords (outcome : String → Outcome) (closed : Bool) (f : SinkFile) : Prop where
  records : ∃ called, called <+: f.shard.units ∧ f.lines = linesOf outcome called
  whole : closed = true → f.report.cancelled = false → f.lines = linesOf outcome f.shard.units
  counted : closed = true → (f.lines.length : Int) = f.report.recordsWritten
  lost : closed = false → f.report.fatal = true ∧ f.report.recordsWritten = 0
  owner : f.report.shard = f.shard.index
  readable : Sink.linesOfBytes (Sink.lineBytes f.lines) = .ok f.lines

/-- The file of a worker that has ended. -/
def Worker.file (w : Worker) : SinkFile := ⟨w.shard, w.report, w.sink.lines⟩

section
variable {r : Request} {d : Disk} {l : Launch} {p : Pool} {units : List String} {workers : Nat} {shards : List Shard}
  {capability : Capability} {results : List WorkerResult}

theorem Request.sinkFault_of_new (new : ∀ shard, r.givenSink shard = none) : r.sinkFault = r.closingFault := by
  funext shard
  rw [sinkFault, new]

/-- The lines of the pool are those of its files that could be closed. -/
theorem Gathered.lines_eq {analyze : Nat → Capability} (gathered : Gathered analyze l shards p results)
    (ready : l.IsReady r shards) (new : ∀ shard, r.givenSink shard = none) :
    p.lines = ((p.workers.map Worker.file).filter fun f => (r.closingFault f.shard).isNone).flatMap (·.lines) := by
  rw [← Request.sinkFault_of_new new, Pool.lines, List.filter_congr fun v member => gathered.finalized_eq ready member,
    List.filter_map, List.flatMap_map]
  rfl

/-- The lines in the files of workers that were joined are single lines. -/
theorem Gathered.single {analyze : Nat → Capability} (gathered : Gathered analyze l shards p results)
    (ready : l.IsReady r shards) {v : Worker} (member : v ∈ p.workers) : v.sink.IsClean := by
  obtain ⟨w, inside, progress⟩ := Pool.exists_start gathered.progress member
  exact progress.keeps.clean (ready.pool.new w inside).sink.clean

/-- The files of workers that were joined have the records of their shards. -/
theorem Gathered.holdsRecords (gathered : Gathered (fun _ => capability) l shards p results) (ready : l.IsReady r shards)
    (different : ∀ s ∈ shards, s.units.Nodup) {v : Worker} (member : v ∈ p.workers) :
    v.file.HoldsRecords (fun unit => (capability unit).outcome) (r.sinkFault v.shard).isNone := by
  obtain ⟨w, inside, progress⟩ := Pool.exists_start gathered.progress member
  have new := (ready.pool.new w inside).sink
  obtain ⟨settled, -⟩ := progress.settled (gathered.ended v member)
  obtain ⟨accounted, reported⟩ := gathered.accounted ready.pool v member
  have owned : w.shard.units.Nodup := different _ (ready.shards ▸ List.mem_map_of_mem inside)
  have ledger {called : List String} (nodup : called.Nodup) :
      (ledgerOf (fun _ => capability) w.shard w.sink called).sink.lines =
        linesOf (fun unit => (capability unit).outcome) called := by
    have lines := (Ledger.enterAll_different capability w.shard.index 0 (l := { sink := w.sink }) rfl new.finalized
      nodup (by simp [new.units])).1
    rw [ledgerOf, lines, new.lines, List.nil_append]
  have called := settled.called_prefix
  rw [← gathered.finalized_eq ready member]
  refine ⟨⟨v.called, ?_, ?_⟩, ?_, ?_, ?_, reported.index, ?_⟩
  · rw [Worker.file, settled.owner]
    exact called
  · rw [Worker.file, settled.lines, ledger (owned.sublist called.sublist)]
  · intro finalized uncancelled
    have goesOn : v.cancelled = false := by
      rw [Worker.file, reported.eq_result finalized] at uncancelled
      exact uncancelled
    rw [Worker.file, settled.lines, settled.whole goesOn, ledger owned, settled.owner]
  · intro finalized
    have written := accounted.written
    rwa [finalized, if_pos rfl] at written
  · intro unfinished
    rw [Worker.file]
    generalize v.report = report at reported
    cases reported with
    | finished finalized =>
      rw [unfinished] at finalized
      cases finalized
    | madeUp failure _ _ => exact ⟨rfl, rfl⟩
  · exact Sink.linesOfBytes_lineBytes (gathered.single ready member)

/-! ## The directory at the end -/

/-- The entry of the file in the directory of the sinks. -/
def SinkFile.entry (stem : String) (f : SinkFile) : String × Node :=
  (sinkName stem f.shard.index, .file (Sink.lineBytes f.lines))

/-- There is a directory for sinks that are kept in files. -/
theorem Request.openDirectory_path (filed : r.inMemorySinks = false) {between : Disk} {directory : Option String}
    (opened : r.openDirectory d = (between, .ok directory)) : ∃ path, directory = some path := by
  unfold openDirectory at opened
  simp only [filed, Bool.false_eq_true, if_false] at opened
  split at opened
  · cases opened
  · split at opened
    · cases opened
      exact ⟨_, rfl⟩
    · cases opened

/-- The directory of the sinks, when the workers begin, has an empty file for each shard. -/
theorem files_launch (new : ∀ shard, r.givenSink shard = none) (filed : r.inMemorySinks = false)
    (whole : '/' ∉ r.shardStem.toList) (accepted : r.check = .ok (units, workers))
    (cut : partition units workers = .ok shards) (launched : r.launch d = some l) (open_ : Location → Prop) :
    ∃ base path home, d.Changes r.IsAbove open_ base ∧ l.directory = some path ∧ base.Vacancy path home ∧
      l.disk = base.put home (.directory (shards.map fun s => (sinkName r.shardStem s.index, .file []))) ∧
      l.pool.workers.map (·.sink.store) = shards.map fun s =>
        .file (joinPath path (sinkName r.shardStem s.index)) (home ++ [sinkName r.shardStem s.index]) := by
  obtain ⟨between, sinks, opened, made, pool⟩ := exists_sinks accepted cut launched
  obtain ⟨path, own⟩ := Request.openDirectory_path filed opened
  rw [own] at opened made
  obtain ⟨base, changes, fresh⟩ := Request.opened_openDirectory r d open_
  rw [opened] at fresh
  cases fresh with
  | directory vacancy =>
    rename_i home
    obtain ⟨_, -, -, slices⟩ := cut_of_partition cut
    obtain ⟨disk, stores⟩ := Request.newSinks_home new whole vacancy slices.different_indices slices.index_nonneg
      (fun _ _ => rfl) made
    have given : r.GivesNewSinks := fun shard sink own => by rw [new shard] at own; cases own
    obtain ⟨-, their, -⟩ := newWorkers (Request.newSinks_made given made).2
    refine ⟨base, path, home, changes, own, vacancy, disk, ?_⟩
    rw [← stores, ← congrArg (List.map Sink.store) their, pool]
    simp only [List.map_map]
    rfl

/-- The directory of the sinks, once the workers of a batch have ended, has the file of each worker. -/
theorem flush_files {base : Disk} {path : String} {home : Location} {stem : String} (vacancy : base.Vacancy path home)
    (different : (p.workers.map (·.shard.index)).Nodup) (counted : ∀ w ∈ p.workers, 0 ≤ w.shard.index)
    (places : ∀ w ∈ p.workers, ∃ file, w.sink.store = .file file (home ++ [sinkName stem w.shard.index]))
    (ended : ∀ w ∈ p.workers, w.hasEnded = true) :
    p.flush (base.put home (.directory (p.workers.map fun w => (sinkName stem w.shard.index, .file [])))) =
      base.put home (.directory ((p.workers.map Worker.file).map (·.entry stem))) := by
  have names : (p.workers.map fun w => sinkName stem w.shard.index).Nodup := by
    rw [List.Nodup, List.pairwise_map] at different ⊢
    refine different.imp_of_mem ?_
    intro a b first second other same
    exact other (sinkName_inj (counted a first) (counted b second) same)
  have all := flush_below vacancy [] places names (fun _ _ => rfl) fun w member => by simp [Worker.hasClosed, ended w member]
  rw [List.map_map]
  exact all

/-- The files of joined workers are those of the shards. -/
theorem Gathered.owners {analyze : Nat → Capability} (gathered : Gathered analyze l shards p results) :
    (p.workers.map Worker.file).map (·.shard) = shards := by
  rw [← gathered.shards, List.map_map]
  rfl

/-- The files have the names of the shards, by their numbers. -/
theorem Gathered.names {analyze : Nat → Capability} (gathered : Gathered analyze l shards p results)
    (slices : IsCut units workers shards) (stem : String) :
    ((p.workers.map Worker.file).map fun f => sinkName stem f.shard.index) =
      (List.range workers).map fun i : Nat => stem ++ toString (i : Int) ++ ".txt" := by
  have own : ((p.workers.map Worker.file).map fun f => sinkName stem f.shard.index) =
      shards.map fun s => sinkName stem s.index := by
    rw [← gathered.owners, List.map_map (l := p.workers.map Worker.file)]
    rfl
  have numbered : (shards.map fun s => sinkName stem s.index) = (shards.map (·.index)).map (sinkName stem) := by
    rw [List.map_map]
    rfl
  rw [own, numbered, slices.indices, List.map_map]
  rfl

/-- The disk of a batch that keeps the files of its sinks, once its workers are joined: the directory is there, and has the
file of each worker. -/
theorem Gathered.kept {analyze : Nat → Capability} (gathered : Gathered analyze l shards p results)
    (new : ∀ shard, r.givenSink shard = none) (filed : r.inMemorySinks = false) (keeps : r.keepShards = true)
    (whole : '/' ∉ r.shardStem.toList) (accepted : r.check = .ok (units, workers))
    (cut : partition units workers = .ok shards) (slices : IsCut units workers shards) (launched : r.launch d = some l) :
    ∃ base : Disk, ∃ path home, base.working = d.working ∧ l.directory = some path ∧ base.Vacancy path home ∧
      r.closeDirectory l.directory (p.flush l.disk) =
        (base.put home (.directory ((p.workers.map Worker.file).map (·.entry r.shardStem))), [.shardsKept path]) := by
  obtain ⟨base, path, home, changes, own, vacancy, made, stores⟩ :=
    files_launch new filed whole accepted cut launched fun _ => False
  have indices : p.workers.map (·.shard.index) = shards.map (·.index) := by
    rw [← gathered.shards, List.map_map]
    rfl
  have places : ∀ w ∈ p.workers, ∃ file,
      w.sink.store = .file file (home ++ [sinkName r.shardStem w.shard.index]) := by
    have kept := (Pool.keeps_of_progress gathered.progress).2.trans stores
    rw [← gathered.shards, List.map_map] at kept
    exact fun w member => ⟨_, List.map_inj_left.mp kept w member⟩
  have start : l.disk =
      base.put home (.directory (p.workers.map fun w => (sinkName r.shardStem w.shard.index, .file []))) := by
    rw [made, ← gathered.shards, List.map_map]
    rfl
  have flushed := flush_files vacancy (indices ▸ slices.different_indices)
    (fun w member => slices.index_nonneg _ (gathered.shards ▸ List.mem_map_of_mem member)) places gathered.ended
  refine ⟨base, path, home, changes.keeps.working, own, vacancy, ?_⟩
  rw [start, flushed]
  simp [Request.closeDirectory, own, keeps]

/-- A run with a result whose report is written has written it to its path. -/
theorem publish_written {log : List Event} {calls lines : List String} {result : PipelineResult}
    (nonempty : (r.outputPath.getD "").isEmpty = false)
    (done : (publish r d log calls lines results).completion = .done result) :
    result.outputPath = some (reportPath d (r.outputPath.getD "")) ∧
      (publish r d log calls lines results).disk = (write d lines (r.outputPath.getD "")).disk ∧
      ∀ e ∈ log, e ∈ (publish r d log calls lines results).log := by
  unfold publish at done ⊢
  simp only [nonempty, Bool.false_eq_true, if_false] at done ⊢
  cases written : (write d lines (r.outputPath.getD "")).path with
  | error fault => simp [written] at done
  | ok absolute =>
    simp only [written, Completion.done.injEq] at done ⊢
    subst done
    exact ⟨congrArg some (path_write written), trivial, fun e member => List.mem_append_left _ member⟩

end

/-! ## A batch that keeps its files -/

/-- No report can be written in the place of the root directory. -/
theorem write_root (lines : List String) : (write bareDisk lines "/").path = .error (.refused .isDirectory "/") := by
  have path : absolutePath (pathOf bareDisk.working) "/" = "/" := by
    change absolutePath (pathOf []) "/" = "/"
    decide
  have above : directoryOf "/" = "/" := by decide
  have root : bareDisk.makePath "/" = (bareDisk, none) := Disk.makePath_root [] rfl
  have stored (content : List UInt8) : bareDisk.store "/" content = .error (.refused .isDirectory "/") := by
    have plain : Disk.withoutEndSlashes "/" = "/" := by decide
    have ends : "/".toList.getLast? = some '/' := by decide
    have whole : ¬ "/".toList.contains '\x00' = true := by decide
    unfold Disk.store Disk.checked
    simp only [plain, ends, if_neg whole, above, Disk.resolve_root (rfl : bareDisk.root = .directory [])]
    rfl
  unfold write
  simp only [path, above, root, stored]

end GlobalSurvey.Batch
