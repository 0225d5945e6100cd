import GlobalSurvey.Proofs.Batch.Joining
import GlobalSurvey.Proofs.Batch.Partition
import GlobalSurvey.Proofs.Report.Merge

/-!
# From a request to its workers and to its report

A request that comes as far as its workers gives each shard a new worker with a new sink of its own, whose lines have a
place of their own (`ready_launch`). A run with a result is one whose workers were joined, and its report is the sorted
lines of all sinks that were closed (`completed_of_done`).
-/
namespace GlobalSurvey.Batch
open GlobalSurvey.Files GlobalSurvey.Report

/-! ## New sinks -/

/-- What making places for lines does: all files stay, and the places are new, ready and apart. -/
structure MadeStores (old new : Disk) (stores : List Store) : Prop where
  keeps : old.Keeps new
  files : ∀ location content, old.root.get? location = some (.file content) →
    new.root.get? location = some (.file content)
  fresh : ∀ path location, Store.file path location ∈ stores → old.root.get? location = none
  stores : Stores new stores

namespace MadeStores

theorem nil (d : Disk) : MadeStores d d [] where
  keeps := .refl d
  files _ _ found := found
  fresh _ _ member := by cases member
  stores := ⟨fun _ member => (List.not_mem_nil member).elim, .nil⟩

theorem memory (d : Disk) : MadeStores d d [.memory] where
  keeps := .refl d
  files _ _ found := found
  fresh _ _ member := by cases List.mem_singleton.mp member
  stores := by
    refine ⟨?_, List.pairwise_singleton _ _⟩
    intro store member
    rw [List.mem_singleton.mp member]
    trivial

theorem file {old new : Disk} {path : String} {location : Location} (made : old.Made path new location) :
    MadeStores old new [.file path location] where
  keeps := made.keeps
  files := made.others
  fresh other there member := by
    cases List.mem_singleton.mp member
    exact made.fresh
  stores := by
    refine ⟨?_, List.pairwise_singleton _ _⟩
    intro store member
    rw [List.mem_singleton.mp member]
    exact ⟨made.leads, made.file⟩

/-- Files keep their bytes. -/
theorem contents {old new : Disk} {stores : List Store} (made : MadeStores old new stores) {path : String}
    {content : List UInt8} (held : old.contents path = .ok content) : new.contents path = .ok content := by
  obtain ⟨location, leads, file⟩ := Disk.leads_of_contents held
  exact Disk.contents_of_leads (leads.keeps made.keeps) (made.files location content file)

/-- Places that are made later leave those made before as they are. -/
theorem append {a b c : Disk} {first later : List Store} (ab : MadeStores a b first) (bc : MadeStores b c later) :
    MadeStores a c (first ++ later) where
  keeps := ab.keeps.trans bc.keeps
  files location content found := bc.files location content (ab.files location content found)
  fresh path location member := by
    rcases List.mem_append.mp member with before | after
    · exact ab.fresh path location before
    · cases found : a.root.get? location with
      | none => rfl
      | some node =>
        have kept := ab.keeps.root location node found
        rw [bc.fresh path location after] at kept
        cases kept
  stores := by
    refine ⟨?_, List.pairwise_append.mpr ⟨ab.stores.apart, bc.stores.apart, ?_⟩⟩
    · intro store member
      rcases List.mem_append.mp member with before | after
      · have ready := ab.stores.ready store before
        refine ready.keeps bc.keeps ?_
        rintro path location rfl
        rw [ready.2, bc.files location [] ready.2]
      · exact bc.stores.ready store after
    · rintro store before other after path elsewhere location rfl rfl
      have present := (ab.stores.ready _ before).2
      rw [bc.fresh elsewhere location after] at present
      cases present

end MadeStores

namespace Request

/-- A sink that is used in the place of a new one is as good as new, and keeps its lines in memory. -/
def GivesNewSinks (r : Request) : Prop := ∀ shard sink, r.givenSink shard = some sink → sink.IsNew ∧ sink.store = .memory

/-- The failure that closing the sink of a shard ends in, if it does. -/
def sinkFault (r : Request) (shard : Shard) : Option Failure :=
  match r.givenSink shard with
  | some sink => sink.closingFault
  | none => r.closingFault shard

variable {r : Request} {directory : Option String} {old new : Disk}

theorem newSink_made (given : r.GivesNewSinks) {shard : Shard} {sink : Sink}
    (made : r.newSink directory old shard = .ok (new, sink)) :
    MadeStores old new [sink.store] ∧ sink.IsNew ∧ sink.closingFault = r.sinkFault shard := by
  unfold newSink at made
  unfold sinkFault
  cases place : r.givenSink shard with
  | some own =>
    simp only [place, Except.ok.injEq, Prod.mk.injEq] at made
    obtain ⟨rfl, rfl⟩ := made
    obtain ⟨fresh, memory⟩ := given shard own place
    rw [memory]
    exact ⟨.memory old, fresh, rfl⟩
  | none => cases directory with
    | none =>
      simp only [place, Except.ok.injEq, Prod.mk.injEq] at made
      obtain ⟨rfl, rfl⟩ := made
      exact ⟨.memory old, ⟨rfl, rfl, rfl⟩, rfl⟩
    | some path =>
      simp only [place, Sink.inFile] at made
      cases file : old.make (joinPath path (sinkName r.shardStem shard.index)) with
      | error fault => simp [file] at made
      | ok result =>
        simp only [file, Except.ok.injEq, Prod.mk.injEq] at made
        obtain ⟨rfl, rfl⟩ := made
        exact ⟨.file (Disk.make_made file), ⟨rfl, rfl, rfl⟩, rfl⟩

/-- Each shard has a new sink, and the lines of each sink have a place of their own. -/
theorem newSinks_made (given : r.GivesNewSinks) {shards : List Shard} {sinks : List Sink}
    (made : r.newSinks directory old shards = (new, .ok sinks)) :
    MadeStores old new (sinks.map (·.store)) ∧
      List.Forall₂ (fun shard sink => sink.IsNew ∧ sink.closingFault = r.sinkFault shard) shards sinks := by
  induction shards generalizing old sinks with
  | nil =>
    cases made
    exact ⟨.nil _, .nil⟩
  | cons shard rest ih =>
    simp only [newSinks] at made
    split at made
    · cases made
    · rename_i between sink first
      split at made
      · rename_i others later
        cases made
        obtain ⟨place, fresh⟩ := newSink_made given first
        obtain ⟨places, all⟩ := ih later
        exact ⟨place.append places, .cons fresh all⟩
      · cases made

end Request

/-! ## Coming as far as the workers -/

/-- A batch at the time when its workers begin. -/
structure Launch where
  /-- The disk, with the files of the sinks. -/
  disk : Disk
  /-- The fresh directory of the sinks, if they are kept in files. -/
  directory : Option String
  /-- The workers. -/
  pool : Pool

/-- The batch at the time when its workers begin, if it comes so far. -/
def Request.launch (r : Request) (d : Disk) : Option Launch :=
  match r.check with
  | .error _ => none
  | .ok (units, workers) =>
    match partition units workers with
    | .error _ => none
    | .ok shards =>
      match r.openDirectory d with
      | (_, .error _) => none
      | (d, .ok directory) =>
        match r.newSinks directory d shards with
        | (_, .error _) => none
        | (d, .ok sinks) =>
          some ⟨d, directory, { size := workers, workers := (shards.zip sinks).map fun s => { shard := s.1, sink := s.2 } }⟩

/-- Requests that are checked alike and make their sinks alike come to the same workers. -/
theorem Request.launch_congr {a b : Request} (checks : a.check = b.check) (opens : a.openDirectory = b.openDirectory)
    (sinks : a.newSink = b.newSink) : a.launch = b.launch := by
  have all (directory : Option String) (d : Disk) (shards : List Shard) :
      a.newSinks directory d shards = b.newSinks directory d shards := by
    induction shards generalizing d with
    | nil => rfl
    | cons shard rest ih => simp only [newSinks, sinks, ih]
  funext d
  simp only [launch, checks, opens, all]

/-- The workers of a pool are new, and the lines of each sink have a place of their own. -/
structure Pool.IsReady (p : Pool) (d : Disk) : Prop where
  new : ∀ w ∈ p.workers, w.IsNew
  stores : Stores d (p.workers.map (·.sink.store))

/-- Each shard has a new worker, with the sink that the request gives it, and the flag is down. -/
structure Launch.IsReady (l : Launch) (r : Request) (shards : List Shard) : Prop where
  pool : l.pool.IsReady l.disk
  shards : l.pool.workers.map (·.shard) = shards
  faults : ∀ w ∈ l.pool.workers, w.sink.closingFault = r.sinkFault w.shard
  down : l.pool.cancelled = false

section
variable {r : Request} {d : Disk} {l : Launch} {units : List String} {workers : Nat}

/-- Workers with new sinks are new. -/
theorem newWorkers {shards : List Shard} {sinks : List Sink}
    (fresh : List.Forall₂ (fun shard sink => sink.IsNew ∧ sink.closingFault = r.sinkFault shard) shards sinks) :
    ((shards.zip sinks).map fun s => ({ shard := s.1, sink := s.2 } : Worker)).map (·.shard) = shards ∧
      ((shards.zip sinks).map fun s => ({ shard := s.1, sink := s.2 } : Worker)).map (·.sink) = sinks ∧
      ∀ w ∈ (shards.zip sinks).map fun s => ({ shard := s.1, sink := s.2 } : Worker),
        w.IsNew ∧ w.sink.closingFault = r.sinkFault w.shard := by
  have same := fresh.length_eq
  refine ⟨?_, ?_, ?_⟩
  · rw [List.map_map]
    exact List.map_fst_zip (Nat.le_of_eq same)
  · rw [List.map_map]
    exact List.map_snd_zip (Nat.le_of_eq same.symm)
  · intro w member
    obtain ⟨⟨shard, sink⟩, inside, rfl⟩ := List.mem_map.mp member
    obtain ⟨new, fault⟩ := List.forall₂_zip fresh inside
    exact ⟨⟨rfl, new⟩, fault⟩

/-- What a batch that comes as far as its workers has done before. -/
theorem exists_sinks {shards : List Shard} (accepted : r.check = .ok (units, workers))
    (cut : partition units workers = .ok shards) (launched : r.launch d = some l) :
    ∃ between sinks, r.openDirectory d = (between, .ok l.directory) ∧
      r.newSinks l.directory between shards = (l.disk, .ok sinks) ∧
      l.pool = { size := workers, workers := (shards.zip sinks).map fun s => { shard := s.1, sink := s.2 } } := by
  simp only [Request.launch, accepted, cut] at launched
  rcases opened : r.openDirectory d with ⟨between, directory⟩
  simp only [opened] at launched
  cases directory with
  | error fault => cases launched
  | ok directory =>
    rcases made : r.newSinks directory between shards with ⟨after, sinks⟩
    simp only [made] at launched
    cases sinks with
    | error fault => cases launched
    | ok sinks =>
      cases launched
      exact ⟨between, sinks, rfl, made, rfl⟩

/-- A batch that comes as far as its workers is cut into shards, and each shard has its worker. -/
theorem ready_launch (given : r.GivesNewSinks) (accepted : r.check = .ok (units, workers))
    (launched : r.launch d = some l) :
    ∃ shards, partition units workers = .ok shards ∧ IsCut units workers shards ∧ l.IsReady r shards := by
  obtain ⟨shards, cut, whole⟩ := cut_partition units (Request.check_eq_ok accepted).2
  obtain ⟨between, sinks, -, made, pool⟩ := exists_sinks accepted cut launched
  obtain ⟨places, fresh⟩ := Request.newSinks_made given made
  obtain ⟨own, their, new⟩ := newWorkers fresh
  refine ⟨shards, cut, whole, ⟨?_, ?_⟩, ?_, ?_, ?_⟩ <;> rw [pool]
  · exact fun w member => (new w member).1
  · have stores := places.stores
    rw [← their, List.map_map] at stores
    exact stores
  · exact own
  · exact fun w member => (new w member).2

/-- A batch that comes as far as its workers goes on with them. -/
theorem runScheduled_of_launch (schedule : Pool → List Move) (accepted : r.check = .ok (units, workers))
    (launched : r.launch d = some l) :
    runScheduled schedule r d =
      work r l.directory l.disk [.pipelineStarted units.length workers] schedule l.pool := by
  obtain ⟨shards, cut, -⟩ := cut_partition units (Request.check_eq_ok accepted).2
  obtain ⟨between, sinks, opened, made, pool⟩ := exists_sinks accepted cut launched
  simp only [runScheduled, accepted, cut, runShards, opened, made, pool]

/-- A run with a result came as far as its workers. -/
theorem launch_of_done {schedule : Pool → List Move} {result : PipelineResult}
    (done : (runScheduled schedule r d).completion = .done result) : ∃ l, r.launch d = some l := by
  cases accepted : r.check with
  | error failure =>
    simp only [runScheduled, accepted] at done
    cases done
  | ok checked =>
    obtain ⟨units, workers⟩ := checked
    obtain ⟨shards, cut, -⟩ := cut_partition units (Request.check_eq_ok accepted).2
    simp only [runScheduled, accepted, cut, runShards] at done
    simp only [Request.launch, accepted, cut]
    rcases opened : r.openDirectory d with ⟨between, directory⟩
    simp only [opened] at done
    cases directory with
    | error fault => cases done
    | ok directory =>
      rcases made : r.newSinks directory between shards with ⟨after, sinks⟩
      simp only [made] at done ⊢
      cases sinks with
      | error fault => cases done
      | ok sinks => exact ⟨_, rfl⟩

/-! ## Coming to a result -/

/-- What a run with a result has done: its workers were joined, their sinks merged, and the report is in the file that it
was written to. -/
structure Completed (r : Request) (l : Launch) (p : Pool) (run : Run) (result : PipelineResult) : Prop where
  joined : ∃ q events, p.join r.joinTimeout = (q, events, .results result.workers) ∧
    merge (q.flush l.disk) (readable q.sinks) = .ok result.lines
  file : ∀ path, result.outputPath = some path → run.disk.contents path = .ok (reportBytes result.lines)

theorem publish_done {log : List Event} {calls lines : List String} {all : List WorkerResult} {result : PipelineResult}
    (done : (publish r d log calls lines all).completion = .done result) :
    result.lines = lines ∧ result.workers = all ∧ ∀ path, result.outputPath = some path →
      (publish r d log calls lines all).disk.contents path = .ok (reportBytes lines) := by
  cases empty : (r.outputPath.getD "").isEmpty with
  | true =>
    simp only [publish, empty, if_true, Completion.done.injEq] at done
    subst done
    exact ⟨rfl, rfl, fun path none_ => by cases none_⟩
  | false => cases written : (Report.write d lines (r.outputPath.getD "")).path with
    | error fault => simp [publish, empty, written] at done
    | ok absolute =>
      simp only [publish, empty, written, Bool.false_eq_true, if_false, Completion.done.injEq] at done
      subst done
      refine ⟨rfl, rfl, ?_⟩
      intro path same
      cases same
      simp only [publish, empty, written, Bool.false_eq_true, if_false]
      exact contents_write written

theorem mergeAndPublish_done {directory : Option String} {log : List Event} {p : Pool} {all : List WorkerResult}
    {result : PipelineResult} (done : (mergeAndPublish r directory d log p all).completion = .done result) :
    merge (p.flush d) (readable p.sinks) = .ok result.lines ∧ result.workers = all ∧
      ∀ path, result.outputPath = some path →
        (mergeAndPublish r directory d log p all).disk.contents path = .ok (reportBytes result.lines) := by
  unfold mergeAndPublish at done ⊢
  cases merged : merge (p.flush d) (readable p.sinks) with
  | error failure => simp [merged] at done
  | ok lines =>
    simp only [merged] at done ⊢
    obtain ⟨rfl, workers, file⟩ := publish_done done
    exact ⟨rfl, workers, file⟩

/-- A run with a result joined its workers and merged their sinks. -/
theorem completed_of_done {schedule : Pool → List Move} {result : PipelineResult}
    (accepted : r.check = .ok (units, workers)) (launched : r.launch d = some l)
    (done : (runScheduled schedule r d).completion = .done result) :
    Completed r l (l.pool.follow (fun _ => r.provider.analyze l.disk) (schedule l.pool)) (runScheduled schedule r d)
      result := by
  rw [runScheduled_of_launch schedule accepted launched] at done ⊢
  unfold work at done ⊢
  rcases joined : (l.pool.follow (fun _ => r.provider.analyze l.disk) (schedule l.pool)).join r.joinTimeout with
    ⟨q, events, outcome⟩
  simp only [joined] at done ⊢
  cases outcome with
  | results all =>
    obtain ⟨merged, rfl, file⟩ := mergeAndPublish_done done
    exact ⟨⟨q, events, joined, merged⟩, file⟩
  | failed failure =>
    simp only [giveUp] at done
    cases done
  | waiting => cases done

end

end GlobalSurvey.Batch
