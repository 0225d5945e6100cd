import GlobalSurvey.Proofs.Batch.Gathering
import GlobalSurvey.Proofs.Batch.Lodging

/-!
# The course of a run

A batch that is accepted opens the directory of its sinks, makes them, lets the workers follow the schedule, joins them, and
then publishes their report or gives up. `course_runScheduled` lists the ways in which this goes; what is said about all
runs is said about each of them. The merge is not among the places where a run may fail.
-/
namespace GlobalSurvey.Batch
open GlobalSurvey.Files GlobalSurvey.Report

section
variable {r : Request} {d : Disk} {schedule : Pool → List Move} {units : List String} {workers : Nat}
  {shards : List Shard}

/-- How a run of an accepted batch goes that has logged its start. -/
inductive Course (r : Request) (d : Disk) (schedule : Pool → List Move) (shards : List Shard) (started : Event) :
    Run → Prop
  /-- There is no directory for the sinks. -/
  | unopened {base : Disk} {fault : FileFault} (opened : r.openDirectory d = (base, .error fault)) :
      Course r d schedule shards started ⟨.failed (.file fault), [started], base, []⟩
  /-- A sink cannot be made. -/
  | unfurnished {between after : Disk} {directory : Option String} {fault : FileFault}
      (opened : r.openDirectory d = (between, .ok directory))
      (made : r.newSinks directory between shards = (after, .error fault)) :
      Course r d schedule shards started
        ⟨.failed (.file fault), started :: (r.closeDirectory directory after).2, (r.closeDirectory directory after).1, []⟩
  /-- Workers are running, and there is no limit to the time. -/
  | waiting {l : Launch} {q : Pool} {events : List Event} (launched : r.launch d = some l)
      (joined : (l.pool.follow (fun _ => r.provider.analyze l.disk) (schedule l.pool)).join r.joinTimeout =
        (q, events, .waiting)) :
      Course r d schedule shards started ⟨.waiting, started :: (q.log ++ events), l.disk, q.calls⟩
  /-- The workers cannot be joined. -/
  | gaveUp {l : Launch} {q : Pool} {events : List Event} {failure : Failure} (launched : r.launch d = some l)
      (joined : (l.pool.follow (fun _ => r.provider.analyze l.disk) (schedule l.pool)).join r.joinTimeout =
        (q, events, .failed failure)) :
      Course r d schedule shards started
        (giveUp r l.directory l.disk (started :: (q.log ++ events)) (fun _ => r.provider.analyze l.disk) q failure)
  /-- The workers are joined, their sinks merged, and the report is published. -/
  | published {l : Launch} {q : Pool} {events : List Event} {results : List WorkerResult} (launched : r.launch d = some l)
      (joined : (l.pool.follow (fun _ => r.provider.analyze l.disk) (schedule l.pool)).join r.joinTimeout =
        (q, events, .results results))
      (merged : merge (q.flush l.disk) (readable q.sinks) = .ok (sortLines q.lines)) :
      Course r d schedule shards started
        (publish r (r.closeDirectory l.directory (q.flush l.disk)).1
          (started :: (q.log ++ events) ++ unreadableEvents q.sinks ++
            .sinksMerged (readable q.sinks).length (sortLines q.lines).length ::
              (r.closeDirectory l.directory (q.flush l.disk)).2)
          q.calls (sortLines q.lines) results)

/-- The pool that was joined is the pool that followed the schedule, but for the flag. -/
theorem workers_of_join {p q : Pool} {timeout : Option Number} {events : List Event} {outcome : Pool.Joined}
    (joined : p.join timeout = (q, events, outcome)) : q.workers = p.workers := by
  unfold Pool.join at joined
  split at joined
  · cases joined
    rfl
  · split at joined
    · cases joined
      rfl
    · cases joined
      rfl

theorem course_work {l : Launch} (given : r.GivesNewSinks) (accepted : r.check = .ok (units, workers))
    (launched : r.launch d = some l) (started : Event) :
    Course r d schedule shards started (work r l.directory l.disk [started] schedule l.pool) := by
  obtain ⟨others, -, -, ready⟩ := ready_launch given accepted launched
  unfold work
  rcases joined : (l.pool.follow (fun _ => r.provider.analyze l.disk) (schedule l.pool)).join r.joinTimeout with
    ⟨q, events, outcome⟩
  simp only [joined, List.singleton_append]
  cases outcome with
  | waiting => exact .waiting launched joined
  | failed failure => exact .gaveUp launched joined
  | results all =>
    have evolves : Pool.Evolves (fun _ => r.provider.analyze l.disk) (fun _ => True) l.pool.workers q.workers := by
      rw [workers_of_join joined]
      exact Pool.evolves_follow_any _ _ _
    have merged := Pool.merge_of_evolves ready.pool evolves
    simp only [mergeAndPublish, merged]
    exact .published launched joined merged

/-- Every run of an accepted batch goes in one of these ways. -/
theorem course_runScheduled (given : r.GivesNewSinks) (accepted : r.check = .ok (units, workers))
    (cut : partition units workers = .ok shards) (schedule : Pool → List Move) :
    Course r d schedule shards (.pipelineStarted units.length workers) (runScheduled schedule r d) := by
  cases launched : r.launch d with
  | some l =>
    rw [runScheduled_of_launch schedule accepted launched]
    exact course_work given accepted launched _
  | none =>
    simp only [Request.launch, accepted, cut] at launched
    simp only [runScheduled, accepted, cut, runShards]
    rcases opened : r.openDirectory d with ⟨between, directory⟩
    simp only [opened] at launched ⊢
    cases directory with
    | error fault => exact .unopened opened
    | ok directory =>
      rcases made : r.newSinks directory between shards with ⟨after, sinks⟩
      simp only [made] at launched ⊢
      cases sinks with
      | error fault => exact .unfurnished opened made
      | ok sinks => cases launched

/-- Publishing fails exactly if there is a report to write, and writing it fails. -/
theorem publish_eq_failed_iff {log : List Event} {calls lines : List String} {all : List WorkerResult}
    {failure : Failure} :
    (publish r d log calls lines all).completion = .failed failure ↔
      ¬ (r.outputPath.getD "").isEmpty = true ∧
        ∃ fault, failure = .file fault ∧ (write d lines (r.outputPath.getD "")).path = .error fault := by
  cases empty : (r.outputPath.getD "").isEmpty with
  | true => simp [publish, empty]
  | false =>
    cases written : (write d lines (r.outputPath.getD "")).path with
    | ok path => simp [publish, empty, written]
    | error fault => simp [publish, empty, written, eq_comm]

theorem publish_ne_waiting {log : List Event} {calls lines : List String} {all : List WorkerResult} :
    (publish r d log calls lines all).completion ≠ .waiting := by
  unfold publish
  simp only
  split
  · exact nofun
  · split <;> exact nofun

/-- An accepted batch fails only if a directory or a file cannot be made, if the time is over, or if a worker ends it. -/
theorem Course.failure {started : Event} {run : Run} (course : Course r d schedule shards started run)
    {failure : Failure} (failed : run.completion = .failed failure) :
    (∃ fault, failure = .file fault) ∨
      (∃ limit pending, r.joinTimeout = some limit ∧ failure = .joinTimeout limit pending) ∨ failure.escapes = true := by
  cases course with
  | unopened opened =>
    cases failed
    exact .inl ⟨_, rfl⟩
  | unfurnished opened made =>
    cases failed
    exact .inl ⟨_, rfl⟩
  | waiting launched joined => cases failed
  | gaveUp launched joined =>
    cases failed
    cases Pool.joinFails_of_join joined with
    | timeout limited running => exact .inr (.inl ⟨_, _, limited, rfl⟩)
    | escaped ended log ends =>
      obtain ⟨_, _, _, -, -, -, escapes⟩ := ends
      exact .inr (.inr escapes)
  | published launched joined merged =>
    obtain ⟨-, fault, same, -⟩ := publish_eq_failed_iff.mp failed
    exact .inl ⟨fault, same⟩

/-- Only a batch with workers that are still running fails because the time is over. -/
theorem Course.late {started : Event} {run : Run} (course : Course r d schedule shards started run) {limit : Number}
    {pending : Nat} (failed : run.completion = .failed (.joinTimeout limit pending)) :
    ∃ l, r.launch d = some l ∧ r.joinTimeout = some limit ∧
      (l.pool.follow (fun _ => r.provider.analyze l.disk) (schedule l.pool)).pending ≠ [] := by
  cases course with
  | unopened opened => cases failed
  | unfurnished opened made => cases failed
  | waiting launched joined => cases failed
  | gaveUp launched joined =>
    cases failed
    cases Pool.joinFails_of_join joined with
    | timeout limited running => exact ⟨_, launched, limited, running⟩
    | escaped ended log ends =>
      obtain ⟨_, _, _, -, -, -, escapes⟩ := ends
      cases escapes
  | published launched joined merged =>
    obtain ⟨-, _, impossible, -⟩ := publish_eq_failed_iff.mp failed
    cases impossible

/-- The words for the classes of failures of operations on files. -/
def fileKinds : List String :=
  ["FileNotFoundError", "FileExistsError", "NotADirectoryError", "IsADirectoryError", "OSError", "ValueError"]

theorem kind_of_file (fault : FileFault) : (Failure.file fault).kind ∈ fileKinds := by
  cases fault with
  | refused cause name =>
    have known : Failure.causeKind cause ∈ fileKinds := by cases cause <;> decide
    exact known
  | nullCharacter => decide

theorem kind_of_escapes {failure : Failure} (escapes : failure.escapes = true) : failure.kind ∈ Failure.stopWords := by
  cases failure with
  | raised kind message => exact List.contains_iff_mem.mp escapes
  | _ => cases escapes

/-- The word for the class of joins that fail because the time is over. -/
def timeoutKind : String := "JoinTimeoutError"

/-- The classes of the failures of accepted batches. -/
theorem Course.kind {started : Event} {run : Run} (course : Course r d schedule shards started run) {failure : Failure}
    (failed : run.completion = .failed failure) :
    failure.kind ∈ fileKinds ++ Failure.stopWords ∨ failure.kind = timeoutKind ∧ r.joinTimeout ≠ none := by
  rcases course.failure failed with ⟨fault, rfl⟩ | ⟨limit, pending, limited, rfl⟩ | escapes
  · exact .inl (List.mem_append_left _ (kind_of_file fault))
  · exact .inr ⟨rfl, by simp [limited]⟩
  · exact .inl (List.mem_append_right _ (kind_of_escapes escapes))

/-- A run with a limit to the time ends. -/
theorem Course.ends {started : Event} {run : Run} (course : Course r d schedule shards started run) {limit : Number}
    (limited : r.joinTimeout = some limit) : run.completion ≠ .waiting := by
  cases course with
  | unopened opened => exact nofun
  | unfurnished opened made => exact nofun
  | waiting launched joined =>
    have unlimited := Pool.unlimited_of_waiting joined
    rw [limited] at unlimited
    cases unlimited
  | gaveUp launched joined => exact nofun
  | published launched joined merged => exact publish_ne_waiting

end

/-! ## A batch with its sinks in files -/

/-- The batch of three units for two workers, with its sinks in files, a limit to the time and a report. -/
def filedRequest : Request :=
  { sampleRequest with inMemorySinks := false, joinTimeout := some (.int 5), outputPath := some "/report.txt" }

/-- The path of the directory of the sinks. -/
def filedPath : String := "/globscan-00000000"

/-- The location of the directory of the sinks. -/
def filedHome : Location := ["globscan-00000000"]

/-- A disk with nothing but the directory of the sinks, and some empty files in it. -/
def filedDisk (names : List String) : Disk := bareDisk.put filedHome (.directory (names.map fun name => (name, .file [])))

/-- A new sink in a file of the directory. -/
def filedSink (name : String) : Sink := { name, store := .file (joinPath filedPath name) (filedHome ++ [name]) }

/-- The batch when its workers begin. -/
def filedLaunch : Launch where
  disk := filedDisk ["threaded_output_0.txt", "threaded_output_1.txt"]
  directory := some filedPath
  pool :=
    { size := 2
      workers :=
        [{ shard := ⟨0, ["c"]⟩, sink := filedSink "threaded_output_0.txt" },
          { shard := ⟨1, ["b", "a"]⟩, sink := filedSink "threaded_output_1.txt" }] }

theorem vacancy_filed : bareDisk.Vacancy filedPath filedHome := by
  refine ⟨by decide, by decide, [], "globscan-00000000", rfl, ?_⟩
  have way : steps filedPath = ["globscan-00000000"] := by decide
  have named : IsName "globscan-00000000" := ⟨by decide, by decide, by decide⟩
  have nonempty : ¬ filedPath.isEmpty = true := by decide
  have short : ¬ pathLimit ≤ filedPath.utf8ByteSize := by decide
  simp only [Disk.resolve, way, if_neg short, if_neg nonempty]
  exact follow_absent rfl named rfl rfl

/-- The directory of the sinks is made in the directory for temporary files. -/
theorem openDirectory_bare {r : Request} (filed : r.inMemorySinks = false) (anywhere : r.shardDirectory = none) :
    r.openDirectory bareDisk = (filedDisk [], .ok (some filedPath)) := by
  have path : joinPath "/" ("globscan-" ++ Disk.freshName 0) = filedPath := by decide
  have fresh (tries : Nat) : bareDisk.makeFresh "/" "globscan-" tries 0 = .ok (filedDisk [], filedPath) := by
    have made := Disk.Vacancy.makeFresh (path ▸ vacancy_filed) (by decide) tries
    rwa [path] at made
  have parent : pathOf bareDisk.temporary = "/" := by decide
  simp only [Request.openDirectory, filed, anywhere, Option.getD_none, parent, Disk.makeFreshDirectory,
    Request.directoryStem]
  simp [fresh]

/-- The sinks of a batch are made one after the other. -/
theorem newSink_filed {r : Request} (shard : Shard) (names : List String) (name : String)
    (own : sinkName r.shardStem shard.index = name) (new : r.givenSink shard = none) (plain : IsEntryName name)
    (free : entry? name (names.map fun name => (name, Node.file [])) = none)
    (later : setEntry name (.file []) (names.map fun name => (name, Node.file [])) =
      (names ++ [name]).map fun name => (name, Node.file []))
    (clear : (joinPath filedPath name).toList.contains '\x00' = false)
    (short : ¬ (pathLimit ≤ (joinPath filedPath name).utf8ByteSize ∨ nameLimit < name.utf8ByteSize))
    (display : displayName (joinPath filedPath name) = name) :
    r.newSink (some filedPath) (filedDisk names) shard =
      .ok (filedDisk (names ++ [name]), { filedSink name with closingFault := r.closingFault shard }) := by
  have made := Request.newSink_entry (r := r) vacancy_filed own new plain free clear short
  rw [later, display] at made
  exact made

theorem launch_filed : filedRequest.launch bareDisk = some filedLaunch := by
  have accepted : filedRequest.check = .ok (["c", "b", "a"], 2) := rfl
  have cut : partition ["c", "b", "a"] (2 : Nat) = .ok [⟨0, ["c"]⟩, ⟨1, ["b", "a"]⟩] := rfl
  have first := newSink_filed (r := filedRequest) ⟨0, ["c"]⟩ [] "threaded_output_0.txt" (by decide) rfl
    ⟨by decide, by decide, by decide⟩ rfl rfl
    (by decide) (by decide) (by decide)
  have second := newSink_filed (r := filedRequest) ⟨1, ["b", "a"]⟩ ["threaded_output_0.txt"] "threaded_output_1.txt"
    (by decide) rfl ⟨by decide, by decide, by decide⟩ (by simp [entry?_cons, entry?]) (by simp [setEntry])
    (by decide) (by decide) (by decide)
  simp only [Request.launch, accepted, cut, openDirectory_bare (r := filedRequest) rfl rfl, Request.newSinks, first, second,
    List.nil_append]
  rfl

end GlobalSurvey.Batch
