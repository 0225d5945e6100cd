import GlobalSurvey.Proofs.Batch.Course
import GlobalSurvey.Proofs.Batch.Logging

/-!
# Runs that give up

A batch whose workers cannot be joined fails by what the joining failed by, and publishes nothing
(`failed_join_publishes_nothing`). Workers that are still running then go on to write to the files of their sinks, but
these are gone with their directory unless it is kept (`vacated_giveUp`).
-/
namespace GlobalSurvey.Batch
open GlobalSurvey.Files GlobalSurvey.Report

section
variable {r : Request} {base d : Disk} {directory : Option String} {stores : List Store} {units : List String}
  {workers : Nat} {l : Launch} {q : Pool}

/-! ## The disk afterwards -/

/-- What is left of the directory of the sinks: it is kept, or it is gone and the disk is as it was before. -/
inductive Vacated (r : Request) (base : Disk) (directory : Option String) (stores : List Store) : Disk → Prop
  | kept {d : Disk} (keeps : r.keepShards = true) (lodged : Lodged base directory stores d) :
      Vacated r base directory stores d
  | gone (keeps : r.keepShards = false) : Vacated r base directory stores base

/-- The directory is there at the end exactly if it is to be kept. -/
theorem Vacated.pathExists {path : String} {between after : Disk} (vacated : Vacated r base (some path) stores after)
    (lodged : Lodged base (some path) stores between) : after.pathExists path = r.keepShards := by
  cases vacated with
  | kept keeps lodged =>
    cases lodged with
    | directory entries vacancy inside => rw [vacancy.pathExists_put entries, keeps]
  | gone keeps =>
    cases lodged with
    | directory entries vacancy inside => rw [vacancy.pathExists_before, keeps]

/-- The content under a path is there at the end. -/
theorem Vacated.contents {after : Disk} (vacated : Vacated r base directory stores after) {path : String}
    {content : List UInt8} (held : base.contents path = .ok content) : after.contents path = .ok content := by
  cases vacated with
  | kept keeps lodged => exact lodged.contents held
  | gone keeps => exact held

/-- The files of a disk are those of an earlier one, but for files in a directory of sinks that is kept, where nothing
was. -/
def SameFiles (r : Request) (directory : Option String) (old new : Disk) : Prop :=
  ∀ location,
    (∀ content, new.root.get? location = some (.file content) ↔ old.root.get? location = some (.file content)) ∨
      ∃ path home, r.keepShards = true ∧ directory = some path ∧ old.root.get? home = none ∧
        new.resolve true path = .ok (.present home) ∧ home <+: location

theorem Vacated.sameFiles {after : Disk} (vacated : Vacated r base directory stores after)
    (changes : d.Changes r.IsAbove (fun _ => False) base) : SameFiles r directory d after := by
  intro location
  cases vacated with
  | gone keeps => exact .inl (changes.files not_false)
  | kept keeps lodged =>
    cases lodged with
    | memory all => exact .inl (changes.files not_false)
    | directory entries vacancy inside =>
      rename_i path home
      by_cases below : home <+: location
      · refine .inr ⟨path, home, keeps, rfl, ?_, vacancy.resolve_home true entries, below⟩
        cases before : d.root.get? home with
        | none => rfl
        | some node =>
          have still := changes.keeps.root home node before
          rw [(vacancy.keeps (.directory entries)).1] at still
          cases still
      · refine .inl fun content => ?_
        rw [← Disk.face?_file, base.face?_put_elsewhere (.directory entries) below, Disk.face?_file]
        exact changes.files not_false content

/-- A run that gives up keeps the directory of the sinks, with what the workers still write, or removes it. -/
theorem vacated_giveUp (lodged : Lodged base directory stores d) (same : q.workers.map (·.sink.store) = stores)
    {analyze : Nat → Capability} (still : (q.abandon analyze).workers.map (·.sink.store) = stores) (log : List Event)
    (failure : Failure) : Vacated r base directory stores (giveUp r directory d log analyze q failure).disk := by
  -- Lines reach the files twice: of the sinks that are finalized by now, and of the others once their workers end.
  have first : Lodged base directory stores (q.flush d) := by
    rw [← same] at lodged ⊢
    exact lodged.flush
  have closed := first.close (r := r)
  simp only [giveUp]
  cases keeps : r.keepShards with
  | true =>
    rw [closed, keeps, if_pos rfl]
    rw [← still] at first ⊢
    exact .kept keeps first.flush
  | false =>
    rw [closed, keeps, if_neg Bool.false_ne_true]
    rw [← still] at first
    rw [first.flush_gone]
    exact .gone keeps

/-- The workers that are joined keep the places of their sinks. -/
theorem stores_of_join {analyze : Nat → Capability} {schedule : List Move} {timeout : Option Number}
    {events : List Event} {outcome : Pool.Joined} (new : ∀ w ∈ l.pool.workers, w.IsNew)
    (joined : (l.pool.follow analyze schedule).join timeout = (q, events, outcome)) (more : List Move) :
    (q.follow analyze more).workers.map (·.sink.store) = l.pool.workers.map (·.sink.store) := by
  have evolves : Pool.Evolves analyze (fun _ => True) l.pool.workers q.workers := by
    rw [workers_of_join joined]
    exact Pool.evolves_follow_any _ _ _
  have on := evolves.trans (Pool.evolves_follow_any analyze q more)
  exact (Pool.keeps_of_progress (on.progress new)).2

/-! ## A join that fails -/

/-- What is logged when a join fails is not about a report. -/
theorem Pool.JoinFails.unpublished {p : Pool} {timeout : Option Number} {events : List Event} {failure : Failure}
    (fails : p.JoinFails timeout q events failure) : ∀ e ∈ events, e.publishes = false := by
  intro e member
  cases fails with
  | timeout limited running =>
    rw [List.mem_singleton.mp member]
    rfl
  | escaped ended log ends =>
    obtain ⟨_, _, rfl⟩ := log e member
    rfl

theorem closeDirectory_unpublished (r : Request) (directory : Option String) (d : Disk) :
    ∀ e ∈ (r.closeDirectory directory d).2, e.publishes = false := by
  intro e member
  cases directory with
  | none => cases member
  | some path =>
    cases keeps : r.keepShards with
    | true =>
      simp only [Request.closeDirectory, keeps, if_true, List.mem_singleton] at member
      rw [member]
      rfl
    | false => simp [Request.closeDirectory, keeps] at member

/-- A batch whose workers cannot be joined gives up. -/
theorem runScheduled_of_failed {schedule : Pool → List Move} {events : List Event} {failure : Failure}
    (accepted : r.check = .ok (units, workers)) (launched : r.launch d = some l)
    (joined : (l.pool.follow (fun _ => r.provider.analyze l.disk) (schedule l.pool)).join r.joinTimeout =
      (q, events, .failed failure)) :
    runScheduled schedule r d = giveUp r l.directory l.disk
      (.pipelineStarted units.length workers :: (q.log ++ events)) (fun _ => r.provider.analyze l.disk) q failure := by
  rw [runScheduled_of_launch schedule accepted launched]
  simp only [work, joined, List.cons_append, List.nil_append]

/-- If the names of the sinks are plain names a batch that gives up changes nothing but the directories that were asked for,
and the directory of the sinks, which is kept or gone. -/
theorem vacated_of_failed {schedule : Pool → List Move} {events : List Event} {failure : Failure}
    (given : r.GivesNewSinks) (whole : '/' ∉ r.shardStem.toList) (accepted : r.check = .ok (units, workers))
    (launched : r.launch d = some l)
    (joined : (l.pool.follow (fun _ => r.provider.analyze l.disk) (schedule l.pool)).join r.joinTimeout =
      (q, events, .failed failure)) :
    ∃ base, d.Changes r.IsAbove (fun _ => False) base ∧
      Lodged base l.directory (l.pool.workers.map (·.sink.store)) l.disk ∧
      Vacated r base l.directory (l.pool.workers.map (·.sink.store)) (runScheduled schedule r d).disk := by
  obtain ⟨_, -, -, ready⟩ := ready_launch given accepted launched
  obtain ⟨base, changes, lodged⟩ := lodged_launch given whole accepted launched fun _ => False
  have same := stores_of_join ready.pool.new joined []
  have still := stores_of_join ready.pool.new joined (.shut :: .release :: q.oneByOne)
  refine ⟨base, changes, lodged, ?_⟩
  rw [runScheduled_of_failed accepted launched joined]
  exact vacated_giveUp lodged same still _ failure

/-- A batch whose workers cannot be joined fails by what the joining fails by: the time is over and a number of workers is
still running, which then find the flag up, or all have ended and the first one that ends the batch ends it. Without a limit
to the time no run fails because the time is over. Nothing is merged or reported. If the names of the sinks are plain names
every file stays as it was, and nothing new is there but the directories that were asked for, and the directory of the sinks
if it is to be kept. -/
theorem failed_join_publishes_nothing (given : r.GivesNewSinks) (accepted : r.check = .ok (units, workers))
    (launched : r.launch d = some l) (schedule : Pool → List Move) {events : List Event} {failure : Failure}
    (joined : (l.pool.follow (fun _ => r.provider.analyze l.disk) (schedule l.pool)).join r.joinTimeout =
      (q, events, .failed failure)) :
    (runScheduled schedule r d).completion = .failed failure ∧
      (∀ e ∈ (runScheduled schedule r d).log, e.publishes = false) ∧
      (l.pool.follow (fun _ => r.provider.analyze l.disk) (schedule l.pool)).JoinFails r.joinTimeout q events failure ∧
      (r.joinTimeout = none → ∀ other fault, (runScheduled other r d).completion = .failed fault →
        fault.kind ≠ timeoutKind) ∧
      ('/' ∉ r.shardStem.toList →
        (∀ path content, d.contents path = .ok content → (runScheduled schedule r d).disk.contents path = .ok content) ∧
        (∃ base, d.Changes r.IsAbove (fun _ => False) base ∧
          Vacated r base l.directory (l.pool.workers.map (·.sink.store)) (runScheduled schedule r d).disk) ∧
        ∀ path, l.directory = some path → (runScheduled schedule r d).disk.pathExists path = r.keepShards) := by
  obtain ⟨shards, cut, -, ready⟩ := ready_launch given accepted launched
  have fails := Pool.joinFails_of_join joined
  have evolves : Pool.Evolves (fun _ => r.provider.analyze l.disk) (fun _ => True) l.pool.workers q.workers := by
    rw [workers_of_join joined]
    exact Pool.evolves_follow_any _ _ _
  have run := runScheduled_of_failed accepted launched joined
  refine ⟨?_, ?_, fails, ?_, ?_⟩
  · rw [run]
    rfl
  · rw [run]
    intro e member
    rcases List.mem_append.mp member with before | closing
    · rcases List.mem_cons.mp before with rfl | later
      · rfl
      · rcases List.mem_append.mp later with own | joining
        · exact Pool.log_unpublished ready.pool.new evolves e own
        · exact fails.unpublished e joining
    · exact closeDirectory_unpublished r _ _ e closing
  · intro unlimited other fault failed same
    rcases (course_runScheduled given accepted cut other).kind failed with known | ⟨-, limited⟩
    · rw [same] at known
      exact absurd known (by decide)
    · exact limited unlimited
  · intro whole
    obtain ⟨base, changes, lodged, vacated⟩ := vacated_of_failed given whole accepted launched joined
    refine ⟨?_, ⟨base, changes, vacated⟩, ?_⟩
    · intro path content held
      exact vacated.contents (changes.contents held fun _ _ => id)
    · intro path own
      rw [own] at lodged vacated
      exact vacated.pathExists lodged

end

theorem late_batch_publishes_nothing :
    filedRequest.launch bareDisk = some filedLaunch ∧ '/' ∉ filedRequest.shardStem.toList ∧
      (runScheduled (fun _ => []) filedRequest bareDisk).completion = .failed (.joinTimeout (.int 5) 2) ∧
      (∀ e ∈ (runScheduled (fun _ => []) filedRequest bareDisk).log, e.publishes = false) ∧
      bareDisk.Changes filedRequest.IsAbove (fun _ => False) (runScheduled (fun _ => []) filedRequest bareDisk).disk ∧
      (runScheduled (fun _ => []) filedRequest bareDisk).disk.pathExists filedPath = false := by
  have given : filedRequest.GivesNewSinks := fun _ _ none_ => by cases none_
  have accepted : filedRequest.check = .ok (["c", "b", "a"], 2) := rfl
  have whole : '/' ∉ filedRequest.shardStem.toList := by decide +kernel
  have joined := Pool.join_of_running (p := filedLaunch.pool) (by decide +kernel) (.int 5)
  obtain ⟨failed, unpublished, -, -, files⟩ :=
    failed_join_publishes_nothing given accepted launch_filed (fun _ => []) joined
  obtain ⟨-, ⟨base, changes, vacated⟩, gone⟩ := files whole
  refine ⟨launch_filed, whole, failed, unpublished, ?_, gone filedPath rfl⟩
  cases vacated with
  | kept keeps lodged => cases keeps
  | gone keeps => exact changes

/-! ## Workers that have not begun -/

theorem Pool.move_idle {p : Pool} (shut : p.shut = true) (idle : ∀ w ∈ p.workers, w.hasBegun = false)
    (analyze : Nat → Capability) (position : Nat) : p.move analyze (.step position) = p := by
  cases there : p.workers[position]? with
  | none => simp only [move, there]
  | some w =>
    have never : p.mayStep position w = false := by
      simp [mayStep, shut, idle w (List.mem_of_getElem? there)]
    simp only [move, there, never, Bool.false_eq_true, if_false]

theorem Pool.follow_idle {p : Pool} (shut : p.shut = true) (idle : ∀ w ∈ p.workers, w.hasBegun = false)
    (analyze : Nat → Capability) {moves : List Move} (steps : ∀ m ∈ moves, ∃ position, m = .step position) :
    p.follow analyze moves = p := by
  induction moves with
  | nil => rfl
  | cons m rest ih =>
    obtain ⟨position, rfl⟩ := steps m List.mem_cons_self
    rw [follow, List.foldl_cons, move_idle shut idle]
    exact ih fun other member => steps other (List.mem_cons_of_mem _ member)

/-- Workers that have not begun when their pool is left never do. -/
theorem Pool.abandon_idle {p : Pool} (idle : ∀ w ∈ p.workers, w.hasBegun = false) (analyze : Nat → Capability) :
    p.abandon analyze = { p with shut := true, released := true } := by
  let left : Pool := { p with shut := true, released := true }
  have same : left.follow analyze p.oneByOne = left := by
    refine Pool.follow_idle (p := left) rfl idle analyze fun m member => ?_
    obtain ⟨position, -, inside⟩ := List.mem_flatMap.mp member
    exact ⟨position, List.eq_of_mem_replicate inside⟩
  exact same

/-! ## Names that lead out of the directory -/

/-- A batch of one unit for one worker, whose sink gets a name that leads out of the directory of the sinks. -/
def strayRequest : Request :=
  { filedRequest with
    units := .list [.str "a"]
    workers := .int 1
    outputPath := some "/report0.txt"
    shardStem := "../report" }

theorem make_stray : (filedDisk []).make "/globscan-00000000/../report0.txt" =
    .ok ((filedDisk []).put ["report0.txt"] (.file []), ["report0.txt"]) := by
  have way : steps "/globscan-00000000/../report0.txt" = ["globscan-00000000", "..", "report0.txt"] := by decide
  have first : IsName "globscan-00000000" := ⟨by decide, by decide, by decide⟩
  have last : IsName "report0.txt" := ⟨by decide, by decide, by decide⟩
  have free : (filedDisk []).resolve false "/globscan-00000000/../report0.txt" = .ok (.absent [] "report0.txt") := by
    rw [Disk.resolve, if_neg (by decide), if_neg (by decide), if_pos (by decide), way]
    rw [follow_node rfl first rfl (by simp), follow_up rfl]
    exact follow_absent rfl last rfl rfl
  have open_ : ¬ "/globscan-00000000/../report0.txt".toList.getLast? = some '/' := by decide
  refine Disk.checked_eq_ok.mpr ⟨by decide, ?_⟩
  rw [if_neg open_, free]
  rfl

/-- The batch when its worker begins. -/
def strayLaunch : Launch where
  disk := (filedDisk []).put ["report0.txt"] (.file [])
  directory := some filedPath
  pool :=
    { size := 1
      workers :=
        [{ shard := ⟨0, ["a"]⟩
           sink := { name := "report0.txt", store := .file "/globscan-00000000/../report0.txt" ["report0.txt"] } }] }

theorem launch_stray : strayRequest.launch bareDisk = some strayLaunch := by
  have accepted : strayRequest.check = .ok (["a"], 1) := rfl
  have cut : partition ["a"] (1 : Nat) = .ok [⟨0, ["a"]⟩] := rfl
  have path : joinPath filedPath (sinkName strayRequest.shardStem 0) = "/globscan-00000000/../report0.txt" := by
    decide
  have made : strayRequest.newSink (some filedPath) (filedDisk []) ⟨0, ["a"]⟩ =
      .ok (strayLaunch.disk,
        { name := "report0.txt", store := .file "/globscan-00000000/../report0.txt" ["report0.txt"] }) := by
    have new : strayRequest.givenSink ⟨0, ["a"]⟩ = none := rfl
    have display : displayName "/globscan-00000000/../report0.txt" = "report0.txt" := by decide
    unfold Request.newSink
    simp only [new, path, Sink.inFile, make_stray, display]
    rfl
  simp only [Request.launch, accepted, cut, openDirectory_bare (r := strayRequest) rfl rfl, Request.newSinks, made]
  rfl

/-- The file of the sink stays when the directory of the sinks is removed. -/
theorem discard_stray : strayLaunch.disk.discard filedPath = ⟨.directory [("report0.txt", .file [])], [], []⟩ := by
  have first : IsName "globscan-00000000" := ⟨by decide, by decide, by decide⟩
  have home : strayLaunch.disk.resolve false filedPath = .ok (.present filedHome) := by
    have way : steps filedPath = ["globscan-00000000"] := by decide
    rw [Disk.resolve, if_neg (by decide), if_neg (by decide), if_pos (by decide), way]
    rw [follow_node rfl first rfl (by simp), follow_nil]
    rfl
  rw [Disk.discard, home]
  rfl

/-- A request that comes to this batch, with a limit to the time, leaves the file of the sink behind when it fails. -/
theorem late_stray {r : Request} {limit : Number} (accepted : r.check = .ok (["a"], 1))
    (launched : r.launch bareDisk = some strayLaunch) (limited : r.joinTimeout = some limit)
    (removes : r.keepShards = false) :
    (runScheduled (fun _ => []) r bareDisk).completion = .failed (.joinTimeout limit 1) ∧
      (runScheduled (fun _ => []) r bareDisk).disk.root.get? ["report0.txt"] = some (.file []) := by
  have joined := Pool.join_of_running (p := strayLaunch.pool) (by decide) limit
  rw [runScheduled_of_launch _ accepted launched]
  refine ⟨?_, ?_⟩
  · simp only [work, Pool.follow_nil, limited, joined, giveUp]
    rfl
  · have removed : (r.closeDirectory (some filedPath) strayLaunch.disk).1 =
        ⟨.directory [("report0.txt", .file [])], [], []⟩ := by
      simp only [Request.closeDirectory, removes, Bool.false_eq_true, if_false, discard_stray]
    have unfinished : ({ strayLaunch.pool with cancelled := true } : Pool).flush strayLaunch.disk = strayLaunch.disk := rfl
    simp only [work, Pool.follow_nil, limited, joined, giveUp, unfinished]
    rw [Pool.abandon_idle (by decide)]
    change (r.closeDirectory (some filedPath) strayLaunch.disk).1.root.get? _ = _
    rw [removed]
    rfl

/-- The batch fails because the time is over, but there is a file at the path of the report, where none was before. -/
theorem stray_sink_stays :
    (runScheduled (fun _ => []) strayRequest bareDisk).completion = .failed (.joinTimeout (.int 5) 1) ∧
      strayRequest.outputPath = some "/report0.txt" ∧ bareDisk.root.get? ["report0.txt"] = none ∧
      (runScheduled (fun _ => []) strayRequest bareDisk).disk.root.get? ["report0.txt"] = some (.file []) := by
  have accepted : strayRequest.check = .ok (["a"], 1) := rfl
  obtain ⟨failed, left⟩ := late_stray accepted launch_stray rfl rfl
  exact ⟨failed, rfl, rfl, left⟩

end GlobalSurvey.Batch
