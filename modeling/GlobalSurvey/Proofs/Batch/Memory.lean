import GlobalSurvey.Proofs.Batch.Breaking
import GlobalSurvey.Proofs.Batch.Leavings

/-!
# Batches that touch no file

A batch that keeps its sinks in memory, and whose report is not to be written, performs no operation on files. So it leaves
the disk as it is, however it ends (`IsInMemory.disk`), and there is no operation that it could break at
(`IsInMemory.unbroken`): without a limit to the time it comes to a result unless it goes on for ever
(`IsInMemory.done_or_waiting`).
-/
namespace GlobalSurvey.Batch
open GlobalSurvey.Files GlobalSurvey.Report

/-- The batch keeps its sinks in memory, and its report is not to be written. -/
structure Request.IsInMemory (r : Request) : Prop where
  memory : r.inMemorySinks = true
  nowhere : (r.outputPath.getD "").isEmpty = true
  given : r.GivesNewSinks

/-- Nothing that is left of a batch without a directory is on the disk. -/
theorem Lodged.eq_base {base after : Disk} {stores : List Store}
    (lodged : Lodged base none stores after) : after = base := by
  cases lodged with
  | memory all => rfl

namespace Request.IsInMemory

variable {r : Request} {d : Disk} {schedule : Pool → List Move} {units : List String} {workers : Nat}
  {shards : List Shard} {l : Launch}

theorem openDirectory (inMemory : r.IsInMemory) (d : Disk) : r.openDirectory d = (d, .ok none) := by
  simp [Request.openDirectory, inMemory.memory]

/-- The batch comes as far as its workers without a change to the disk, and has no directory for its sinks. -/
theorem launched (inMemory : r.IsInMemory) (accepted : r.check = .ok (units, workers)) (launched : r.launch d = some l) :
    l.disk = d ∧ l.directory = none ∧ Lodged d none (l.pool.workers.map (·.sink.store)) d := by
  obtain ⟨shards, cut, -⟩ := cut_partition units (Request.check_eq_ok accepted).2
  obtain ⟨between, sinks, opened, made, pool⟩ := exists_sinks accepted cut launched
  rw [inMemory.openDirectory] at opened
  obtain ⟨rfl, directory⟩ := Prod.mk.inj opened
  obtain none_ : none = l.directory := Except.ok.inj directory
  rw [← none_] at made
  obtain ⟨_, same, memory⟩ := Request.newSinks_memory inMemory.given d shards
  rw [made] at same
  obtain ⟨disk, sinks⟩ := Prod.mk.inj same
  cases sinks
  obtain ⟨-, fresh⟩ := Request.newSinks_made inMemory.given made
  obtain ⟨-, their, -⟩ := newWorkers fresh
  refine ⟨disk, none_.symm, .memory ?_⟩
  intro store member
  rw [pool] at member
  obtain ⟨w, inside, rfl⟩ := List.mem_map.mp member
  refine memory w.sink ?_
  rw [← their]
  exact List.mem_map_of_mem inside

/-! ## The disk -/

theorem course_disk (inMemory : r.IsInMemory) (accepted : r.check = .ok (units, workers)) {started : Event} {run : Run}
    (course : Course r d schedule shards started run) : run.disk = d := by
  cases course with
  | unopened opened =>
    rw [inMemory.openDirectory] at opened
    cases opened
  | unfurnished opened made =>
    rw [inMemory.openDirectory] at opened
    cases opened
    obtain ⟨_, fine, -⟩ := Request.newSinks_memory inMemory.given d shards
    rw [fine] at made
    cases made
  | waiting launched joined => exact (inMemory.launched accepted launched).1
  | gaveUp launched joined =>
    rename_i l q events failure
    obtain ⟨rfl, directory, lodged⟩ := inMemory.launched accepted launched
    obtain ⟨_, -, -, ready⟩ := ready_launch inMemory.given accepted launched
    have same := stores_of_join ready.pool.new joined []
    have still := stores_of_join ready.pool.new joined (.shut :: .release :: q.oneByOne)
    have vacated := vacated_giveUp (r := r) (q := q) lodged same still (started :: (q.log ++ events)) failure
    rw [directory]
    generalize (giveUp r none l.disk _ _ q failure).disk = after at vacated ⊢
    cases vacated with
    | kept keeps lodged => exact lodged.eq_base
    | gone keeps => rfl
  | published launched joined merged =>
    rename_i l q events results
    obtain ⟨rfl, directory, lodged⟩ := inMemory.launched accepted launched
    obtain ⟨_, -, -, ready⟩ := ready_launch inMemory.given accepted launched
    rw [← stores_of_join ready.pool.new joined []] at lodged
    have flushed := (Lodged.flush (p := q) lodged).eq_base
    simp only [publish, inMemory.nowhere, if_true, directory, closeDirectory]
    exact flushed

/-- The batch leaves the disk as it is. -/
theorem disk (inMemory : r.IsInMemory) (schedule : Pool → List Move) (d : Disk) : (runScheduled schedule r d).disk = d := by
  cases accepted : r.check with
  | error failure => simp only [runScheduled, accepted]
  | ok both =>
    obtain ⟨units, workers⟩ := both
    obtain ⟨shards, cut, -⟩ := cut_partition units (Request.check_eq_ok accepted).2
    exact inMemory.course_disk accepted (course_runScheduled inMemory.given accepted cut schedule)

/-! ## The end -/

/-- There is no operation on files that the batch could break at. -/
theorem unbroken (inMemory : r.IsInMemory) (fault : FileFault) : ¬ Breaks r d schedule shards fault := by
  intro breaks
  cases breaks with
  | directory opened =>
    rw [inMemory.openDirectory] at opened
    cases opened
  | sink opened made =>
    rw [inMemory.openDirectory] at opened
    cases opened
    obtain ⟨_, fine, -⟩ := Request.newSinks_memory inMemory.given d shards
    rw [fine] at made
    cases made
  | report launched ended nonempty fails => exact nonempty inMemory.nowhere

/-- Without a limit to the time, an accepted batch with calm calls comes to a result unless it goes on for ever. -/
theorem done_or_waiting (inMemory : r.IsInMemory) (closable : ∀ shard, r.sinkFault shard = none)
    (calm : ∀ d, IsCalm fun _ => r.provider.analyze d) (unlimited : r.joinTimeout = none)
    (accepted : r.check = .ok (units, workers)) (schedule : Pool → List Move) (d : Disk) :
    (runScheduled schedule r d).completion = .waiting ∨
      ∃ result, (runScheduled schedule r d).completion = .done result := by
  obtain ⟨shards, cut, -⟩ := cut_partition units (Request.check_eq_ok accepted).2
  exact done_or_waiting_of_unbroken inMemory.given closable calm unlimited accepted cut inMemory.unbroken

end Request.IsInMemory

end GlobalSurvey.Batch
