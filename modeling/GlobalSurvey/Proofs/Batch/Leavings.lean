import GlobalSurvey.Proofs.Batch.GivingUp

/-!
# What a run leaves on the disk

However a run ends, the disk is as it was with the directory that was asked for, or this disk with the report written to it
(`Course.leaving`). So the directory of the sinks is gone, and nothing has changed but the place of the report and the
directories above the two (`nothing_outlives_run`).
-/
namespace GlobalSurvey.Report
open GlobalSurvey.Files

/-- The absolute path of a report. -/
def reportPath (d : Disk) (path : String) : String := absolutePath (pathOf d.working) path

/-- The path that is given back for a report is its absolute path. -/
theorem path_write {d : Disk} {lines : List String} {path absolute : String}
    (written : (write d lines path).path = .ok absolute) : absolute = reportPath d path := by
  unfold write at written
  simp only at written
  split at written
  · cases written
  · split at written
    · cases written
      rfl
    · cases written

/-- Writing a report changes its own place only, and adds directories above it. -/
theorem changes_write (d : Disk) (lines : List String) (path : String) :
    d.Changes (IsHead (directoryOf (reportPath d path)))
      (fun location => (write d lines path).disk.resolve true (reportPath d path) = .ok (.present location))
      (write d lines path).disk := by
  have above := Disk.changes_makePath d (directoryOf (reportPath d path))
  unfold write
  unfold reportPath at above ⊢
  rcases made : d.makePath (directoryOf (absolutePath (pathOf d.working) path)) with ⟨between, fault⟩
  simp only [made] at above ⊢
  cases fault with
  | some fault => exact above _
  | none =>
    simp only
    cases stored : between.store (absolutePath (pathOf d.working) path) (Text.Utf8.encode (render lines).toList) with
    | error fault => exact above _
    | ok after => exact (above _).trans (Disk.changes_store _ stored)

end GlobalSurvey.Report

namespace GlobalSurvey.Batch
open GlobalSurvey.Files GlobalSurvey.Report

section
variable {r : Request} {base d : Disk} {units : List String} {workers : Nat} {shards : List Shard}

/-- The absolute path of the report, if it is to be written. -/
def Request.report? (r : Request) (d : Disk) : Option String :=
  if (r.outputPath.getD "").isEmpty then none else some (reportPath d (r.outputPath.getD ""))

/-- A path to the directory that is asked for, to the directory of the report, or to one above them. -/
def Request.IsAround (r : Request) (d : Disk) (head : String) : Prop :=
  r.IsAbove head ∨ ∃ report, r.report? d = some report ∧ IsHead (directoryOf report) head

/-- The location of the report on a disk. -/
def Request.IsReportAt (r : Request) (before after : Disk) (location : Location) : Prop :=
  ∃ report, r.report? before = some report ∧ after.resolve true report = .ok (.present location)

/-! ## After the directory of the sinks was removed -/

/-- The disk at the end of a run: the disk without the directory of the sinks, with the report or without it. -/
inductive Leaving (r : Request) (base : Disk) : Disk → Prop
  | bare : Leaving r base base
  | written (lines : List String) (nonempty : ¬ (r.outputPath.getD "").isEmpty = true) :
      Leaving r base (write base lines (r.outputPath.getD "")).disk

theorem leaving_publish (r : Request) (base : Disk) (log : List Event) (calls lines : List String)
    (results : List WorkerResult) : Leaving r base (publish r base log calls lines results).disk := by
  by_cases empty : (r.outputPath.getD "").isEmpty = true
  · simp only [publish, if_pos empty]
    exact .bare
  · have after : (publish r base log calls lines results).disk = (write base lines (r.outputPath.getD "")).disk := by
      simp only [publish, if_neg empty]
      generalize write base lines (r.outputPath.getD "") = written
      cases written.path <;> rfl
    rw [after]
    exact .written lines empty

/-- The directory of the sinks was made where nothing was. -/
def MadeFresh (r : Request) (d base : Disk) : Prop :=
  ∀ between path, r.openDirectory d = (between, .ok (some path)) → ∃ home, base.Vacancy path home

theorem madeFresh_of_lodged {between after : Disk} {directory : Option String} {stores : List Store}
    (opened : r.openDirectory d = (between, .ok directory)) (lodged : Lodged base directory stores after) :
    MadeFresh r d base := by
  intro other path again
  rw [opened] at again
  cases again
  cases lodged with
  | directory entries vacancy inside => exact ⟨_, vacancy⟩

/-- A batch that comes as far as its workers has changed nothing but the directory of its sinks, which is new, and those
above it. -/
theorem madeFresh_launch {l : Launch} (given : r.GivesNewSinks) (whole : '/' ∉ r.shardStem.toList)
    (accepted : r.check = .ok (units, workers)) (cut : partition units workers = .ok shards)
    (launched : r.launch d = some l) (open_ : Location → Prop) :
    ∃ base, d.Changes r.IsAbove open_ base ∧ MadeFresh r d base ∧
      Lodged base l.directory (l.pool.workers.map (·.sink.store)) l.disk := by
  obtain ⟨between, sinks, opened, -, -⟩ := exists_sinks accepted cut launched
  obtain ⟨base, changes, lodged⟩ := lodged_launch given whole accepted launched open_
  exact ⟨base, changes, madeFresh_of_lodged opened lodged, lodged⟩

/-- However a run ends, it leaves the disk with the directories above the directory of the sinks, and the report. -/
theorem Course.leaving {schedule : Pool → List Move} {started : Event} {run : Run} (given : r.GivesNewSinks)
    (whole : '/' ∉ r.shardStem.toList) (accepted : r.check = .ok (units, workers))
    (cut : partition units workers = .ok shards) (removes : r.keepShards = false)
    (course : Course r d schedule shards started run) (ends : run.completion ≠ .waiting) (open_ : Location → Prop) :
    ∃ base, d.Changes r.IsAbove open_ base ∧ MadeFresh r d base ∧ Leaving r base run.disk := by
  cases course with
  | unopened opened =>
    obtain ⟨base, changes, own⟩ := Request.opened_openDirectory r d open_
    rw [opened] at own
    cases own
    refine ⟨_, changes, ?_, .bare⟩
    intro between path other
    rw [opened] at other
    cases other
  | unfurnished opened made =>
    obtain ⟨_, same, slices⟩ := cut_partition units (Request.check_eq_ok accepted).2
    rw [cut] at same
    cases same
    obtain ⟨base, changes, own⟩ := Request.opened_openDirectory r d open_
    rw [opened] at own
    rcases lodged_newSinks given whole slices own made with ⟨_, impossible, -⟩ | ⟨fault, -, -, lodged⟩
    · cases impossible
    · refine ⟨base, changes, madeFresh_of_lodged opened lodged, ?_⟩
      have closed := lodged.close (r := r)
      rw [removes, if_neg Bool.false_ne_true] at closed
      simp only [closed]
      exact .bare
  | waiting launched joined => exact absurd rfl ends
  | gaveUp launched joined =>
    rename_i l q events failure
    obtain ⟨base, changes, fresh, lodged⟩ := madeFresh_launch given whole accepted cut launched open_
    obtain ⟨_, -, -, ready⟩ := ready_launch given accepted launched
    have same := stores_of_join ready.pool.new joined []
    have still := stores_of_join ready.pool.new joined (.shut :: .release :: q.oneByOne)
    have vacated := vacated_giveUp (r := r) (q := q) lodged same still (started :: (q.log ++ events)) failure
    refine ⟨base, changes, fresh, ?_⟩
    generalize (giveUp r l.directory l.disk _ _ q failure).disk = after at vacated ⊢
    cases vacated with
    | kept keeps lodged =>
      rw [removes] at keeps
      cases keeps
    | gone keeps => exact .bare
  | published launched joined merged =>
    rename_i l q events results
    obtain ⟨base, changes, fresh, lodged⟩ := madeFresh_launch given whole accepted cut launched open_
    obtain ⟨_, -, -, ready⟩ := ready_launch given accepted launched
    rw [← stores_of_join ready.pool.new joined []] at lodged
    have closed := (Lodged.flush (p := q) lodged).close (r := r)
    rw [removes, if_neg Bool.false_ne_true] at closed
    refine ⟨base, changes, fresh, ?_⟩
    rw [closed]
    exact leaving_publish r base _ _ _ _

/-! ## The end of a run -/

/-- However a run of an accepted batch ends, if it ends and the directory of the sinks is not to be kept: nothing on the disk
has changed but the place of the report, and new directories that are asked for, or above it or the report. There is nothing
under the path of the directory of the sinks, unless the report was written there or below it. -/
theorem nothing_outlives_run (given : r.GivesNewSinks) (whole : '/' ∉ r.shardStem.toList)
    (accepted : r.check = .ok (units, workers)) (removes : r.keepShards = false) (schedule : Pool → List Move)
    (ends : (runScheduled schedule r d).completion ≠ .waiting) :
    d.Changes (r.IsAround d) (r.IsReportAt d (runScheduled schedule r d).disk) (runScheduled schedule r d).disk ∧
      ∀ between path, r.openDirectory d = (between, .ok (some path)) →
        (runScheduled schedule r d).disk.pathExists path = false ∨
          ∃ report head location, r.report? d = some report ∧ IsHead report head ∧
            (runScheduled schedule r d).disk.resolve true head = .ok (.present location) ∧
            (runScheduled schedule r d).disk.resolve true path = .ok (.present location) := by
  obtain ⟨shards, cut, -⟩ := cut_partition units (Request.check_eq_ok accepted).2
  have course := course_runScheduled (d := d) given accepted cut schedule
  generalize runScheduled schedule r d = run at course ends ⊢
  obtain ⟨base, changes, fresh, leaving⟩ :=
    course.leaving given whole accepted cut removes ends (r.IsReportAt d run.disk)
  have around : d.Changes (r.IsAround d) (r.IsReportAt d run.disk) base :=
    changes.mono (fun _ above => .inl above) fun _ inside => inside
  generalize run.disk = after at around leaving ⊢
  cases leaving with
  | bare =>
    refine ⟨around, ?_⟩
    intro between path opened
    obtain ⟨home, vacancy⟩ := fresh between path opened
    exact .inl vacancy.pathExists_before
  | written lines nonempty =>
    have report : r.report? d = some (reportPath base (r.outputPath.getD "")) := by
      rw [Request.report?, if_neg nonempty, reportPath, reportPath, changes.keeps.working]
    -- The report is written after the directory of the sinks was removed, so the two changes are one after the other.
    have stored := changes_write base lines (r.outputPath.getD "")
    refine ⟨around.trans (stored.mono ?_ ?_), ?_⟩
    · exact fun head above => .inr ⟨_, report, above⟩
    · exact fun location inside => ⟨_, report, inside⟩
    · intro between path opened
      obtain ⟨home, vacancy⟩ := fresh between path opened
      rcases stored.vacant vacancy with nothing | ⟨head, isHead, leads, there⟩
      · exact .inl nothing
      · exact .inr ⟨_, head, home, report, isHead, leads, there⟩

end

theorem filed_batch_leaves_report :
    filedRequest.openDirectory bareDisk = (filedDisk [], .ok (some filedPath)) ∧
      filedRequest.report? bareDisk = some "/report.txt" ∧ ∀ schedule,
        bareDisk.Changes (filedRequest.IsAround bareDisk)
          (filedRequest.IsReportAt bareDisk (runScheduled schedule filedRequest bareDisk).disk)
          (runScheduled schedule filedRequest bareDisk).disk ∧
        ((runScheduled schedule filedRequest bareDisk).disk.pathExists filedPath = false ∨
          ∃ report head location, filedRequest.report? bareDisk = some report ∧ IsHead report head ∧
            (runScheduled schedule filedRequest bareDisk).disk.resolve true head = .ok (.present location) ∧
            (runScheduled schedule filedRequest bareDisk).disk.resolve true filedPath = .ok (.present location)) := by
  have given : filedRequest.GivesNewSinks := fun _ _ none_ => by cases none_
  have accepted : filedRequest.check = .ok (["c", "b", "a"], 2) := rfl
  have opened := openDirectory_bare (r := filedRequest) rfl rfl
  refine ⟨opened, by decide +kernel, ?_⟩
  intro schedule
  have ends := (course_runScheduled (d := bareDisk) given accepted rfl schedule).ends rfl
  obtain ⟨changes, gone⟩ := nothing_outlives_run given (by decide +kernel) accepted rfl schedule ends
  exact ⟨changes, gone _ _ opened⟩

end GlobalSurvey.Batch
