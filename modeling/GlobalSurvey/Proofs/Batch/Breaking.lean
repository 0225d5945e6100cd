import GlobalSurvey.Proofs.Batch.Course
import GlobalSurvey.Proofs.Batch.Ending

/-!
# What a batch can break at

A batch without a limit to the time, whose calls do not wait, ends as soon as its workers have come up often enough
(`exists_end_of_fair`, `ends_run`). If no call fails by a failure that escapes, and all sinks can be closed, it fails exactly
if one of its operations on files does (`failed_iff_breaks`).
-/
namespace GlobalSurvey.Batch
open GlobalSurvey.Files GlobalSurvey.Report

/-! ## Failures that escape -/

/-- No call fails by a failure that escapes. -/
def IsCalm (analyze : Nat → Capability) : Prop :=
  ∀ call unit failure, (analyze call unit).outcome = .failed failure → failure.escapes = false

namespace Ledger

variable {analyze : Nat → Capability}

theorem calm_enter {l : Ledger} (stays : ∀ failure, l.stopped = some failure → failure.escapes = false) (index : Int)
    (unit : String) {outcome : Outcome} (calm : ∀ failure, outcome = .failed failure → failure.escapes = false) :
    ∀ failure, (l.enter index unit outcome).stopped = some failure → failure.escapes = false := by
  intro failure stopped
  cases outcome with
  | facts all =>
    simp only [enter] at stopped
    split at stopped
    · unfold commit at stopped
      split at stopped
      · exact stays failure stopped
      · cases stopped
        rfl
    · exact stays failure stopped
  | rejected reason => exact stays failure stopped
  | failed other =>
    cases stopped
    exact calm _ rfl

/-- If no call fails by a failure that escapes the work is not stopped by one. -/
theorem calm_enterAll (calm : IsCalm analyze) (index : Int) {l : Ledger}
    (stays : ∀ failure, l.stopped = some failure → failure.escapes = false) (call : Nat) (units : List String) :
    ∀ failure, (enterAll analyze index call l units).stopped = some failure → failure.escapes = false := by
  induction units generalizing l call with
  | nil => exact stays
  | cons unit rest ih =>
    cases stopped : l.stopped with
    | some failure =>
      rw [enterAll_stopped (by simp [stopped])]
      exact stays
    | none =>
      rw [enterAll_cons stopped]
      exact ih (calm_enter stays index unit (calm call unit)) (call + 1)

end Ledger

/-- If no call fails by a failure that escapes no such failure stops a worker. -/
theorem Worker.Settled.calm {analyze : Nat → Capability} {shard : Shard} {sink : Report.Sink} {w : Worker}
    (settled : Settled analyze shard sink w) (calm : IsCalm analyze) {failure : Failure}
    (stopped : w.stopped = some failure) : failure.escapes = false := by
  rw [settled.stopped] at stopped
  exact Ledger.calm_enterAll calm shard.index (fun _ none_ => by cases none_) 0 w.called failure stopped

/-- A worker whose calls are calm, and whose sink can be closed, does not end the batch. -/
theorem Worker.Progress.stays {analyze : Nat → Capability} {shard : Shard} {sink : Report.Sink} {w : Worker}
    (progress : Progress analyze shard sink w) (calm : IsCalm analyze) (closable : w.sink.closingFault = none) :
    w.endsBatch = false := by
  unfold endsBatch
  split
  · rename_i failure stage
    obtain ⟨settled, closed, -⟩ := progress.closed stage
    cases closed with
    | faulty failure unfinished fault =>
      rw [closable] at fault
      cases fault
    | escaped failure finalized stopped escapes => exact settled.calm calm stopped
  · rfl

/-- No worker of a batch ends it if the calls are calm and the sinks can be closed. -/
theorem Launch.IsReady.stay {r : Request} {l : Launch} {shards : List Shard} {analyze : Nat → Capability}
    (ready : l.IsReady r shards) (closable : ∀ shard, r.sinkFault shard = none) (calm : IsCalm analyze) (moves : List Move) :
    ∀ v ∈ (l.pool.follow analyze moves).workers, v.endsBatch = false := by
  intro v member
  have evolves := Pool.evolves_follow_any analyze l.pool moves
  obtain ⟨w, inside, progress⟩ := Pool.exists_start (evolves.progress ready.pool.new) member
  refine progress.stays calm ?_
  rw [progress.keeps.closingFault, ready.faults w inside, closable]

/-! ## Joining without a limit -/

theorem Pool.join_unlimited {p : Pool} (running : ¬ ∀ v ∈ p.workers, v.hasEnded = true) :
    p.join none = (p, [], .waiting) := by
  have some_ : ¬ p.pending.isEmpty = true := by simpa [pending] using running
  simp only [join, if_neg some_]

theorem Pool.join_ne_waiting {p q : Pool} (ended : ∀ v ∈ p.workers, v.hasEnded = true) {timeout : Option Number}
    {events : List Event} : p.join timeout ≠ (q, events, .waiting) := by
  have none_ : p.pending.isEmpty = true := by simpa [pending] using ended
  intro joined
  simp only [join, if_pos none_] at joined
  cases outcome : (results (inOrder p.workers)).2 <;> simp [outcome] at joined

/-! ## Operations on files -/

section
variable {r : Request} {d : Disk} {schedule : Pool → List Move} {units : List String} {workers : Nat}
  {shards : List Shard}

/-- The pool of a batch when it is joined. -/
def Request.joined (r : Request) (schedule : Pool → List Move) (l : Launch) : Pool :=
  l.pool.follow (fun _ => r.provider.analyze l.disk) (schedule l.pool)

/-- An operation on files that a batch relies on fails. -/
inductive Breaks (r : Request) (d : Disk) (schedule : Pool → List Move) (shards : List Shard) : FileFault → Prop
  /-- The directory of the sinks cannot be made. -/
  | directory {after : Disk} {fault : FileFault} (opened : r.openDirectory d = (after, .error fault)) :
      Breaks r d schedule shards fault
  /-- The file of a sink cannot be made. -/
  | sink {between after : Disk} {directory : Option String} {fault : FileFault}
      (opened : r.openDirectory d = (between, .ok directory))
      (made : r.newSinks directory between shards = (after, .error fault)) : Breaks r d schedule shards fault
  /-- The report cannot be written, after all workers have ended. -/
  | report {l : Launch} {fault : FileFault} (launched : r.launch d = some l)
      (ended : ∀ v ∈ (r.joined schedule l).workers, v.hasEnded = true)
      (nonempty : ¬ (r.outputPath.getD "").isEmpty = true)
      (fails : (write (r.closeDirectory l.directory ((r.joined schedule l).flush l.disk)).1
        (sortLines (r.joined schedule l).lines) (r.outputPath.getD "")).path = .error fault) :
      Breaks r d schedule shards fault

/-- A batch with calm calls and without a limit to the time fails exactly if one of its operations on files does. -/
theorem failed_iff_breaks (given : r.GivesNewSinks) (closable : ∀ shard, r.sinkFault shard = none)
    (calm : ∀ d, IsCalm fun _ => r.provider.analyze d) (unlimited : r.joinTimeout = none)
    (accepted : r.check = .ok (units, workers)) (cut : partition units workers = .ok shards)
    (schedule : Pool → List Move) (failure : Failure) :
    (runScheduled schedule r d).completion = .failed failure ↔
      ∃ fault, failure = .file fault ∧ Breaks r d schedule shards fault := by
  have course := course_runScheduled (d := d) given accepted cut schedule
  constructor
  · intro failed
    generalize runScheduled schedule r d = run at course failed
    cases course with
    | unopened opened =>
      cases failed
      exact ⟨_, rfl, .directory opened⟩
    | unfurnished opened made =>
      cases failed
      exact ⟨_, rfl, .sink opened made⟩
    | waiting launched joined => cases failed
    | gaveUp launched joined =>
      rename_i l q events other
      obtain ⟨_, -, whole, ready⟩ := ready_launch given accepted launched
      cases Pool.joinFails_of_join joined with
      | timeout limited running =>
        rw [unlimited] at limited
        cases limited
      | escaped ended log ends =>
        obtain ⟨before, w, after, parted, -, stage, escapes⟩ := ends
        rw [Pool.inOrder_eq (ready.shards_follow whole _ _).2] at parted
        have member : w ∈ (l.pool.follow (fun _ => r.provider.analyze l.disk) (schedule l.pool)).workers := by
          simp [parted]
        have stays := ready.stay closable (calm l.disk) (schedule l.pool) w member
        simp [Worker.endsBatch, stage, escapes] at stays
    | published launched joined merged =>
      rename_i l q events results
      obtain ⟨_, -, whole, ready⟩ := ready_launch given accepted launched
      obtain ⟨rfl, gathered⟩ := ready.gathered whole joined
      obtain ⟨nonempty, fault, same, fails⟩ := publish_eq_failed_iff.mp failed
      exact ⟨fault, same, .report launched gathered.ended nonempty fails⟩
  · rintro ⟨fault, rfl, breaks⟩
    cases breaks with
    | directory opened => simp only [runScheduled, accepted, cut, runShards, opened]
    | sink opened made => simp only [runScheduled, accepted, cut, runShards, opened, made]
    | report launched ended nonempty fails =>
      rename_i l
      obtain ⟨_, -, whole, ready⟩ := ready_launch given accepted launched
      have stay := ready.stay closable (calm l.disk) (schedule l.pool)
      obtain ⟨log, calls, run⟩ := ready.publishes_of_ended schedule whole accepted launched ended stay
      rw [run]
      exact publish_eq_failed_iff.mpr ⟨nonempty, fault, rfl, fails⟩

/-! ## Batches that end -/

/-- A batch without a limit to the time shows no end as long as workers are running. -/
theorem waiting_iff (given : r.GivesNewSinks) (unlimited : r.joinTimeout = none)
    (accepted : r.check = .ok (units, workers)) (schedule : Pool → List Move) :
    (runScheduled schedule r d).completion = .waiting ↔
      ∃ l, r.launch d = some l ∧ ¬ ∀ v ∈ (r.joined schedule l).workers, v.hasEnded = true := by
  obtain ⟨shards, cut, -⟩ := cut_partition units (Request.check_eq_ok accepted).2
  constructor
  · intro waits
    have course := course_runScheduled (d := d) given accepted cut schedule
    generalize runScheduled schedule r d = run at course waits
    cases course with
    | unopened opened => cases waits
    | unfurnished opened made => cases waits
    | waiting launched joined => exact ⟨_, launched, fun ended => Pool.join_ne_waiting ended joined⟩
    | gaveUp launched joined => cases waits
    | published launched joined merged => exact absurd waits publish_ne_waiting
  · rintro ⟨l, launched, running⟩
    have joined := Pool.join_unlimited running
    rw [runScheduled_of_launch schedule accepted launched]
    rw [Request.joined, ← unlimited] at joined
    simp only [work, joined]

/-- A batch ends once its workers have come up often enough, if no call waits. -/
theorem exists_end_of_fair (given : r.GivesNewSinks) (unlimited : r.joinTimeout = none)
    (prompt : ∀ d, IsPrompt fun _ => r.provider.analyze d) (accepted : r.check = .ok (units, workers))
    {positions : Nat → Nat} (fair : Pool.IsFair workers positions) :
    ∃ time, (runScheduled (fun _ => (List.range time).map fun t => .step (positions t)) r d).completion ≠ .waiting := by
  cases launched : r.launch d with
  | none =>
    refine ⟨0, fun waits => ?_⟩
    obtain ⟨l, again, -⟩ := (waiting_iff given unlimited accepted _).mp waits
    rw [launched] at again
    cases again
  | some l =>
    obtain ⟨inTurn, count⟩ := inTurn_launch given accepted launched fun _ => r.provider.analyze l.disk
    obtain ⟨time, ended⟩ := inTurn.ends_of_fair (prompt l.disk) (count ▸ fair)
    refine ⟨time, fun waits => ?_⟩
    obtain ⟨m, again, running⟩ := (waiting_iff given unlimited accepted _).mp waits
    rw [launched] at again
    cases again
    exact running ended

/-- A batch ends if its workers go as far as they get, one after the other. -/
theorem ends_run (given : r.GivesNewSinks) (unlimited : r.joinTimeout = none)
    (prompt : ∀ d, IsPrompt fun _ => r.provider.analyze d) (accepted : r.check = .ok (units, workers)) :
    (run r d).completion ≠ .waiting := by
  intro waits
  obtain ⟨l, launched, running⟩ := (waiting_iff given unlimited accepted _).mp waits
  obtain ⟨inTurn, -⟩ := inTurn_launch given accepted launched fun _ => r.provider.analyze l.disk
  exact running (inTurn.ends_oneByOne (prompt l.disk))

/-- Without a limit to the time, an accepted batch with calm calls that breaks at nothing comes to a result unless it goes
on for ever. -/
theorem done_or_waiting_of_unbroken (given : r.GivesNewSinks) (closable : ∀ shard, r.sinkFault shard = none)
    (calm : ∀ d, IsCalm fun _ => r.provider.analyze d) (unlimited : r.joinTimeout = none)
    (accepted : r.check = .ok (units, workers)) (cut : partition units workers = .ok shards)
    (unbroken : ∀ fault, ¬ Breaks r d schedule shards fault) :
    (runScheduled schedule r d).completion = .waiting ∨ ∃ result, (runScheduled schedule r d).completion = .done result := by
  cases completion : (runScheduled schedule r d).completion with
  | waiting => exact .inl rfl
  | done result => exact .inr ⟨result, rfl⟩
  | failed failure =>
    obtain ⟨fault, -, breaks⟩ := (failed_iff_breaks given closable calm unlimited accepted cut schedule failure).mp completion
    exact absurd breaks (unbroken fault)

/-- A batch that comes as far as its workers, and has no report to write, breaks at nothing. -/
theorem unbroken_of_launch (accepted : r.check = .ok (units, workers)) (cut : partition units workers = .ok shards)
    {l : Launch} (launched : r.launch d = some l) (nowhere : (r.outputPath.getD "").isEmpty = true) (fault : FileFault) :
    ¬ Breaks r d schedule shards fault := by
  obtain ⟨between, sinks, opened, made, -⟩ := exists_sinks accepted cut launched
  intro breaks
  cases breaks with
  | directory failed =>
    rw [opened] at failed
    cases failed
  | sink again failed =>
    rw [opened] at again
    cases again
    rw [made] at failed
    cases failed
  | report _ _ nonempty _ => exact nonempty nowhere

/-- A batch that comes as far as its workers, and has no report to write, comes to a result if nothing waits. -/
theorem done_of_launch (given : r.GivesNewSinks) (closable : ∀ shard, r.sinkFault shard = none)
    (calm : ∀ d, IsCalm fun _ => r.provider.analyze d) (prompt : ∀ d, IsPrompt fun _ => r.provider.analyze d)
    (unlimited : r.joinTimeout = none) (nowhere : (r.outputPath.getD "").isEmpty = true)
    (accepted : r.check = .ok (units, workers)) {l : Launch} (launched : r.launch d = some l) :
    ∃ result, (run r d).completion = .done result := by
  obtain ⟨shards, cut, -⟩ := cut_partition units (Request.check_eq_ok accepted).2
  exact (done_or_waiting_of_unbroken given closable calm unlimited accepted cut
    (unbroken_of_launch accepted cut launched nowhere)).resolve_left (ends_run given unlimited prompt accepted)

end

end GlobalSurvey.Batch
