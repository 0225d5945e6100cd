import GlobalSurvey.Proofs.Batch.Barrier
import GlobalSurvey.Proofs.Batch.Bookkeeping
import GlobalSurvey.Proofs.Batch.Determined
import Mathlib.Data.List.Nodup

/-!
# Sinks that cannot be closed

A sink that cannot be closed costs its own shard, and nothing else. The workers of the other shards do what they do when all
sinks can be closed (`launch_mended`), their lines are in the report, and each lost shard is reported and logged once
(`Undivided.costs`). A batch whose workers have ended fails only by an operation on files, or by a failure that escapes from
a call for a shard whose sink can be closed (`done_or_failed_of_ended`).
-/
namespace GlobalSurvey
open GlobalSurvey.Files GlobalSurvey.Report

/-! ## The same batch with sinks that can be closed -/

/-- The same sink, but it can be closed. -/
def Report.Sink.mended (s : Sink) : Sink := { s with closingFault := none }

namespace Batch

/-- The same worker, but its sink can be closed. -/
def Worker.mended (w : Worker) : Worker := { w with sink := w.sink.mended }

/-- The same batch, but all sinks can be closed. -/
def Launch.mended (l : Launch) : Launch := { l with pool := { l.pool with workers := l.pool.workers.map Worker.mended } }

/-- The same request, but all sinks can be closed. -/
def Request.mended (r : Request) : Request :=
  { r with
    givenSink := fun shard => (r.givenSink shard).map Sink.mended
    closingFault := fun _ => none }

theorem Worker.mended_eq_self {w : Worker} (closable : w.sink.closingFault = none) : w.mended = w := by
  have same : w.sink.mended = w.sink := by rw [Sink.mended, ← closable]
  rw [mended, same]

section
variable {r : Request} {directory : Option String}

theorem Request.GivesNewSinks.mended (given : r.GivesNewSinks) : r.mended.GivesNewSinks := by
  intro shard sink own
  obtain ⟨first, place, rfl⟩ := Option.map_eq_some_iff.mp own
  obtain ⟨new, memory⟩ := given shard first place
  exact ⟨⟨new.units, new.written, new.finalized⟩, memory⟩

theorem Request.newSink_mended (d : Disk) (shard : Shard) :
    r.mended.newSink directory d shard = (r.newSink directory d shard).map fun made => (made.1, made.2.mended) := by
  unfold newSink
  cases place : r.givenSink shard with
  | some own => simp [Request.mended, place, Except.map]
  | none => cases directory with
    | none => simp [Request.mended, place, Except.map, Sink.mended]
    | some path =>
      simp only [Request.mended, place, Option.map_none]
      cases Sink.inFile d (joinPath path (sinkName r.shardStem shard.index)) <;> rfl

theorem Request.newSinks_mended (d : Disk) (shards : List Shard) :
    r.mended.newSinks directory d shards =
      ((r.newSinks directory d shards).1, (r.newSinks directory d shards).2.map (List.map Sink.mended)) := by
  induction shards generalizing d with
  | nil => rfl
  | cons shard rest ih =>
    simp only [newSinks, newSink_mended]
    cases r.newSink directory d shard with
    | error fault => rfl
    | ok made =>
      obtain ⟨after, sink⟩ := made
      simp only [Except.map, ih]
      rcases r.newSinks directory after rest with ⟨last, outcome⟩
      cases outcome <;> rfl

/-- The batch comes to the same workers, but for their sinks. -/
theorem Request.launch_mended (d : Disk) : r.mended.launch d = (r.launch d).map Launch.mended := by
  have checks : r.mended.check = r.check := rfl
  have opens (d : Disk) : r.mended.openDirectory d = r.openDirectory d := rfl
  simp only [launch, checks, opens]
  cases r.check with
  | error failure => rfl
  | ok checked =>
    obtain ⟨units, workers⟩ := checked
    simp only
    cases partition units workers with
    | error fault => rfl
    | ok shards =>
      simp only
      rcases r.openDirectory d with ⟨between, outcome⟩
      cases outcome with
      | error fault => rfl
      | ok directory =>
        simp only [newSinks_mended]
        rcases r.newSinks directory between shards with ⟨after, sinks⟩
        cases sinks with
        | error fault => rfl
        | ok sinks => simp [Except.map, Launch.mended, Worker.mended, List.zip_map_right]

end

/-! ## How the batch ends -/

/-- Work that goes on until a failure that escapes stops it was stopped by a call for one of the units. -/
theorem Ledger.exists_failed {capability : Capability} {failure : Failure} (escapes : failure.escapes = true)
    (index : Int) {l : Ledger} (stays : ∀ earlier, l.stopped = some earlier → earlier.escapes = false) (call : Nat)
    (units : List String) (stopped : (enterAll (fun _ => capability) index call l units).stopped = some failure) :
    ∃ unit ∈ units, (capability unit).outcome = .failed failure := by
  induction units generalizing l call with
  | nil =>
    rw [stays failure stopped] at escapes
    cases escapes
  | cons unit rest ih =>
    cases before : l.stopped with
    | some earlier =>
      rw [enterAll_stopped (by simp [before])] at stopped
      rw [stays failure stopped] at escapes
      cases escapes
    | none =>
      rw [enterAll_cons before] at stopped
      by_cases calm : ∀ other, (capability unit).outcome = .failed other → other.escapes = false
      · obtain ⟨later, member, fails⟩ := ih (calm_enter stays index unit calm) (call + 1) stopped
        exact ⟨later, List.mem_cons_of_mem unit member, fails⟩
      · obtain ⟨other, fails, -⟩ : ∃ other, (capability unit).outcome = .failed other ∧ other.escapes = true := by
          simpa using calm
        rw [fails, enterAll_stopped rfl] at stopped
        cases stopped
        exact ⟨unit, List.mem_cons_self, fails⟩

section
variable {r : Request} {d : Disk} {schedule : Pool → List Move} {units : List String} {workers : Nat}
  {shards : List Shard}

/-- A call for a unit of a shard whose sink can be closed was begun, and fails by a failure that escapes. -/
inductive CallEscapes (r : Request) (d : Disk) (schedule : Pool → List Move) (shards : List Shard) : Failure → Prop
  | call {l : Launch} {s : Shard} {unit : String} {failure : Failure} (launched : r.launch d = some l)
      (member : s ∈ shards) (closable : r.sinkFault s = none) (inside : unit ∈ s.units)
      (called : unit ∈ (r.joined schedule l).calls)
      (fails : (r.provider.analyze l.disk unit).outcome = .failed failure) (escapes : failure.escapes = true) :
      CallEscapes r d schedule shards failure

/-- A worker that ends the batch does so by a call, unless closing its sink fails by a failure that escapes. -/
theorem Launch.IsReady.callEscapes {l : Launch} (ready : l.IsReady r shards) (launched : r.launch d = some l)
    (heeded : ∀ shard failure, r.sinkFault shard = some failure → failure.escapes = false) {v : Worker}
    {failure : Failure} (member : v ∈ (r.joined schedule l).workers) (stage : v.stage = .ended (.crashed failure))
    (escapes : failure.escapes = true) : CallEscapes r d schedule shards failure := by
  have evolves := Pool.evolves_follow_any (fun _ => r.provider.analyze l.disk) l.pool (schedule l.pool)
  obtain ⟨w, inside, progress⟩ := Pool.exists_start (evolves.progress ready.pool.new) member
  have fault : v.sink.closingFault = r.sinkFault w.shard := progress.keeps.closingFault.trans (ready.faults w inside)
  obtain ⟨settled, closed, closes⟩ := progress.closed stage
  cases closed with
  | faulty _ unfinished own =>
    rw [heeded w.shard failure (fault.symm.trans own)] at escapes
    cases escapes
  | escaped _ finalized stopped _ =>
    rw [settled.stopped] at stopped
    obtain ⟨unit, called, fails⟩ :=
      Ledger.exists_failed escapes w.shard.index (fun _ none_ => by cases none_) 0 v.called stopped
    have closable : r.sinkFault w.shard = none := by
      rw [finalized, (ready.pool.new w inside).sink.finalized, ready.faults w inside] at closes
      simpa using closes
    have own : w.shard ∈ shards := ready.shards ▸ List.mem_map_of_mem inside
    exact .call launched own closable (settled.called_prefix.subset called) (List.mem_flatMap.mpr ⟨v, member, called⟩)
      fails escapes

/-- A batch whose workers have all ended when they are joined comes to a result, unless one of its operations on files
fails, or a call for a shard whose sink can be closed by a failure that escapes. -/
theorem done_or_failed_of_ended (given : r.GivesNewSinks) (accepted : r.check = .ok (units, workers))
    (cut : partition units workers = .ok shards)
    (heeded : ∀ shard failure, r.sinkFault shard = some failure → failure.escapes = false)
    (ended : ∀ l, r.launch d = some l → ∀ v ∈ (r.joined schedule l).workers, v.hasEnded = true) :
    (∃ result, (runScheduled schedule r d).completion = .done result) ∨
      ∃ failure, (runScheduled schedule r d).completion = .failed failure ∧
        ((∃ fault, failure = .file fault ∧ Breaks r d schedule shards fault) ∨ CallEscapes r d schedule shards failure) := by
  have course := course_runScheduled (d := d) given accepted cut schedule
  generalize runScheduled schedule r d = run at course
  cases course with
  | unopened opened => exact .inr ⟨_, rfl, .inl ⟨_, rfl, .directory opened⟩⟩
  | unfurnished opened made => exact .inr ⟨_, rfl, .inl ⟨_, rfl, .sink opened made⟩⟩
  | waiting launched joined => exact absurd joined (Pool.join_ne_waiting (ended _ launched))
  | gaveUp launched joined =>
    rename_i l q events failure
    obtain ⟨others, same, whole, ready⟩ := ready_launch given accepted launched
    obtain rfl : others = shards := Except.ok.inj (same.symm.trans cut)
    refine .inr ⟨failure, rfl, .inr ?_⟩
    cases Pool.joinFails_of_join joined with
    | timeout limited running => exact absurd (by simpa [Pool.pending, Request.joined] using ended l launched) running
    | escaped _ log ends =>
      obtain ⟨before, w, after, parted, -, stage, escapes⟩ := ends
      rw [Pool.inOrder_eq (ready.shards_follow whole _ _).2] at parted
      have member : w ∈ (r.joined schedule l).workers := by simp [Request.joined, parted]
      exact ready.callEscapes launched heeded member stage escapes
  | published launched joined merged =>
    rename_i l q events results
    obtain ⟨others, same, whole, ready⟩ := ready_launch given accepted launched
    obtain ⟨rfl, gathered⟩ := ready.gathered whole joined
    generalize published : publish r _ _ _ _ _ = run
    cases completion : run.completion with
    | done result => exact .inl ⟨result, rfl⟩
    | waiting =>
      rw [← published] at completion
      exact absurd completion publish_ne_waiting
    | failed failure =>
      rw [← published] at completion
      obtain ⟨nonempty, fault, rfl, fails⟩ := publish_eq_failed_iff.mp completion
      exact .inr ⟨_, rfl, .inl ⟨fault, rfl, .report launched gathered.ended nonempty fails⟩⟩

end

end Batch

/-! ## What is logged about sinks -/

/-- The shard whose sink an event says cannot be read. -/
def Event.unreadable? : Event → Option Int
  | .sinkUnreadable shard _ => some shard
  | _ => none

theorem Event.unreadable?_eq_none {e : Event} (other : e.publishes = false) : e.unreadable? = none := by
  cases e with
  | sinkUnreadable shard sink => cases other
  | _ => rfl

theorem unreadable_of_unpublished {events : List Event} (others : ∀ e ∈ events, e.publishes = false) :
    events.filterMap Event.unreadable? = [] :=
  List.filterMap_eq_nil_iff.mpr fun e member => Event.unreadable?_eq_none (others e member)

theorem unreadable_unreadableEvents (sinks : List (Int × Sink)) :
    (unreadableEvents sinks).filterMap Event.unreadable? = (sinks.filter fun s => !s.2.finalized).map Prod.fst := by
  rw [unreadableEvents, List.filterMap_map, ← List.filterMap_eq_map]
  rfl

namespace Batch

/-- What is logged while workers are joined that have results is not about a report. -/
theorem Pool.unpublished_of_results {p q : Pool} {timeout : Option Number} {events : List Event} {all : List WorkerResult}
    (joined : p.join timeout = (q, events, .results all)) : ∀ e ∈ events, e.publishes = false := by
  unfold join at joined
  split at joined
  · simp only [Prod.mk.injEq] at joined
    obtain ⟨-, rfl, -⟩ := joined
    intro e member
    obtain ⟨shard, error, rfl⟩ := results_log _ e member
    rfl
  · split at joined <;> cases joined

theorem unreadable_publish {r : Request} {d : Disk} {log : List Event} {calls lines : List String}
    {all : List WorkerResult} :
    (publish r d log calls lines all).log.filterMap Event.unreadable? = log.filterMap Event.unreadable? := by
  have last (result : PipelineResult) : result.event.unreadable? = none := by
    unfold PipelineResult.event
    split <;> rfl
  have written (path : String) (count : Nat) : (Event.reportWritten path count).unreadable? = none := rfl
  unfold publish
  simp only
  split
  · simp [List.filterMap_append, last]
  · split
    · rfl
    · simp [List.filterMap_append, last, written]

section
variable {r : Request} {d : Disk} {schedule : Pool → List Move} {units : List String} {workers : Nat}
  {shards : List Shard} {l : Launch} {result : PipelineResult}

/-- A run with a result has logged that the sinks that were not closed cannot be read, in the order of the shards. -/
theorem unreadable_of_done (given : r.GivesNewSinks) (accepted : r.check = .ok (units, workers))
    (launched : r.launch d = some l) (done : (runScheduled schedule r d).completion = .done result) :
    (runScheduled schedule r d).log.filterMap Event.unreadable? =
      ((r.joined schedule l).workers.filter fun v => !v.sink.finalized).map (·.shard.index) := by
  obtain ⟨shards, cut, whole, ready⟩ := ready_launch given accepted launched
  have course := course_runScheduled (d := d) given accepted cut schedule
  generalize runScheduled schedule r d = run at course done
  cases course with
  | unopened opened => cases done
  | unfurnished opened made => cases done
  | waiting again joined => cases done
  | gaveUp again joined => cases done
  | published again joined merged =>
    rw [launched] at again
    cases again
    obtain ⟨rfl, -⟩ := ready.gathered whole joined
    have started : (Event.pipelineStarted units.length workers).unreadable? = none := rfl
    have evolves := Pool.evolves_follow_any (fun _ => r.provider.analyze l.disk) l.pool (schedule l.pool)
    have logged := unreadable_of_unpublished (Pool.log_unpublished ready.pool.new evolves)
    have joining := unreadable_of_unpublished (Pool.unpublished_of_results joined)
    have closing := unreadable_of_unpublished (closeDirectory_unpublished r l.directory
      ((l.pool.follow (fun _ => r.provider.analyze l.disk) (schedule l.pool)).flush l.disk))
    simp only [unreadable_publish, List.filterMap_append, List.filterMap_cons, started, logged, joining, closing,
      unreadable_unreadableEvents]
    simp [Event.unreadable?, Request.joined, Pool.sinks, List.filter_map, Function.comp_def]

/-! ## What the sinks cost -/

/-- Each shard has the report of its worker in its place. -/
theorem Gathered.report_at {analyze : Nat → Capability} {p : Pool} {results : List WorkerResult}
    (gathered : Gathered analyze l shards p results) {position : Nat} {s : Shard} (there : shards[position]? = some s) :
    ∃ v, p.workers[position]? = some v ∧ v.shard = s ∧ results[position]? = some v.report := by
  rw [← gathered.shards, List.getElem?_map, Option.map_eq_some_iff] at there
  obtain ⟨v, inPlace, own⟩ := there
  refine ⟨v, inPlace, own, ?_⟩
  rw [gathered.results, List.getElem?_map, inPlace, Option.map_some]

namespace Undivided

variable {p : Pool}

/-- The shards whose sinks are not finalized are those whose sinks cannot be closed. -/
theorem unfinished (all : Undivided r l units workers shards p result) :
    (p.workers.filter fun v => !v.sink.finalized).map (·.shard.index) =
      (shards.filter fun s => (r.sinkFault s).isSome).map (·.index) := by
  have same : (p.workers.filter fun v => !v.sink.finalized) = p.workers.filter fun v => (r.sinkFault v.shard).isSome := by
    refine List.filter_congr fun v member => ?_
    rw [all.gathered.finalized_eq all.ready member, Option.not_isNone]
  rw [same, ← all.gathered.shards, List.filter_map, List.map_map]
  rfl

end Undivided

/-- What the sinks that cannot be closed cost a batch with a result: their own shards, and nothing else. -/
structure CostOwnShards (r : Request) (d : Disk) (shards : List Shard) (outcome : String → Outcome) (run : Run)
    (result : PipelineResult) : Prop where
  sorted : result.lines.Pairwise fun a b => lineLE a b = true
  /-- The report has the lines of the shards whose sinks can be closed. -/
  lines : result.lines.Perm ((shards.filter fun s => (r.sinkFault s).isNone).flatMap fun s => linesOf outcome s.units)
  /-- The results of these shards are those of any run with sinks that can all be closed. -/
  others : ∀ (other : Pool → List Move) (again : PipelineResult), IsUndisturbed other →
    (runScheduled other r.mended d).completion = .done again →
      ∀ (position : Nat) (s : Shard), shards[position]? = some s → r.sinkFault s = none →
        result.workers[position]? = again.workers[position]?
  /-- Each other shard is lost; this is reported, and logged once. -/
  lost : ∀ (position : Nat) (s : Shard), shards[position]? = some s → r.sinkFault s ≠ none →
    ∃ report, result.workers[position]? = some report ∧ report.shard = s.index ∧ report.recordsWritten = 0 ∧
      s.index ∈ result.fatalShards ∧ (run.log.filterMap Event.unreadable?).count s.index = 1
  /-- Nothing of the kind is logged about any other sink. -/
  unreadable : run.log.filterMap Event.unreadable? = (shards.filter fun s => (r.sinkFault s).isSome).map (·.index)
  verdict : (∃ s ∈ shards, r.sinkFault s ≠ none) → result.ok = false

namespace Undivided

variable {p : Pool}

theorem others (all : Undivided r l units workers shards p result) (given : r.GivesNewSinks)
    (accepted : r.check = .ok (units, workers)) (launched : r.launch d = some l)
    (quiet : ∀ d, IsQuiet fun _ => r.provider.analyze d) {other : Pool → List Move} {again : PipelineResult}
    (undisturbed : IsUndisturbed other) (done : (runScheduled other r.mended d).completion = .done again) {position : Nat}
    {s : Shard} (there : shards[position]? = some s) (closable : r.sinkFault s = none) :
    result.workers[position]? = again.workers[position]? := by
  obtain ⟨m, _, launched', -, mended⟩ := undivided_of_done given.mended accepted quiet undisturbed done
  rw [Request.launch_mended, launched, Option.map_some, Option.some.injEq] at launched'
  subst launched'
  rw [← all.ready.shards, List.getElem?_map, Option.map_eq_some_iff] at there
  obtain ⟨w, inPlace, own⟩ := there
  have same : w.mended = w :=
    Worker.mended_eq_self (by rw [all.ready.faults w (List.mem_of_getElem? inPlace), own, closable])
  have still : l.mended.pool.workers[position]? = some w := by
    rw [Launch.mended, List.getElem?_map, inPlace, Option.map_some, same]
  rw [all.gathered.results, all.alone, mended.gathered.results, mended.alone]
  simp only [List.getElem?_map, inPlace, still]
  rfl

theorem lost (all : Undivided r l units workers shards p result) {position : Nat} {s : Shard}
    (there : shards[position]? = some s) (faulty : r.sinkFault s ≠ none) :
    ∃ report, result.workers[position]? = some report ∧ report.shard = s.index ∧ report.recordsWritten = 0 ∧
      report.fatal = true := by
  obtain ⟨v, inPlace, own, reported⟩ := all.gathered.report_at there
  have member := List.mem_of_getElem? inPlace
  obtain ⟨w, -, progress⟩ := Pool.exists_start all.gathered.progress member
  have how := progress.reported (all.gathered.ended v member) (all.gathered.stay v member)
  refine ⟨v.report, reported, own ▸ how.index, ?_⟩
  generalize v.report = report at how
  cases how with
  | finished finalized =>
    rw [all.gathered.finalized_eq all.ready member, own, Option.isNone_iff_eq_none] at finalized
    exact absurd finalized faulty
  | madeUp failure unfinished fault => exact ⟨rfl, rfl⟩

/-- The sinks of a batch that nothing cancels cost their own shards. -/
theorem costs (all : Undivided r l units workers shards (r.joined schedule l) result) (given : r.GivesNewSinks)
    (accepted : r.check = .ok (units, workers)) (launched : r.launch d = some l)
    (quiet : ∀ d, IsQuiet fun _ => r.provider.analyze d) (done : (runScheduled schedule r d).completion = .done result) :
    CostOwnShards r d shards (fun unit => (r.provider.analyze l.disk unit).outcome) (runScheduled schedule r d) result := by
  have unreadable := (unreadable_of_done given accepted launched done).trans all.unfinished
  refine ⟨?_, ?_, ?_, ?_, unreadable, ?_⟩
  · rw [all.lines]
    exact pairwise_sortLines _
  · rw [all.lines, ← all.ready.lines_eq all.complete]
    exact sortLines_perm _
  · intro other again undisturbed returned position s there closable
    exact all.others given accepted launched quiet undisturbed returned there closable
  · intro position s there faulty
    obtain ⟨report, inPlace, own, none_, fatal⟩ := all.lost there faulty
    have inside : s ∈ shards.filter fun s => (r.sinkFault s).isSome :=
      List.mem_filter.mpr ⟨List.mem_of_getElem? there, Option.isSome_iff_ne_none.mpr faulty⟩
    have once : ((shards.filter fun s => (r.sinkFault s).isSome).map (·.index)).Nodup :=
      all.cut.different_indices.sublist (List.filter_sublist.map _)
    refine ⟨report, inPlace, own, none_, ?_, ?_⟩
    · exact List.mem_map.mpr ⟨report, List.mem_filter.mpr ⟨List.mem_of_getElem? inPlace, fatal⟩, own⟩
    · rw [unreadable]
      exact List.count_eq_one_of_mem once (List.mem_map_of_mem inside)
  · rintro ⟨s, member, faulty⟩
    obtain ⟨position, there⟩ := List.getElem?_of_mem member
    obtain ⟨report, inPlace, -, -, fatal⟩ := all.lost there faulty
    cases ok : result.ok with
    | false => rfl
    | true =>
      have calm := (WorkerResult.ok_iff.mp (List.all_eq_true.mp ok report (List.mem_of_getElem? inPlace))).2
      rw [fatal] at calm
      cases calm

end Undivided

/-- Sinks that cannot be closed cost their own shards only. If nothing cancels a batch, and its workers have all ended when
they are joined, it comes to a result unless one of its operations on files fails, or a call for a shard whose sink can be
closed fails by a failure that escapes. The report of a result has the lines of the shards whose sinks can be closed, and
the results of these shards are what they are when all sinks can be closed. Each other shard ended early and without
records, and it is logged once that its sink cannot be read; if there is one the batch is not all right. -/
theorem faulty_sinks_cost_own_shards (given : r.GivesNewSinks) (accepted : r.check = .ok (units, workers))
    (cut : partition units workers = .ok shards) (quiet : ∀ d, IsQuiet fun _ => r.provider.analyze d)
    (undisturbed : IsUndisturbed schedule)
    (heeded : ∀ shard failure, r.sinkFault shard = some failure → failure.escapes = false)
    (ended : ∀ l, r.launch d = some l → ∀ v ∈ (r.joined schedule l).workers, v.hasEnded = true) :
    ((∃ result, (runScheduled schedule r d).completion = .done result) ∨
      ∃ failure, (runScheduled schedule r d).completion = .failed failure ∧
        ((∃ fault, failure = .file fault ∧ Breaks r d schedule shards fault) ∨ CallEscapes r d schedule shards failure)) ∧
      ∀ result, (runScheduled schedule r d).completion = .done result →
        ∃ l, r.launch d = some l ∧
          CostOwnShards r d shards (fun unit => (r.provider.analyze l.disk unit).outcome) (runScheduled schedule r d)
            result := by
  refine ⟨done_or_failed_of_ended given accepted cut heeded ended, ?_⟩
  intro result done
  obtain ⟨l, others, launched, same, all⟩ := undivided_of_done given accepted quiet undisturbed done
  obtain rfl : others = shards := Except.ok.inj (same.symm.trans cut)
  exact ⟨l, launched, all.costs given accepted launched quiet done⟩

end

/-! ## A batch with a sink that cannot be closed -/

/-- The failure of closing the sink of the shard with an index. -/
def faultAt (index : Int) (shard : Shard) : Option Failure :=
  if shard.index = index then some (.raised "OSError" "fsync failed") else none

theorem heeded_faultAt {index : Int} {shard : Shard} {failure : Failure} (fault : faultAt index shard = some failure) :
    failure.escapes = false := by
  unfold faultAt at fault
  split at fault
  · cases fault
    decide
  · cases fault

/-- The batch of three units, but the sink of the second shard cannot be closed. -/
def faultyRequest : Request := { sampleRequest with closingFault := faultAt 1 }

theorem prompt_sampleReply (unit : String) : (sampleReply unit).waits = false := by
  unfold sampleReply
  split <;> rfl

/-- The batch loses its second shard, and comes to a result all the same. -/
theorem faultyRequest_loses_shard :
    ∃ result, (run faultyRequest bareDisk).completion = .done result ∧ 1 ∈ result.fatalShards ∧ result.ok = false ∧
      result.lines.Perm (linesOf (fun unit => (sampleReply unit).outcome) ["c"]) := by
  have given : faultyRequest.GivesNewSinks := fun _ _ none_ => by cases none_
  have accepted : faultyRequest.check = .ok (["c", "b", "a"], 2) := rfl
  have cut : partition ["c", "b", "a"] (2 : Nat) = .ok [⟨0, ["c"]⟩, ⟨1, ["b", "a"]⟩] := rfl
  obtain ⟨start, launched⟩ : ∃ start, faultyRequest.launch bareDisk = some start := ⟨_, rfl⟩
  have quiet (d : Disk) : IsQuiet fun _ => faultyRequest.provider.analyze d := fun _ => quiet_sampleReply
  have prompt (d : Disk) : IsPrompt fun _ => faultyRequest.provider.analyze d := fun _ => prompt_sampleReply
  have ended : ∀ l, faultyRequest.launch bareDisk = some l →
      ∀ v ∈ (faultyRequest.joined Pool.oneByOne l).workers, v.hasEnded = true := by
    intro l launched
    exact (inTurn_launch given accepted launched _).1.ends_oneByOne (prompt l.disk)
  obtain ⟨returns, costs⟩ := faulty_sinks_cost_own_shards given accepted cut quiet undisturbed_oneByOne
    (fun _ _ fault => heeded_faultAt fault) ended
  obtain ⟨result, done⟩ : ∃ result, (run faultyRequest bareDisk).completion = .done result := by
    rcases returns with done | ⟨failure, -, ⟨fault, -, breaks⟩ | ⟨_, _, _, _, _, fails, escapes⟩⟩
    · exact done
    · exact absurd breaks (unbroken_of_launch accepted cut launched rfl fault)
    · rw [Worker.calm_sampleReply 0 _ _ fails] at escapes
      cases escapes
  obtain ⟨l, -, costs⟩ := costs result done
  have faulty : faultyRequest.sinkFault ⟨1, ["b", "a"]⟩ ≠ none := by decide
  obtain ⟨-, -, -, -, fatal, -⟩ := costs.lost 1 ⟨1, ["b", "a"]⟩ rfl faulty
  refine ⟨result, done, fatal, costs.verdict ⟨⟨1, ["b", "a"]⟩, by simp, faulty⟩, ?_⟩
  have lines := costs.lines
  have whole : (([⟨0, ["c"]⟩, ⟨1, ["b", "a"]⟩] : List Shard).filter fun s => (faultyRequest.sinkFault s).isNone) =
      [⟨0, ["c"]⟩] := rfl
  rw [whole, List.flatMap_singleton] at lines
  exact lines

/-! ## Batches that fail beside a sink that cannot be closed -/

/-- A batch of one unit for two workers, the first of which has no unit, and a sink that cannot be closed. -/
def besideRequest (outcome : Outcome) (outputPath : Option String) : Request where
  units := .list [.str "a"]
  workers := .int 2
  provider := .capability fun _ _ => { outcome }
  inMemorySinks := true
  outputPath := outputPath
  closingFault := faultAt 0

/-- The batch when its workers begin. -/
def besideLaunch : Launch where
  disk := bareDisk
  directory := none
  pool :=
    { size := 2
      workers :=
        [{ shard := ⟨0, []⟩
           sink := { Sink.inMemory "threaded_output_0.txt" with closingFault := some (.raised "OSError" "fsync failed") } },
          { shard := ⟨1, ["a"]⟩, sink := .inMemory "threaded_output_1.txt" }] }

/-- The request of a batch whose unit is a call to stop the whole program. -/
def stopRequest : Request := besideRequest (.failed (.raised "SystemExit" "stop")) none

/-- The request of a batch that is to write its report in the place of the root directory. -/
def rootRequest : Request := besideRequest (.rejected "no source") (some "/")

/-- Both batches are accepted, nothing cancels them, and their workers end; but the first one fails as the call of its
second worker does, and the second one as writing its report does. -/
theorem batches_fail_beside_faulty_sink :
    (∀ r ∈ [stopRequest, rootRequest], r.check = .ok (["a"], 2) ∧ (∀ d, IsQuiet fun _ => r.provider.analyze d) ∧
      r.sinkFault ⟨0, []⟩ = some (.raised "OSError" "fsync failed") ∧ r.launch bareDisk = some besideLaunch ∧
      ∀ v ∈ (r.joined Pool.oneByOne besideLaunch).workers, v.hasEnded = true) ∧
    (run stopRequest bareDisk).completion = .failed (.raised "SystemExit" "stop") ∧
    (run rootRequest bareDisk).completion = .failed (.file (.refused .isDirectory "/")) := by
  have accepted₁ : stopRequest.check = .ok (["a"], 2) := rfl
  have accepted₂ : rootRequest.check = .ok (["a"], 2) := rfl
  have launched₁ : stopRequest.launch bareDisk = some besideLaunch := rfl
  have launched₂ : rootRequest.launch bareDisk = some besideLaunch := rfl
  have ended₁ : ∀ v ∈ (stopRequest.joined Pool.oneByOne besideLaunch).workers, v.hasEnded = true := by decide
  have ended₂ : ∀ v ∈ (rootRequest.joined Pool.oneByOne besideLaunch).workers, v.hasEnded = true := by decide
  refine ⟨List.forall_mem_cons.mpr ⟨⟨accepted₁, fun _ _ _ => rfl, rfl, launched₁, ended₁⟩,
    List.forall_mem_singleton.mpr ⟨accepted₂, fun _ _ _ => rfl, rfl, launched₂, ended₂⟩⟩, ?_, ?_⟩
  · have joined : (stopRequest.joined Pool.oneByOne besideLaunch).join none =
        (stopRequest.joined Pool.oneByOne besideLaunch, [.workerCrashed 0 "fsync failed"],
          .failed (.raised "SystemExit" "stop")) := by
      rw [Pool.join_of_ended ended₁, Pool.inOrder_eq (by decide)]
      rfl
    rw [run, runScheduled_of_failed accepted₁ launched₁ joined]
    rfl
  · have given : rootRequest.GivesNewSinks := fun _ _ none_ => by cases none_
    obtain ⟨_, -, whole, ready⟩ := ready_launch given accepted₂ launched₂
    obtain ⟨log, calls, published⟩ :=
      ready.publishes_of_ended Pool.oneByOne whole accepted₂ launched₂ ended₂ (by decide)
    rw [run, published]
    exact publish_eq_failed_iff.mpr ⟨by decide, _, rfl, write_root _⟩

end Batch

end GlobalSurvey
