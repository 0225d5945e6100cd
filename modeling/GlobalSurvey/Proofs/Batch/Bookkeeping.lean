import GlobalSurvey.Proofs.Batch.Accounting
import GlobalSurvey.Proofs.Batch.Breaking
import GlobalSurvey.Proofs.Batch.Heeding

/-!
# The books of a worker

Nothing stopped a worker before its last call (`StopsLast`), because it begins a call only while its ledger is open. So each
unit that it called is accounted for exactly once: as a line, as a failed unit, or as the unit at which it stopped
(`Settled.count`). Its failed units are those of its calls that have no line, in the order of the shard
(`Settled.complaints`). `Books` is what a result says about the calls; every worker that ends with a result has its books in
order, however the flag was raised (`books_of_run`).
-/
namespace GlobalSurvey.Batch
open GlobalSurvey.Report

/-- The units of some calls that have no line though the work goes on, each with the reason; `call` calls went before. -/
def complaintsFrom (analyze : Nat → Capability) (call : Nat) (units : List String) : List (String × String) :=
  (units.zipIdx call).filterMap fun (unit, call) => ((analyze call unit).outcome.complaint? unit).map (unit, ·)

section
variable {analyze : Nat → Capability} {call : Nat}

theorem complaintsFrom_cons (unit : String) (rest : List String) :
    complaintsFrom analyze call (unit :: rest) =
      (((analyze call unit).outcome.complaint? unit).map (unit, ·)).toList ++ complaintsFrom analyze (call + 1) rest := by
  simp only [complaintsFrom, List.zipIdx_cons, List.filterMap_cons]
  cases (analyze call unit).outcome.complaint? unit <;> rfl

theorem complaintsFrom_snoc (units : List String) (unit : String) :
    complaintsFrom analyze call (units ++ [unit]) =
      complaintsFrom analyze call units ++
        (((analyze (call + units.length) unit).outcome.complaint? unit).map (unit, ·)).toList := by
  unfold complaintsFrom
  rw [List.zipIdx_append, List.filterMap_append]
  cases answer : ((analyze (call + units.length) unit).outcome.complaint? unit) <;> simp [answer]

namespace Ledger

variable {index : Int} {l : Ledger}

/-- An entry adds the failure of its unit, whatever the sink does. -/
theorem failures_enter (unit : String) (outcome : Outcome) :
    (l.enter index unit outcome).failures =
      l.failures ++ ((outcome.complaint? unit).map (unit, ·)).toList.map (failureOf index) := by
  cases outcome with
  | facts all =>
    simp only [enter, Outcome.complaint?]
    split
    · unfold commit
      split <;> simp [stop]
    · simp [skip, failureOf]
  | rejected reason => simp [enter, skip, Outcome.complaint?, failureOf]
  | failed failure => simp [enter, stop, Outcome.complaint?]

/-- As long as the work was not stopped, its failures are those of its calls. -/
theorem failures_enterAll {units : List String} (open_ : (enterAll analyze index call l units).stopped = none) :
    (enterAll analyze index call l units).failures =
      l.failures ++ (complaintsFrom analyze call units).map (failureOf index) := by
  induction units generalizing l call with
  | nil => simp [enterAll, complaintsFrom]
  | cons unit rest ih =>
    cases stopped : l.stopped with
    | some failure =>
      rw [enterAll_stopped (by simp [stopped]), stopped] at open_
      cases open_
    | none =>
      rw [enterAll_cons stopped] at open_ ⊢
      rw [ih open_, failures_enter, complaintsFrom_cons, List.map_append, List.append_assoc]

end Ledger

variable {shard : Shard} {sink : Sink}

/-- If nothing stops the work before the last of some calls, each of them is accounted for exactly once, and the failures
are theirs. -/
theorem ledgerOf_exact {units : List String} (open_ : (ledgerOf analyze shard sink units.dropLast).stopped = none) :
    (ledgerOf analyze shard sink units).count = units.length ∧
      (ledgerOf analyze shard sink units).failures =
        (complaintsFrom analyze 0 units).map (Ledger.failureOf shard.index) := by
  rcases List.eq_nil_or_concat units with rfl | ⟨before, last, rfl⟩
  · exact ⟨rfl, rfl⟩
  · rw [List.concat_eq_append] at open_ ⊢
    rw [List.dropLast_concat] at open_
    have before_ := Ledger.count_enterAll open_
    have failures := Ledger.failures_enterAll open_
    rw [← ledgerOf] at before_ failures
    rw [Worker.ledgerOf_snoc open_]
    refine ⟨?_, ?_⟩
    · have next := (Ledger.entered_enter (ledgerOf analyze shard sink before) shard.index last
        (analyze before.length last).outcome).count open_
      rw [next, before_, List.length_append, List.length_singleton]
      simp [Ledger.count]
    · rw [Ledger.failures_enter, failures, complaintsFrom_snoc, Nat.zero_add, List.map_append, List.nil_append]

namespace Worker

variable {w : Worker}

/-! ## Before the last call nothing stopped the worker -/

/-- Nothing stopped the worker before its last call. -/
def StopsLast (analyze : Nat → Capability) (shard : Shard) (sink : Sink) (w : Worker) : Prop :=
  (ledgerOf analyze shard sink w.called.dropLast).stopped = none

/-- Only the step that begins a call changes what was called. -/
theorem step_called (analyze : Nat → Capability) (w : Worker) (cancelled released : Bool) :
    (w.step analyze cancelled released).1.called = w.called ∨
      w.stage = .calling ∧ ∃ unit, (w.step analyze cancelled released).1.called = w.called ++ [unit] := by
  unfold step
  split
  · exact .inl rfl
  · left
    unfold check
    split
    · rfl
    · split <;> rfl
  · rename_i unit _ stage _
    exact .inr ⟨stage, unit, rfl⟩
  · left
    simp only
    split
    · rfl
    · exact receive_called _ _ _
  · exact .inl (write_called _ _ _)
  · exact .inl close_heeds.1
  all_goals exact .inl rfl

theorem stopsLast_step (progress : Progress analyze shard sink w) (stopsLast : w.StopsLast analyze shard sink)
    (cancelled released : Bool) : (w.step analyze cancelled released).1.StopsLast analyze shard sink := by
  unfold StopsLast
  rcases step_called analyze w cancelled released with same | ⟨calling, unit, next⟩
  · rw [same]
    exact stopsLast
  · rw [next, List.dropLast_concat]
    cases progress with
    | calling stage next goesOn => exact goesOn.isOpen
    | queued => cases calling
    | checking stage _ => rw [stage] at calling; cases calling
    | answering stage _ _ _ => rw [stage] at calling; cases calling
    | writing stage _ _ _ _ _ => rw [stage] at calling; cases calling
    | closing stage _ _ => rw [stage] at calling; cases calling
    | ended stage _ _ _ => rw [stage] at calling; cases calling

theorem Reaches.stopsLast {flag : Bool → Prop} (reaches : Reaches analyze flag { shard, sink } w) :
    w.StopsLast analyze shard sink := by
  have both := reaches.keeps (fun u => Progress analyze shard sink u ∧ u.StopsLast analyze shard sink)
    (fun _ cancelled released _ kept => ⟨progress_step kept.1 _ _, stopsLast_step kept.1 kept.2 cancelled released⟩)
    ⟨.queued, rfl⟩
  exact both.2

/-! ## What a settled worker called -/

/-- Each call is accounted for exactly once. -/
theorem Settled.count (settled : Settled analyze shard sink w) (stopsLast : w.StopsLast analyze shard sink) :
    w.called.length = w.written + w.failures.length + w.stopped.toList.length := by
  rw [← (ledgerOf_exact stopsLast).1, settled.written, settled.failures, settled.stopped]
  rfl

theorem Settled.complaints (settled : Settled analyze shard sink w) (stopsLast : w.StopsLast analyze shard sink) :
    w.failures = (complaintsFrom analyze 0 w.called).map (Ledger.failureOf shard.index) := by
  rw [settled.failures, (ledgerOf_exact stopsLast).2]

/-- What the result of a worker says about its calls: it called the first units of the shard, each of them once, and
accounts for each of them once. -/
structure Books (analyze : Nat → Capability) (shard : Shard) (w : Worker) (result : WorkerResult) : Prop where
  index : result.shard = shard.index
  size : result.units = shard.units.length
  finalized : w.sink.finalized = true
  called : w.called <+: shard.units
  count : (w.called.length : Int) =
    result.recordsWritten + result.failedUnits.length + if result.fatalError.isSome then 1 else 0
  lines : result.recordsWritten = w.sink.lines.length
  failures : result.failedUnits = (complaintsFrom analyze 0 w.called).map (Ledger.failureOf shard.index)
  apart : result.fatalError = none ∨ result.cancelled = false
  whole : result.fatalError = none → result.cancelled = false → w.called = shard.units
  left : result.cancelled = true → w.called.length < shard.units.length

/-- A worker that has ended with a result has its books in order. -/
theorem Progress.books (progress : Progress analyze shard sink w) (new : sink.IsNew)
    (stopsLast : w.StopsLast analyze shard sink) {result : WorkerResult} (stage : w.stage = .ended (.finished result)) :
    Books analyze shard w result := by
  obtain ⟨settled, closed, -⟩ := progress.closed stage
  cases closed with
  | finished finalized _ =>
    have count := settled.count stopsLast
    refine ⟨by simp [result, settled.owner], by simp [result, size, settled.owner], finalized, settled.called_prefix, ?_,
      by simp [result, settled.lines_written new], settled.complaints stopsLast, ?_, ?_, ?_⟩
    · cases stopped : w.stopped <;> simp [result, count, stopped]
    all_goals cases settled.leaves with
      | done none_ called stopped cancelled => simp [result, called, stopped, cancelled]
      | cancelled unit rest next parted stopped cancelled => simp [result, parted, stopped, cancelled]
      | stopped dealt unit rest next parted called stopped cancelled =>
        simp [result, Option.isSome_iff_ne_none.mp stopped, cancelled]

/-- Where a worker on its own gets it may get among others, whatever the flag does. -/
theorem reaches_of_steps_any (analyze : Nat → Capability) (w : Worker) (count : Nat) (cancelled : Bool) :
    Reaches analyze (fun _ => True) w (w.steps analyze true count cancelled).1 := by
  induction count generalizing w cancelled with
  | zero => exact .refl
  | succ count ih => exact .head ⟨cancelled, true, trivial, rfl⟩ (ih _ _)

/-- A worker whose calls are calm, and whose sink can be closed, ends with a result. -/
theorem exists_result (reaches : Reaches analyze (fun _ => True) { shard, sink } w) (ended : w.hasEnded = true)
    (closable : sink.closingFault = none) (calm : IsCalm analyze) :
    ∃ result, w.stage = .ended (.finished result) := by
  have progress := reaches.progress
  obtain ⟨ending, stage⟩ := exists_ending ended
  obtain ⟨settled, closed, -⟩ := progress.closed stage
  cases closed with
  | finished _ _ => exact ⟨_, stage⟩
  | faulty failure _ fault =>
    rw [progress.keeps.closingFault, closable] at fault
    cases fault
  | escaped failure _ stopped escapes =>
    rw [settled.calm calm stopped] at escapes
    cases escapes

/-- A worker with a new sink that can be closed, none of whose calls fails by a failure that escapes, ends with a result,
and its books are in order. This holds of the worker on its own, however the flag is at its start, and of the worker among
others, whenever one of them raises the flag. -/
theorem books_of_run (new : sink.IsNew) (closable : sink.closingFault = none) (calm : IsCalm analyze) :
    (∀ raised, ∃ result, (run analyze raised { shard, sink }).1.stage = .ended (.finished result) ∧
      Books analyze shard (run analyze raised { shard, sink }).1 result) ∧
      ∀ w, Reaches analyze (fun _ => True) { shard, sink } w → w.hasEnded = true →
        ∃ result, w.stage = .ended (.finished result) ∧ Books analyze shard w result := by
  have ends : ∀ w, Reaches analyze (fun _ => True) { shard, sink } w → w.hasEnded = true →
      ∃ result, w.stage = .ended (.finished result) ∧ Books analyze shard w result := by
    intro w reaches ended
    obtain ⟨result, stage⟩ := exists_result reaches ended closable calm
    exact ⟨result, stage, reaches.progress.books new reaches.stopsLast stage⟩
  refine ⟨fun raised => ?_, ends⟩
  exact ends _ (reaches_of_steps_any analyze _ _ raised) (hasEnded_run analyze shard sink raised)

theorem calm_sampleReply : IsCalm fun _ => sampleReply := by
  intro call unit failure fails
  simp only [sampleReply] at fails
  split at fails <;> cases fails

/-- A worker whose shard holds a unit twice, and a unit that cannot be analyzed. -/
def sampleWorker : Worker where
  shard := ⟨0, ["a", "b", "a", "c"]⟩
  sink := .inMemory "shard_0.txt"

theorem books_of_repeated_unit :
    ∃ result, (run (fun _ => sampleReply) false sampleWorker).1.stage = .ended (.finished result) ∧
      Books (fun _ => sampleReply) sampleWorker.shard (run (fun _ => sampleReply) false sampleWorker).1 result :=
  (books_of_run ⟨rfl, rfl, rfl⟩ rfl calm_sampleReply).1 false

/-- The second record of unit `a` ends the work. -/
example : (run (fun _ => sampleReply) false sampleWorker).1.called = ["a", "b", "a"] := by decide +kernel

end Worker

end

end GlobalSurvey.Batch
