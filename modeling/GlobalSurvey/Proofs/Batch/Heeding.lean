import GlobalSurvey.Proofs.Batch.Gathering

/-!
# What comes of a call that fails

A call that fails, other than by a refusal of its unit, is the last one of its worker, and the worker stops with this very
failure (`Heeds`); each step keeps this (`heeds_step`). What the worker reports in the end is this failure, unless its sink
cannot be closed: then the failure of closing takes its place (`Progress.faces`).
-/
namespace GlobalSurvey.Batch
open GlobalSurvey.Report

section
variable {analyze : Nat → Capability} {shard : Shard} {sink : Sink}

/-- As long as the work was not stopped no call failed. -/
theorem harmless_of_open {before after : List String} {unit : String} {failure : Failure}
    (open_ : (ledgerOf analyze shard sink (before ++ unit :: after)).stopped = none) :
    (analyze before.length unit).outcome ≠ .failed failure := by
  intro fails
  have next := Worker.ledgerOf_snoc (Worker.open_of_append open_) unit
  rw [List.append_cons] at open_
  have goesOn := Worker.open_of_append open_
  rw [next, fails] at goesOn
  cases goesOn

namespace Worker

variable {w : Worker}

/-- Every call of the worker that failed is its last one, and the worker is about to take the failure or was stopped by
it. -/
def Heeds (analyze : Nat → Capability) (w : Worker) : Prop :=
  ∀ before unit after failure, w.called = before ++ unit :: after →
    (analyze before.length unit).outcome = .failed failure →
      after = [] ∧ (w.stage = .answering ∨ w.stopped = some failure)

/-! ## Each step keeps the heed -/

theorem heeds_of_open (open_ : (ledgerOf analyze shard sink w.called).stopped = none) : w.Heeds analyze := by
  intro before unit after failure called fails
  rw [called] at open_
  exact absurd fails (harmless_of_open open_)

/-- Only the last call of a worker that went on with its shard up to then may have failed. -/
theorem heeds_of_last {dealt : List String} {unit : String} (open_ : (ledgerOf analyze shard sink dealt).stopped = none)
    (called : w.called = dealt ++ [unit])
    (takes : ∀ failure, (analyze dealt.length unit).outcome = .failed failure →
      w.stage = .answering ∨ w.stopped = some failure) : w.Heeds analyze := by
  intro before other after failure parted fails
  rw [called] at parted
  rcases List.eq_nil_or_concat after with rfl | ⟨later, last, rfl⟩
  · obtain ⟨rfl, same⟩ := List.append_inj' parted rfl
    cases same
    exact ⟨rfl, takes failure fails⟩
  · rw [List.concat_eq_append, ← List.cons_append, ← List.append_assoc] at parted
    obtain ⟨rfl, -⟩ := List.append_inj' parted rfl
    exact absurd fails (harmless_of_open open_)

theorem stop_called (unit : String) (failure : Failure) : (w.stop unit failure).called = w.called := by
  unfold stop
  simp only
  split <;> rfl

theorem stop_stopped (unit : String) (failure : Failure) : (w.stop unit failure).stopped = some failure := by
  unfold stop
  simp only
  split <;> rfl

theorem receive_called (unit : String) (rest : List String) (outcome : Outcome) :
    (w.receive unit rest outcome).called = w.called := by
  cases outcome with
  | facts all =>
    simp only [receive]
    split <;> rfl
  | rejected reason => rfl
  | failed failure => exact stop_called unit failure

theorem write_called (unit : String) (rest : List String) (record : Record) :
    (w.write unit rest record).called = w.called := by
  unfold write
  split
  · rfl
  · exact stop_called unit _

/-- Closing the sink changes nothing about the calls and the failure. -/
theorem close_heeds : w.close.called = w.called ∧ w.close.stopped = w.stopped := by
  unfold close
  split
  · exact ⟨rfl, rfl⟩
  · simp only
    split
    · exact ⟨rfl, rfl⟩
    · split <;> exact ⟨rfl, rfl⟩

theorem heeds_step (progress : Progress analyze shard sink w) (heeds : w.Heeds analyze) (cancelled released : Bool) :
    (w.step analyze cancelled released).1.Heeds analyze := by
  cases progress with
  | queued =>
    have open_ : (ledgerOf analyze shard sink []).stopped = none := rfl
    exact heeds_of_open open_
  -- Up to here all calls are part of an open ledger, so none of them failed.
  | checking stage goesOn =>
    simp only [step, stage]
    have called : (w.check cancelled).called = w.called := by
      unfold check
      split
      · rfl
      · split <;> rfl
    have open_ : (ledgerOf analyze shard sink (w.check cancelled).called).stopped = none := by
      rw [called]
      exact goesOn.isOpen
    exact heeds_of_open open_
  | calling stage next goesOn =>
    simp only [step, stage, next]
    exact heeds_of_last goesOn.isOpen rfl fun _ _ => .inl rfl
  | answering stage next called goesOn =>
    rename_i dealt _ _
    simp only [step, stage, next]
    split
    · exact heeds
    · refine heeds_of_last goesOn.isOpen ((receive_called _ _ _).trans called) ?_
      intro failure fails
      have position : w.called.length - 1 = dealt.length := by simp [called]
      rw [position, fails]
      exact .inr (stop_stopped _ failure)
  | writing stage next called goesOn outcome single =>
    simp only [step, stage, next]
    refine heeds_of_last goesOn.isOpen ((write_called _ _ _).trans called) ?_
    intro failure fails
    rw [outcome] at fails
    cases fails
  | closing stage settled untouched =>
    simp only [step, stage]
    intro before unit after failure called fails
    obtain ⟨calls, stops⟩ := close_heeds (w := w)
    rw [calls] at called
    obtain ⟨last, answers | stopped⟩ := heeds before unit after failure called fails
    · rw [stage] at answers
      cases answers
    · exact ⟨last, .inr (stops.trans stopped)⟩
  | ended stage settled closed closes =>
    simp only [step, stage]
    exact heeds

/-- A new worker heeds the failures of its calls as long as it makes steps. -/
theorem IsNew.heeds {v : Worker} {flag : Bool → Prop} (new : w.IsNew) (reaches : Reaches analyze flag w v) :
    v.Heeds analyze := by
  have open_ : (ledgerOf analyze w.shard w.sink []).stopped = none := rfl
  rw [new.idle] at reaches
  have both := reaches.keeps (fun u => Progress analyze w.shard w.sink u ∧ u.Heeds analyze)
    (fun _ cancelled released _ kept => ⟨progress_step kept.1 cancelled released, heeds_step kept.1 kept.2 _ _⟩)
    ⟨.queued, heeds_of_open open_⟩
  exact both.2

/-! ## What is reported in the end -/

/-- A worker that has ended faced a failure as its sink lets it. -/
inductive Faces (w : Worker) (failure : Failure) : Prop
  /-- It reports the failure. -/
  | reports (stays : w.endsBatch = false) (report : w.report.fatalError = some failure.text)
  /-- Its sink cannot be closed, and it breaks down by this. -/
  | gives (fault : Failure) (closing : w.sink.closingFault = some fault) (stage : w.stage = .ended (.crashed fault))
      (report : w.report.fatalError = some fault.text)

/-- A worker that was stopped by a failure that is meant for it reports the failure, unless its sink cannot be closed. -/
theorem Progress.faces (progress : Progress analyze shard sink w) (ended : w.hasEnded = true) {failure : Failure}
    (stopped : w.stopped = some failure) (stays : failure.escapes = false) : w.Faces failure := by
  obtain ⟨ending, stage⟩ := exists_ending ended
  obtain ⟨-, closed, -⟩ := progress.closed stage
  cases closed with
  | finished finalized _ => exact .reports (by simp [endsBatch, stage]) (by simp [report, stage, result, stopped])
  | faulty fault unfinished closing => exact .gives fault closing stage (by simp [report, stage])
  | escaped other finalized same escapes =>
    rw [stopped] at same
    cases same
    rw [stays] at escapes
    cases escapes

end Worker

end

end GlobalSurvey.Batch
