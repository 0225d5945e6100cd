import GlobalSurvey.Proofs.Batch.Progress
import Mathlib.Logic.Relation

/-!
# A worker on its own

`Reaches` says that a worker gets from one state to another while others may move, with the flag as given. A worker on its
own always ends (`hasEnded_run`). And as long as the flag is down, a worker among others gets nowhere else than on its
own: it may have to wait, but when it has ended it is where it ends on its own (`eq_run_of_ended`).
-/
namespace GlobalSurvey.Batch

/-- No call cancels the batch. -/
def IsQuiet (analyze : Nat → Capability) : Prop := ∀ call unit, (analyze call unit).cancels = false

/-- The same calls, but none of them cancels the batch. -/
def silenced (analyze : Nat → Capability) : Nat → Capability := fun call unit =>
  { analyze call unit with cancels := false }

theorem isQuiet_silenced (analyze : Nat → Capability) : IsQuiet (silenced analyze) := fun _ _ => rfl

namespace Worker

/-- A step of a worker, with the flag as given and the waiting calls released or not. -/
def Advances (analyze : Nat → Capability) (flag : Bool → Prop) (w v : Worker) : Prop :=
  ∃ cancelled released, flag cancelled ∧ v = (w.step analyze cancelled released).1

/-- Any number of steps of a worker. -/
abbrev Reaches (analyze : Nat → Capability) (flag : Bool → Prop) : Worker → Worker → Prop :=
  Relation.ReflTransGen (Advances analyze flag)

section
variable {analyze : Nat → Capability} {flag : Bool → Prop} {shard : Shard} {sink : Report.Sink} {w v : Worker}

/-- What every step keeps holds after any number of steps. -/
theorem Reaches.keeps (kept : Worker → Prop) (reaches : Reaches analyze flag w v)
    (step : ∀ u cancelled released, flag cancelled → kept u → kept (u.step analyze cancelled released).1)
    (start : kept w) : kept v := by
  induction reaches with
  | refl => exact start
  | tail _ advance ih =>
    obtain ⟨cancelled, released, up, rfl⟩ := advance
    exact step _ cancelled released up ih

theorem Reaches.progress (reaches : Reaches analyze flag { shard, sink } v) : Progress analyze shard sink v :=
  reaches.keeps _ (fun _ cancelled released _ progress => progress_step progress cancelled released) .queued

/-! ## What a step leaves alone -/

theorem step_ended (ended : w.hasEnded = true) (cancelled released : Bool) :
    w.step analyze cancelled released = (w, false) := by
  unfold hasEnded at ended
  split at ended
  · rename_i stage
    simp [step, stage]
  · cases ended

theorem step_quiet (quiet : IsQuiet analyze) (cancelled released : Bool) :
    (w.step analyze cancelled released).2 = false := by
  unfold step
  split <;> first | rfl | exact quiet _ _

/-- A step may have to wait; otherwise it is the step that waits for nothing. -/
theorem step_waits (analyze : Nat → Capability) (w : Worker) (cancelled released : Bool) :
    (w.step analyze cancelled released).1 = w ∨
      (w.step analyze cancelled released).1 = (w.step analyze cancelled true).1 := by
  cases released with
  | true => exact .inr rfl
  | false =>
    unfold step
    split
    all_goals try exact .inr rfl
    simp only [Bool.not_false, Bool.and_true, Bool.not_true, Bool.and_false, Bool.false_eq_true, if_false]
    split
    · exact .inl rfl
    · exact .inr rfl

theorem stop_cancelled (unit : String) (failure : Failure) : (w.stop unit failure).cancelled = w.cancelled := by
  unfold stop
  simp only
  split <;> rfl

theorem receive_cancelled (unit : String) (rest : List String) (outcome : Outcome) :
    (w.receive unit rest outcome).cancelled = w.cancelled := by
  cases outcome with
  | facts all =>
    simp only [receive]
    split <;> rfl
  | rejected reason => rfl
  | failed failure => exact stop_cancelled unit failure

theorem write_cancelled (unit : String) (rest : List String) (record : Report.Record) :
    (w.write unit rest record).cancelled = w.cancelled := by
  unfold write
  split
  · rfl
  · exact stop_cancelled unit _

theorem close_cancelled : w.close.cancelled = w.cancelled := by
  unfold close
  split
  · rfl
  · simp only
    split
    · rfl
    · split <;> rfl

/-- The worker is about to look at the flag before a unit. -/
def isLooking (w : Worker) : Bool :=
  match w.stage, w.remaining with
  | .checking, _ :: _ => true
  | _, _ => false

theorem check_cancelled (stage : w.stage = .checking) (cancelled : Bool) :
    (w.check cancelled).cancelled = (w.cancelled || (cancelled && w.isLooking)) := by
  unfold check isLooking
  rw [stage]
  cases w.remaining with
  | nil => simp
  | cons unit rest => cases cancelled <;> simp [logging]

/-- A worker leaves units exactly if it looks at the raised flag before a unit. -/
theorem step_cancelled (analyze : Nat → Capability) (w : Worker) (cancelled released : Bool) :
    (w.step analyze cancelled released).1.cancelled = (w.cancelled || (cancelled && w.isLooking)) := by
  unfold step
  split
  · rename_i stage
    simp [isLooking, stage, begin, logging]
  · rename_i stage
    exact check_cancelled stage cancelled
  · rename_i stage next
    simp [isLooking, stage, call]
  · rename_i stage next
    simp only [isLooking, stage, Bool.and_false, Bool.or_false]
    split
    · rfl
    · exact receive_cancelled _ _ _
  · rename_i stage next
    simp only [isLooking, stage, Bool.and_false, Bool.or_false]
    exact write_cancelled _ _ _
  · rename_i stage
    simp only [isLooking, stage, Bool.and_false, Bool.or_false]
    exact close_cancelled
  all_goals
    rename_i stage
    simp [isLooking, stage]

theorem Reaches.uncancelled (reaches : Reaches analyze (· = false) w v) (start : w.cancelled = false) :
    v.cancelled = false := by
  refine reaches.keeps (fun u => u.cancelled = false) ?_ start
  rintro u cancelled released rfl before
  rw [step_cancelled, before, Bool.false_and, Bool.or_false]

/-! ## Ending -/

/-- The most steps that a worker has to make until it ends, if no call waits. -/
def due (w : Worker) : Nat :=
  match w.stage with
  | .queued => 4 * w.remaining.length + 3
  | .checking => 4 * w.remaining.length + 2
  | .calling => 4 * w.remaining.length + 1
  | .answering => 4 * w.remaining.length
  | .writing _ => 4 * w.remaining.length - 1
  | .closing => 1
  | .ended _ => 0

theorem hasEnded_iff_due (progress : Progress analyze shard sink w) : w.hasEnded = true ↔ w.due = 0 := by
  cases progress with
  | queued => simp [hasEnded, due]
  | checking stage _ => simp [hasEnded, due, stage]
  | calling stage _ _ => simp [hasEnded, due, stage]
  | answering stage next _ _ => simp [hasEnded, due, stage, next]
  | writing stage next _ _ _ _ => simp [hasEnded, due, stage, next]; omega
  | closing stage _ _ => simp [hasEnded, due, stage]
  | ended stage _ _ => simp [hasEnded, due, stage]

theorem due_stop (unit : String) (failure : Failure) : (w.stop unit failure).due = 1 := by
  unfold stop
  simp only
  split <;> rfl

theorem due_close : w.close.due = 0 := by
  unfold close
  split
  · rfl
  · simp only
    split
    · rfl
    · split <;> rfl

/-- Each step brings a worker nearer to its end, unless a call waits. -/
theorem due_step (progress : Progress analyze shard sink w) (running : w.hasEnded = false) (cancelled : Bool) :
    (w.step analyze cancelled true).1.due < w.due := by
  cases progress with
  | queued => simp [step, due, begin, logging]
  | checking stage goesOn =>
    simp only [step, stage, check]
    cases next : w.remaining with
    | nil => simp [due, stage, next]
    | cons unit rest => cases cancelled <;> simp [due, stage, next, logging]
  | calling stage next goesOn => simp [step, stage, next, due, call]
  | answering stage next called goesOn =>
    rename_i dealt unit rest
    simp only [step, stage, next, Bool.not_true, Bool.and_false, Bool.false_eq_true, if_false]
    cases (analyze (w.called.length - 1) unit).outcome with
    | facts all =>
      simp only [receive]
      split
      · simp only [due, stage, next, List.length_cons]
        omega
      · simp only [due, stage, next, skip, logging, List.length_cons]
        omega
    | rejected reason => simp [due, stage, next, receive, skip, logging]; omega
    | failed failure => simp only [receive, due_stop]; simp [due, stage, next]; omega
  | writing stage next called goesOn outcome single =>
    simp only [step, stage, next, write]
    split
    · simp [due, stage, next]; omega
    · rw [due_stop]; simp [due, stage, next]; omega
  | closing stage settled untouched =>
    simp only [step, stage, due_close]
    simp [due, stage]
  | ended stage _ _ => simp [hasEnded, stage] at running

theorem hasEnded_steps (progress : Progress analyze shard sink w) {count : Nat} (enough : w.due ≤ count)
    (cancelled : Bool) : (w.steps analyze true count cancelled).1.hasEnded = true := by
  induction count generalizing w cancelled with
  | zero => exact (hasEnded_iff_due progress).mpr (by omega)
  | succ count ih =>
    simp only [steps]
    refine ih (progress_step progress cancelled true) ?_ _
    cases ended : w.hasEnded with
    | true =>
      have none_ : w.due = 0 := (hasEnded_iff_due progress).mp ended
      rw [step_ended ended, none_]
      exact Nat.zero_le count
    | false =>
      have nearer := due_step progress ended cancelled
      omega

/-- A worker on its own ends, whatever the calls answer. -/
theorem hasEnded_run (analyze : Nat → Capability) (shard : Shard) (sink : Report.Sink) (cancelled : Bool) :
    (run analyze cancelled { shard, sink }).1.hasEnded = true :=
  hasEnded_steps (Progress.queued : Progress analyze shard sink { shard, sink }) (Nat.le_refl _) cancelled

/-! ## Among others and on its own -/

theorem steps_add (analyze : Nat → Capability) (w : Worker) (first later : Nat) (cancelled : Bool) :
    w.steps analyze true (first + later) cancelled =
      (w.steps analyze true first cancelled).1.steps analyze true later (w.steps analyze true first cancelled).2 := by
  induction first generalizing w cancelled with
  | zero => simp [steps]
  | succ first ih =>
    rw [Nat.add_right_comm]
    simp only [steps]
    exact ih _ _

theorem steps_quiet (quiet : IsQuiet analyze) (count : Nat) : (w.steps analyze true count false).2 = false := by
  induction count generalizing w with
  | zero => rfl
  | succ count ih =>
    simp only [steps, step_quiet quiet, Bool.or_false]
    exact ih

theorem steps_ended (ended : w.hasEnded = true) (count : Nat) (cancelled : Bool) :
    (w.steps analyze true count cancelled).1 = w := by
  induction count generalizing cancelled with
  | zero => rfl
  | succ count ih =>
    simp only [steps, step_ended ended]
    exact ih _

/-- Where a worker on its own gets it may get among others. -/
theorem reaches_of_steps (quiet : IsQuiet analyze) (w : Worker) (count : Nat) :
    Reaches analyze (· = false) w (w.steps analyze true count false).1 := by
  induction count generalizing w with
  | zero => exact .refl
  | succ count ih =>
    simp only [steps, step_quiet quiet, Bool.or_false]
    exact .head ⟨false, true, rfl, rfl⟩ (ih _)

theorem reaches_run (quiet : IsQuiet analyze) (w : Worker) : Reaches analyze (· = false) w (w.run analyze false).1 :=
  reaches_of_steps quiet w w.stepCount

/-- As long as the flag is down a worker gets nowhere else than on its own. -/
theorem reaches_steps (quiet : IsQuiet analyze) (reaches : Reaches analyze (· = false) w v) :
    ∃ count, v = (w.steps analyze true count false).1 := by
  induction reaches with
  | refl => exact ⟨0, rfl⟩
  | tail _ advance ih =>
    obtain ⟨count, rfl⟩ := ih
    obtain ⟨cancelled, released, rfl, rfl⟩ := advance
    rcases step_waits analyze (w.steps analyze true count false).1 false released with same | moved
    · exact ⟨count, same⟩
    · refine ⟨count + 1, ?_⟩
      rw [moved, steps_add, steps_quiet quiet]
      rfl

/-- A worker that has ended while the flag was down is where it ends on its own. -/
theorem eq_run_of_ended (quiet : IsQuiet analyze) (reaches : Reaches analyze (· = false) { shard, sink } v)
    (ended : v.hasEnded = true) : v = (run analyze false { shard, sink }).1 := by
  obtain ⟨count, rfl⟩ := reaches_steps quiet reaches
  have own := hasEnded_run analyze shard sink false
  unfold run at own ⊢
  generalize stepCount { shard, sink } = enough at own ⊢
  have far := steps_add analyze { shard, sink } count enough false
  have near := steps_add analyze { shard, sink } enough count false
  rw [Nat.add_comm, near] at far
  have same := congrArg Prod.fst far
  rw [steps_ended ended, steps_ended own] at same
  exact same.symm

end

end Worker

end GlobalSurvey.Batch
