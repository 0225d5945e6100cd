import GlobalSurvey.Proofs.Batch.Launch
import Mathlib.Algebra.GroupWithZero.Nat
import Mathlib.Order.WellFounded

/-!
# Pools come to their end

If no call waits, the first worker that has not ended may always make a step (`InTurn.mayStep`), and each step of a worker
brings it nearer to its end. So a pool whose workers come up again and again comes to its end (`InTurn.ends_of_fair`), and
so does one whose workers go as far as they get, one after the other (`InTurn.ends_oneByOne`).
-/
namespace GlobalSurvey.Batch
open GlobalSurvey.Files

/-- No call waits. -/
def IsPrompt (analyze : Nat → Capability) : Prop := ∀ call unit, (analyze call unit).waits = false

namespace Worker

section
variable {analyze : Nat → Capability} {w : Worker}

/-- A worker that makes a step has begun. -/
theorem hasBegun_step (analyze : Nat → Capability) (w : Worker) (cancelled released : Bool) :
    (w.step analyze cancelled released).1.hasBegun = true := by
  have stop (unit : String) (failure : Failure) : (w.stop unit failure).hasBegun = true := by
    unfold Worker.stop
    simp only
    split <;> rfl
  unfold step
  split
  · rfl
  · unfold check
    split
    · rfl
    · split <;> rfl
  · rfl
  · rename_i unit rest stage next
    simp only
    split
    · simp [hasBegun, stage]
    · cases (analyze (w.called.length - 1) unit).outcome with
      | facts all =>
        simp only [receive]
        split <;> rfl
      | rejected reason => rfl
      | failed failure => exact stop unit failure
  · rename_i record unit rest stage next
    unfold write
    simp only
    split
    · rfl
    · exact stop unit _
  · unfold close
    split
    · rfl
    · simp only
      split
      · rfl
      · split <;> rfl
  · rfl
  · rfl
  · rfl
  · rename_i stage
    simp [hasBegun, stage]

theorem hasBegun_of_hasEnded (ended : w.hasEnded = true) : w.hasBegun = true := by
  unfold hasEnded at ended
  split at ended
  · rename_i stage
    simp [hasBegun, stage]
  · cases ended

/-- Nothing is released for calls that do not wait. -/
theorem step_prompt (prompt : IsPrompt analyze) (cancelled released : Bool) :
    w.step analyze cancelled released = w.step analyze cancelled true := by
  unfold step
  split
  all_goals try rfl
  simp only [prompt _ _, Bool.false_and]

theorem due_le_stepCount (w : Worker) : w.due ≤ w.stepCount := by
  unfold due stepCount
  split <;> omega

end

end Worker

namespace Pool

section
variable {analyze : Nat → Capability} {p : Pool}

/-- The workers of an open pool are on their way, and they begin in their order. -/
structure InTurn (analyze : Nat → Capability) (p : Pool) : Prop where
  open_ : p.shut = false
  room : 0 < p.size
  progress : ∀ w ∈ p.workers, ∃ shard sink, Worker.Progress analyze shard sink w
  ordered : p.workers.Pairwise fun w v => v.hasBegun = true → w.hasBegun = true

/-- The most steps that the workers of a pool have to make until they have ended. -/
def due (p : Pool) : Nat := (p.workers.map (·.due)).sum

/-! ## One move -/

/-- A step of the worker at a position, if it may make one; the other workers stay as they are. -/
theorem step_cases (analyze : Nat → Capability) (p : Pool) (position : Nat) :
    p.move analyze (.step position) = p ∨
      ∃ before w after, p.workers = before ++ w :: after ∧ before.length = position ∧ p.mayStep position w = true ∧
        p.move analyze (.step position) = { p with
          workers := before ++ (w.step analyze p.cancelled p.released).1 :: after
          cancelled := p.cancelled || (w.step analyze p.cancelled p.released).2 } := by
  cases there : p.workers[position]? with
  | none => exact .inl (by simp only [move, there])
  | some w =>
    cases may : p.mayStep position w with
    | false => exact .inl (by simp only [move, there, may, Bool.false_eq_true, if_false])
    | true =>
      obtain ⟨inside, same⟩ := List.getElem?_eq_some_iff.mp there
      refine .inr ⟨p.workers.take position, w, p.workers.drop (position + 1), ?_, ?_, may, ?_⟩
      · rw [← same, ← List.drop_eq_getElem_cons inside, List.take_append_drop]
      · rw [List.length_take, Nat.min_eq_left (Nat.le_of_lt inside)]
      · simp only [move, there, may, if_true, List.set_eq_take_append_cons_drop, if_pos inside]

theorem InTurn.move (inTurn : p.InTurn analyze) (position : Nat) : (p.move analyze (.step position)).InTurn analyze := by
  rcases step_cases analyze p position with same | ⟨before, w, after, parted, length, may, same⟩
  · rw [same]
    exact inTurn
  · have progress := inTurn.progress
    have ordered := inTurn.ordered
    rw [parted] at progress ordered
    rw [List.pairwise_append, List.pairwise_cons] at ordered
    rw [same]
    refine ⟨inTurn.open_, inTurn.room, ?_, ?_⟩
    · simp only [List.forall_mem_append, List.forall_mem_cons] at progress ⊢
      obtain ⟨earlier, ⟨shard, sink, own⟩, later⟩ := progress
      exact ⟨earlier, ⟨shard, sink, Worker.progress_step own _ _⟩, later⟩
    · obtain ⟨earlier, ⟨first, later⟩, across⟩ := ordered
      refine List.pairwise_append.mpr ⟨earlier, List.pairwise_cons.mpr ⟨?_, later⟩, ?_⟩
      · exact fun _ _ _ => Worker.hasBegun_step analyze w _ _
      · intro u inside v member begun
        rcases List.mem_cons.mp member with rfl | other
        · -- The worker had begun already, or it begins now because all workers before it have.
          rcases Bool.or_eq_true _ _ ▸ may with already | now
          · exact across u inside w List.mem_cons_self already
          · have all := (Bool.and_eq_true _ _ ▸ now).2
            rw [parted, ← length, List.take_left] at all
            exact List.all_eq_true.mp all u inside
        · exact across u inside v (List.mem_cons_of_mem w other) begun

/-- A step of any worker brings the pool nearer to its end, or changes no worker. -/
theorem due_move (prompt : IsPrompt analyze) (inTurn : p.InTurn analyze) (position : Nat) :
    (p.move analyze (.step position)).workers = p.workers ∨ (p.move analyze (.step position)).due < p.due := by
  rcases step_cases analyze p position with same | ⟨before, w, after, parted, -, -, same⟩
  · exact .inl (by rw [same])
  · obtain ⟨shard, sink, progress⟩ := inTurn.progress w (by simp [parted])
    rw [same, Worker.step_prompt prompt]
    cases ended : w.hasEnded with
    | true => exact .inl (by rw [Worker.step_ended ended, parted])
    | false =>
      have nearer := Worker.due_step progress ended p.cancelled
      refine .inr ?_
      simp only [due, parted, List.map_append, List.map_cons, List.sum_append, List.sum_cons]
      omega

/-! ## The first worker that has not ended -/

section
variable {before after : List Worker} {w : Worker}

/-- When all workers before it have ended a worker may make a step. -/
theorem InTurn.mayStep (inTurn : p.InTurn analyze) (parted : p.workers = before ++ w :: after)
    (ended : ∀ v ∈ before, v.hasEnded = true) : p.mayStep before.length w = true := by
  unfold Pool.mayStep
  cases begun : w.hasBegun with
  | true => rfl
  | false =>
    have ordered := inTurn.ordered
    rw [parted, List.pairwise_append, List.pairwise_cons] at ordered
    have idle : ∀ v ∈ after, v.hasBegun = false := fun v member => Bool.eq_false_iff.mpr fun later => by
      rw [ordered.2.1.1 v member later] at begun
      cases begun
    have none_ : p.running = 0 := by
      rw [running, List.length_eq_zero_iff, List.filter_eq_nil_iff, parted]
      intro v member
      rcases List.mem_append.mp member with earlier | other
      · simp [ended v earlier]
      · rcases List.mem_cons.mp other with rfl | later
        · simp [begun]
        · simp [idle v later]
    have all : (p.workers.take before.length).all (·.hasBegun) = true := by
      rw [parted, List.take_left]
      exact List.all_eq_true.mpr fun v member => Worker.hasBegun_of_hasEnded (ended v member)
    simp [inTurn.open_, none_, inTurn.room, all]

/-- The step of a worker when all workers before it have ended. -/
theorem InTurn.workers_move (inTurn : p.InTurn analyze) (prompt : IsPrompt analyze)
    (parted : p.workers = before ++ w :: after) (ended : ∀ v ∈ before, v.hasEnded = true) :
    (p.move analyze (.step before.length)).workers = before ++ (w.step analyze p.cancelled true).1 :: after := by
  have there : p.workers[before.length]? = some w := by simp [parted]
  have may := inTurn.mayStep parted ended
  simp only [Pool.move, there, may, if_true, Worker.step_prompt prompt]
  rw [parted, List.set_append_right _ _ (Nat.le_refl _), Nat.sub_self, List.set_cons_zero]

theorem exists_first (running : ¬ ∀ v ∈ p.workers, v.hasEnded = true) : ∃ before w after,
    p.workers = before ++ w :: after ∧ (∀ v ∈ before, v.hasEnded = true) ∧ w.hasEnded = false := by
  have parted := List.takeWhile_append_dropWhile (p := Worker.hasEnded) (l := p.workers)
  cases rest : p.workers.dropWhile Worker.hasEnded with
  | nil => exact absurd (List.dropWhile_eq_nil_iff.mp rest) running
  | cons w after =>
    refine ⟨p.workers.takeWhile Worker.hasEnded, w, after, by rw [← rest, parted], ?_, ?_⟩
    · exact fun v member => List.mem_takeWhile_imp member
    · have first := List.head?_dropWhile_not Worker.hasEnded p.workers
      rw [rest] at first
      simpa using first

theorem InTurn.due_first (inTurn : p.InTurn analyze) (prompt : IsPrompt analyze)
    (parted : p.workers = before ++ w :: after) (ended : ∀ v ∈ before, v.hasEnded = true) (running : w.hasEnded = false) :
    (p.move analyze (.step before.length)).due < p.due := by
  obtain ⟨shard, sink, progress⟩ := inTurn.progress w (by simp [parted])
  have nearer := Worker.due_step progress running p.cancelled
  simp only [due, inTurn.workers_move prompt parted ended, parted, List.map_append, List.map_cons, List.sum_append,
    List.sum_cons]
  omega

end

/-! ## All workers come up again and again -/

/-- The pool after some moves, each of them a step. -/
def trace (analyze : Nat → Capability) (p : Pool) (positions : Nat → Nat) (time : Nat) : Pool :=
  p.follow analyze ((List.range time).map fun t => .step (positions t))

theorem trace_succ (analyze : Nat → Capability) (p : Pool) (positions : Nat → Nat) (time : Nat) :
    p.trace analyze positions (time + 1) = (p.trace analyze positions time).move analyze (.step (positions time)) := by
  rw [trace, List.range_succ, List.map_append, follow_append]
  rfl

theorem InTurn.trace (inTurn : p.InTurn analyze) (positions : Nat → Nat) (time : Nat) :
    (p.trace analyze positions time).InTurn analyze := by
  induction time with
  | zero => exact inTurn
  | succ time ih =>
    rw [trace_succ]
    exact ih.move _

/-- Each of some workers comes up again and again. -/
def IsFair (count : Nat) (positions : Nat → Nat) : Prop :=
  ∀ position < count, ∀ time, ∃ later, time ≤ later ∧ positions later = position

/-- A pool whose workers come up again and again comes to its end. -/
theorem InTurn.ends_of_fair (inTurn : p.InTurn analyze) (prompt : IsPrompt analyze) {positions : Nat → Nat}
    (fair : IsFair p.workers.length positions) :
    ∃ time, ∀ v ∈ (p.trace analyze positions time).workers, v.hasEnded = true := by
  -- When the workers are as near to their ends as they ever get no worker changes any more, so all of them have ended.
  let due (time : Nat) : Nat := (p.trace analyze positions time).due
  obtain ⟨time, least⟩ : ∃ time, ∀ other, due time ≤ due other :=
    ⟨Function.argmin due, fun other => Function.argmin_le due other⟩
  refine ⟨time, ?_⟩
  by_contra running
  have still (count : Nat) :
      (p.trace analyze positions (time + count)).workers = (p.trace analyze positions time).workers := by
    induction count with
    | zero => rfl
    | succ count ih =>
      rw [← Nat.add_assoc, trace_succ]
      rcases due_move prompt (inTurn.trace positions (time + count)) (positions (time + count)) with same | nearer
      · rw [same, ih]
      · have bound := least (time + count + 1)
        simp only [due, trace_succ, Pool.due, ih] at nearer bound
        omega
  obtain ⟨before, w, after, parted, ended, first⟩ := exists_first running
  have inside : before.length < p.workers.length := by
    rw [(evolves_follow_any analyze p _).length_eq, ← Pool.trace, parted]
    simp
  obtain ⟨later, passed, here⟩ := fair before.length inside time
  obtain ⟨count, rfl⟩ := Nat.exists_eq_add_of_le passed
  have nearer := (inTurn.trace positions (time + count)).due_first prompt ((still count).trans parted) ended first
  have bound := least (time + count + 1)
  simp only [due, trace_succ, here, Pool.due, still count] at nearer bound
  omega

/-! ## One worker after the other -/

section
variable {before after : List Worker} {w : Worker}

/-- The first worker that has not ended comes to its end by enough steps. -/
theorem InTurn.ends_first (inTurn : p.InTurn analyze) (prompt : IsPrompt analyze)
    (parted : p.workers = before ++ w :: after) (ended : ∀ v ∈ before, v.hasEnded = true) {count : Nat}
    (enough : w.due ≤ count) :
    ∃ v, v.hasEnded = true ∧ (p.follow analyze (List.replicate count (.step before.length))).InTurn analyze ∧
      (p.follow analyze (List.replicate count (.step before.length))).workers = before ++ v :: after := by
  induction count generalizing p w with
  | zero =>
    obtain ⟨shard, sink, progress⟩ := inTurn.progress w (by simp [parted])
    exact ⟨w, (Worker.hasEnded_iff_due progress).mpr (Nat.le_zero.mp enough), inTurn, parted⟩
  | succ count ih =>
    rw [List.replicate_succ]
    refine ih (inTurn.move before.length) (inTurn.workers_move prompt parted ended) ?_
    cases stage : w.hasEnded with
    | true =>
      obtain ⟨shard, sink, progress⟩ := inTurn.progress w (by simp [parted])
      rw [Worker.step_ended stage, (Worker.hasEnded_iff_due progress).mp stage]
      exact Nat.zero_le count
    | false =>
      obtain ⟨shard, sink, progress⟩ := inTurn.progress w (by simp [parted])
      have nearer := Worker.due_step progress stage p.cancelled
      omega

/-- Workers that get enough steps one after the other come to their ends. -/
theorem InTurn.ends_each (inTurn : p.InTurn analyze) (prompt : IsPrompt analyze) (before : List Worker)
    {rest : List Worker} (parted : p.workers = before ++ rest) (ended : ∀ v ∈ before, v.hasEnded = true)
    (counts : Nat → Nat) (enough : ∀ i w, rest[i]? = some w → w.due ≤ counts (before.length + i)) :
    ∀ v ∈ (p.follow analyze ((List.range' before.length rest.length).flatMap fun position =>
      List.replicate (counts position) (.step position))).workers, v.hasEnded = true := by
  induction rest generalizing p before with
  | nil =>
    rw [List.append_nil] at parted
    rw [← parted] at ended
    exact ended
  | cons w rest ih =>
    obtain ⟨v, last, later, same⟩ := inTurn.ends_first prompt parted ended (enough 0 w rfl)
    rw [List.length_cons, List.range'_succ, List.flatMap_cons, follow_append]
    have length : before.length + 1 = (before ++ [v]).length := by simp
    rw [length]
    refine ih later (before ++ [v]) (by rw [Nat.add_zero] at same; simp [same]) ?_ ?_
    · simp only [List.forall_mem_append, List.forall_mem_singleton]
      exact ⟨ended, last⟩
    · intro i u there
      rw [← length, Nat.add_assoc, Nat.add_comm 1 i]
      exact enough (i + 1) u there

/-- A pool comes to its end if its workers go as far as they get, one after the other. -/
theorem InTurn.ends_oneByOne (inTurn : p.InTurn analyze) (prompt : IsPrompt analyze) :
    ∀ v ∈ (p.follow analyze p.oneByOne).workers, v.hasEnded = true := by
  have each := inTurn.ends_each prompt [] rfl (fun _ member => (List.not_mem_nil member).elim)
    (fun position => (p.workers[position]?.map Worker.stepCount).getD 0) ?_
  · rw [List.length_nil, ← List.range_eq_range'] at each
    exact each
  · intro i w there
    rw [List.length_nil, Nat.zero_add, there]
    exact w.due_le_stepCount

end

end

end Pool

/-! ## Batches -/

/-- The workers of a batch are on their way, one for each shard. -/
theorem inTurn_launch {r : Request} {d : Disk} {l : Launch} {units : List String} {workers : Nat}
    (given : r.GivesNewSinks) (accepted : r.check = .ok (units, workers)) (launched : r.launch d = some l)
    (analyze : Nat → Capability) : l.pool.InTurn analyze ∧ l.pool.workers.length = workers := by
  obtain ⟨shards, cut, whole, ready⟩ := ready_launch given accepted launched
  obtain ⟨between, sinks, -, -, pool⟩ := exists_sinks accepted cut launched
  refine ⟨⟨by rw [pool], by rw [pool]; exact (Request.check_eq_ok accepted).2, ?_, ?_⟩, ?_⟩
  · intro w member
    have start : Worker.Reaches analyze (fun _ => True) w w := .refl
    exact ⟨w.shard, w.sink, (ready.pool.new w member).progress start⟩
  · refine List.pairwise_of_forall_mem_list fun w _ v member begun => ?_
    rw [(ready.pool.new v member).idle] at begun
    cases begun
  · rw [← whole.length, ← ready.shards, List.length_map]

end GlobalSurvey.Batch
