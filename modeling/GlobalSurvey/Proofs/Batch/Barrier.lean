import GlobalSurvey.Proofs.Batch.Joining
import GlobalSurvey.Proofs.Sorting
import Mathlib.Data.List.Forall2
import Mathlib.Data.List.Nodup

/-!
# Joining heeds no order

Joining sorts the workers by their shards before it looks at any of them. Workers of different shards are sorted in one
way only (`inOrder_perm`), so whatever order they are joined in, the log and the outcome are the same: a result for each
worker in the order of the shards, or the failure of the lowest shard that ends the batch (`join_heeds_no_order`).
-/
namespace GlobalSurvey.Batch

namespace Worker

/-- The result that a worker that has ended comes to: the one it reports, or one that only tells the shard, its size and
the failure, if it broke down by a failure that does not escape. -/
inductive Yields (w : Worker) : WorkerResult → Prop
  | own {result : WorkerResult} (stage : w.stage = .ended (.finished result)) : Yields w result
  | madeUp {failure : Failure} (stage : w.stage = .ended (.crashed failure)) (stays : failure.escapes = false) :
      Yields w
        { shard := w.shard.index, units := w.size, recordsWritten := 0, failedUnits := []
          fatalError := some (failure.kind ++ ": " ++ failure.message), cancelled := false }

theorem yields_report {w : Worker} (ended : w.hasEnded = true) (stays : w.endsBatch = false) : w.Yields w.report := by
  obtain ⟨ending, stage⟩ := exists_ending ended
  cases ending with
  | finished result =>
    rw [report, stage]
    exact .own stage
  | crashed failure =>
    rw [report, stage]
    exact .madeUp stage (by simpa only [endsBatch, stage] using stays)

end Worker

namespace Pool

section
variable {workers others : List Worker}

theorem trans_byShard (u v w : Worker) (uv : decide (u.shard.index ≤ v.shard.index) = true)
    (vw : decide (v.shard.index ≤ w.shard.index) = true) : decide (u.shard.index ≤ w.shard.index) = true :=
  decide_eq_true (Int.le_trans (of_decide_eq_true uv) (of_decide_eq_true vw))

theorem total_byShard (v w : Worker) :
    (decide (v.shard.index ≤ w.shard.index) || decide (w.shard.index ≤ v.shard.index)) = true := by
  simp only [Bool.or_eq_true, decide_eq_true_eq]
  exact Int.le_total _ _

/-- Workers of different shards have one order. -/
theorem inOrder_perm (different : (workers.map (·.shard.index)).Nodup) (perm : workers.Perm others) :
    inOrder workers = inOrder others := by
  refine mergeSort_eq_of_perm trans_byShard total_byShard ?_ perm
  intro v left w right vw wv
  exact List.inj_on_of_nodup_map different left right (Int.le_antisymm (of_decide_eq_true vw) (of_decide_eq_true wv))

theorem perm_inOrder (workers : List Worker) : (inOrder workers).Perm workers := List.mergeSort_perm _ _

theorem ascending_inOrder (different : (workers.map (·.shard.index)).Nodup) :
    ((inOrder workers).map (·.shard.index)).Pairwise (· < ·) := by
  have apart : ((inOrder workers).map (·.shard.index)).Pairwise (· ≠ ·) :=
    ((perm_inOrder workers).map _).nodup_iff.mpr different
  have sorted : (inOrder workers).Pairwise fun v w => v.shard.index ≤ w.shard.index :=
    (List.pairwise_mergeSort trans_byShard total_byShard workers).imp of_decide_eq_true
  exact ((List.pairwise_map.mpr sorted).and apart).imp fun ⟨le, ne⟩ => Int.lt_iff_le_and_ne.mpr ⟨le, ne⟩

/-- Workers that have all ended are joined at once, whatever the limit to the time. -/
theorem join_of_ended {p : Pool} (ended : ∀ w ∈ p.workers, w.hasEnded = true) (timeout : Option Number) :
    p.join timeout =
      (p, (results (inOrder p.workers)).1,
        match (results (inOrder p.workers)).2 with
        | .ok all => .results all
        | .error failure => .failed failure) := by
  have none_ : p.pending.isEmpty = true := by simpa [pending] using ended
  exact if_pos none_

/-- The first worker that ends the batch, of workers in ascending order, is the lowest that does. -/
theorem EndsBatch.lowest {failure : Failure} (ascending : (workers.map (·.shard.index)).Pairwise (· < ·))
    (ends : EndsBatch workers failure) :
    ∃ w ∈ workers, w.stage = .ended (.crashed failure) ∧ failure.escapes = true ∧
      ∀ v ∈ workers, v.endsBatch = true → w.shard.index ≤ v.shard.index := by
  obtain ⟨before, w, after, rfl, stay, stage, escapes⟩ := ends
  refine ⟨w, by simp, stage, escapes, ?_⟩
  intro v member endsToo
  rcases List.mem_append.mp member with inside | inside
  · rw [stay v inside] at endsToo
    cases endsToo
  · rcases List.mem_cons.mp inside with rfl | later
    · exact Int.le_refl _
    · rw [List.map_append, List.map_cons] at ascending
      have above := List.rel_of_pairwise_cons (List.pairwise_append.mp ascending).2.1 (List.mem_map_of_mem later)
      exact Int.le_of_lt above

end

/-- Joining workers of different shards that have all ended comes to the same log and the same outcome in whatever order
they are joined, and with whatever limit to the time. If no worker ends the batch the outcome is one result for each of
them, in the ascending order of the shards: its own, or for a worker that broke down one with the shard, its size and the
failure only. Otherwise it is the failure of the lowest shard that ends the batch. -/
theorem join_heeds_no_order {p q : Pool} (ended : ∀ w ∈ p.workers, w.hasEnded = true)
    (different : (p.workers.map (·.shard.index)).Nodup) (perm : p.workers.Perm q.workers)
    (timeout limit : Option Number) :
    ∃ events outcome, p.join timeout = (p, events, outcome) ∧ q.join limit = (q, events, outcome) ∧
      ((∀ w ∈ p.workers, w.endsBatch = false) →
        ∃ ordered results, ordered.Perm p.workers ∧ (ordered.map (·.shard.index)).Pairwise (· < ·) ∧
          List.Forall₂ Worker.Yields ordered results ∧ outcome = .results results) ∧
      ((∃ w ∈ p.workers, w.endsBatch = true) →
        ∃ w ∈ p.workers, ∃ failure, w.stage = .ended (.crashed failure) ∧ failure.escapes = true ∧
          (∀ v ∈ p.workers, v.endsBatch = true → w.shard.index ≤ v.shard.index) ∧ outcome = .failed failure) := by
  have endedToo : ∀ w ∈ q.workers, w.hasEnded = true := fun w member => ended w (perm.mem_iff.mpr member)
  have sorted : ∀ w, w ∈ inOrder p.workers ↔ w ∈ p.workers := fun w => (perm_inOrder p.workers).mem_iff
  have endedSorted : ∀ w ∈ inOrder p.workers, w.hasEnded = true := fun w member => ended w ((sorted w).mp member)
  refine ⟨_, _, join_of_ended ended timeout, ?_, ?_, ?_⟩
  · rw [join_of_ended endedToo, inOrder_perm different perm]
  · intro stay
    refine ⟨inOrder p.workers, (inOrder p.workers).map Worker.report, perm_inOrder p.workers,
      ascending_inOrder different, ?_, ?_⟩
    · rw [List.forall₂_map_right_iff, List.forall₂_same]
      exact fun w member => Worker.yields_report (endedSorted w member) (stay w ((sorted w).mp member))
    · rw [results_eq_ok endedSorted fun w member => stay w ((sorted w).mp member)]
  · rintro ⟨w, member, ends⟩
    cases outcome : (results (inOrder p.workers)).2 with
    | ok all =>
      have stays := stay_of_results endedSorted outcome w ((sorted w).mpr member)
      rw [ends] at stays
      cases stays
    | error failure =>
      obtain ⟨v, inside, stage, escapes, lowest⟩ :=
        (endsBatch_of_results endedSorted outcome).lowest (ascending_inOrder different)
      exact ⟨v, (sorted v).mp inside, failure, stage, escapes, fun u there => lowest u ((sorted u).mpr there), rfl⟩

/-- A pool of a worker that has finished and one that has broken down. -/
def samplePool : Pool where
  size := 2
  workers :=
    [{ shard := ⟨0, ["a"]⟩, sink := .inMemory "s0"
       stage := .ended (.finished { shard := 0, units := 1, recordsWritten := 1 }) },
      { shard := ⟨4, ["u"]⟩, sink := .inMemory "s4", stage := .ended (.crashed (.raised "OSError" "disk full")) }]

/-- The same pool with its workers in the other order. -/
def turnedPool : Pool := { samplePool with workers := samplePool.workers.reverse }

/-- Joined in the other order the workers have their results in the order of the shards. -/
theorem join_turnedPool :
    turnedPool.join none =
      (turnedPool, [.workerCrashed 4 "disk full"],
        .results
          [{ shard := 0, units := 1, recordsWritten := 1 },
            { shard := 4, units := 1, fatalError := some "OSError: disk full" }]) := by
  have ended : ∀ w ∈ samplePool.workers, w.hasEnded = true := by simp [samplePool, Worker.hasEnded]
  obtain ⟨events, outcome, joined, turned, -⟩ :=
    join_heeds_no_order (q := turnedPool) ended (by decide) (List.reverse_perm _).symm none none
  rw [join_of_ended ended, inOrder_eq (by decide)] at joined
  cases joined
  exact turned

end Pool

end GlobalSurvey.Batch
