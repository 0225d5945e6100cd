import GlobalSurvey.Proofs.Batch.Interleaving

/-!
# Joining workers

Joining gives results only when all workers have ended (`join_eq_results_iff`), one for each worker in the order of the shards.
The result of a worker whose sink was closed is its own; for the others it is made up when they are joined
(`Progress.reported`). Joining fails if the time is over, or if the first worker that ends the batch does so
(`joinFails_of_join`).
-/
namespace GlobalSurvey.Batch

namespace Worker

/-- The result that joining gives for a worker: its own, or the one that is made up for a worker that broke down. -/
def report (w : Worker) : WorkerResult :=
  match w.stage with
  | .ended (.crashed failure) => { shard := w.shard.index, units := w.size, fatalError := some failure.text }
  | .ended (.finished result) => result
  | _ => w.result

/-- The worker broke down by a failure that ends the whole batch. -/
def endsBatch (w : Worker) : Bool :=
  match w.stage with
  | .ended (.crashed failure) => failure.escapes
  | _ => false

/-- How the result that joining gives for a worker comes about. -/
inductive Reported (w : Worker) : WorkerResult → Prop
  | finished (finalized : w.sink.finalized = true) : Reported w w.result
  | madeUp (failure : Failure) (unfinished : w.sink.finalized = false)
      (fault : w.sink.closingFault = some failure) :
      Reported w { shard := w.shard.index, units := w.size, fatalError := some failure.text }

theorem exists_ending {w : Worker} (ended : w.hasEnded = true) : ∃ ending, w.stage = .ended ending := by
  unfold hasEnded at ended
  split at ended
  · rename_i ending stage
    exact ⟨ending, stage⟩
  · cases ended

theorem Reported.index {w : Worker} {result : WorkerResult} (reported : Reported w result) :
    result.shard = w.shard.index := by
  cases reported <;> rfl

theorem Reported.size {w : Worker} {result : WorkerResult} (reported : Reported w result) : result.units = w.size := by
  cases reported <;> rfl

/-- A worker whose sink was closed reports its own result. -/
theorem Reported.eq_result {w : Worker} {result : WorkerResult} (reported : Reported w result)
    (finalized : w.sink.finalized = true) : result = w.result := by
  cases reported with
  | finished _ => rfl
  | madeUp failure unfinished _ =>
    rw [finalized] at unfinished
    cases unfinished

section
variable {analyze : Nat → Capability} {shard : Shard} {sink : Report.Sink} {w : Worker}

/-- A worker that has ended is settled, and closed as its ending says. -/
theorem Progress.closed (progress : Progress analyze shard sink w) {ending : Ending} (stage : w.stage = .ended ending) :
    Settled analyze shard sink w ∧ Closed w ending ∧
      w.sink.finalized = (sink.finalized || sink.closingFault.isNone) := by
  cases progress with
  | ended same settled closed closes =>
    rw [stage] at same
    cases same
    exact ⟨settled, closed, closes⟩
  | queued => cases stage
  | checking other _ => rw [stage] at other; cases other
  | calling other _ _ => rw [stage] at other; cases other
  | answering other _ _ _ => rw [stage] at other; cases other
  | writing other _ _ _ _ _ => rw [stage] at other; cases other
  | closing other _ _ => rw [stage] at other; cases other

/-- A worker that has ended is settled, and it finalized its sink if the sink can be closed. -/
theorem Progress.settled (progress : Progress analyze shard sink w) (ended : w.hasEnded = true) :
    Settled analyze shard sink w ∧ w.sink.finalized = (sink.finalized || sink.closingFault.isNone) := by
  obtain ⟨ending, stage⟩ := exists_ending ended
  obtain ⟨settled, -, closes⟩ := progress.closed stage
  exact ⟨settled, closes⟩

/-- How the result that joining gives for a worker comes about. -/
theorem Progress.reported (progress : Progress analyze shard sink w) (ended : w.hasEnded = true)
    (stays : w.endsBatch = false) : Reported w w.report := by
  obtain ⟨ending, stage⟩ := exists_ending ended
  obtain ⟨-, closed, -⟩ := progress.closed stage
  cases closed with
  | finished finalized _ =>
    simp only [report, stage]
    exact .finished finalized
  | faulty failure unfinished fault =>
    simp only [report, stage]
    exact .madeUp failure unfinished fault
  | escaped failure finalized stopped escapes =>
    simp only [endsBatch, stage, escapes] at stays
    cases stays

end

end Worker

namespace Pool

theorem results_cons {w : Worker} (ended : w.hasEnded = true) (stays : w.endsBatch = false) (rest : List Worker) :
    (results (w :: rest)).2 = (results rest).2.map (w.report :: ·) := by
  obtain ⟨ending, stage⟩ := Worker.exists_ending ended
  cases ending with
  | finished result =>
    have own : w.report = result := by simp [Worker.report, stage]
    simp only [results, stage, own]
    cases (results rest).2 <;> rfl
  | crashed failure =>
    have goesOn : failure.escapes = false := by simpa [Worker.endsBatch, stage] using stays
    simp only [results, stage, goesOn, Bool.false_eq_true, if_false, Worker.report]
    cases (results rest).2 <;> rfl

theorem results_cons_endsBatch {w : Worker} (ends : w.endsBatch = true) (rest : List Worker) :
    ∃ failure, (results (w :: rest)).2 = .error failure := by
  unfold Worker.endsBatch at ends
  split at ends
  · rename_i failure stage
    exact ⟨failure, by simp [results, stage, ends]⟩
  · cases ends

/-- Workers that have all ended have results, one for each, if none of them ends the batch. -/
theorem results_eq_ok {workers : List Worker} (ended : ∀ w ∈ workers, w.hasEnded = true)
    (stay : ∀ w ∈ workers, w.endsBatch = false) : (results workers).2 = .ok (workers.map Worker.report) := by
  induction workers with
  | nil => rfl
  | cons w rest ih =>
    rw [results_cons (ended w List.mem_cons_self) (stay w List.mem_cons_self)]
    rw [ih (fun v member => ended v (List.mem_cons_of_mem w member)) fun v member =>
      stay v (List.mem_cons_of_mem w member)]
    rfl

/-- Among workers that have results none ends the batch. -/
theorem stay_of_results {workers : List Worker} {all : List WorkerResult} (ended : ∀ w ∈ workers, w.hasEnded = true)
    (joined : (results workers).2 = .ok all) : ∀ w ∈ workers, w.endsBatch = false := by
  induction workers generalizing all with
  | nil =>
    intro w member
    cases member
  | cons w rest ih =>
    cases stays : w.endsBatch with
    | true =>
      obtain ⟨failure, failed⟩ := results_cons_endsBatch stays rest
      rw [failed] at joined
      cases joined
    | false =>
      rw [results_cons (ended w List.mem_cons_self) stays] at joined
      cases others : (results rest).2 with
      | error failure =>
        rw [others] at joined
        cases joined
      | ok more =>
        intro v member
        rcases List.mem_cons.mp member with rfl | inside
        · exact stays
        · exact ih (fun u later => ended u (List.mem_cons_of_mem w later)) others v inside

/-- Workers in the order of their shards stay as they are. -/
theorem inOrder_eq {workers : List Worker} (ordered : (workers.map (·.shard.index)).Pairwise (· ≤ ·)) :
    inOrder workers = workers := by
  refine List.mergeSort_of_pairwise ?_
  rw [List.pairwise_map] at ordered
  exact ordered.imp fun before => by simpa using before

/-- Joining gives results if and only if all workers have ended and none of them ends the batch: one for each worker. -/
theorem join_eq_results_iff {p q : Pool} {timeout : Option Number} {all : List WorkerResult}
    (ordered : (p.workers.map (·.shard.index)).Pairwise (· ≤ ·)) :
    (∃ events, p.join timeout = (q, events, .results all)) ↔
      (∀ w ∈ p.workers, w.hasEnded = true) ∧ (∀ w ∈ p.workers, w.endsBatch = false) ∧
        all = p.workers.map Worker.report ∧ q = p := by
  unfold join
  rw [inOrder_eq ordered]
  split
  · rename_i none_
    have ended : ∀ w ∈ p.workers, w.hasEnded = true := by simpa [pending] using none_
    constructor
    · rintro ⟨events, joined⟩
      cases outcome : (results p.workers).2 with
      | error failure => simp [outcome] at joined
      | ok others =>
        simp only [outcome, Prod.mk.injEq, Joined.results.injEq] at joined
        obtain ⟨rfl, -, rfl⟩ := joined
        have stay := stay_of_results ended outcome
        rw [results_eq_ok ended stay] at outcome
        exact ⟨ended, stay, (Except.ok.inj outcome).symm, rfl⟩
    · rintro ⟨-, stay, rfl, rfl⟩
      exact ⟨(results q.workers).1, by simp only [results_eq_ok ended stay]⟩
  · rename_i some_
    constructor
    · rintro ⟨events, joined⟩
      split at joined <;> cases joined
    · rintro ⟨ended, -⟩
      exact absurd (by simpa [pending] using ended) some_

/-- If workers are still running when the time is over the flag goes up, and joining fails. -/
theorem join_of_running {p : Pool} (running : p.pending ≠ []) (limit : Number) :
    p.join (some limit) =
      ({ p with cancelled := true }, [.joinTimeout limit ((inOrder p.pending).map (·.shard.index))],
        .failed (.joinTimeout limit p.pending.length)) := by
  have some_ : ¬ p.pending.isEmpty = true := fun none => running (List.isEmpty_iff.mp none)
  simp only [join, if_neg some_]

/-- Only without a limit to the time is waited for workers that are still running. -/
theorem unlimited_of_waiting {p q : Pool} {timeout : Option Number} {events : List Event}
    (joined : p.join timeout = (q, events, .waiting)) : timeout = none := by
  unfold join at joined
  split at joined
  · cases outcome : (results (inOrder p.workers)).2 <;> simp [outcome] at joined
  · split at joined
    · rfl
    · cases joined

/-- The workers among which the first one that ends the batch ends it by a failure. -/
def EndsBatch (workers : List Worker) (failure : Failure) : Prop :=
  ∃ before w after, workers = before ++ w :: after ∧ (∀ v ∈ before, v.endsBatch = false) ∧
    w.stage = .ended (.crashed failure) ∧ failure.escapes = true

/-- What is logged while workers are joined that have ended: only that some of them broke down. -/
theorem results_log (workers : List Worker) : ∀ e ∈ (results workers).1, ∃ shard error, e = .workerCrashed shard error := by
  induction workers with
  | nil =>
    intro e member
    cases member
  | cons w rest ih =>
    unfold results
    simp only
    split
    · simpa using ih
    · split
      · intro e member
        cases member
      · intro e member
        rw [List.singleton_append, List.mem_cons] at member
        rcases member with rfl | later
        · exact ⟨_, _, rfl⟩
        · exact ih e later
    · exact ih

theorem endsBatch_of_results {workers : List Worker} {failure : Failure} (ended : ∀ w ∈ workers, w.hasEnded = true)
    (failed : (results workers).2 = .error failure) : EndsBatch workers failure := by
  induction workers with
  | nil => cases failed
  | cons w rest ih =>
    cases ends : w.endsBatch with
    | false =>
      rw [results_cons (ended w List.mem_cons_self) ends] at failed
      cases others : (results rest).2 with
      | ok all =>
        rw [others] at failed
        cases failed
      | error other =>
        rw [others] at failed
        cases failed
        obtain ⟨before, v, after, parted, stay, crashed⟩ :=
          ih (fun v member => ended v (List.mem_cons_of_mem w member)) others
        refine ⟨w :: before, v, after, by rw [parted, List.cons_append], ?_, crashed⟩
        intro u member
        rcases List.mem_cons.mp member with rfl | inside
        · exact ends
        · exact stay u inside
    | true =>
      unfold Worker.endsBatch at ends
      split at ends
      · rename_i own stage
        simp only [results, stage, ends, if_true] at failed
        cases failed
        exact ⟨[], w, rest, rfl, fun _ member => (List.not_mem_nil member).elim, stage, ends⟩
      · cases ends

/-- Joining fails when the time is over and workers are still running, or when all have ended and one of them ends the
batch. -/
inductive JoinFails (p : Pool) (timeout : Option Number) : Pool → List Event → Failure → Prop
  | timeout {limit : Number} (limited : timeout = some limit) (running : p.pending ≠ []) :
      JoinFails p timeout { p with cancelled := true } [.joinTimeout limit ((inOrder p.pending).map (·.shard.index))]
        (.joinTimeout limit p.pending.length)
  | escaped {events : List Event} {failure : Failure} (ended : ∀ w ∈ p.workers, w.hasEnded = true)
      (log : ∀ e ∈ events, ∃ shard error, e = .workerCrashed shard error)
      (ends : EndsBatch (inOrder p.workers) failure) : JoinFails p timeout p events failure

theorem joinFails_of_join {p q : Pool} {timeout : Option Number} {events : List Event} {failure : Failure}
    (joined : p.join timeout = (q, events, .failed failure)) : JoinFails p timeout q events failure := by
  unfold join at joined
  split at joined
  · rename_i none_
    have ended : ∀ w ∈ p.workers, w.hasEnded = true := by simpa [pending] using none_
    have ordered : ∀ w ∈ inOrder p.workers, w.hasEnded = true := fun w member =>
      ended w ((List.mergeSort_perm _ _).mem_iff.mp member)
    have log := results_log (inOrder p.workers)
    cases outcome : (results (inOrder p.workers)).2 with
    | ok all => simp [outcome] at joined
    | error own =>
      simp only [outcome, Prod.mk.injEq, Joined.failed.injEq] at joined
      obtain ⟨rfl, rfl, rfl⟩ := joined
      exact .escaped ended log (endsBatch_of_results ordered outcome)
  · rename_i some_
    have running : p.pending ≠ [] := fun none => some_ (by simp [none])
    split at joined
    · cases joined
    · cases joined
      exact .timeout rfl running

end Pool

end GlobalSurvey.Batch
