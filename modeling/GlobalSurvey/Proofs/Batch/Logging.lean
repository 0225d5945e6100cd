import GlobalSurvey.Proofs.Batch.Interleaving

/-!
# What workers log

All that a worker logs is about its own shard, and none of it is about the merge or the report (`reportsOn_step`). So a pool
says nothing about a report whatever its workers do (`Pool.log_unpublished`).
-/
namespace GlobalSurvey

/-- The event is about merging sinks or about the report. -/
def Event.publishes : Event → Bool
  | .sinkUnreadable _ _ => true
  | .sinksMerged _ _ => true
  | .reportWritten _ _ => true
  | .pipelineFinished _ => true
  | .pipelineFailed _ _ _ => true
  | _ => false

namespace Batch
namespace Worker

variable {analyze : Nat → Capability} {index : Int} {w : Worker}

/-- The shard of the worker has the index, and the worker logged events about it only. -/
def ReportsOn (index : Int) (w : Worker) : Prop :=
  w.shard.index = index ∧ ∀ e ∈ w.log, e.shard? = some index ∧ e.publishes = false

theorem reportsOn_logging (reports : w.ReportsOn index) {e : Event} (own : e.shard? = some w.shard.index)
    (other : e.publishes = false) : (w.logging e).ReportsOn index := by
  refine ⟨reports.1, ?_⟩
  intro logged member
  rcases List.mem_append.mp member with before | new
  · exact reports.2 logged before
  · rw [List.mem_singleton.mp new, own, reports.1]
    exact ⟨rfl, other⟩

/-- Nothing but events counts. -/
theorem reportsOn_of_same {v : Worker} (reports : w.ReportsOn index) (shard : v.shard = w.shard) (log : v.log = w.log) :
    v.ReportsOn index := by
  unfold ReportsOn
  rw [shard, log]
  exact reports

theorem reportsOn_check (reports : w.ReportsOn index) (cancelled : Bool) : (w.check cancelled).ReportsOn index := by
  unfold check
  split
  · exact reportsOn_of_same reports rfl rfl
  · split
    · exact reportsOn_logging (reportsOn_of_same reports rfl rfl) rfl rfl
    · exact reportsOn_of_same reports rfl rfl

theorem reportsOn_skip (reports : w.ReportsOn index) (unit : String) (rest : List String) (reason : String) :
    (w.skip unit rest reason).ReportsOn index := reportsOn_logging (reportsOn_of_same reports rfl rfl) rfl rfl

theorem reportsOn_stop (reports : w.ReportsOn index) (unit : String) (failure : Failure) :
    (w.stop unit failure).ReportsOn index := by
  unfold stop
  simp only
  split
  · exact reportsOn_of_same reports rfl rfl
  · exact reportsOn_logging (reportsOn_of_same reports rfl rfl) rfl rfl

theorem reportsOn_receive (reports : w.ReportsOn index) (unit : String) (rest : List String) (outcome : Outcome) :
    (w.receive unit rest outcome).ReportsOn index := by
  cases outcome with
  | facts all =>
    simp only [receive]
    split
    · exact reportsOn_of_same reports rfl rfl
    · exact reportsOn_skip reports unit rest _
  | rejected reason => exact reportsOn_skip reports unit rest reason
  | failed failure => exact reportsOn_stop reports unit failure

theorem reportsOn_write (reports : w.ReportsOn index) (unit : String) (rest : List String) (record : Report.Record) :
    (w.write unit rest record).ReportsOn index := by
  unfold write
  split
  · exact reportsOn_of_same reports rfl rfl
  · exact reportsOn_stop reports unit _

theorem reportsOn_close (reports : w.ReportsOn index) : w.close.ReportsOn index := by
  have finish {v : Worker} (reports : v.ReportsOn index) : v.finish.ReportsOn index :=
    reportsOn_logging (reportsOn_of_same reports rfl rfl) rfl rfl
  unfold close
  split
  · exact reportsOn_of_same reports rfl rfl
  · simp only
    split
    · exact finish (reportsOn_of_same reports rfl rfl)
    · split
      · exact reportsOn_of_same reports rfl rfl
      · exact finish (reportsOn_of_same reports rfl rfl)

/-- Each step of a worker logs events about its own shard only. -/
theorem reportsOn_step (reports : w.ReportsOn index) (cancelled released : Bool) :
    (w.step analyze cancelled released).1.ReportsOn index := by
  unfold step
  split
  · exact reportsOn_logging (reportsOn_of_same reports rfl rfl) rfl rfl
  · exact reportsOn_check reports cancelled
  · exact reportsOn_of_same reports rfl rfl
  · simp only
    split
    · exact reports
    · exact reportsOn_receive reports _ _ _
  · exact reportsOn_write reports _ _ _
  · exact reportsOn_close reports
  all_goals exact reportsOn_of_same reports rfl rfl

theorem IsNew.reportsOn {v : Worker} {flag : Bool → Prop} (new : w.IsNew) (reaches : Reaches analyze flag w v) :
    v.ReportsOn w.shard.index := by
  have start : w.ReportsOn w.shard.index := by
    rw [new.idle]
    exact ⟨rfl, fun _ member => (List.not_mem_nil member).elim⟩
  exact reaches.keeps _ (fun _ cancelled released _ reports => reportsOn_step reports cancelled released) start

end Worker

/-- Workers that began as new ones say nothing about the merge or the report. -/
theorem Pool.log_unpublished {analyze : Nat → Capability} {flag : Bool → Prop} {start p : Pool}
    (new : ∀ w ∈ start.workers, w.IsNew) (evolves : Evolves analyze flag start.workers p.workers) :
    ∀ e ∈ p.log, e.publishes = false := by
  intro e member
  rcases List.mem_append.mp member with spawned | logged
  · obtain ⟨w, -, rfl⟩ := List.mem_map.mp spawned
    rfl
  · obtain ⟨v, inside, own⟩ := List.mem_flatMap.mp logged
    obtain ⟨w, began, reaches⟩ := exists_start evolves inside
    exact (((new w began).reportsOn reaches).2 e own).2

end Batch

end GlobalSurvey
