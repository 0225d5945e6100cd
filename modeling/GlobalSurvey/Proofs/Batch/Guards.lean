import GlobalSurvey.Proofs.Batch.Course

/-!
# What sinks never refuse

A sink refuses a record after it was finalized, a second record of one unit, and a record of several lines; it refuses to
be read before it is finalized; and a sink in a file needs a name that is free. None of this happens in a batch: a worker
that writes has a sink that takes the record (`Progress.takes`), whatever the others do and whenever the batch is
cancelled, and only finalized sinks are merged.
-/
namespace GlobalSurvey.Batch
open GlobalSurvey.Files GlobalSurvey.Report

namespace Ledger

variable {analyze : Nat → Capability} {index : Int} {call : Nat} {l : Ledger} {unit other : String}
  {units : List String}

/-- An entry holds a record of its own unit at most. -/
theorem units_enter (outcome : Outcome) (held : other ∈ (l.enter index unit outcome).sink.units) :
    other = unit ∨ other ∈ l.sink.units := by
  cases outcome with
  | facts all =>
    simp only [enter] at held
    split at held
    · unfold commit at held
      split at held
      · rename_i sink taken
        obtain ⟨-, -, -, rfl⟩ := Sink.append_eq_ok_iff.mp taken
        exact List.mem_cons.mp held
      · exact .inr held
    · exact .inr held
  | rejected reason => exact .inr held
  | failed failure => exact .inr held

/-- The sink of a ledger holds records of units that were entered only. -/
theorem units_enterAll (held : other ∈ (enterAll analyze index call l units).sink.units) :
    other ∈ units ∨ other ∈ l.sink.units := by
  induction units generalizing l call with
  | nil => exact .inr held
  | cons unit rest ih =>
    cases stopped : l.stopped with
    | some failure =>
      rw [enterAll_stopped (by simp [stopped])] at held
      exact .inr held
    | none =>
      rw [enterAll_cons stopped] at held
      rcases ih held with later | before
      · exact .inl (List.mem_cons_of_mem unit later)
      · rcases units_enter _ before with rfl | old
        · exact .inl List.mem_cons_self
        · exact .inr old

end Ledger

/-- A worker that is about to write a record has a sink that takes it: the sink is open, holds no record of the unit, and
the record is a single line. -/
theorem Worker.Progress.takes {analyze : Nat → Capability} {shard : Shard} {sink : Sink} {w : Worker}
    (progress : Progress analyze shard sink w) (new : sink.IsNew) (different : shard.units.Nodup) {record : Record}
    (stage : w.stage = .writing record) : ∃ after, w.sink.append record = .ok after := by
  cases progress with
  | writing writes next called goesOn outcome single =>
    rename_i dealt unit rest all
    rw [stage] at writes
    cases writes
    have finalized := (untouched_of_ledger goesOn.ledger).trans new.finalized
    -- The sink holds units that were dealt with, and all units of a shard are different.
    have absent : unit ∉ w.sink.units := by
      intro held
      have records : w.sink = (ledgerOf analyze shard sink dealt).sink := by
        rw [← goesOn.ledger]
        rfl
      rw [records] at held
      rcases Ledger.units_enterAll held with before | old
      · have parted := goesOn.parted
        rw [next] at parted
        rw [parted] at different
        exact (List.nodup_append.mp different).2.2 unit before unit List.mem_cons_self rfl
      · rw [new.units] at old
        cases old
    exact ⟨_, Sink.append_eq_ok_iff.mpr ⟨finalized, absent, single, rfl⟩⟩
  | queued => cases stage
  | checking other _ => rw [stage] at other; cases other
  | calling other _ _ => rw [stage] at other; cases other
  | answering other _ _ _ => rw [stage] at other; cases other
  | closing other _ _ => rw [stage] at other; cases other
  | ended other _ _ _ => rw [stage] at other; cases other

section
variable {r : Request} {d : Disk} {units : List String} {workers : Nat} {shards : List Shard}

/-- The sinks of an accepted batch have files of their own, under names that are free; in every pool that its workers may
come to, a worker that is about to write has a sink that takes the record, and the sinks that are merged are finalized and
read back. So no run fails because a sink refuses something. -/
theorem sinks_never_refuse (given : r.GivesNewSinks) (whole : '/' ∉ r.shardStem.toList)
    (accepted : r.check = .ok (units, workers)) (cut : partition units workers = .ok shards) :
    (∀ between directory after fault, r.openDirectory d = (between, .ok directory) →
      r.newSinks directory between shards = (after, .error fault) → ∀ name, fault ≠ .refused .alreadyExists name) ∧
    (∀ l, r.launch d = some l → (l.pool.workers.map (·.sink.store)).Pairwise Store.Apart ∧
      ∀ analyze moves,
        (∀ v ∈ (l.pool.follow analyze moves).workers, ∀ record, v.stage = .writing record →
          ∃ after, v.sink.append record = .ok after) ∧
        (∀ s ∈ readable (l.pool.follow analyze moves).sinks,
          s.finalized = true ∧ s.readLines ((l.pool.follow analyze moves).flush l.disk) = .ok s.lines) ∧
        merge ((l.pool.follow analyze moves).flush l.disk) (readable (l.pool.follow analyze moves).sinks) =
          .ok (sortLines (l.pool.follow analyze moves).lines)) ∧
    ∀ schedule fault, (runScheduled schedule r d).completion ≠ .failed (.sink fault) := by
  refine ⟨?_, ?_, ?_⟩
  · intro between directory after fault opened made
    obtain ⟨_, same, slices⟩ := cut_partition units (Request.check_eq_ok accepted).2
    rw [cut] at same
    cases same
    obtain ⟨base, -, own⟩ := Request.opened_openDirectory r d fun _ => False
    rw [opened] at own
    rcases lodged_newSinks given whole slices own made with ⟨sinks, impossible, -⟩ | ⟨other, refused, free, -⟩
    · cases impossible
    · cases refused
      exact free
  · intro l launched
    obtain ⟨others, same, slices, ready⟩ := ready_launch given accepted launched
    refine ⟨ready.pool.stores.apart, ?_⟩
    intro analyze moves
    have evolves := Pool.evolves_follow_any analyze l.pool moves
    refine ⟨?_, fun s member => Pool.reads_of_evolves ready.pool evolves member,
      Pool.merge_of_evolves ready.pool evolves⟩
    intro v member record stage
    obtain ⟨w, inside, reaches⟩ := Pool.exists_start evolves member
    have new := ready.pool.new w inside
    have among : w.shard ∈ others := by
      rw [← ready.shards]
      exact List.mem_map_of_mem inside
    have different := slices.different (Request.check_eq_ok accepted).1 w.shard among
    exact (new.progress reaches).takes new.sink different stage
  · intro schedule fault failed
    rcases (course_runScheduled given accepted cut schedule).failure failed with
      ⟨_, other⟩ | ⟨_, _, -, other⟩ | escapes
    · cases other
    · cases other
    · cases escapes

theorem filed_sinks_never_refuse :
    filedRequest.launch bareDisk = some filedLaunch ∧
      (filedLaunch.pool.workers.map (·.sink.store)).Pairwise Store.Apart ∧
      (∀ moves, merge ((filedLaunch.pool.follow (fun _ => sampleReply) moves).flush filedLaunch.disk)
          (readable (filedLaunch.pool.follow (fun _ => sampleReply) moves).sinks) =
        .ok (sortLines (filedLaunch.pool.follow (fun _ => sampleReply) moves).lines)) ∧
      ∀ schedule fault, (runScheduled schedule filedRequest bareDisk).completion ≠ .failed (.sink fault) := by
  have given : filedRequest.GivesNewSinks := fun _ _ none_ => by cases none_
  have accepted : filedRequest.check = .ok (["c", "b", "a"], 2) := rfl
  obtain ⟨-, pools, runs⟩ := sinks_never_refuse (d := bareDisk) given (by decide +kernel) accepted rfl
  obtain ⟨apart, others⟩ := pools filedLaunch launch_filed
  exact ⟨launch_filed, apart, fun moves => (others (fun _ => sampleReply) moves).2.2, runs⟩

end

end GlobalSurvey.Batch
