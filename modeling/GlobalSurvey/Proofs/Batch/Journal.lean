import GlobalSurvey.Proofs.Batch.Bookkeeping

/-!
# The journal of a worker

A worker logs what it does, and it counts what it does; these are two accounts of the same work. `journal` writes the first
one down from the second: the log of a worker is the journal of its state, whatever the flag did (`journaled_step`). So the
log of a worker that has ended with a result tells the same as the result (`log_tells_result`).
-/
namespace GlobalSurvey.Batch
open GlobalSurvey.Report

namespace Worker

/-- What the worker logs as long as it goes on: that it began, and its failed units. -/
def opening (w : Worker) : List Event :=
  .workerStarted w.shard.index w.sink.name w.size ::
    w.failures.map fun f => .unitFailed w.shard.index w.sink.name f.unit f.message

/-- What the worker logs when it leaves units. -/
def parting (w : Worker) : List Event :=
  match w.stopped with
  | some failure =>
    if failure.escapes then [] else (w.remaining.head?.map (.workerFailed w.shard.index w.sink.name)).toList
  | none => if w.cancelled then [.workerCancelled w.shard.index w.sink.name w.remaining.length] else []

/-- What the state of the worker says about its log. -/
def journal (w : Worker) : List Event :=
  match w.stage with
  | .queued => []
  | .ended (.finished _) =>
    w.opening ++ w.parting ++
      [.workerFinished w.shard.index w.sink.name w.written w.failures.length w.stopped.isSome]
  | _ => w.opening ++ w.parting

section
variable {analyze : Nat → Capability} {flag : Bool → Prop} {shard : Shard} {sink : Sink} {w : Worker} {unit : String}
  {rest dealt : List String}

/-! ## Each step keeps the journal -/

theorem parting_open (stopped : w.stopped = none) (cancelled : w.cancelled = false) : w.parting = [] := by
  simp [parting, stopped, cancelled]

/-- The log of a worker that goes on with its shard. -/
theorem log_of_open (goesOn : Open analyze shard sink w dealt) (begun : w.journal = w.opening ++ w.parting)
    (log : w.log = w.journal) : w.log = w.opening := by
  rw [log, begun, parting_open goesOn.stopped goesOn.cancelled, List.append_nil]

theorem journal_begin : (begin { shard, sink }).log = (begin { shard, sink }).journal := rfl

theorem journal_check (stopped : w.stopped = none) (log : w.log = w.opening) (uncancelled : w.cancelled = false)
    (cancelled : Bool) : (w.check cancelled).log = (w.check cancelled).journal := by
  unfold check
  split
  · simp [journal, log, opening, parting, size, stopped, uncancelled]
  · rename_i next
    split
    · simp [journal, logging, log, opening, parting, size, stopped, next]
    · simp [journal, log, opening, parting, size, stopped, uncancelled]

theorem journal_skip (goesOn : Open analyze shard sink w dealt) (log : w.log = w.opening) (reason : String) :
    (w.skip unit rest reason).log = (w.skip unit rest reason).journal := by
  simp [skip, journal, logging, log, opening, parting, size, goesOn.stopped, goesOn.cancelled]

theorem journal_stop (log : w.log = w.opening) (next : w.remaining = unit :: rest) (failure : Failure) :
    (w.stop unit failure).log = (w.stop unit failure).journal := by
  unfold stop
  simp only
  split
  · rename_i escapes
    simp [journal, log, opening, parting, size, escapes]
  · rename_i stays
    simp [journal, logging, log, opening, parting, size, stays, next]

theorem journal_receive (goesOn : Open analyze shard sink w dealt) (log : w.log = w.opening)
    (next : w.remaining = unit :: rest) (outcome : Outcome) :
    (w.receive unit rest outcome).log = (w.receive unit rest outcome).journal := by
  cases outcome with
  | facts all =>
    simp only [receive]
    split
    · simp [journal, log, opening, parting, size, goesOn.stopped, goesOn.cancelled]
    · exact journal_skip goesOn log _
  | rejected reason => exact journal_skip goesOn log reason
  | failed failure => exact journal_stop log next failure

theorem journal_write (goesOn : Open analyze shard sink w dealt) (log : w.log = w.opening)
    (next : w.remaining = unit :: rest) (record : Record) :
    (w.write unit rest record).log = (w.write unit rest record).journal := by
  unfold write
  split
  · rename_i after taken
    have name : after.name = w.sink.name := (Ledger.sameSink_append taken).name
    simp [journal, log, opening, parting, size, goesOn.stopped, goesOn.cancelled, name]
  · exact journal_stop log next _

theorem journal_close (log : w.log = w.opening ++ w.parting) : w.close.log = w.close.journal := by
  cases done : w.sink.finalize with
  | error failure =>
    rw [close_faulty done]
    exact log
  | ok closed =>
    have name : closed.name = w.sink.name := by rw [Sink.eq_of_finalize done]
    by_cases stays : ∀ failure, w.stopped = some failure → failure.escapes = false
    · rw [close_finished done stays]
      simp [finish, logging, journal, log, opening, parting, size, name]
    · obtain ⟨failure, stopped, escapes⟩ : ∃ failure, w.stopped = some failure ∧ failure.escapes = true := by
        simpa using stays
      rw [close_escaped done stopped escapes]
      simp [journal, log, opening, parting, size, name]

/-- Each step logs what the journal says it does. -/
theorem journaled_step (progress : Progress analyze shard sink w) (log : w.log = w.journal) (cancelled released : Bool) :
    (w.step analyze cancelled released).1.log = (w.step analyze cancelled released).1.journal := by
  cases progress with
  | queued => exact journal_begin
  | checking stage goesOn =>
    simp only [step, stage]
    exact journal_check goesOn.stopped (log_of_open goesOn (by simp [journal, stage]) log) goesOn.cancelled cancelled
  | calling stage next goesOn =>
    have opened := log_of_open goesOn (by simp [journal, stage]) log
    simp only [step, stage, next]
    simp [call, journal, opened, opening, parting, size, goesOn.stopped, goesOn.cancelled]
  | answering stage next called goesOn =>
    have opened := log_of_open goesOn (by simp [journal, stage]) log
    simp only [step, stage, next]
    split
    · exact log
    · exact journal_receive goesOn opened next _
  | writing stage next called goesOn outcome single =>
    have opened := log_of_open goesOn (by simp [journal, stage]) log
    simp only [step, stage, next]
    exact journal_write goesOn opened next _
  | closing stage settled untouched =>
    simp only [step, stage]
    refine journal_close ?_
    simpa [journal, stage] using log
  | ended stage settled closed closes =>
    simp only [step, stage]
    exact log

theorem Reaches.journaled (reaches : Reaches analyze flag { shard, sink } w) : w.log = w.journal := by
  have both := reaches.keeps (fun u => Progress analyze shard sink u ∧ u.log = u.journal)
    (fun _ cancelled released _ kept => ⟨progress_step kept.1 _ _, journaled_step kept.1 kept.2 cancelled released⟩)
    ⟨.queued, rfl⟩
  exact both.2

/-! ## What the log says about the result -/

/-- What a worker that called some units logs about its leave, and what the result says about it. -/
inductive Parting (analyze : Nat → Capability) (shard : Shard) (sink : Sink) (called : List String)
    (result : WorkerResult) : List Event → Prop
  /-- It dealt with the whole shard. -/
  | none (calm : result.fatalError = none) (uncancelled : result.cancelled = false) :
      Parting analyze shard sink called result []
  /-- It left units because of the flag: those that are neither recorded nor failed. -/
  | cancelled (remaining : Nat) (calm : result.fatalError = .none) (cancelled : result.cancelled = true)
      (left : (remaining : Int) = result.units - result.recordsWritten - result.failedUnits.length)
      (some_ : 1 ≤ remaining) :
      Parting analyze shard sink called result [.workerCancelled shard.index sink.name remaining]
  /-- It stopped at the last unit that it called: nothing before had stopped it, and what came of this unit did. -/
  | failed (dealt : List String) (unit : String) (failure : Failure) (last : called = dealt ++ [unit])
      (before : (ledgerOf analyze shard sink dealt).stopped = .none)
      (happened : ((ledgerOf analyze shard sink dealt).enter shard.index unit
        (analyze dealt.length unit).outcome).stopped = some failure)
      (fatal : result.fatalError = some failure.text) (uncancelled : result.cancelled = false) :
      Parting analyze shard sink called result [.workerFailed shard.index sink.name unit]

theorem Parting.names {called : List String} {result : WorkerResult} {events : List Event}
    (parting : Parting analyze shard sink called result events) {e : Event} (member : e ∈ events) :
    ("shard", .int shard.index) ∈ e.entry.fields ∧ ("sink", .str sink.name) ∈ e.entry.fields := by
  cases parting with
  | none => cases member
  | cancelled =>
    rw [List.mem_singleton.mp member]
    simp [Event.entry]
  | failed =>
    rw [List.mem_singleton.mp member]
    simp [Event.entry]

/-- What a worker with a result logged about its leave. -/
theorem parting_of_settled (settled : Settled analyze shard sink w) (stopsLast : w.StopsLast analyze shard sink)
    (name : w.sink.name = sink.name) (stays : ∀ failure, w.stopped = some failure → failure.escapes = false) :
    Parting analyze shard sink w.called w.result w.parting := by
  have count := settled.count stopsLast
  cases settled.leaves with
  | done none_ called stopped cancelled =>
    rw [parting_open stopped cancelled]
    exact .none (by simp [result, stopped]) cancelled
  | cancelled unit rest next parted stopped cancelled =>
    have length := congrArg List.length parted
    rw [List.length_append] at length
    simp only [stopped, Option.toList_none, List.length_nil] at count
    have parting : w.parting = [.workerCancelled shard.index sink.name w.remaining.length] := by
      simp [Worker.parting, stopped, cancelled, settled.owner, name]
    rw [parting]
    refine .cancelled _ (by simp [result, stopped]) cancelled ?_ (by simp [next])
    simp only [result, size, settled.owner, next]
    omega
  | stopped dealt unit rest next parted called stopped cancelled =>
    obtain ⟨failure, stopped⟩ := Option.isSome_iff_exists.mp stopped
    have parting : w.parting = [.workerFailed shard.index sink.name unit] := by
      simp [Worker.parting, stopped, stays failure stopped, next, settled.owner, name]
    have before : (ledgerOf analyze shard sink dealt).stopped = none := by
      have before := stopsLast
      rwa [StopsLast, called, List.dropLast_concat] at before
    rw [parting]
    refine .failed dealt unit failure called before ?_ (by simp [result, stopped]) cancelled
    rw [← ledgerOf_snoc before, ← called, ← settled.stopped, stopped]

/-- The log of a worker tells what its result tells. It is about the begin, with the size of the shard; then about each
failed unit, in order; then about the leave, if units were left; then about the end, with the numbers of the result. Each
entry names the shard and the sink of the worker. -/
theorem log_tells_result (reaches : Reaches analyze flag { shard, sink } w) {result : WorkerResult}
    (stage : w.stage = .ended (.finished result)) :
    ∃ (records : Nat) (parting : List Event), result.recordsWritten = records ∧
      Parting analyze shard sink w.called result parting ∧
      w.log = .workerStarted shard.index sink.name shard.units.length ::
        result.failedUnits.map (fun f => .unitFailed shard.index sink.name f.unit f.message) ++ parting ++
          [.workerFinished shard.index sink.name records result.failedUnits.length result.fatalError.isSome] ∧
      ∀ e ∈ w.log, ("shard", .int shard.index) ∈ e.entry.fields ∧ ("sink", .str sink.name) ∈ e.entry.fields := by
  obtain ⟨settled, closed, -⟩ := reaches.progress.closed stage
  have name : w.sink.name = sink.name := by
    rw [settled.records]
    exact (Ledger.sameSink_enterAll analyze shard.index { sink } 0 w.called).name
  have log := reaches.journaled
  cases closed with
  | finished finalized stays =>
    have parting := parting_of_settled settled reaches.stopsLast name stays
    have told : w.log = .workerStarted shard.index sink.name shard.units.length ::
        w.failures.map (fun f => .unitFailed shard.index sink.name f.unit f.message) ++ w.parting ++
          [.workerFinished shard.index sink.name w.written w.failures.length w.stopped.isSome] := by
      simp [log, journal, stage, opening, size, settled.owner, name]
    refine ⟨w.written, w.parting, rfl, parting, by simpa [result] using told, ?_⟩
    intro e member
    rw [told] at member
    simp only [List.cons_append, List.mem_cons, List.mem_append, List.mem_map, List.not_mem_nil, or_false] at member
    rcases member with rfl | (⟨f, -, rfl⟩ | left) | rfl
    · simp [Event.entry]
    · simp [Event.entry]
    · exact parting.names left
    · simp [Event.entry]

theorem log_of_repeated_unit :
    ∃ result parting, (run (fun _ => sampleReply) false sampleWorker).1.stage = .ended (.finished result) ∧
      (run (fun _ => sampleReply) false sampleWorker).1.log =
        .workerStarted 0 "shard_0.txt" 4 ::
          result.failedUnits.map (fun f => .unitFailed 0 "shard_0.txt" f.unit f.message) ++ parting ++
            [.workerFinished 0 "shard_0.txt" result.recordsWritten.toNat result.failedUnits.length
              result.fatalError.isSome] := by
  have reaches := reaches_of_steps_any (fun _ => sampleReply) sampleWorker sampleWorker.stepCount false
  have ended := hasEnded_run (fun _ => sampleReply) sampleWorker.shard sampleWorker.sink false
  obtain ⟨result, stage⟩ := exists_result reaches ended rfl calm_sampleReply
  obtain ⟨records, parting, same, -, log, -⟩ := log_tells_result reaches stage
  refine ⟨result, parting, stage, ?_⟩
  rw [same]
  exact log

end

end Worker

end GlobalSurvey.Batch
