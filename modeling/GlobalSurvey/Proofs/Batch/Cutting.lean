import GlobalSurvey.Proofs.Batch.Independence

/-!
# The result does not depend on the cut

If every unit can be analyzed or is refused, and nothing cancels the batch, then neither the number of workers, nor where
their sinks keep the lines, nor the schedule has a part in the result: it is what all units come to in one list. Another
order of the units changes the order of the failures and nothing else.
-/
namespace GlobalSurvey.Batch
open GlobalSurvey.Files GlobalSurvey.Report

/-! ## Shards as one list -/

section
variable {outcome : String → Outcome}

theorem linesOf_harmless (harmless : ∀ unit, (outcome unit).isFatal = false) (units : List String) :
    linesOf outcome units = units.filterMap fun unit => (outcome unit).line? unit := by
  rw [linesOf, soundUnits_eq_self fun unit _ => harmless unit]

theorem complaintsOf_harmless (harmless : ∀ unit, (outcome unit).isFatal = false) (units : List String) :
    complaintsOf outcome units = units.filterMap fun unit => ((outcome unit).complaint? unit).map (unit, ·) := by
  rw [complaintsOf, soundUnits_eq_self fun unit _ => harmless unit]

/-- The lines of shards are those of their units in one list. -/
theorem flatMap_linesOf (harmless : ∀ unit, (outcome unit).isFatal = false) (shards : List Shard) :
    (shards.flatMap fun s => linesOf outcome s.units) = linesOf outcome (shards.flatMap (·.units)) := by
  simp only [linesOf_harmless harmless, List.filterMap_flatMap]

theorem flatMap_complaintsOf (harmless : ∀ unit, (outcome unit).isFatal = false) (shards : List Shard) :
    (shards.flatMap fun s => complaintsOf outcome s.units) = complaintsOf outcome (shards.flatMap (·.units)) := by
  simp only [complaintsOf_harmless harmless, List.filterMap_flatMap]

/-- The units that complaints are about stand in the order of the batch. -/
theorem complaintsOf_sublist (units : List String) : ((complaintsOf outcome units).map Prod.fst).Sublist units := by
  have kept : ∀ listed : List String, ((listed.filterMap fun unit =>
      ((outcome unit).complaint? unit).map (unit, ·)).map Prod.fst).Sublist listed := by
    intro listed
    induction listed with
    | nil => exact .slnil
    | cons unit rest ih =>
      rw [List.filterMap_cons]
      cases (outcome unit).complaint? unit with
      | none => exact ih.cons unit
      | some message => exact ih.cons_cons unit
  exact (kept _).trans (List.takeWhile_sublist _)

end

/-! ## Undisturbed batches -/

/-- Nothing disturbs a run of a batch: its sinks can be closed, every unit has an outcome that is not fatal, no call
cancels the batch, and nobody else does. -/
structure Request.Undisturbed (r : Request) (d : Disk) (schedule : Pool → List Move) (outcome : String → Outcome) :
    Prop where
  given : r.GivesNewSinks
  closable : ∀ shard, r.sinkFault shard = none
  harmless : ∀ unit, (outcome unit).isFatal = false
  outcomes : ∀ l unit, r.launch d = some l → (r.provider.analyze l.disk unit).outcome = outcome unit
  quiet : ∀ l unit, r.launch d = some l → (r.provider.analyze l.disk unit).cancels = false
  uncancelled : ∀ l, r.launch d = some l → Move.cancel ∉ schedule l.pool

/-- The units that failed, each with the reason. -/
def PipelineResult.complaints (result : PipelineResult) : List (String × String) :=
  result.failedUnits.map fun failure => (failure.unit, failure.message)

/-- A worker that has done its whole shard reports its failures and nothing else. -/
theorem Worker.Complete.report {outcome : String → Outcome} {w v : Worker} (complete : Worker.Complete outcome w v)
    (harmless : ∀ unit, (outcome unit).isFatal = false) (closable : w.sink.closingFault = none)
    (reported : Worker.Reported v v.report) :
    v.report.failedUnits = (complaintsOf outcome w.shard.units).map (Ledger.failureOf w.shard.index) ∧
      v.report.fatal = false := by
  have finalized : v.sink.finalized = true := by rw [complete.finalized, closable]; rfl
  have stopped : v.stopped = none := complete.stopped.mpr fun unit _ => harmless unit
  rw [reported.eq_result finalized]
  refine ⟨complete.failures, ?_⟩
  simp [Worker.result, WorkerResult.fatal, stopped, complete.uncancelled]

section
variable {r : Request} {d : Disk} {schedule : Pool → List Move} {outcome : String → Outcome} {units : List String}
  {workers : Nat} {result : PipelineResult}

/-- The reports of workers that have done their whole shards. -/
theorem complaints_of_complete {analyze : Nat → Capability} {a b : List Worker}
    (complete : List.Forall₂ (Worker.Complete outcome) a b) (harmless : ∀ unit, (outcome unit).isFatal = false)
    (closable : ∀ w ∈ a, w.sink.closingFault = none)
    (progress : List.Forall₂ (fun w v => Worker.Progress analyze w.shard w.sink v) a b)
    (ended : ∀ v ∈ b, v.hasEnded = true) (stay : ∀ v ∈ b, v.endsBatch = false) :
    ((b.map Worker.report).flatMap (·.failedUnits)).map (fun failure => (failure.unit, failure.message)) =
        (a.map (·.shard)).flatMap (fun s => complaintsOf outcome s.units) ∧
      (b.map Worker.report).filter (·.fatal) = [] := by
  induction complete with
  | nil => exact ⟨rfl, rfl⟩
  | @cons w v others more first _ ih =>
    cases progress with
    | cons near far =>
      have reported := near.reported (ended v List.mem_cons_self) (stay v List.mem_cons_self)
      obtain ⟨failures, calm⟩ := first.report harmless (closable w List.mem_cons_self) reported
      obtain ⟨later, none_⟩ := ih (fun u member => closable u (List.mem_cons_of_mem w member)) far
        (fun u member => ended u (List.mem_cons_of_mem v member)) fun u member => stay u (List.mem_cons_of_mem v member)
      refine ⟨?_, ?_⟩
      · simp only [List.map_cons, List.flatMap_cons, List.map_append, failures, later, List.map_map]
        congr 1
        exact List.map_id' _
      · simp [calm, none_]

/-- What an undisturbed run comes to. -/
theorem result_of_undisturbed (calm : r.Undisturbed d schedule outcome) (accepted : r.check = .ok (units, workers))
    (done : (runScheduled schedule r d).completion = .done result) :
    result.lines = sortLines (linesOf outcome units) ∧ result.complaints = complaintsOf outcome units ∧
      (result.ok = true ↔ complaintsOf outcome units = []) ∧
      ∀ path, result.outputPath = some path →
        (runScheduled schedule r d).disk.contents path = .ok (reportBytes result.lines) := by
  obtain ⟨l, shards, launched, whole, ready, gathered, lines, file⟩ := gathered_of_done calm.given accepted done
  have quiet : IsQuiet fun _ => r.provider.analyze l.disk := fun _ unit => calm.quiet l unit launched
  have same : (fun unit => (r.provider.analyze l.disk unit).outcome) = outcome :=
    funext fun unit => calm.outcomes l unit launched
  obtain ⟨-, complete⟩ := alone_of_quiet ready (whole.different (Request.check_eq_ok accepted).1) quiet
    (calm.uncancelled l launched) gathered.ended
  rw [same] at complete
  have closable : ∀ w ∈ l.pool.workers, w.sink.closingFault = none := fun w member =>
    (ready.faults w member).trans (calm.closable w.shard)
  obtain ⟨complaints, none_⟩ := complaints_of_complete complete calm.harmless closable gathered.progress gathered.ended
    gathered.stay
  rw [ready.shards, flatMap_complaintsOf calm.harmless, whole.whole, ← gathered.results] at complaints
  rw [← gathered.results] at none_
  have all : (shards.filter fun s => (r.sinkFault s).isNone) = shards := by
    rw [List.filter_eq_self]
    intro s _
    rw [calm.closable s]
    rfl
  rw [ready.lines_eq complete, all, flatMap_linesOf calm.harmless, whole.whole] at lines
  refine ⟨lines, complaints, ?_, file⟩
  have failed : complaintsOf outcome units = [] ↔ result.failedUnits = [] := by
    rw [← complaints]
    exact List.map_eq_nil_iff
  have fatal : result.fatalShards = [] := by
    rw [PipelineResult.fatalShards, none_]
    rfl
  rw [PipelineResult.ok_iff, failed]
  exact ⟨fun both => both.1, fun none_ => ⟨none_, fatal⟩⟩

end

/-- Two undisturbed runs of batches with the same units and the same outcomes have the same report, with the same bytes in
its file, the same verdict, and the same failures; if the batches have the units in the same order so are the failures,
and this is the order of the units. -/
theorem result_of_every_cut {r₁ r₂ : Request} {d₁ d₂ : Disk} {schedule₁ schedule₂ : Pool → List Move}
    {outcome : String → Outcome} {units₁ units₂ : List String} {workers₁ workers₂ : Nat}
    {result₁ result₂ : PipelineResult} (calm₁ : r₁.Undisturbed d₁ schedule₁ outcome)
    (calm₂ : r₂.Undisturbed d₂ schedule₂ outcome) (accepted₁ : r₁.check = .ok (units₁, workers₁))
    (accepted₂ : r₂.check = .ok (units₂, workers₂)) (same : units₁.Perm units₂)
    (done₁ : (runScheduled schedule₁ r₁ d₁).completion = .done result₁)
    (done₂ : (runScheduled schedule₂ r₂ d₂).completion = .done result₂) :
    result₁.lines = result₂.lines ∧
      (∀ path₁ path₂, result₁.outputPath = some path₁ → result₂.outputPath = some path₂ →
        ∃ bytes, (runScheduled schedule₁ r₁ d₁).disk.contents path₁ = .ok bytes ∧
          (runScheduled schedule₂ r₂ d₂).disk.contents path₂ = .ok bytes) ∧
      result₁.ok = result₂.ok ∧
      result₁.complaints.Perm result₂.complaints ∧
      (units₁ = units₂ → result₁.complaints = result₂.complaints) ∧
      (result₁.complaints.map Prod.fst).Sublist units₁ := by
  obtain ⟨lines₁, complaints₁, ok₁, file₁⟩ := result_of_undisturbed calm₁ accepted₁ done₁
  obtain ⟨lines₂, complaints₂, ok₂, file₂⟩ := result_of_undisturbed calm₂ accepted₂ done₂
  have lines : result₁.lines = result₂.lines := by
    rw [lines₁, lines₂, sortLines_eq_iff_perm, linesOf_harmless calm₁.harmless, linesOf_harmless calm₁.harmless]
    exact same.filterMap _
  have complaints : (complaintsOf outcome units₁).Perm (complaintsOf outcome units₂) := by
    rw [complaintsOf_harmless calm₁.harmless, complaintsOf_harmless calm₁.harmless]
    exact same.filterMap _
  refine ⟨lines, ?_, ?_, ?_, ?_, ?_⟩
  · intro path₁ path₂ there₁ there₂
    refine ⟨reportBytes result₁.lines, file₁ path₁ there₁, ?_⟩
    rw [lines]
    exact file₂ path₂ there₂
  · rw [Bool.eq_iff_iff, ok₁, ok₂]
    constructor
    · intro none_
      rw [none_] at complaints
      exact complaints.nil_eq.symm
    · intro none_
      rw [none_] at complaints
      exact complaints.eq_nil
  · rw [complaints₁, complaints₂]
    exact complaints
  · rintro rfl
    rw [complaints₁, complaints₂]
  · rw [complaints₁]
    exact complaintsOf_sublist units₁

/-- The units of the sample batch in another order, for one worker. -/
def sampleForOne : Request := { sampleRequest with units := .list [.str "a", .str "b", .str "c"], workers := .int 1 }

/-- The only worker of the sample batch when it begins. -/
def sampleLaunchForOne : Launch where
  disk := bareDisk
  directory := none
  pool :=
    { size := 1, workers := [{ shard := ⟨0, ["a", "b", "c"]⟩, sink := .inMemory "threaded_output_0.txt" }] }

theorem harmless_sampleReply (unit : String) : (sampleReply unit).outcome.isFatal = false := by
  unfold sampleReply
  split <;> rfl

/-- Requests with these replies are not disturbed. -/
theorem undisturbed_sampleReply {r : Request} {moves : List Move} (provider : r.provider = .capability fun _ => sampleReply)
    (given : r.givenSink = fun _ => none) (closable : r.closingFault = fun _ => none)
    (uncancelled : Move.cancel ∉ moves) :
    r.Undisturbed bareDisk (fun _ => moves) fun unit => (sampleReply unit).outcome := by
  refine ⟨?_, ?_, harmless_sampleReply, ?_, ?_, fun _ _ => uncancelled⟩
  · intro shard sink own
    rw [given] at own
    cases own
  · intro shard
    simp [Request.sinkFault, given, closable]
  · intro l unit _
    rw [provider]
    rfl
  · intro l unit _
    rw [provider]
    exact quiet_sampleReply unit

theorem result_of_two_cuts :
    ∃ result₁ result₂, (runScheduled (fun _ => sampleMoves) sampleRequest bareDisk).completion = .done result₁ ∧
      (runScheduled (fun _ => List.replicate 14 (.step 0)) sampleForOne bareDisk).completion = .done result₂ ∧
      result₁.lines = result₂.lines ∧ result₁.ok = result₂.ok ∧ result₁.complaints.Perm result₂.complaints := by
  have uncancelled₁ : Move.cancel ∉ sampleMoves := by decide
  have uncancelled₂ : Move.cancel ∉ List.replicate 14 (Move.step 0) := by decide
  have calm₁ : sampleRequest.Undisturbed bareDisk _ _ := undisturbed_sampleReply rfl rfl rfl uncancelled₁
  have calm₂ : sampleForOne.Undisturbed bareDisk _ _ := undisturbed_sampleReply rfl rfl rfl uncancelled₂
  have accepted₁ : sampleRequest.check = .ok (["c", "b", "a"], 2) := rfl
  have accepted₂ : sampleForOne.check = .ok (["a", "b", "c"], 1) := rfl
  have launched₁ : sampleRequest.launch bareDisk = some sampleLaunch := rfl
  have launched₂ : sampleForOne.launch bareDisk = some sampleLaunchForOne := rfl
  obtain ⟨_, -, whole₁, ready₁⟩ := ready_launch calm₁.given accepted₁ launched₁
  obtain ⟨_, -, whole₂, ready₂⟩ := ready_launch calm₂.given accepted₂ launched₂
  obtain ⟨result₁, done₁⟩ := ready₁.done_of_ended (fun _ => sampleMoves) whole₁ accepted₁ launched₁ rfl
    (by decide +kernel) (by decide +kernel)
  obtain ⟨result₂, done₂⟩ := ready₂.done_of_ended (fun _ => List.replicate 14 (.step 0)) whole₂ accepted₂ launched₂ rfl
    (by decide +kernel) (by decide +kernel)
  have same : (["c", "b", "a"] : List String).Perm ["a", "b", "c"] := by decide
  obtain ⟨lines, -, ok, complaints, -⟩ := result_of_every_cut calm₁ calm₂ accepted₁ accepted₂ same done₁ done₂
  exact ⟨result₁, result₂, done₁, done₂, lines, ok, complaints⟩

end GlobalSurvey.Batch
