import GlobalSurvey.Proofs.Batch.Course
import GlobalSurvey.Proofs.Batch.Heeding

/-!
# What is refused before any work

A batch is refused exactly if its units, its number of workers, its time limit or its capability are not as they should be
(`Request.check_of_iterate`), and then nothing else has happened. No later failure is of this kind (`Course.later`). A
capability may fail as if the batch were refused, but this ends the work on one shard only, as its last call, and is what
the worker reports unless its sink cannot be closed (`refusals_exact`).
-/
namespace GlobalSurvey.Batch
open GlobalSurvey.Files GlobalSurvey.Report

/-- What is wrong with a request, whose units have the items as given. -/
inductive Request.IsRefused (r : Request) (items : List Value) : Prop
  /-- The units are one text. -/
  | text {s : String} (units : r.units = .str s)
  /-- The units are bytes. -/
  | bytes {content : List UInt8} (units : r.units = .bytes content)
  /-- An item is no text, or a blank one. -/
  | unit (v : Value) (member : v ∈ items) (unfit : ¬ IsUnit v)
  /-- An item occurs twice. -/
  | repeated (twice : ¬ items.Nodup)
  /-- The number of workers is no integer, or no positive one. -/
  | workers (unfit : ∀ n, r.workers = .int n → n < 1)
  /-- The time limit is zero or below. -/
  | timeout {limit : Number} (given : r.joinTimeout = some limit) (passed : limit.isAtMostZero = true)
  /-- What is given as a capability cannot analyze anything. -/
  | capability {v : Value} (given : r.provider = .value v)

/-- What is checked last is the capability. -/
theorem Request.check_of_inTime {r : Request} {all : List String} {workers : Nat} (units : validateUnits r.units = .ok all)
    (number : validateWorkers r.workers = .ok workers)
    (inTime : ∀ limit, r.joinTimeout = some limit → limit.isAtMostZero = false) :
    r.check = match r.provider with
      | .value v => .error (.configuration (.noAnalyzer v))
      | .capability _ => .ok (all, workers) := by
  cases given : r.joinTimeout with
  | none =>
    cases provider : r.provider <;> simp [check, units, number, given, provider, Except.mapError, bind, Except.bind]
  | some limit =>
    cases provider : r.provider <;>
      simp [check, units, number, given, inTime limit given, provider, Except.mapError, bind, Except.bind]

/-- A request whose units are texts is accepted with just these units. -/
theorem Request.checked_texts {r : Request} {units checked : List String} {workers : Nat}
    (texts : r.units = .list (units.map .str)) (accepted : r.check = .ok (checked, workers)) : checked = units := by
  have valid := (Request.parts_of_check accepted).1
  rw [texts] at valid
  exact (validateUnits_texts.mp valid).1

/-- The workers of an accepted request are as many as it asks for. -/
theorem Request.workers_of_check {r : Request} {number : Int} {units : List String} {workers : Nat}
    (asked : r.workers = .int number) (accepted : r.check = .ok (units, workers)) : workers = number.toNat := by
  have valid := (Request.parts_of_check accepted).2
  rw [asked] at valid
  obtain ⟨n, same, -, rfl⟩ := validateWorkers_eq_ok.mp valid
  cases same
  rfl

/-- A batch of texts that comes as far as its workers was accepted. -/
theorem Request.accepted_of_launch {r : Request} {d : Disk} {l : Launch} {units : List String}
    (texts : r.units = .list (units.map .str)) (launched : r.launch d = some l) :
    ∃ workers, r.check = .ok (units, workers) := by
  cases checked : r.check with
  | error failure => simp [Request.launch, checked] at launched
  | ok both =>
    obtain ⟨others, workers⟩ := both
    obtain rfl := Request.checked_texts texts checked
    exact ⟨workers, rfl⟩

/-- A request is refused if there is something wrong with it, and accepted otherwise. -/
theorem Request.check_of_iterate {r : Request} {items : List Value} (iterable : r.units.iterate = .ok items) :
    (r.IsRefused items ∧ ∃ fault, r.check = .error (.configuration fault)) ∨
      (¬ r.IsRefused items ∧ ∃ units workers, r.check = .ok (units, workers)) := by
  by_cases text : ∃ s, r.units = .str s
  · obtain ⟨s, units⟩ := text
    exact .inl ⟨.text units, _, by rw [check, units]; rfl⟩
  by_cases bytes : ∃ content, r.units = .bytes content
  · obtain ⟨content, units⟩ := bytes
    exact .inl ⟨.bytes units, _, by rw [check, units]; rfl⟩
  have units := validateUnits_items (not_exists.mp text) (not_exists.mp bytes) iterable
  cases checked : checkUnits 0 [] items with
  | error fault =>
    have unfit : ¬ ((∀ v ∈ items, IsUnit v) ∧ items.Nodup) := by
      rw [← exists_units_iff 0, checked]
      simp
    refine .inl ⟨?_, fault, by rw [check, units, checked]; rfl⟩
    by_cases twice : items.Nodup
    · obtain ⟨v, member, unfit⟩ : ∃ v ∈ items, ¬ IsUnit v := by
        simpa [twice] using unfit
      exact .unit v member unfit
    · exact .repeated twice
  | ok all =>
    obtain ⟨named, different⟩ := (exists_units_iff 0).mp ⟨all, checked⟩
    rw [checked] at units
    cases number : validateWorkers r.workers with
    | error fault =>
      refine .inl ⟨.workers ?_, fault, by rw [check, units, number]; rfl⟩
      intro n same
      have none : ¬ ∃ workers, validateWorkers r.workers = .ok workers := by simp [number]
      rw [exists_workers_iff] at none
      exact Int.not_le.mp fun positive => none ⟨n, same, positive⟩
    | ok workers =>
      obtain ⟨n, same, positive⟩ := exists_workers_iff.mp ⟨workers, number⟩
      by_cases passed : ∃ limit, r.joinTimeout = some limit ∧ limit.isAtMostZero = true
      · obtain ⟨limit, given, passed⟩ := passed
        refine .inl ⟨.timeout given passed, .invalidTimeout limit, ?_⟩
        rw [check, units, number, given]
        simp [Except.mapError, bind, Except.bind, passed]
      · have inTime : ∀ limit, r.joinTimeout = some limit → limit.isAtMostZero = false := fun limit given =>
          Bool.eq_false_iff.mpr fun late => passed ⟨limit, given, late⟩
        have rest := check_of_inTime units number inTime
        cases provider : r.provider with
        | value v =>
          rw [provider] at rest
          exact .inl ⟨.capability provider, .noAnalyzer v, rest⟩
        | capability analyze =>
          refine .inr ⟨?_, all, workers, ?_⟩
          · intro refused
            cases refused with
            | text units => exact text ⟨_, units⟩
            | bytes units => exact bytes ⟨_, units⟩
            | unit v member unfit => exact unfit (named v member)
            | repeated twice => exact twice different
            | workers unfit => exact absurd positive (Int.not_le.mpr (unfit n same))
            | timeout given late => exact passed ⟨_, given, late⟩
            | capability given => rw [provider] at given; cases given
          · rw [rest, provider]

/-! ## Failures after the checks -/

/-- The word for the class of refusals. -/
def refusalKind : String := "ConfigurationError"

theorem stays_of_refusal {failure : Failure} (refusal : failure.kind = refusalKind) : failure.escapes = false := by
  cases escapes : failure.escapes with
  | false => rfl
  | true =>
    have stops := kind_of_escapes escapes
    rw [refusal] at stops
    exact absurd stops (by decide)

section
variable {r : Request} {d : Disk} {schedule : Pool → List Move} {units : List String} {workers : Nat}
  {shards : List Shard}

/-- No failure of an accepted batch is a refusal. -/
theorem Course.later {started : Event} {run : Run} (course : Course r d schedule shards started run) {failure : Failure}
    (failed : run.completion = .failed failure) : failure.kind ≠ refusalKind := by
  intro refusal
  rcases course.kind failed with known | ⟨timeout, -⟩
  · rw [refusal] at known
    exact absurd known (by decide)
  · rw [refusal] at timeout
    exact absurd timeout (by decide)

/-- A call that fails as if the batch were refused is the last one of its worker, which faces this when it ends. -/
theorem faces_of_launch {l : Launch} (given : r.GivesNewSinks) (launched : r.launch d = some l)
    (analyze : Nat → Capability) (moves : List Move) {v : Worker} (member : v ∈ (l.pool.follow analyze moves).workers)
    (ended : v.hasEnded = true) {before after : List String} {unit : String} {failure : Failure}
    (called : v.called = before ++ unit :: after) (fails : (analyze before.length unit).outcome = .failed failure)
    (refusal : failure.kind = refusalKind) : after = [] ∧ v.Faces failure := by
  cases accepted : r.check with
  | error fault => simp [Request.launch, accepted] at launched
  | ok checked =>
    obtain ⟨shards, -, -, ready⟩ := ready_launch given accepted launched
    obtain ⟨w, inside, reaches⟩ := Pool.exists_start (Pool.evolves_follow_any analyze l.pool moves) member
    have new := ready.pool.new w inside
    obtain ⟨last, answers | stopped⟩ := new.heeds reaches before unit after failure called fails
    · simp [Worker.hasEnded, answers] at ended
    · exact ⟨last, (new.progress reaches).faces ended stopped (stays_of_refusal refusal)⟩

/-- A batch fails by a refusal exactly if there is something wrong with it, and then nothing was done. A call that fails as
if the batch were refused is the last one of its worker, which reports the failure unless its sink cannot be closed. -/
theorem refusals_exact {items : List Value} (given : r.GivesNewSinks) (iterable : r.units.iterate = .ok items) (d : Disk)
    (schedule : Pool → List Move) :
    ((∃ failure, (runScheduled schedule r d).completion = .failed failure ∧ failure.kind = refusalKind) ↔
        r.IsRefused items) ∧
      (r.IsRefused items → ∃ fault, runScheduled schedule r d = ⟨.failed (.configuration fault), [], d, []⟩) ∧
      (∀ l analyze moves, r.launch d = some l →
        ∀ v ∈ (l.pool.follow analyze moves).workers, v.hasEnded = true →
          ∀ before unit after failure, v.called = before ++ unit :: after →
            (analyze before.length unit).outcome = .failed failure → failure.kind = refusalKind →
              after = [] ∧ v.Faces failure) ∧
      ∀ result, (runScheduled schedule r d).completion = .done result → ∃ l, r.launch d = some l ∧
        result.workers =
          (l.pool.follow (fun _ => r.provider.analyze l.disk) (schedule l.pool)).workers.map Worker.report := by
  have checked := Request.check_of_iterate iterable
  have refused : r.IsRefused items →
      ∃ fault, runScheduled schedule r d = ⟨.failed (.configuration fault), [], d, []⟩ := by
    intro wrong
    obtain ⟨-, fault, check⟩ | ⟨right, -⟩ := checked
    · exact ⟨fault, by simp only [runScheduled, check]⟩
    · exact absurd wrong right
  refine ⟨⟨?_, ?_⟩, refused, ?_, ?_⟩
  · rintro ⟨failure, failed, refusal⟩
    obtain ⟨wrong, -⟩ | ⟨-, units, workers, accepted⟩ := checked
    · exact wrong
    · obtain ⟨shards, cut, -⟩ := cut_partition units (Request.check_eq_ok accepted).2
      exact absurd refusal ((course_runScheduled given accepted cut schedule).later failed)
  · intro wrong
    obtain ⟨fault, run⟩ := refused wrong
    exact ⟨.configuration fault, by rw [run], rfl⟩
  · intro l analyze moves launched v member ended before unit after failure called fails refusal
    exact faces_of_launch given launched analyze moves member ended called fails refusal
  · intro result done
    obtain ⟨-, fault, check⟩ | ⟨-, units, workers, accepted⟩ := checked
    · simp only [runScheduled, check] at done
      cases done
    · obtain ⟨l, shards, launched, -, -, gathered, -⟩ := gathered_of_done given accepted done
      exact ⟨l, launched, gathered.results⟩

end

/-- A batch with a number among its units. -/
def misusedRequest : Request := { sampleRequest with units := .list [.str "c", .int 3] }

/-- A batch of one unit, whose capability fails as if the batch were refused. -/
def refusingRequest : Request where
  units := .list [.str "a"]
  workers := .int 1
  provider := .capability fun _ _ => { outcome := .failed (.raised refusalKind "no compiler") }
  inMemorySinks := true

/-- The batch when its worker begins. -/
def refusingLaunch : Launch where
  disk := bareDisk
  directory := none
  pool := { size := 1, workers := [{ shard := ⟨0, ["a"]⟩, sink := .inMemory "threaded_output_0.txt" }] }

theorem refused_number_and_faced_refusal :
    (∀ schedule, ∃ fault,
        runScheduled schedule misusedRequest bareDisk = ⟨.failed (.configuration fault), [], bareDisk, []⟩) ∧
      (∀ schedule failure, (runScheduled schedule refusingRequest bareDisk).completion = .failed failure →
        failure.kind ≠ refusalKind) ∧
      refusingRequest.launch bareDisk = some refusingLaunch ∧
      ∀ v ∈ (refusingLaunch.pool.follow (fun _ => refusingRequest.provider.analyze bareDisk)
          (Pool.oneByOne refusingLaunch.pool)).workers,
        v.called = ["a"] ∧ v.Faces (.raised refusalKind "no compiler") := by
  have given : refusingRequest.GivesNewSinks := fun _ _ none_ => by cases none_
  have iterable : refusingRequest.units.iterate = .ok [.str "a"] := rfl
  refine ⟨?_, ?_, rfl, ?_⟩
  · intro schedule
    have given : misusedRequest.GivesNewSinks := fun _ _ none_ => by cases none_
    have iterable : misusedRequest.units.iterate = .ok [.str "c", .int 3] := rfl
    have number : ¬ IsUnit (.int 3) := by
      rintro ⟨unit, same, -⟩
      cases same
    exact (refusals_exact given iterable bareDisk schedule).2.1 (.unit _ (by simp) number)
  · intro schedule failure failed refusal
    have wrong := (refusals_exact given iterable bareDisk schedule).1.mp ⟨failure, failed, refusal⟩
    have right : refusingRequest.check = .ok (["a"], 1) := rfl
    obtain ⟨-, fault, check⟩ | ⟨fine, -⟩ := Request.check_of_iterate iterable
    · rw [right] at check
      cases check
    · exact fine wrong
  · intro v member
    obtain ⟨-, -, faced, -⟩ := refusals_exact given iterable bareDisk Pool.oneByOne
    have called : v.called = ["a"] ∧ v.hasEnded = true := by
      revert v
      decide +kernel
    obtain ⟨-, faces⟩ := faced refusingLaunch _ _ rfl v member called.2 [] "a" [] _ called.1 rfl rfl
    exact ⟨called.1, faces⟩

/-- A batch whose capability fails as if the batch were refused, with a sink that cannot be closed. -/
def unclosedRequest : Request := { refusingRequest with closingFault := fun _ => some (.raised "OSError" "fsync failed") }

/-- The batch when its worker begins. -/
def unclosedLaunch : Launch where
  disk := bareDisk
  directory := none
  pool :=
    { size := 1
      workers :=
        [{ shard := ⟨0, ["a"]⟩
           sink := { Sink.inMemory "threaded_output_0.txt" with
             closingFault := some (.raised "OSError" "fsync failed") } }] }

/-- The failure of closing takes the place of the failure of the capability. -/
theorem closing_hides_refusal :
    (∀ unit, (unclosedRequest.provider.analyze bareDisk unit).outcome = .failed (.raised refusalKind "no compiler")) ∧
      ∃ result, (run unclosedRequest bareDisk).completion = .done result ∧
        result.workers.map (·.fatalError) = [some "OSError: fsync failed"] ∧
        ∀ worker ∈ result.workers, worker.fatalError ≠ some (Failure.raised refusalKind "no compiler").text := by
  have given : unclosedRequest.GivesNewSinks := fun _ _ none_ => by cases none_
  have accepted : unclosedRequest.check = .ok (["a"], 1) := rfl
  have launched : unclosedRequest.launch bareDisk = some unclosedLaunch := rfl
  obtain ⟨_, -, whole, ready⟩ := ready_launch given accepted launched
  obtain ⟨result, done⟩ :=
    ready.done_of_ended Pool.oneByOne whole accepted launched rfl (by decide +kernel) (by decide +kernel)
  obtain ⟨l, _, same, -, -, gathered, -⟩ := gathered_of_done given accepted done
  rw [launched] at same
  cases same
  refine ⟨fun _ => rfl, result, done, ?_, ?_⟩
  · rw [gathered.results]
    decide +kernel
  · rw [gathered.results]
    decide +kernel

end GlobalSurvey.Batch
