import GlobalSurvey.Proofs.Batch.GivingUp
import GlobalSurvey.Proofs.Batch.Verdict
import GlobalSurvey.Proofs.CommandLine.Conduct

/-!
# What the status of a command says

A command that analyzes ends with a status for one of four causes: its report has every unit, its report lacks some, the
command was refused, or its workers did not end in time. Each cause gives its status (`Analyze.Emits.status`,
`Analyze.IsRefused.outcome`, `Analyze.IsLate.outcome`), and there is no other way to a status (`status_cases`); so the
status tells the cause (`status_tells_truth`).
-/
namespace GlobalSurvey.Batch

/-! ## Remarks about a result -/

/-- Why a worker did not get to the end of its shard. -/
def WorkerResult.early? (w : WorkerResult) : Option String :=
  w.fatalError <|> if w.cancelled then some "cancelled" else none

/-- What is said about a result that is not all right, with the shards that it is said about. -/
def PipelineResult.remarks (r : PipelineResult) : List (Int × String) :=
  r.workers.filterMap (fun w => w.early?.map fun why => (w.shard, why)) ++
    r.failedUnits.map fun f => (f.shard, f.unit ++ ": " ++ f.message)

theorem WorkerResult.ok_eq_false_iff {w : WorkerResult} :
    w.ok = false ↔ w.early?.isSome = true ∨ w.failedUnits ≠ [] := by
  unfold ok early?
  cases w.fatalError <;> cases w.cancelled <;> cases w.failedUnits <;> simp

/-- The shards that something is said about are those whose workers are not all right. -/
theorem PipelineResult.shard_remarks {r : PipelineResult}
    (owned : ∀ w ∈ r.workers, ∀ f ∈ w.failedUnits, f.shard = w.shard) (shard : Int) :
    shard ∈ r.remarks.map (·.1) ↔ ∃ w ∈ r.workers, w.ok = false ∧ w.shard = shard := by
  simp only [remarks, failedUnits, List.map_append, List.map_map, List.mem_append, List.mem_map, List.mem_filterMap,
    List.mem_flatMap, Function.comp_apply]
  constructor
  · rintro (⟨m, ⟨w, member, said⟩, rfl⟩ | ⟨f, ⟨w, member, failed⟩, rfl⟩)
    · obtain ⟨why, early, rfl⟩ := Option.map_eq_some_iff.mp said
      exact ⟨w, member, WorkerResult.ok_eq_false_iff.mpr (.inl (by rw [early]; rfl)), rfl⟩
    · exact ⟨w, member, WorkerResult.ok_eq_false_iff.mpr (.inr (List.ne_nil_of_mem failed)), (owned w member f failed).symm⟩
  · rintro ⟨w, member, bad, rfl⟩
    rcases WorkerResult.ok_eq_false_iff.mp bad with early | failed
    · obtain ⟨why, early⟩ := Option.isSome_iff_exists.mp early
      exact .inl ⟨_, ⟨w, member, by rw [early]; rfl⟩, rfl⟩
    · obtain ⟨f, rest, parted⟩ := List.exists_cons_of_ne_nil failed
      have first : f ∈ w.failedUnits := parted ▸ List.mem_cons_self
      exact .inr ⟨f, ⟨w, member, first⟩, owned w member f first⟩

end GlobalSurvey.Batch

namespace GlobalSurvey.CommandLine
open GlobalSurvey.Batch GlobalSurvey.Files GlobalSurvey.Report

/-- A remark about a shard as it is printed. -/
def remarkText (remark : Int × String) : String := "shard " ++ toString remark.1 ++ ": " ++ remark.2 ++ "\n"

theorem workerComplaint_eq (w : WorkerResult) :
    workerComplaint? w = (w.early?.map fun why => (w.shard, why)).map remarkText := by
  unfold workerComplaint? WorkerResult.early?
  cases w.fatalError <;> cases w.cancelled <;> simp [remarkText, String.append_assoc]

/-- What is printed about a result is what is said about it, shard by shard. -/
theorem complaints_eq (r : PipelineResult) :
    complaints r = if r.ok then "" else String.join (r.remarks.map remarkText) := by
  have units : r.failedUnits.map unitComplaint =
      (r.failedUnits.map fun f => (f.shard, f.unit ++ ": " ++ f.message)).map remarkText := by
    rw [List.map_map]
    refine List.map_congr_left fun f _ => ?_
    simp only [unitComplaint, remarkText, Function.comp_apply, String.append_assoc]
  rw [complaints, PipelineResult.remarks, List.map_append, List.map_filterMap, units, funext workerComplaint_eq]

/-! ## The causes -/

section
variable {a : Analyze} {provider : Provider} {environment : Settings.Environment} {d : Disk} {s : Settings}
  {units : List String} {schedule : Pool → List Move} {result : PipelineResult} {o : Outcome}

/-- The report of a batch was given out: to the file that was asked for, or as all of the standard output. -/
structure Analyze.Emits (a : Analyze) (schedule : Pool → List Move) (provider : Provider)
    (environment : Settings.Environment) (d : Disk) (s : Settings) (units : List String) (result : PipelineResult)
    (o : Outcome) : Prop where
  uses : a.Uses environment d s
  collected : a.units d s = .ok units
  done : (Batch.runScheduled schedule (requestOf s provider units) d).completion = .done result
  toFile : ∀ path, IsGiven s.outputPath path →
    o.output = "" ∧ o.disk.contents (reportPath d path) = .ok (reportBytes result.lines)
  toOutput : (∀ path, ¬ IsGiven s.outputPath path) → o.output = render result.lines

/-- The command is refused: for its settings, for where its units are, or for its request. -/
inductive Analyze.IsRefused (a : Analyze) (provider : Provider) (environment : Settings.Environment) (d : Disk) : Prop
  | settings {misfits : List Misfit} (loaded : Settings.load [] environment d = .error (.misfits misfits))
  | units {s : Settings} (uses : a.Uses environment d s) (uncollectable : a.IsUncollectable d)
  | request {s : Settings} {units : List String} (uses : a.Uses environment d s) (collected : a.units d s = .ok units)
      (wrong : (requestOf s provider units).IsRefused (units.map .str))

/-- The time is over while workers of the batch are still running. -/
def Analyze.IsLate (a : Analyze) (schedule : Pool → List Move) (provider : Provider)
    (environment : Settings.Environment) (d : Disk) : Prop :=
  ∃ s units l limit, a.Uses environment d s ∧ a.units d s = .ok units ∧
    (requestOf s provider units).launch d = some l ∧ s.joinTimeout = some limit ∧
    (l.pool.follow (fun _ => provider.analyze l.disk) (schedule l.pool)).pending ≠ []

/-- A batch that has a result was accepted, and is about the units that were collected. -/
theorem accepted_of_done (done : (Batch.runScheduled schedule (requestOf s provider units) d).completion = .done result) :
    ∃ workers, (requestOf s provider units).check = .ok (units, workers) := by
  obtain ⟨l, launched⟩ := launch_of_done done
  exact accepted_of_launch launched

/-! ### The report is given out -/

theorem emits_of_done (uses : a.Uses environment d s) (collected : a.units d s = .ok units)
    (done : (Batch.runScheduled schedule (requestOf s provider units) d).completion = .done result) :
    a.Emits schedule provider environment d s units result (analyze schedule a provider environment d) := by
  obtain ⟨workers, accepted⟩ := accepted_of_done done
  have path := outputPath_of_done (new_requestOf s provider units) accepted done
  obtain ⟨-, -, -, -, -, -, -, file⟩ := gathered_of_done (new_requestOf s provider units) accepted done
  have outcome : (analyze schedule a provider environment d).output =
      if result.outputPath.isNone then render result.lines else "" := by
    rw [analyze_of_collected uses collected, outcomeOf, done]
  have disk : (analyze schedule a provider environment d).disk =
      (Batch.runScheduled schedule (requestOf s provider units) d).disk := by
    rw [analyze_of_collected uses collected, outcomeOf, done]
  refine ⟨uses, collected, done, ?_, ?_⟩
  · intro own given
    have written : result.outputPath = some (reportPath d own) := by
      rw [path, Request.report?]
      simp only [requestOf, given.1, Option.getD_some, String.isEmpty_iff, if_neg given.2]
    rw [outcome, disk, written]
    exact ⟨rfl, file _ written⟩
  · intro nowhere
    have unwritten : result.outputPath = none := by
      rw [path, Request.report?]
      cases empty : (s.outputPath.getD "").isEmpty with
      | true => simp [requestOf, empty]
      | false => exact absurd (isGiven_of_nonempty (by simp [empty])) (nowhere _)
    rw [outcome, unwritten]
    rfl

namespace Analyze.Emits

variable (emits : a.Emits schedule provider environment d s units result o)
include emits

theorem accepted : ∃ workers, (requestOf s provider units).check = .ok (units, workers) := accepted_of_done emits.done

theorem verdict : ∃ l, (requestOf s provider units).launch d = some l ∧ result.lines.length ≤ units.length ∧
      (result.ok = true ↔ result.lines.length = units.length) ∧
      (result.ok = true →
        result.lines.Perm (units.filterMap fun unit => (provider.analyze l.disk unit).outcome.line? unit) ∧
          ∀ unit ∈ units, ((provider.analyze l.disk unit).outcome.line? unit).isSome = true) ∧
      ∀ report ∈ result.workers, ∀ f ∈ report.failedUnits, f.shard = report.shard := by
  obtain ⟨workers, accepted⟩ := emits.accepted
  exact verdict_of_done (fun _ => rfl) (fun _ => rfl) accepted emits.done

theorem status : (analyze schedule a provider environment d).status =
    some (.ok (if result.lines.length = units.length then statusDone else statusFailed)) := by
  obtain ⟨-, -, -, ok, -⟩ := emits.verdict
  rw [analyze_of_collected emits.uses emits.collected, outcomeOf, emits.done]
  simp only [ok]

theorem errors : (analyze schedule a provider environment d).errors =
    if result.ok then "" else String.join (result.remarks.map remarkText) := by
  rw [analyze_of_collected emits.uses emits.collected, outcomeOf, emits.done, ← complaints_eq]

end Analyze.Emits

/-! ### Nothing is given out -/

/-- A command that is refused has done nothing. -/
theorem Analyze.IsRefused.outcome (refused : a.IsRefused provider environment d) (schedule : Pool → List Move) :
    (analyze schedule a provider environment d).status = some (.ok statusRefused) ∧
      (analyze schedule a provider environment d).output = "" ∧ (analyze schedule a provider environment d).calls = [] ∧
      (analyze schedule a provider environment d).disk = d := by
  cases refused with
  | settings loaded =>
    simp only [analyze, loaded]
    exact ⟨trivial, trivial, trivial, trivial⟩
  | units uses uncollectable =>
    obtain ⟨own, loaded, rfl⟩ := uses
    have collecting := collecting_units a d (a.override own)
    simp only [analyze, loaded, analyzeWith]
    generalize a.units d (a.override own) = collected at collecting ⊢
    cases collecting with
    | units collectable => exact absurd uncollectable collectable
    | null collectable => exact absurd uncollectable collectable
    | refused => exact ⟨rfl, rfl, rfl, rfl⟩
  | request uses collected wrong =>
    rename_i s units
    rcases Request.check_of_iterate (iterate_requestOf s provider units) with
      ⟨-, fault, checked⟩ | ⟨right, -⟩
    · rw [analyze_of_collected uses collected, Batch.runScheduled, checked]
      exact ⟨rfl, rfl, rfl, rfl⟩
    · exact absurd wrong right

/-- A command whose workers do not end in time gives nothing out, and leaves all files as they were. -/
theorem Analyze.IsLate.outcome (late : a.IsLate schedule provider environment d) :
    (analyze schedule a provider environment d).status = some (.ok statusLate) ∧
      (analyze schedule a provider environment d).output = "" ∧
      ∀ s units l, a.Uses environment d s → a.units d s = .ok units → (requestOf s provider units).launch d = some l →
        '/' ∉ s.shardStem.toList →
          SameFiles (requestOf s provider units) l.directory d (analyze schedule a provider environment d).disk := by
  obtain ⟨s, units, l, limit, uses, collected, launched, limited, running⟩ := late
  have given := new_requestOf s provider units
  obtain ⟨workers, accepted⟩ := accepted_of_launch launched
  have timeout : (requestOf s provider units).joinTimeout = some (.float limit) := by simp [requestOf, limited]
  have joined := Pool.join_of_running running (.float limit)
  rw [← timeout] at joined
  have run := runScheduled_of_failed accepted launched joined
  rw [analyze_of_collected uses collected]
  refine ⟨by rw [run]; rfl, by rw [run]; rfl, ?_⟩
  intro _ _ _ again same more whole
  obtain rfl := uses.unique again
  rw [collected] at same
  cases same
  rw [launched] at more
  cases more
  obtain ⟨base, changes, -, vacated⟩ := vacated_of_failed given whole accepted launched joined
  rw [run] at vacated ⊢
  exact vacated.sameFiles changes

/-! ## The status -/

/-- The causes of the statuses. -/
inductive Analyze.Ends (a : Analyze) (schedule : Pool → List Move) (provider : Provider)
    (environment : Settings.Environment) (d : Disk) (o : Outcome) : Nat → Prop
  /-- A report with as many lines as there are units was given out. -/
  | done {s : Settings} {units : List String} {result : PipelineResult}
      (emits : a.Emits schedule provider environment d s units result o)
      (full : result.lines.length = units.length) : Ends a schedule provider environment d o statusDone
  /-- A report with fewer lines was given out. -/
  | failed {s : Settings} {units : List String} {result : PipelineResult}
      (emits : a.Emits schedule provider environment d s units result o)
      (fewer : result.lines.length < units.length) : Ends a schedule provider environment d o statusFailed
  | refused (refused : a.IsRefused provider environment d) : Ends a schedule provider environment d o statusRefused
  | late (late : a.IsLate schedule provider environment d) : Ends a schedule provider environment d o statusLate

/-- Each cause gives its status. -/
theorem Analyze.Ends.status {status : Nat} (ends : a.Ends schedule provider environment d o status) :
    (analyze schedule a provider environment d).status = some (.ok status) := by
  cases ends with
  | done emits full => rw [emits.status, if_pos full]
  | failed emits fewer => rw [emits.status, if_neg (Nat.ne_of_lt fewer)]
  | refused refused => exact (refused.outcome schedule).1
  | late late => exact late.outcome.1

theorem Analyze.Emits.ends (emits : a.Emits schedule provider environment d s units result o) :
    ∃ status, a.Ends schedule provider environment d o status := by
  obtain ⟨-, -, bounded, -⟩ := emits.verdict
  rcases Nat.lt_or_eq_of_le bounded with fewer | full
  · exact ⟨_, .failed emits fewer⟩
  · exact ⟨_, .done emits full⟩

/-- There is a cause for each status that a command ends with. -/
theorem exists_ends (loads : Loads environment d) {status : Nat}
    (ended : (analyze schedule a provider environment d).status = some (.ok status)) :
    ∃ status, a.Ends schedule provider environment d (analyze schedule a provider environment d) status := by
  have conduct := conduct_analyze loads schedule a provider
  generalize same : analyze schedule a provider environment d = o at conduct ended
  cases conduct with
  | unset loaded errors => exact ⟨_, .refused (.settings loaded)⟩
  | uncollected uses uncollectable fault => exact ⟨_, .refused (.units uses uncollectable)⟩
  | null uses collectable given held => cases ended
  | refused uses collectable collected wrong fault => exact ⟨_, .refused (.request uses collected wrong)⟩
  | ran uses collectable collected right accepted cut course own =>
    rename_i s units workers shards run
    cases completion : run.completion with
    | waiting => simp [outcomeOf, completion] at ended
    | done result =>
      rw [own] at completion
      exact same ▸ (emits_of_done uses collected completion).ends
    | failed failure =>
      rcases course.failure completion with ⟨fault, rfl⟩ | ⟨limit, pending, -, rfl⟩ | escapes
      · simp [outcomeOf, completion] at ended
      · obtain ⟨l, launched, limited, running⟩ := course.late completion
        obtain ⟨float, given, -⟩ := Option.map_eq_some_iff.mp limited
        exact ⟨_, .late ⟨s, units, l, float, uses, collected, launched, given, running⟩⟩
      · cases failure with
        | raised kind message => simp [outcomeOf, completion] at ended
        | _ => cases escapes

/-- What the status of a command that analyzes tells about it. -/
structure Truthful (schedule : Pool → List Move) (a : Analyze) (provider : Provider)
    (environment : Settings.Environment) (d : Disk) (o : Outcome) : Prop where
  status : ∀ status, o.status = some (.ok status) ↔ a.Ends schedule provider environment d o status
  /-- A report with as many lines as there are units has one line for each unit, and there are no complaints. -/
  whole : ∀ s units result, a.Emits schedule provider environment d s units result o →
    result.lines.length = units.length → o.errors = "" ∧ ∃ l, (requestOf s provider units).launch d = some l ∧
      result.lines.Perm (units.filterMap fun unit => (provider.analyze l.disk unit).outcome.line? unit) ∧
      ∀ unit ∈ units, ((provider.analyze l.disk unit).outcome.line? unit).isSome = true
  /-- If there are fewer lines the complaints name the shards whose workers are not all right, and every failed unit. -/
  lacking : ∀ s units result, a.Emits schedule provider environment d s units result o →
    result.lines.length < units.length → o.errors = String.join (result.remarks.map remarkText) ∧
      ∀ shard, shard ∈ result.remarks.map (·.1) ↔ ∃ w ∈ result.workers, w.ok = false ∧ w.shard = shard
  /-- A command that is refused has done nothing. -/
  undone : o.status = some (.ok statusRefused) → o.output = "" ∧ o.calls = [] ∧ o.disk = d
  /-- A command whose workers do not end in time prints nothing and, if the names of the sinks are plain names, leaves the
  files as they were. -/
  untouched : o.status = some (.ok statusLate) → o.output = "" ∧ ∀ s units l, a.Uses environment d s →
    a.units d s = .ok units → (requestOf s provider units).launch d = some l → '/' ∉ s.shardStem.toList →
      SameFiles (requestOf s provider units) l.directory d o.disk

theorem truthful_analyze (loads : Loads environment d) (schedule : Pool → List Move) (a : Analyze) (provider : Provider) :
    Truthful schedule a provider environment d (analyze schedule a provider environment d) := by
  have tells (status : Nat) : (analyze schedule a provider environment d).status = some (.ok status) ↔
      a.Ends schedule provider environment d (analyze schedule a provider environment d) status := by
    refine ⟨fun ended => ?_, Analyze.Ends.status⟩
    obtain ⟨other, ends⟩ := exists_ends loads ended
    rw [ends.status] at ended
    cases ended
    exact ends
  refine ⟨tells, ?_, ?_, ?_, ?_⟩
  · intro s units result emits full
    obtain ⟨l, launched, -, ok, each, -⟩ := emits.verdict
    refine ⟨?_, l, launched, each (ok.mpr full)⟩
    rw [emits.errors, if_pos (ok.mpr full)]
  · intro s units result emits fewer
    obtain ⟨-, -, -, ok, -, owned⟩ := emits.verdict
    have bad : ¬ result.ok = true := fun fine => Nat.ne_of_lt fewer (ok.mp fine)
    exact ⟨by rw [emits.errors, if_neg bad], PipelineResult.shard_remarks owned⟩
  · intro ended
    have ends := (tells _).mp ended
    cases ends with
    | refused refused => exact (refused.outcome schedule).2
  · intro ended
    have ends := (tells _).mp ended
    cases ends with
    | late late => exact late.outcome.2

/-! ## Command lines -/

/-- A path that is read from a command line is not `-`. -/
theorem outputOf_ne (path : String) : outputOf path ≠ "-" := by
  unfold outputOf
  split
  · decide
  · assumption

theorem ofParsed_of_readCommand {extras texts : List String} {name : String}
    (read : readCommand extras name texts = .ok (.analyze a)) : ∃ p, a = .ofParsed p := by
  unfold readCommand at read
  simp only [bind, Except.bind] at read
  split at read
  · cases read
  · rename_i p _
    split at read
    · cases read
    · split at read
      · cases read
      · split at read
        · cases read
        · cases read
          exact ⟨p, rfl⟩

theorem ofParsed_of_readProgram {extras texts : List String} {ts : List Token}
    (read : readProgram extras ts texts = .ok (.analyze a)) : ∃ p, a = .ofParsed p := by
  fun_induction readProgram extras ts texts with
  | case1 extras use ts text texts unknown ih => exact ih read
  | case4 extras name ts text texts known => exact ofParsed_of_readCommand read
  | _ => cases read

/-- A command that analyzes has its arguments from a command line. -/
theorem ofParsed_of_read {texts : List String} (read : Command.read texts = .ok (.analyze a)) : ∃ p, a = .ofParsed p := by
  unfold Command.read at read
  simp only [bind, Except.bind] at read
  split at read
  · cases read
  · exact ofParsed_of_readProgram read

/-- However its workers take turns, the status of a command that analyzes tells what became of its report, and why nothing
was given out if nothing was. -/
theorem status_tells_truth {texts : List String} (read : Command.read texts = .ok (.analyze a))
    (loads : Loads environment d) (schedule : Pool → List Move) (provider : Provider) :
    a.output ≠ some "-" ∧
      Truthful schedule a provider environment d (runScheduled schedule texts provider environment d) := by
  refine ⟨?_, ?_⟩
  · obtain ⟨p, rfl⟩ := ofParsed_of_read read
    intro same
    obtain ⟨path, -, dash⟩ := Option.map_eq_some_iff.mp same
    exact outputOf_ne path dash
  · simp only [runScheduled, read]
    exact truthful_analyze loads schedule a provider

end

/-! ## Commands on a disk without files -/

/-- On a disk without a file for them the settings are those of the environment. -/
theorem load_of_absent {d : Disk} {parent : Location} {name : String}
    (free : d.resolve true Settings.filePath = .ok (.absent parent name)) (environment : Settings.Environment) :
    Settings.load [] environment d =
      match Settings.ofEntries (Settings.gather [] environment []) with
      | .ok s => .ok s
      | .error misfits => .error (.misfits misfits) := by
  have nothing : ∀ entry, d.node? Settings.filePath ≠ .ok entry := by
    intro entry
    unfold Disk.node? Disk.checked
    rw [free]
    split <;> nofun
  have none_ : Settings.fileVariables environment d = .ok [] := by
    unfold Settings.fileVariables
    split
    · exact absurd ‹_› (nothing _)
    · rfl
  unfold Settings.load
  generalize Settings.fileVariables environment d = held at none_ ⊢
  subst none_
  rfl

/-- Where the settings would be, in a root directory without them. -/
theorem absent_settings {entries : List (String × Node)} (none_ : entry? Settings.filePath entries = none)
    (temporary : Location) :
    Disk.resolve ⟨.directory entries, [], temporary⟩ true Settings.filePath = .ok (.absent [] Settings.filePath) := by
  have way : steps Settings.filePath = [Settings.filePath] := by decide
  have named : IsName Settings.filePath := ⟨by decide, by decide, by decide⟩
  rw [Disk.resolve, if_neg (by decide), if_neg (by decide), way]
  exact follow_absent rfl named none_ rfl

theorem load_bare (environment : Settings.Environment) : Settings.load [] environment bareDisk =
    match Settings.ofEntries (Settings.gather [] environment []) with
    | .ok s => .ok s
    | .error misfits => .error (.misfits misfits) :=
  load_of_absent (absent_settings rfl []) environment

theorem loads_bare (environment : Settings.Environment) : Loads environment bareDisk := by
  intro failure loaded
  rw [load_bare] at loaded
  split at loaded
  · cases loaded
  · cases loaded
    exact ⟨_, rfl⟩

/-- The variables for sinks in memory. -/
def memoryEnvironment : Settings.Environment := [("GLOBSCAN_IN_MEMORY_SINKS", "true")]

/-- A command that analyzes three units with two workers, and prints the report. -/
def printTexts : List String := ["analyze", "c", "b", "a", "--workers", "2", "--output", "-"]

/-- What the command asks for. -/
def printAnalyze : Analyze := { paths := ["c", "b", "a"], workers := some 2, output := some "" }

/-- The settings that the command uses. -/
def printSettings : Settings := { inMemorySinks := true, workers := 2, outputPath := some "" }

theorem command_of_three_units_fails :
    Command.read printTexts = .ok (.analyze printAnalyze) ∧ Loads memoryEnvironment bareDisk ∧
      (runScheduled (fun _ => sampleMoves) printTexts sampleRequest.provider memoryEnvironment bareDisk).status =
        some (.ok statusFailed) ∧
      ∃ result : PipelineResult,
        (runScheduled (fun _ => sampleMoves) printTexts sampleRequest.provider memoryEnvironment bareDisk).output =
          render result.lines ∧
        (runScheduled (fun _ => sampleMoves) printTexts sampleRequest.provider memoryEnvironment bareDisk).errors =
          String.join (result.remarks.map remarkText) ∧
        ∀ shard, shard ∈ result.remarks.map (·.1) ↔ ∃ w ∈ result.workers, w.ok = false ∧ w.shard = shard := by
  have read : Command.read printTexts = .ok (.analyze printAnalyze) := rfl
  have loads := loads_bare memoryEnvironment
  have uses : printAnalyze.Uses memoryEnvironment bareDisk printSettings :=
    ⟨{ inMemorySinks := true }, by rw [load_bare]; rfl, rfl⟩
  have collected : printAnalyze.units bareDisk printSettings = .ok ["c", "b", "a"] := rfl
  have given := new_requestOf printSettings sampleRequest.provider ["c", "b", "a"]
  have accepted : (requestOf printSettings sampleRequest.provider ["c", "b", "a"]).check = .ok (["c", "b", "a"], 2) := rfl
  have launched : (requestOf printSettings sampleRequest.provider ["c", "b", "a"]).launch bareDisk = some sampleLaunch :=
    rfl
  obtain ⟨_, -, whole, ready⟩ := ready_launch given accepted launched
  obtain ⟨result, done⟩ := ready.done_of_ended (fun _ => sampleMoves) whole accepted launched rfl
    (by decide +kernel) (by decide +kernel)
  obtain ⟨m, _, again, -, -, -, lines, -⟩ := gathered_of_done given accepted done
  rw [launched] at again
  cases again
  have fewer : result.lines.length < 3 := by
    rw [lines, length_sortLines]
    decide +kernel
  have emits := emits_of_done uses collected done
  obtain ⟨-, truth⟩ := status_tells_truth read loads (fun _ => sampleMoves) sampleRequest.provider
  have same : runScheduled (fun _ => sampleMoves) printTexts sampleRequest.provider memoryEnvironment bareDisk =
      analyze (fun _ => sampleMoves) printAnalyze sampleRequest.provider memoryEnvironment bareDisk := by
    simp only [runScheduled, read]
  rw [same] at truth ⊢
  have nowhere : ∀ path, ¬ IsGiven printSettings.outputPath path := by
    rintro path ⟨empty, proper⟩
    cases empty
    exact proper rfl
  exact ⟨read, loads, (truth.status _).mpr (.failed emits fewer), result, emits.toOutput nowhere,
    truth.lacking _ _ _ emits fewer⟩

/-- A variable by which the sinks get names that lead out of their directory. -/
def strayEnvironment : Settings.Environment := [("GLOBSCAN_SHARD_PREFIX", "../report")]

/-- A command that analyzes a unit with one worker, for half a second at most. -/
def lateTexts : List String :=
  ["analyze", "a", "--workers", "1", "--output", "/report0.txt", "--join-timeout", "0.5"]

/-- What the command asks for. -/
def lateAnalyze : Analyze :=
  { paths := ["a"], workers := some 1, output := some "/report0.txt", joinTimeout := some 0.5 }

/-- The settings that the command uses. -/
def lateSettings : Settings :=
  { workers := 1, outputPath := some "/report0.txt", shardStem := "../report", joinTimeout := some 0.5 }

/-- The command ends because the time is over, but there is a file at the path of the report, where none was before. -/
theorem late_command_makes_report :
    Command.read lateTexts = .ok (.analyze lateAnalyze) ∧ Loads strayEnvironment bareDisk ∧
      (runScheduled (fun _ => []) lateTexts sampleRequest.provider strayEnvironment bareDisk).status =
        some (.ok statusLate) ∧
      bareDisk.root.get? ["report0.txt"] = none ∧
      (runScheduled (fun _ => []) lateTexts sampleRequest.provider strayEnvironment bareDisk).disk.root.get?
        ["report0.txt"] = some (.file []) := by
  have read : Command.read lateTexts = .ok (.analyze lateAnalyze) := rfl
  have uses : lateAnalyze.Uses strayEnvironment bareDisk lateSettings :=
    ⟨{ shardStem := "../report" }, by rw [load_bare]; rfl, rfl⟩
  have collected : lateAnalyze.units bareDisk lateSettings = .ok ["a"] := rfl
  have accepted : (requestOf lateSettings sampleRequest.provider ["a"]).check = .ok (["a"], 1) := rfl
  have launched : (requestOf lateSettings sampleRequest.provider ["a"]).launch bareDisk = some strayLaunch := by
    rw [← launch_stray]
    exact congrFun (Request.launch_congr accepted rfl rfl) bareDisk
  obtain ⟨failed, left⟩ := late_stray accepted launched rfl rfl
  simp only [runScheduled, read, analyze_of_collected uses collected, outcomeOf, failed]
  exact ⟨trivial, loads_bare _, trivial, rfl, left⟩

end GlobalSurvey.CommandLine
