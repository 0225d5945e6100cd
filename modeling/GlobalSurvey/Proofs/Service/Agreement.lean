import GlobalSurvey.Proofs.Batch.Likeness
import GlobalSurvey.Proofs.CommandLine.Reading
import GlobalSurvey.Proofs.CommandLine.Status
import GlobalSurvey.Proofs.Files.Parallel
import GlobalSurvey.Proofs.Service.History
import GlobalSurvey.Proofs.Text.Codec

/-!
# The service and the command line agree

A command line and a request that ask for the same are about the same units, but for the names of the files below a root:
the service takes the absolute form of the root (`twins_found`). If the command does not reveal a unit to itself, by making
the directory of its sinks, the units of the two batches fare alike (`alike_units`), and the lines of its report are those of
the response (`answer_agrees_with_command`). A unit whose path goes through that directory may be found by the command and
not by the service (`detour_divides`).
-/
namespace GlobalSurvey.Service
open GlobalSurvey.Batch GlobalSurvey.CommandLine GlobalSurvey.Files GlobalSurvey.Report

/-- A command line that asks for the same as a request. -/
def AnalyzeRequest.texts (a : AnalyzeRequest) : List String := analyzeTexts a.units a.root a.workers

/-- What the command line says. -/
def AnalyzeRequest.command (a : AnalyzeRequest) : CommandLine.Analyze :=
  { paths := a.units, root := a.root, workers := a.workers }

/-- The root of a request does not go up, and the paths of the files below it stay below the limit of the system, in the
form in which they are given and in their absolute form. -/
structure AnalyzeRequest.IsPlain (a : AnalyzeRequest) (s : Settings) (d : Disk) : Prop where
  noUp : ∀ root, a.root = some root → ".." ∉ components root
  short : ∀ root, a.root = some root → d.HasShortPaths root s.extensionList ∧
    d.HasShortPaths (absolutePath (pathOf d.working) root) s.extensionList

/-- No unit that cannot be read before a batch begins can be read once it has made its directory and its sinks. -/
def RevealsNothing (r : Request) (units : List String) (d : Disk) : Prop :=
  ∀ l, r.launch d = some l → ∀ unit ∈ units, ∀ bytes, l.disk.contents unit = .ok bytes → d.contents unit = .ok bytes

section
variable {a : AnalyzeRequest} {s : Settings} {environment : Settings.Environment} {d : Disk}
  {schedule : Pool → List Move}

/-! ## What the two sides come to -/

/-- A response of status 200 holds the result of a batch. -/
theorem done_of_answer {run : Run} {response : HttpResponse} (answered : (answerOf run).response = some (.ok response))
    (fine : response.status = 200) :
    ∃ result, run.completion = .done result ∧ response = resultResponse result := by
  unfold answerOf at answered
  cases completion : run.completion with
  | waiting => simp [completion] at answered
  | done result =>
    simp only [completion, Option.some.injEq, Except.ok.injEq] at answered
    exact ⟨result, rfl, answered.symm⟩
  | failed failure =>
    simp only [completion, Option.some.injEq] at answered
    cases failure <;> cases answered <;> cases fine

/-- A command that ends with a status for a report has given it out. -/
theorem emits_of_status {c : CommandLine.Analyze} {provider : Provider} (loaded : Settings.load [] environment d = .ok s)
    {status : Nat} (ended : (CommandLine.analyze schedule c provider environment d).status = some (.ok status))
    (reported : status = statusDone ∨ status = statusFailed) :
    ∃ units result, c.Emits schedule provider environment d (c.override s) units result
        (CommandLine.analyze schedule c provider environment d) ∧ (status = statusDone ↔ result.ok = true) := by
  have loads : Loads environment d := by
    intro failure failed
    rw [loaded] at failed
    cases failed
  have ends := ((truthful_analyze loads schedule c provider).status status).mp ended
  cases ends with
  | done emits full =>
    obtain rfl := emits.uses.unique ⟨s, loaded, rfl⟩
    obtain ⟨-, -, -, ok, -⟩ := emits.verdict
    exact ⟨_, _, emits, iff_of_true rfl (ok.mpr full)⟩
  | failed emits fewer =>
    obtain rfl := emits.uses.unique ⟨s, loaded, rfl⟩
    obtain ⟨-, -, -, ok, -⟩ := emits.verdict
    exact ⟨_, _, emits, iff_of_false (by decide) fun fine => Nat.ne_of_lt fewer (ok.mp fine)⟩
  | refused => rcases reported with impossible | impossible <;> cases impossible
  | late => rcases reported with impossible | impossible <;> cases impossible

/-- A command line that ends with a status for a report is read as it is meant. -/
theorem read_of_status (words : ∀ unit ∈ a.units, unit.toList.head? ≠ some '-') {provider : Provider} {status : Nat}
    (ended : (CommandLine.runScheduled schedule a.texts provider environment d).status = some (.ok status))
    (reported : status = statusDone ∨ status = statusFailed) : Command.read a.texts = .ok (.analyze a.command) := by
  cases read : Command.read a.texts with
  | error refusal =>
    simp only [CommandLine.runScheduled, read] at ended
    cases ended
    rcases reported with impossible | impossible <;> cases impossible
  | ok c => exact congrArg Except.ok (command_of_texts words read)

/-! ## The units -/

/-- The units of a command line that asks for the same as a request. -/
theorem units_command {units : List String} (collected : a.command.units d (a.command.override s) = .ok units) :
    ∃ found, a.command.found d (a.command.override s) = .ok found ∧ units = a.units ++ found := by
  have listed : a.command.listed d = .ok [] := rfl
  unfold CommandLine.Analyze.units at collected
  simp only [listed] at collected
  cases found : a.command.found d (a.command.override s) with
  | error failure =>
    rw [found] at collected
    cases collected
  | ok paths =>
    rw [found] at collected
    cases collected
    exact ⟨paths, rfl, by rw [List.append_nil]; rfl⟩

/-- The files that the command finds below its root, and those that the service finds, are twins. -/
theorem twins_found (proper : d.IsProper) (plain : a.IsPlain s d) {found others : List String}
    (command : a.command.found d (a.command.override s) = .ok found) (service : foundUnits a s d = .ok others) :
    List.Forall₂ d.Twins found others := by
  have root : a.command.root = a.root := rfl
  have extensions : (a.command.override s).extensionList = s.extensionList := rfl
  unfold CommandLine.Analyze.found at command
  unfold foundUnits at service
  simp only [root, extensions] at command service
  by_cases empty : (a.root.getD "").isEmpty = true
  · rw [if_pos empty] at command service
    cases command
    cases service
    exact .nil
  · rw [if_neg empty] at command service
    have given := (isGiven_of_nonempty empty).1
    obtain ⟨short, short'⟩ := plain.short _ given
    cases scanned : scan d (a.root.getD "") s.extensionList with
    | error fault =>
      rw [scanned] at command
      cases command
    | ok paths =>
      rw [scanned] at command
      cases command
      exact Disk.twins_scan s.extensionList proper (plain.noUp _ given) scanned service short short'

/-- The units of the two batches fare alike. -/
theorem alike_units {r : Request} {units others : List String} {workers : Nat} {l : Launch} (given : r.GivesNewSinks)
    (accepted : r.check = .ok (units, workers)) (launched : r.launch d = some l) (reveals : RevealsNothing r units d)
    (twins : List.Forall₂ d.Twins units others) (options : Globals.Options) :
    List.Forall₂ (Alike (sourceOutcome options l.disk) (sourceOutcome options d)) units others := by
  have inside := (List.forall₂_and_left units others).mpr ⟨fun unit (member : unit ∈ units) => member, twins⟩
  refine inside.imp ?_
  rintro unit other ⟨member, twin⟩
  refine alike_sourceOutcome options twin.name twin.null fun content => ?_
  rw [← twin.contents]
  exact ⟨reveals l launched unit member content, contents_launch given accepted launched⟩

/-! ## Agreement -/

/-- A command line and a request that ask for the same, with the same settings and files, agree however their workers take
turns: if the command ends with a status for a report, and the service answers with status 200, the lines of the response
are those of the report, and the response says that all is right exactly if the command ends with status 0. It is assumed
that no unit is revealed to the command by its making of the sinks. -/
theorem answer_agrees_with_command {other : Settings.Environment} {cache : Cache} {turns : Pool → List Move}
    {status : Nat} {response : HttpResponse} (words : ∀ unit ∈ a.units, unit.toList.head? ≠ some '-')
    (loaded : Settings.load [] environment d = .ok s) (kept : settings other d cache = .ok s) (proper : d.IsProper)
    (plain : a.IsPlain s d)
    (reveals : ∀ units, a.command.units d (a.command.override s) = .ok units →
      RevealsNothing (requestOf (a.command.override s) (.globalVariables {}) units) units d)
    (undisturbed : IsUndisturbed schedule) (undisturbed' : IsUndisturbed turns)
    (ended : (CommandLine.runScheduled schedule a.texts (.globalVariables {}) environment d).status = some (.ok status))
    (reported : status = statusDone ∨ status = statusFailed)
    (answered : (analyze turns a (.globalVariables {}) other cache d).2.response = some (.ok response))
    (fine : response.status = 200) :
    ∃ units result answer, a.command.Emits schedule (.globalVariables {}) environment d (a.command.override s) units result
        (CommandLine.runScheduled schedule a.texts (.globalVariables {}) environment d) ∧
      response = resultResponse answer ∧ answer.lines = result.lines ∧ (answer.ok = true ↔ status = statusDone) := by
  have read := read_of_status words ended reported
  simp only [CommandLine.runScheduled, read] at ended ⊢
  obtain ⟨units, result, emits, verdict⟩ := emits_of_status loaded ended reported
  obtain ⟨found, command, rfl⟩ := units_command emits.collected
  obtain ⟨workers, accepted⟩ := emits.accepted
  simp only [analyze, kept, analyzeWith] at answered
  cases service : foundUnits a s d with
  | error fault =>
    simp only [service, failureResponse, Option.some.injEq] at answered
    cases answered
    cases fine
  | ok others =>
    simp only [service] at answered
    obtain ⟨answer, done, rfl⟩ := done_of_answer answered fine
    have inMemory := inMemory_batchOf a s (.globalVariables {}) (a.units ++ others)
    obtain ⟨_, came⟩ := launch_of_done done
    obtain ⟨number, accepted'⟩ := Request.accepted_of_launch rfl came
    obtain rfl : workers = number :=
      (Request.workers_of_check rfl accepted).trans (Request.workers_of_check rfl accepted').symm
    obtain ⟨l, shards, launched, cut, all⟩ :=
      undivided_of_done (new_requestOf _ _ _) accepted (quiet_globalVariables {}) undisturbed emits.done
    obtain ⟨k, further, launched', cut', all'⟩ :=
      undivided_of_done inMemory.given accepted' (quiet_globalVariables {}) undisturbed' done
    obtain ⟨same, -⟩ := inMemory.launched accepted' launched'
    have twins : List.Forall₂ d.Twins (a.units ++ found) (a.units ++ others) :=
      List.rel_append (List.forall₂_same.mpr fun unit _ => .refl d unit) (twins_found proper plain command service)
    have alike := alike_units (new_requestOf _ _ _) accepted launched (reveals _ emits.collected) twins {}
    rw [← same] at alike
    obtain ⟨lines, ok⟩ := all.alike all' accepted accepted' cut cut' (fun _ => rfl) (fun _ => rfl) alike
    exact ⟨_, result, answer, emits, rfl, lines.symm, ok.symm.trans verdict.symm⟩

end

/-! ## A unit that the command reveals to itself -/

/-- A request with one worker. -/
def soleRequest (units : List String) (root : Option String) : AnalyzeRequest := ⟨units, root, some 1⟩

/-- The variables for sinks in a directory `s`, and a report on the standard output. -/
def belowEnvironment : Settings.Environment := [("GLOBSCAN_SHARD_DIR", "s"), ("GLOBSCAN_OUTPUT_PATH", "")]

/-- The settings of these variables. -/
def belowSettings : Settings := { shardDirectory := some "s", outputPath := some "" }

/-- A disk with an empty source, and nothing else. -/
def soleDisk : Disk := ⟨.directory [("m.py", .file [])], [], []⟩

/-- The disk with the directory for the sinks, the fresh one in it, and the file of the sink. -/
def furnishedDisk : Disk :=
  ⟨.directory [("m.py", .file []),
    ("s", .directory [("globscan-00000000", .directory [("threaded_output_0.txt", .file [])])])], [], []⟩

theorem load_sole : Settings.load [] belowEnvironment soleDisk = .ok belowSettings := by
  have free : soleDisk.resolve true Settings.filePath = .ok (.absent [] Settings.filePath) := absent_settings rfl []
  rw [load_of_absent free]
  rfl

/-! ### The launch -/

theorem vacancy_sole : soleDisk.Vacancy "s" ["s"] := by
  refine ⟨by decide, by decide, [], "s", rfl, ?_⟩
  have way : steps "s" = ["s"] := by decide
  have named : IsName "s" := ⟨by decide, by decide, by decide⟩
  rw [Disk.resolve, if_neg (by decide), if_neg (by decide), way]
  exact follow_absent rfl named rfl rfl

theorem vacancy_fresh : (soleDisk.put ["s"] (.directory [])).Vacancy (joinPath "s" "globscan-00000000")
    ["s", "globscan-00000000"] := by
  have plain : IsEntryName "globscan-00000000" := ⟨by decide, by decide, by decide⟩
  exact vacancy_sole.below plain rfl (by decide) (by decide)

theorem openDirectory_sole {r : Request} (filed : r.inMemorySinks = false) (below : r.shardDirectory = some "s") :
    r.openDirectory soleDisk =
      ((soleDisk.put ["s"] (.directory [])).put ["s", "globscan-00000000"] (.directory []),
        .ok (some (joinPath "s" "globscan-00000000"))) := by
  have made : soleDisk.makePath "s" = (soleDisk.put ["s"] (.directory []), none) := by
    have parts : splitPath "s" = ("", "s") := by decide
    have depth : "s".length = 1 := by decide
    have own := vacancy_sole.makeDirectory (by decide)
    simp only [Disk.makePath, depth, Disk.makeDirectories, parts, Disk.ensureDirectory, own]
    rfl
  have nonempty : "s".isEmpty = false := by decide
  have path : joinPath "s" ("globscan-" ++ Disk.freshName 0) = joinPath "s" "globscan-00000000" := by decide
  have fresh (tries : Nat) : (soleDisk.put ["s"] (.directory [])).makeFresh "s" "globscan-" tries 0 =
      .ok ((soleDisk.put ["s"] (.directory [])).put ["s", "globscan-00000000"] (.directory []),
        joinPath "s" "globscan-00000000") := by
    have there := vacancy_fresh
    rw [← path] at there ⊢
    exact there.makeFresh (by decide) tries
  simp only [Request.openDirectory, filed, below, Option.getD_some, nonempty, Bool.false_eq_true, if_false, made,
    Disk.makeFreshDirectory, Request.directoryStem, fresh]

theorem launch_sole {r : Request} {unit : String} (accepted : r.check = .ok ([unit], 1)) (filed : r.inMemorySinks = false)
    (below : r.shardDirectory = some "s") (stem : r.shardStem = "threaded_output_")
    (new : ∀ shard, r.givenSink shard = none) :
    ∃ l, r.launch soleDisk = some l ∧ l.disk = furnishedDisk := by
  have cut : partition [unit] (1 : Nat) = .ok [⟨0, [unit]⟩] := rfl
  have own : sinkName r.shardStem (⟨0, [unit]⟩ : Shard).index = "threaded_output_0.txt" := by
    have first : sinkName "threaded_output_" 0 = "threaded_output_0.txt" := by decide
    rw [stem]
    exact first
  have plain : IsEntryName "threaded_output_0.txt" := ⟨by decide, by decide, by decide⟩
  have free : entry? "threaded_output_0.txt" [] = none := rfl
  have sink := Request.newSink_entry (r := r) vacancy_fresh own (new ⟨0, [unit]⟩) plain free (by decide)
    (by decide)
  simp only [Request.launch, accepted, cut, openDirectory_sole filed below, Request.newSinks, sink]
  exact ⟨_, rfl, rfl⟩

/-! ### The source -/

/-- A text without anything in it has no global variables. -/
theorem names_of_empty : Globals.extractFromText {} [] = .ok [] := by
  have parsed : ((Source.parseModule []).toOption.map (·.body.length)) = some 0 := by decide
  unfold Globals.extractFromText
  cases known : Source.parseModule [] with
  | error fault => simp [known, Except.toOption] at parsed
  | ok m =>
    obtain ⟨body⟩ := m
    obtain rfl : body = [] := by simpa [known, Except.toOption] using parsed
    have nodes : Globals.walk ⟨[]⟩ = [.module []] := by simp [Globals.walk, Globals.breadthFirst, Source.Node.children]
    have mentions : Globals.mentions {} ⟨[]⟩ = [] := by
      simp [Globals.mentions, Globals.blockBindings, Globals.globalNames, nodes, Globals.declaredGlobal]
    simp only [bind, Except.bind, Globals.extract, mentions, Globals.listed]

theorem outcome_of_empty {e : Disk} {unit : String} (held : e.contents unit = .ok []) :
    sourceOutcome {} e unit = .facts [] := by
  have decoded : Text.Codec.decode .utf8 [] = .ok [] :=
    Text.Codec.decode_of_encode? rfl
  have known : Text.Codec.ofName? ({} : Globals.Options).encoding = some .utf8 := by decide
  have read : Globals.readText {} e unit = .ok [] := by
    simp only [Globals.readText, held, known, decoded]
    rfl
  simp only [sourceOutcome, Globals.analyze, read, names_of_empty]
  rfl

/-- The source by its path below the root that is given, here the working directory. -/
theorem contents_sole : soleDisk.contents "./m.py" = .ok [] := by
  have way : steps "./m.py" = [".", "m.py"] := by decide
  have name : IsName "m.py" := ⟨by decide, by decide, by decide⟩
  have resolved : soleDisk.resolve true "./m.py" = .ok (.present ["m.py"]) := by
    rw [Disk.resolve, if_neg (by decide), if_neg (by decide), way]
    exact (follow_stay rfl).trans ((follow_node rfl name rfl (by rintro _ ⟨⟩)).trans follow_nil)
  exact Disk.contents_of_leads ⟨by decide, resolved⟩ rfl

theorem node_sole {root : String} (known : root = "." ∨ root = "/") :
    soleDisk.node? root = .ok (.directory [("m.py", .file [])]) := by
  have resolved : soleDisk.resolve true root = .ok (.present []) := by
    have way : steps root = ["."] := by rcases known with rfl | rfl <;> decide
    rcases known with rfl | rfl
    all_goals
      rw [Disk.resolve, if_neg (by decide), if_neg (by decide), way]
      exact (follow_stay rfl).trans follow_nil
  have leads : soleDisk.Leads root [] := ⟨by rcases known with rfl | rfl <;> decide, resolved⟩
  exact Disk.node?_of_leads leads rfl

/-- The one source is found below the working directory, and below its absolute form. -/
theorem scan_sole {root : String} (known : root = "." ∨ root = "/") :
    scan soleDisk root belowSettings.extensionList = .ok [joinPath root "m.py"] := by
  have wanted : belowSettings.extensionList = [".py"] := by decide
  have fits : hasExtension "m.py" [".py"] = true := by decide
  simp only [scan, node_sole known, wanted, filesIn, filesOf, fits, if_true, List.append_nil]
  simp [Text.sortTexts]

theorem short_sole {root : String} (known : root = "." ∨ root = "/") :
    soleDisk.HasShortPaths root belowSettings.extensionList where
  directories entries found := by
    rw [node_sole known] at found
    cases found
    intro way inside enters
    -- there is no other directory
    have top : way = [] ∧ inside = [("m.py", .file [])] := by
      induction enters with
      | top => exact ⟨rfl, rfl⟩
      | into _ member _ ih =>
        obtain ⟨-, rfl⟩ := ih
        simp at member
    obtain ⟨rfl, -⟩ := top
    rcases known with rfl | rfl <;> decide
  files paths scanned := by
    rw [scan_sole known] at scanned
    cases scanned
    refine List.forall_mem_singleton.mpr ?_
    rcases known with rfl | rfl <;> decide

theorem steps_detour : steps "s/../m.py" = ["s", "..", "m.py"] := by decide

theorem contents_furnished : furnishedDisk.contents "s/../m.py" = .ok [] := by
  have first : IsName "s" := ⟨by decide, by decide, by decide⟩
  have last : IsName "m.py" := ⟨by decide, by decide, by decide⟩
  have resolved : furnishedDisk.resolve true "s/../m.py" = .ok (.present ["m.py"]) := by
    rw [Disk.resolve, if_neg (by decide), if_neg (by decide), steps_detour]
    refine (follow_node rfl first rfl (by rintro _ ⟨⟩)).trans ((follow_up rfl).trans ?_)
    exact (follow_node rfl last rfl (by rintro _ ⟨⟩)).trans follow_nil
  exact Disk.contents_of_leads ⟨by decide, resolved⟩ rfl

theorem contents_detour : soleDisk.contents "s/../m.py" = .error (.refused .notFound "s/../m.py") := by
  have name : IsName "s" := ⟨by decide, by decide, by decide⟩
  have lost : soleDisk.resolve true "s/../m.py" = .error .notFound := by
    rw [Disk.resolve, if_neg (by decide), if_neg (by decide), steps_detour]
    exact follow_lost rfl name rfl (by decide)
  have clear : "s/../m.py".toList.contains '\x00' = false := by decide
  simp only [Disk.contents, Disk.node?, Disk.checked, clear, lost]
  rfl

/-! ### The two sides -/

/-- A batch of one source is all right exactly if the source, as its workers find it, gets a line. -/
theorem ok_sole {r : Request} {e : Disk} {unit : String} {l : Launch} {result : PipelineResult} (given : r.GivesNewSinks)
    (closable : ∀ shard, r.sinkFault shard = none) (sources : r.provider = .globalVariables {})
    (accepted : r.check = .ok ([unit], 1)) (launched : r.launch e = some l)
    (done : (Batch.run r e).completion = .done result) :
    result.ok = true ↔ ((sourceOutcome {} l.disk unit).line? unit).isSome = true := by
  have quiet : ∀ d, IsQuiet fun _ => r.provider.analyze d := sources ▸ quiet_globalVariables {}
  obtain ⟨_, shards, again, -, all⟩ := undivided_of_done given accepted quiet undisturbed_oneByOne done
  rw [launched] at again
  cases again
  rw [all.ok_iff accepted closable, IsFull, List.forall_mem_singleton, sources]
  rfl

theorem line_of_empty {e : Disk} {unit : String} (name : displayName unit = "m.py") (held : e.contents unit = .ok []) :
    ((sourceOutcome {} e unit).line? unit).isSome = true := by
  have text : (Record.make unit []).render = "m.py" := by
    simp only [Record.make, Record.render, name, sortFacts, List.mergeSort_nil]
    rfl
  have single : isSingleLine "m.py" = true := by decide
  rw [outcome_of_empty held, Outcome.line?, text, if_pos single]
  rfl

section
variable {units : List String} {root : Option String} {unit : String}

/-- The source below the working directory, and by a path through the directory for the sinks. -/
theorem read_sole (known : units = [] ∧ root = some "." ∨ units = ["s/../m.py"] ∧ root = none) :
    (∀ own ∈ (soleRequest units root).units, own.toList.head? ≠ some '-') ∧
      Command.read (soleRequest units root).texts = .ok (.analyze (soleRequest units root).command) := by
  have words : ∀ own ∈ (soleRequest units root).units, own.toList.head? ≠ some '-' := by
    rcases known with ⟨rfl, rfl⟩ | ⟨rfl, rfl⟩
    · exact List.forall_mem_nil _
    · exact List.forall_mem_singleton.mpr (by decide)
  have accepted : (Command.read (soleRequest units root).texts).toOption.isSome = true := by
    rcases known with ⟨rfl, rfl⟩ | ⟨rfl, rfl⟩ <;> decide +kernel
  cases read : Command.read (soleRequest units root).texts with
  | error refusal => simp [read, Except.toOption] at accepted
  | ok c => exact ⟨words, congrArg Except.ok (command_of_texts words read)⟩

/-- The batch of the command. -/
def soleBatch (units : List String) (root : Option String) (unit : String) : Request :=
  requestOf ((soleRequest units root).command.override belowSettings) (.globalVariables {}) [unit]

theorem accepted_sole (units : List String) (root : Option String) (named : isIdentifier unit = true) :
    (soleBatch units root unit).check = .ok ([unit], 1) := by
  have checked : validateUnits (.list [.str unit]) = .ok [unit] := by
    simp [validateUnits, Value.iterate, checkUnits, named]
  have own : (soleBatch units root unit).units = .list [.str unit] := rfl
  simp only [Request.check, own, checked]
  rfl

theorem command_sole
    (read : Command.read (soleRequest units root).texts = .ok (.analyze (soleRequest units root).command))
    (collected : (soleRequest units root).command.units soleDisk ((soleRequest units root).command.override belowSettings) =
      .ok [unit])
    (named : isIdentifier unit = true) (name : displayName unit = "m.py") (held : furnishedDisk.contents unit = .ok []) :
    (CommandLine.run (soleRequest units root).texts (.globalVariables {}) belowEnvironment soleDisk).status =
      some (.ok statusDone) := by
  have accepted := accepted_sole units root named
  have given : (soleBatch units root unit).GivesNewSinks := new_requestOf _ _ _
  obtain ⟨l, launched, disk⟩ := launch_sole accepted rfl rfl rfl fun _ => rfl
  obtain ⟨result, done⟩ := done_of_launch given (fun _ => rfl) calm_default (prompt_globalVariables {}) rfl rfl accepted
    launched
  have ok : result.ok = true := by
    rw [ok_sole given (fun _ => rfl) rfl accepted launched done, disk]
    exact line_of_empty name held
  have uses : (soleRequest units root).command.Uses belowEnvironment soleDisk
      ((soleRequest units root).command.override belowSettings) := ⟨belowSettings, load_sole, rfl⟩
  have emits := emits_of_done uses collected done
  obtain ⟨-, -, -, full, -⟩ := emits.verdict
  simp only [CommandLine.run, CommandLine.runScheduled, read]
  exact emits.status.trans (by rw [if_pos (full.mp ok)])

theorem service_sole {others : List String} (found : foundUnits (soleRequest units root) belowSettings soleDisk = .ok others)
    (together : units ++ others = [unit]) (named : isIdentifier unit = true) :
    ∃ answer, (analyze Pool.oneByOne (soleRequest units root) (.globalVariables {}) belowEnvironment none
        soleDisk).2.response = some (.ok (resultResponse answer)) ∧
      (answer.ok = true ↔ ((sourceOutcome {} soleDisk unit).line? unit).isSome = true) := by
  have own : (soleRequest units root).units = units := rfl
  have batch : (analyze Pool.oneByOne (soleRequest units root) (.globalVariables {}) belowEnvironment none soleDisk).2 =
      answerOf (Batch.run (batchOf (soleRequest units root) belowSettings (.globalVariables {}) [unit]) soleDisk) := by
    simp only [analyze, settings, load_sole, analyzeWith, found, own, together]
    rfl
  have accepted : (batchOf (soleRequest units root) belowSettings (.globalVariables {}) [unit]).check = .ok ([unit], 1) :=
    accepted_sole units root named
  have inMemory := inMemory_batchOf (soleRequest units root) belowSettings (.globalVariables {}) [unit]
  rcases answerOf_batch calm_default rfl accepted Pool.oneByOne soleDisk with ⟨waits, -⟩ | ⟨answer, done, same⟩
  · exact absurd waits (ends_run inMemory.given rfl (prompt_globalVariables {}) accepted)
  · obtain ⟨l, launched⟩ := launch_of_done done
    have ok := ok_sole inMemory.given (fun _ => rfl) rfl accepted launched done
    rw [(inMemory.launched accepted launched).1] at ok
    rw [batch, Batch.run, same]
    exact ⟨answer, rfl, ok⟩

end

theorem proper_sole : soleDisk.IsProper := by
  have name : IsFileName "m.py" := ⟨⟨by decide, by decide, by decide⟩, by decide⟩
  exact ⟨⟨name, trivial, trivial⟩, _, rfl⟩

theorem absolute_sole : absolutePath (pathOf soleDisk.working) "." = "/" := by decide

theorem plain_sole : (soleRequest [] (some ".")).IsPlain belowSettings soleDisk where
  noUp := by
    rintro _ ⟨⟩
    decide
  short := by
    rintro _ ⟨⟩
    rw [absolute_sole]
    exact ⟨short_sole (.inl rfl), short_sole (.inr rfl)⟩

/-- Without a root there is nothing to ask of it. -/
theorem plain_detour : (soleRequest ["s/../m.py"] none).IsPlain belowSettings soleDisk where
  noUp := by rintro _ ⟨⟩
  short := by rintro _ ⟨⟩

/-- The command finds the source below the root that is given. -/
theorem collected_sole : (soleRequest [] (some ".")).command.units soleDisk
    ((soleRequest [] (some ".")).command.override belowSettings) = .ok ["./m.py"] := by
  have path : joinPath "." "m.py" = "./m.py" := by decide
  have given : (soleRequest [] (some ".")).command.root.getD "" = "." := rfl
  have nonempty : ".".isEmpty = false := by decide
  have wanted : ((soleRequest [] (some ".")).command.override belowSettings).extensionList =
    belowSettings.extensionList := rfl
  have scanned := path ▸ scan_sole (.inl rfl)
  have found : (soleRequest [] (some ".")).command.found soleDisk
      ((soleRequest [] (some ".")).command.override belowSettings) = .ok ["./m.py"] := by
    simp only [CommandLine.Analyze.found, given, nonempty, wanted, scanned, Bool.false_eq_true, if_false]
  simp only [CommandLine.Analyze.units, found]
  rfl

/-- The service finds it below the absolute form of the root. -/
theorem found_sole : foundUnits (soleRequest [] (some ".")) belowSettings soleDisk = .ok ["/m.py"] := by
  have path : joinPath "/" "m.py" = "/m.py" := by decide
  have given : (soleRequest [] (some ".")).root.getD "" = "." := rfl
  have nonempty : ".".isEmpty = false := by decide
  have scanned := path ▸ scan_sole (.inr rfl)
  simp only [foundUnits, given, nonempty, absolute_sole, scanned, Bool.false_eq_true, if_false]

theorem reveals_sole : RevealsNothing (soleBatch [] (some ".") "./m.py") ["./m.py"] soleDisk := by
  intro l launched unit member bytes there
  have accepted : (soleBatch [] (some ".") "./m.py").check = .ok (["./m.py"], 1) := accepted_sole _ _ (by decide)
  obtain rfl := List.mem_singleton.mp member
  rw [contents_launch (new_requestOf _ _ _) accepted launched contents_sole] at there
  cases there
  exact contents_sole

/-- A source below the working directory: the command and the service agree. -/
theorem plain_path_agrees :
    (CommandLine.run (soleRequest [] (some ".")).texts (.globalVariables {}) belowEnvironment soleDisk).status =
        some (.ok statusDone) ∧
      ∃ units result answer, (soleRequest [] (some ".")).command.Emits Pool.oneByOne (.globalVariables {})
          belowEnvironment soleDisk ((soleRequest [] (some ".")).command.override belowSettings) units result
          (CommandLine.run (soleRequest [] (some ".")).texts (.globalVariables {}) belowEnvironment soleDisk) ∧
        (analyze Pool.oneByOne (soleRequest [] (some ".")) (.globalVariables {}) belowEnvironment none
            soleDisk).2.response = some (.ok (resultResponse answer)) ∧
        answer.lines = result.lines ∧ answer.ok = true := by
  obtain ⟨words, read⟩ := read_sole (.inl ⟨rfl, rfl⟩)
  have accepted : (soleBatch [] (some ".") "./m.py").check = .ok (["./m.py"], 1) := accepted_sole _ _ (by decide)
  obtain ⟨l, launched, disk⟩ := launch_sole accepted rfl rfl rfl fun _ => rfl
  have held : furnishedDisk.contents "./m.py" = .ok [] :=
    disk ▸ contents_launch (new_requestOf _ _ _) accepted launched contents_sole
  have kept : settings belowEnvironment soleDisk none = .ok belowSettings := load_sole
  have reveals : ∀ units, (soleRequest [] (some ".")).command.units soleDisk
      ((soleRequest [] (some ".")).command.override belowSettings) = .ok units →
        RevealsNothing (requestOf ((soleRequest [] (some ".")).command.override belowSettings) (.globalVariables {}) units)
          units soleDisk := by
    intro units same
    rw [collected_sole] at same
    cases same
    exact reveals_sole
  have ended := command_sole read collected_sole (by decide) (by decide) held
  obtain ⟨response, answered, -⟩ := service_sole found_sole (List.nil_append _) (by decide)
  obtain ⟨units, result, answer, emits, same, lines, ok⟩ :=
    answer_agrees_with_command words load_sole kept proper_sole plain_sole reveals undisturbed_oneByOne
      undisturbed_oneByOne ended (.inl rfl) answered rfl
  exact ⟨ended, units, result, answer, emits, same ▸ answered, lines, ok.mpr rfl⟩

/-- A source by a path through the directory that the command makes for its sinks: the command finds the source, the
service does not. -/
theorem detour_divides :
    (∀ unit ∈ (soleRequest ["s/../m.py"] none).units, unit.toList.head? ≠ some '-') ∧
      Settings.load [] belowEnvironment soleDisk = .ok belowSettings ∧ belowSettings.joinTimeout = none ∧
      '/' ∉ belowSettings.shardStem.toList ∧ soleDisk.IsProper ∧
      (soleRequest ["s/../m.py"] none).IsPlain belowSettings soleDisk ∧
      (CommandLine.run (soleRequest ["s/../m.py"] none).texts (.globalVariables {}) belowEnvironment soleDisk).status =
        some (.ok statusDone) ∧
      ∃ answer, (analyze Pool.oneByOne (soleRequest ["s/../m.py"] none) (.globalVariables {}) belowEnvironment none
          soleDisk).2.response = some (.ok (resultResponse answer)) ∧ answer.ok = false := by
  obtain ⟨words, read⟩ := read_sole (.inr ⟨rfl, rfl⟩)
  have ended := command_sole read rfl (by decide) (by decide) contents_furnished
  have found : foundUnits (soleRequest ["s/../m.py"] none) belowSettings soleDisk = .ok [] := rfl
  obtain ⟨answer, answered, ok⟩ := service_sole found (List.append_nil _) (by decide)
  have lost : (sourceOutcome {} soleDisk "s/../m.py").line? "s/../m.py" = none := by
    simp only [sourceOutcome, Globals.analyze, Globals.readText, contents_detour]
    rfl
  rw [lost] at ok
  exact ⟨words, load_sole, rfl, by decide, proper_sole, plain_detour, ended, answer, answered,
    Bool.eq_false_iff.mpr fun fine => by cases ok.mp fine⟩

end GlobalSurvey.Service
