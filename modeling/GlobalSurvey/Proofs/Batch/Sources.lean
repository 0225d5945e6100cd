import GlobalSurvey.Proofs.Batch.Gathering
import GlobalSurvey.Proofs.Files.Names
import GlobalSurvey.Proofs.Globals.Analyzer

/-!
# Sources that end the work on a shard

A source that can be used costs no more than its own unit, whatever is wrong with it. The first source of a shard that
cannot be used at all ends the work: the units after it get neither lines nor failures (`ends_at_first_unusable`).
-/
namespace GlobalSurvey.Batch
open GlobalSurvey.Files GlobalSurvey.Globals GlobalSurvey.Report GlobalSurvey.Text

/-- The units before the first one with a fatal outcome, in a list that is parted there. -/
theorem soundUnits_of_first {outcome : String → Outcome} {before rest : List String} {unit : String}
    (harmless : ∀ other ∈ before, (outcome other).isFatal = false) (fatal : (outcome unit).isFatal = true) :
    soundUnits outcome (before ++ unit :: rest) = before := by
  rw [soundUnits, List.takeWhile_append_of_pos fun other member => by simp [harmless other member]]
  simp [fatal]

section
variable {options : Options} {codec : Codec} {d : Disk} {unit : String}

/-- How the analysis of a source ends. -/
def sourceOutcome (options : Options) (d : Disk) (unit : String) : Outcome := .ofTexts (Globals.analyze options d unit)

/-- An outcome is fatal if and only if the source cannot be used. -/
theorem isFatal_iff_of_ends {result : Except Failure (List String)} (ends : Ends codec d unit result) :
    (Outcome.ofTexts result).isFatal = true ↔ IsUnusable codec d unit := by
  cases ends with
  | done names usable => exact iff_of_false Bool.false_ne_true usable
  | refused reason usable => exact iff_of_false Bool.false_ne_true usable
  | path null => exact iff_of_true rfl (.path null)
  | unmarked bytes there lacks => exact iff_of_true rfl (.unmarked bytes there lacks)

theorem isFatal_sourceOutcome_iff (known : Codec.ofName? options.encoding = some codec) :
    (sourceOutcome options d unit).isFatal = true ↔ IsUnusable codec d unit := isFatal_iff_of_ends (ends_analyze known)

theorem harmless_sourceOutcome (known : Codec.ofName? options.encoding = some codec)
    (usable : ¬ IsUnusable codec d unit) : (sourceOutcome options d unit).isFatal = false :=
  Bool.eq_false_iff.mpr fun fatal => usable ((isFatal_sourceOutcome_iff known).mp fatal)

/-- The analysis of sources cancels nothing. -/
theorem quiet_globalVariables (options : Options) (d : Disk) :
    IsQuiet fun _ => (Provider.globalVariables options).analyze d := fun _ _ => rfl

/-- A worker that goes through sources, on its own. -/
def Worker.survey (options : Options) (d : Disk) (w : Worker) : Worker :=
  (w.run (fun _ => (Provider.globalVariables options).analyze d) false).1

/-- In one of the encodings of `Codec`, the analysis of a source ends in names or in a refusal of its own unit exactly if
the source can be used. A worker ends its work before the end of the shard exactly if a source cannot be used; then it has
lines and failures for the units before the first such source only. -/
theorem ends_at_first_unusable (known : Codec.ofName? options.encoding = some codec) {w : Worker} (new : w.IsNew)
    (different : w.shard.units.Nodup) :
    (∀ unit, ((∃ names, Globals.analyze options d unit = .ok names) ∨
        ∃ reason, Globals.analyze options d unit = .error (.rejected unit reason)) ↔ ¬ IsUnusable codec d unit) ∧
      ((w.survey options d).stopped = none ↔ ∀ unit ∈ w.shard.units, ¬ IsUnusable codec d unit) ∧
      ∀ before unit rest, w.shard.units = before ++ unit :: rest →
        (∀ other ∈ before, ¬ IsUnusable codec d other) → IsUnusable codec d unit →
          (w.survey options d).sink.lines = linesOf (sourceOutcome options d) before ∧
            (w.survey options d).failures =
              (complaintsOf (sourceOutcome options d) before).map (Ledger.failureOf w.shard.index) := by
  have complete : Worker.Complete (sourceOutcome options d) w (w.survey options d) :=
    Worker.complete_run new different (quiet_globalVariables options d)
  refine ⟨fun unit => analyze_own_iff known, ?_, ?_⟩
  · rw [complete.stopped]
    refine forall₂_congr fun unit _ => ?_
    rw [← isFatal_sourceOutcome_iff known, Bool.not_eq_true]
  · intro before unit rest parted usable unusable
    have harmless : ∀ other ∈ before, (sourceOutcome options d other).isFatal = false := fun other member =>
      harmless_sourceOutcome known (usable other member)
    have fatal := (isFatal_sourceOutcome_iff known).mpr unusable
    have whole : soundUnits (sourceOutcome options d) w.shard.units = soundUnits (sourceOutcome options d) before := by
      rw [parted, soundUnits_of_first harmless fatal, soundUnits_eq_self harmless]
    rw [complete.lines, complete.failures, linesOf, complaintsOf, whole]
    exact ⟨rfl, rfl⟩

end

/-! ## Shards that are left -/

/-- A text in UTF-16 without a byte order mark. -/
def markless : List UInt8 := [0x78, 0, 0x3D, 0, 0x31, 0, 0x0A, 0]

/-- A disk with one file in UTF-16. -/
def marklessDisk : Disk := ⟨.directory [("m.py", .file markless)], [], []⟩

/-- The options for files in UTF-16. -/
def marklessOptions : Options := { encoding := "utf-16" }

/-- A worker for a directory, the file, and a file that is not there. -/
def marklessWorker : Worker := { shard := ⟨0, [".", "m.py", "n.py"]⟩, sink := .inMemory "s0" }

theorem contents_marklessDisk : marklessDisk.contents "m.py" = .ok markless :=
  Disk.contents_of_entry ⟨by decide, by decide, by decide⟩ (by decide) (by decide) rfl rfl

theorem contents_directory : marklessDisk.contents "." = .error (.refused .isDirectory ".") := by
  have steps : steps "." = ["."] := by decide
  have resolved : marklessDisk.resolve true "." = .ok (.present []) := by
    rw [Disk.resolve, if_neg (by decide), if_neg (by decide), if_neg (by decide), steps]
    exact (follow_stay rfl).trans follow_nil
  have node : marklessDisk.node? "." = .ok marklessDisk.root := by
    refine Disk.checked_eq_ok.mpr ⟨by decide, ?_⟩
    rw [resolved]
    rfl
  rw [Disk.contents, node]
  rfl

theorem shard_ends_at_unmarked :
    Codec.ofName? marklessOptions.encoding = some .utf16 ∧ marklessWorker.IsNew ∧ marklessWorker.shard.units.Nodup ∧
      (marklessWorker.survey marklessOptions marklessDisk).stopped ≠ none ∧
      (marklessWorker.survey marklessOptions marklessDisk).sink.lines = [] ∧
      (marklessWorker.survey marklessOptions marklessDisk).failures =
        [⟨".", 0, "cannot read source: [Errno 21] Is a directory: '.'"⟩] := by
  have known : Codec.ofName? marklessOptions.encoding = some .utf16 := by decide +kernel
  have new : marklessWorker.IsNew := ⟨rfl, ⟨rfl, rfl, rfl⟩⟩
  have different : marklessWorker.shard.units.Nodup := by decide
  have lacks : Codec.LacksMark .utf16 markless := Codec.decode_eq_unmarked_iff.mp (by decide +kernel)
  have unusable : IsUnusable .utf16 marklessDisk "m.py" := .unmarked markless contents_marklessDisk lacks
  have usable : ∀ other ∈ ["."], ¬ IsUnusable .utf16 marklessDisk other := by
    intro other member
    obtain rfl := List.mem_singleton.mp member
    exact usable_of_refused contents_directory
  have outcome : sourceOutcome marklessOptions marklessDisk "." =
      .rejected "cannot read source: [Errno 21] Is a directory: '.'" := by
    simp only [sourceOutcome, Globals.analyze, readText, contents_directory, Outcome.ofTexts]
    rfl
  obtain ⟨-, stopped, ends⟩ := ends_at_first_unusable (d := marklessDisk) known new different
  obtain ⟨lines, failures⟩ := ends ["."] "m.py" ["n.py"] rfl usable unusable
  refine ⟨known, new, different, fun goesOn => stopped.mp goesOn "m.py" (by decide) unusable, ?_, ?_⟩
  · rw [lines]
    simp [linesOf, soundUnits, outcome, Outcome.isFatal, Outcome.line?]
  · rw [failures]
    simp [complaintsOf, soundUnits, outcome, Outcome.isFatal, Outcome.complaint?, Ledger.failureOf, marklessWorker]

/-- A worker for a path that holds the character NUL, and another source. -/
def nullWorker : Worker := { shard := ⟨0, ["a\x00b", "m.py"]⟩, sink := .inMemory "s0" }

/-- A path with the character NUL is accepted as a unit, but is no matter of its own unit: the work on its shard ends. -/
theorem shard_ends_at_null :
    validateUnits (.list [.str "a\x00b", .str "m.py"]) = .ok nullWorker.shard.units ∧
      Codec.ofName? ({} : Options).encoding = some .utf8 ∧
      Globals.analyze {} marklessDisk "a\x00b" = .error (.file .nullCharacter) ∧
      (nullWorker.survey {} marklessDisk).result.fatalError = some "ValueError: embedded null byte" ∧
      (nullWorker.survey {} marklessDisk).called = ["a\x00b"] ∧
      (nullWorker.survey {} marklessDisk).sink.lines = [] ∧ (nullWorker.survey {} marklessDisk).failures = [] := by
  have first : isIdentifier "a\x00b" = true := by decide +kernel
  have second : isIdentifier "m.py" = true := by decide +kernel
  have accepted : validateUnits (.list [.str "a\x00b", .str "m.py"]) = .ok nullWorker.shard.units := by
    simp [validateUnits, Value.iterate, checkUnits, first, second, nullWorker]
  exact ⟨accepted, by decide +kernel, rfl, by decide +kernel, by decide +kernel, by decide +kernel, by decide +kernel⟩

end GlobalSurvey.Batch
