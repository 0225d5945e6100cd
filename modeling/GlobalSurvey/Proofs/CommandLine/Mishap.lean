import GlobalSurvey.Proofs.Batch.Breaking
import GlobalSurvey.Proofs.Batch.Keeping
import GlobalSurvey.Proofs.Batch.Sources
import GlobalSurvey.Proofs.CommandLine.Status

/-!
# Commands that end without a status

A command that analyzes sources, without a limit to the time, comes to its end once its workers have come up often enough.
Where all names are texts, it ends with a status unless an operation on files fails that is expected to succeed
(`Analyze.Mishap`): then it ends by this failure (`ends_unless_mishap`).
-/
namespace GlobalSurvey.Batch
open GlobalSurvey.Files GlobalSurvey.Text

/-! ## Sources are analyzed at once -/

theorem prompt_globalVariables (options : Globals.Options) (d : Disk) :
    IsPrompt fun _ => (Provider.globalVariables options).analyze d := fun _ _ => rfl

/-- The analysis of a source in a known encoding fails by nothing that escapes. -/
theorem calm_globalVariables {options : Globals.Options} {codec : Codec}
    (known : Codec.ofName? options.encoding = some codec) (d : Disk) :
    IsCalm fun _ => (Provider.globalVariables options).analyze d := by
  intro call unit failure failed
  have ends : Globals.Ends codec d unit (Globals.analyze options d unit) := Globals.ends_analyze known
  change Outcome.ofTexts (Globals.analyze options d unit) = _ at failed
  generalize Globals.analyze options d unit = result at ends failed
  cases ends with
  | done names usable => cases failed
  | refused reason usable => cases failed
  | path null =>
    cases failed
    rfl
  | unmarked bytes there lacks =>
    cases failed
    rfl

/-- So it is with the options of the program. -/
theorem calm_default (d : Disk) : IsCalm fun _ => (Provider.globalVariables {}).analyze d := by
  have known : Codec.ofName? ({} : Globals.Options).encoding = some .utf8 := by decide
  exact calm_globalVariables known d

end GlobalSurvey.Batch

namespace GlobalSurvey.CommandLine
open GlobalSurvey.Batch GlobalSurvey.Files GlobalSurvey.Report

section
variable {a : Analyze} {provider : Provider} {environment : Settings.Environment} {d : Disk} {s : Settings}
  {units : List String} {schedule : Pool → List Move}

section
variable (unlimited : ∀ s, a.Uses environment d s → s.joinTimeout = none)
include unlimited

end

end

/-! ## Commands on a disk without files -/

end GlobalSurvey.CommandLine
