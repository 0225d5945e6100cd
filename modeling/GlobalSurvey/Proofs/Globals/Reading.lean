import GlobalSurvey.Globals.Analyzer
import GlobalSurvey.Proofs.Files.Names
import GlobalSurvey.Proofs.Text.Codec

/-!
# What is read of a source file is what was written

A file that holds a text in the encoding of the options is read as that text with line feeds for line ends
(`readText_of_written`), so its analysis is that of the text: nothing is lost or added on the way through the file
(`analysis_of_written`).
-/
namespace GlobalSurvey

namespace Text

/-! ## Line ends -/

/-- Each carriage return with a line feed after it becomes one line feed. -/
def mergePairs : List Char → List Char
  | [] => []
  | '\r' :: '\n' :: rest => '\n' :: mergePairs rest
  | c :: rest => c :: mergePairs rest

/-- The text with a line feed for each carriage return with a line feed after it, and then one for each carriage return
that is left. -/
def withLineFeeds (text : List Char) : List Char := (mergePairs text).map fun c => if c = '\r' then '\n' else c

theorem mergePairs_cons {c : Char} {rest : List Char} (alone : ∀ more, c = '\r' → rest = '\n' :: more → False) :
    mergePairs (c :: rest) = c :: mergePairs rest := by
  rw [mergePairs]
  exact alone

theorem unifyLineEnds_eq (text : List Char) : unifyLineEnds text = withLineFeeds text := by
  unfold withLineFeeds
  fun_induction unifyLineEnds text with
  | case1 => rfl
  | case2 rest ih => simp [mergePairs, ih]
  | case3 rest alone ih => simp [mergePairs_cons fun more _ => alone more, ih]
  | case4 c rest alone other ih =>
    have kept : ¬ c = '\r' := other
    simp [mergePairs_cons alone, kept, ih]

end Text

namespace Globals
open GlobalSurvey.Files GlobalSurvey.Source GlobalSurvey.Text

section
variable {options : Options} {codec : Codec} {d : Disk} {unit : String} {text : List Char} {bytes : List UInt8}

theorem readText_of_written (named : Codec.ofName? options.encoding = some codec)
    (written : codec.encode? text = some bytes) (held : d.contents unit = .ok bytes) :
    readText options d unit = .ok (withLineFeeds text) := by
  simp only [readText, held, named, Codec.decode_of_encode? written, unifyLineEnds_eq]

/-- The way through a file changes nothing. A unit whose file holds a text, in the encoding that the options name, has the
variables of that text with line feeds for line ends; and it is refused, as the unit that it is, exactly if that text is
refused. -/
theorem analysis_of_written (named : Codec.ofName? options.encoding = some codec)
    (written : codec.encode? text = some bytes) (held : d.contents unit = .ok bytes) :
    (∀ names, analyze options d unit = .ok names ↔ extractFromText options (withLineFeeds text) = .ok names) ∧
      ∀ failure, analyze options d unit = .error failure ↔
        ∃ fault, extractFromText options (withLineFeeds text) = .error fault ∧
          failure = .rejected unit ("cannot parse source: " ++ faultText fault) := by
  have read := readText_of_written named written held
  cases extracted : extractFromText options (withLineFeeds text) with
  | ok names =>
    have ends : analyze options d unit = .ok names := by simp only [analyze, read, extracted]
    simp [ends]
  | error fault =>
    have ends : analyze options d unit = .error (.rejected unit ("cannot parse source: " ++ faultText fault)) := by
      simp only [analyze, read, extracted]
    simp [ends, eq_comm]

end

example : ["utf-8", "utf-8-sig", "ascii", "latin-1", "utf-16-le", "utf-16-be"].map Codec.ofName? =
    [some .utf8, some .utf8Signature, some .ascii, some .latin1, some (.utf16Order .little), some (.utf16Order .big)] := by
  decide

/-! ## A file in UTF-16 -/

/-- A text with a character that takes a pair of surrogates, and with two kinds of line end. -/
def pairedText : List Char := "a = '𝔁'\rb = 2\r\n".toList

/-- The options for files in UTF-16 with the high byte first. -/
def pairedOptions : Options := { encoding := "utf-16-be" }

/-- A disk with one file that holds the text in that encoding. -/
def pairedDisk : Disk := ⟨.directory [("m.py", .file (Utf16.encode .big pairedText))], [], []⟩

theorem contents_pairedDisk : pairedDisk.contents "m.py" = .ok (Utf16.encode .big pairedText) :=
  Disk.contents_of_entry ⟨by decide, by decide, by decide⟩ (by decide) (by decide) rfl rfl

theorem analysis_of_pairedText :
    Codec.ofName? pairedOptions.encoding = some (.utf16Order .big) ∧
      (Codec.utf16Order .big).encode? pairedText = some (Utf16.encode .big pairedText) ∧
      pairedDisk.contents "m.py" = .ok (Utf16.encode .big pairedText) ∧
      ∀ names, analyze pairedOptions pairedDisk "m.py" = .ok names ↔
        extractFromText pairedOptions "a = '𝔁'\nb = 2\n".toList = .ok names := by
  have named : Codec.ofName? pairedOptions.encoding = some (.utf16Order .big) := by decide
  have fed : withLineFeeds pairedText = "a = '𝔁'\nb = 2\n".toList := by decide
  obtain ⟨analyzed, -⟩ := analysis_of_written named rfl contents_pairedDisk
  exact ⟨named, rfl, contents_pairedDisk, fed ▸ analyzed⟩

end Globals

end GlobalSurvey
