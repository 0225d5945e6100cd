import GlobalSurvey.Failure
import GlobalSurvey.Files.Disk
import GlobalSurvey.Globals.Extract
import GlobalSurvey.Text.Blank

/-!
# The global variables of a source file

A file that cannot be read, or whose text is refused, is a matter of its own unit. A path or an encoding that cannot be
used at all is a failure of another kind.
-/
namespace GlobalSurvey.Globals
open GlobalSurvey.Files GlobalSurvey.Source GlobalSurvey.Text

/-- What is said about a source text that is refused. -/
def faultText : SyntaxFault → String
  | .nullCharacter => Failure.nullInSource.message
  | .malformed => "invalid syntax"
  | .indentation => "unexpected indentation"
  | .tabs => "inconsistent use of tabs and spaces in indentation"

/-- Reads the text of a file; every line end becomes a line feed. -/
def readText (options : Options) (d : Disk) (unit : String) : Except Failure (List Char) :=
  let unreadable (reason : String) : Failure := .rejected unit ("cannot read source: " ++ reason)
  match d.contents unit with
  | .error .nullCharacter => .error (.file .nullCharacter)
  | .error fault => .error (unreadable fault.message)
  | .ok bytes =>
    match Codec.ofName? options.encoding with
    | none => .error (.unknownEncoding options.encoding)
    | some codec =>
      match codec.decode bytes with
      | .ok text => .ok (unifyLineEnds text)
      | .error (.undecodable what) => .error (unreadable what.message)
      | .error .unmarked => .error .unmarked

/-- The global variables of the source file that a unit names. -/
def analyze (options : Options) (d : Disk) (unit : String) : Except Failure (List String) :=
  match readText options d unit with
  | .error failure => .error failure
  | .ok text =>
    match extractFromText options text with
    | .ok names => .ok names
    | .error fault => .error (.rejected unit ("cannot parse source: " ++ faultText fault))

end GlobalSurvey.Globals
