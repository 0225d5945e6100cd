import GlobalSurvey.Text.Quoted

/-!
# Faults of file operations
-/
namespace GlobalSurvey.Files
open GlobalSurvey.Text

/-- Why the system refuses an operation on a path. -/
inductive Cause where
  | notFound
  | alreadyExists
  | notDirectory
  | isDirectory
  | nameTooLong
  | tooManyLinks
deriving DecidableEq, Repr

def Cause.number : Cause → Nat
  | .notFound => 2
  | .alreadyExists => 17
  | .notDirectory => 20
  | .isDirectory => 21
  | .nameTooLong => 36
  | .tooManyLinks => 40

def Cause.text : Cause → String
  | .notFound => "No such file or directory"
  | .alreadyExists => "File exists"
  | .notDirectory => "Not a directory"
  | .isDirectory => "Is a directory"
  | .nameTooLong => "File name too long"
  | .tooManyLinks => "Too many levels of symbolic links"

/-- Why an operation on a path fails. -/
inductive FileFault where
  | refused (cause : Cause) (path : String)
  | nullCharacter
deriving DecidableEq, Repr

def FileFault.message : FileFault → String
  | .refused cause path => "[Errno " ++ toString cause.number ++ "] " ++ cause.text ++ ": " ++ quotedString path
  | .nullCharacter => "embedded null byte"

end GlobalSurvey.Files
