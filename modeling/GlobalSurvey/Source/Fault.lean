/-!
# Why a source text is refused
-/
namespace GlobalSurvey.Source

/-- The kinds of fault of a source text. -/
inductive SyntaxFault where
  | nullCharacter
  | malformed
  | indentation
  /-- The indentation depends on the width of a tab. -/
  | tabs
deriving DecidableEq, Repr

end GlobalSurvey.Source
