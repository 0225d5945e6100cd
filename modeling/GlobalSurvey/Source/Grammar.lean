import GlobalSurvey.Source.Grammar.Statement

/-!
# The whole grammar
-/
namespace GlobalSurvey.Source.Grammar

/-- The grammar of modules. `literal` reads neighbouring string literals. -/
def grammar (literal : List StringToken → Except SyntaxFault Expr) : Grammar Token Rule.Result SyntaxFault where
  rules
    | .expr r => exprRules literal r
    | .pattern r => patternRules r
    | .stmt r => stmtRules r
  index := Rule.index
  count := Rule.count

def wholeModule : Phrase Module :=
  (fun body => ⟨body.getD []⟩) <$> .optional (stmt .statements) <* exactly .ending

end GlobalSurvey.Source.Grammar
