import GlobalSurvey.Source.Grammar.Rule

/-!
# Parameters of functions and lambdas
-/
namespace GlobalSurvey.Source.Grammar

/-- How arguments reach a parameter. -/
inductive ParameterKind where
  | positionalOnly | positional | variadic | keywordOnly | keywordVariadic
deriving DecidableEq

/-- A parameter; its name is of no account to the tree. -/
structure Parameter where
  /-- How arguments reach it. -/
  kind : ParameterKind
  annotation : Option Expr
  default : Option Expr

def parametersOf (kind : ParameterKind) (parameters : List Parameter) : List Expr :=
  (parameters.filter (·.kind = kind)).map fun p => .other .parameter p.annotation.toList

/-- The node of all parameters: those by position, the variadic one, those by keyword with their defaults, the one for
other keywords, and the defaults of those by position. -/
def parametersNode (parameters : List Parameter) : Expr :=
  .other .parameters
    (parametersOf .positionalOnly parameters ++ parametersOf .positional parameters ++
      parametersOf .variadic parameters ++ parametersOf .keywordOnly parameters ++
      (parameters.filter (·.kind = .keywordOnly)).filterMap (·.default) ++
      parametersOf .keywordVariadic parameters ++
      (parameters.filter fun p => p.kind = .positionalOnly ∨ p.kind = .positional).filterMap (·.default))

/-- A list of parameters before the token `close`. `plain` reads a parameter and yields its annotation; `starred` reads
one whose annotation may be starred, if there are any (`hasStarred`). -/
def parameterList (plain starred : Phrase (Option Expr)) (hasStarred : Bool) (close : Phrase Unit) :
    Phrase (List Parameter) :=
  let stop := op "," <|> .ahead close
  let required := plain <* stop
  let defaulted := Prod.mk <$> plain <*> (op "=" *> expr .expression) <* stop
  let free := Prod.mk <$> plain <*> .optional (op "=" *> expr .expression) <* stop
  let requiredAs (kind : ParameterKind) := (fun a => (⟨kind, a, none⟩ : Parameter)) <$> required
  let defaultedAs (kind : ParameterKind) :=
    (fun p : Option Expr × Expr => (⟨kind, p.1, some p.2⟩ : Parameter)) <$> defaulted
  let byKeyword := (fun p : Option Expr × Option Expr => (⟨.keywordOnly, p.1, p.2⟩ : Parameter)) <$> free
  let others := (fun a => [(⟨.keywordVariadic, a, none⟩ : Parameter)]) <$> (op "**" *> required)
  let rest := (fun p : Option (List Parameter) => p.getD []) <$> .optional others
  let afterVariadic (variadic : Phrase (Option Expr)) : Phrase (List Parameter) :=
    (fun a more last => ⟨.variadic, a, none⟩ :: more ++ last) <$> (op "*" *> variadic <* stop) <*> .many byKeyword <*> rest
  let starPart : Phrase (List Parameter) :=
    Peg.firstOf (afterVariadic plain)
      ((if hasStarred then [afterVariadic starred] else []) ++
        [List.append <$> (op "*" *> op "," *> Peg.many1 byKeyword) <*> rest, others])
  let tail := (fun p : Option (List Parameter) => p.getD []) <$> .optional starPart
  let slash := op "/" *> stop
  Peg.firstOf
    ((fun a b c d => a ++ b ++ c ++ d) <$> (Peg.many1 (requiredAs .positionalOnly) <* slash)
      <*> .many (requiredAs .positional) <*> .many (defaultedAs .positional) <*> tail)
    [(fun a b c d => a ++ b ++ c ++ d) <$> .many (requiredAs .positionalOnly)
      <*> (Peg.many1 (defaultedAs .positionalOnly) <* slash) <*> .many (defaultedAs .positional) <*> tail,
     (fun a b c => a ++ b ++ c) <$> Peg.many1 (requiredAs .positional) <*> .many (defaultedAs .positional) <*> tail,
     (fun a b => a ++ b) <$> Peg.many1 (defaultedAs .positional) <*> tail,
     starPart]

end GlobalSurvey.Source.Grammar
