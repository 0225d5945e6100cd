import GlobalSurvey.Source.Grammar.Parameter
import GlobalSurvey.Source.Numeral

/-!
# Expressions
-/
namespace GlobalSurvey.Source.Grammar

/-- A number; an integer with too many digits is refused. -/
def number : Phrase Expr :=
  .checked numberText fun text =>
    if Numeral.isTooLong text.toList then .error .malformed else .ok (.other .constant [])

/-- Nodes of conjunctions and disjunctions have all their operands side by side. -/
def operands (word : String) (operand : Phrase Expr) : Phrase Expr :=
  (fun first rest => if rest.isEmpty then first else .other .boolean (first :: rest))
    <$> operand <*> .many (kw word *> operand)

def comparisonOp : Phrase Unit :=
  anyOp ["==", "!=", "<=", "<", ">=", ">"] <|> kw "not" *> kw "in" <|> kw "in" <|> kw "is" *> kw "not" <|> kw "is"

/-- An expression in a place where a walrus may not follow. -/
def plainExpression : Phrase Expr :=
  expr .assignmentExpression <|> expr .expression <* .notAhead (op ":=")

/-- A call: positional arguments come before those by keyword. -/
def call (function : Expr) (arguments : List Argument) : Expr :=
  .other .call (function :: ((arguments.filter (!·.byKeyword)).map (·.value) ++
    (arguments.filter (·.byKeyword)).map (·.value)))

/-- What may follow a primary: a member, a call, or a subscript. -/
def trailer : Phrase (Expr → Expr) :=
  (fun member value => .attribute value member) <$> (op "." *> name)
  <|> (fun argument function => .other .call [function, argument]) <$> expr .generator
  <|> (fun arguments function => call function (arguments.getD []))
      <$> between "(" (.optional (expr .arguments)) ")"
  <|> (fun index value => .subscript value index) <$> between "[" (expr .slices) "]"

/-- An argument by keyword, `name=value`. -/
def namedArgument : Phrase Argument :=
  (fun value => ⟨true, .other .keyword [value]⟩) <$> (name *> op "=" *> expr .expression)
def unpackedArgument : Phrase Argument :=
  (fun value => ⟨false, .starred value⟩) <$> (op "*" *> expr .expression)
def unpackedKeywords : Phrase Argument :=
  (fun value => ⟨true, .other .keyword [value]⟩) <$> (op "**" *> expr .expression)

def keywordArguments : Phrase (List Argument) :=
  let first := Peg.sepBy1 (namedArgument <|> unpackedArgument) (op ",")
  let last := Peg.sepBy1 (namedArgument <|> unpackedKeywords) (op ",")
  List.append <$> (first <* op ",") <*> last <|> first <|> last

def callArguments : Phrase (List Argument) :=
  let positional :=
    unpackedArgument <|> (fun value => ⟨false, value⟩) <$> (plainExpression <* .notAhead (op "="))
  (fun first rest => first ++ rest.getD [])
    <$> Peg.sepBy1 positional (op ",") <*> .optional (op "," *> keywordArguments)
  <|> keywordArguments

/-- `for target in source if test ...`. -/
def comprehensionClause : Phrase Expr :=
  (fun target source tests => .other .comprehension (target :: source :: tests))
    <$> (.optional (kw "async") *> kw "for" *> expr .starTargets) <*> (kw "in" *> expr .disjunction)
    <*> .many (kw "if" *> expr .disjunction)

/-- A key and its value, or a mapping that is unpacked. The keys come before the values in the node of the display. -/
def displayPair : Phrase (Option Expr × Expr) :=
  (fun mapping => (none, mapping)) <$> (op "**" *> expr .bitOr)
  <|> (fun key value => (some key, value)) <$> expr .expression <*> (op ":" *> expr .expression)

def dictNode (pairs : List (Option Expr × Expr)) : Expr :=
  .other .dict (pairs.filterMap Prod.fst ++ pairs.map Prod.snd)

/-- The expressions of the rules. `literal` reads neighbouring string literals. -/
def exprRules (literal : List StringToken → Except SyntaxFault Expr) : (r : ExprRule) → Phrase r.Result
  | .starExpressions => commaList (expr .starExpression)
  | .starExpression => .starred <$> (op "*" *> expr .bitOr) <|> expr .expression
  | .starNamedExpressions => Peg.sepBy1 (expr .starNamedExpression) (op ",") <* .optional (op ",")
  | .starNamedExpression => .starred <$> (op "*" *> expr .bitOr) <|> expr .namedExpression
  | .assignmentExpression =>
    (fun target value => .other .walrus [target, value])
      <$> (nameExpr <* op ":=") <*> expr .expression
  | .namedExpression => plainExpression
  | .expression =>
    (fun value choice => match choice with
      | some (test, other) => .other .conditional [test, value, other]
      | none => value)
      <$> expr .disjunction
      <*> .optional (Prod.mk <$> (kw "if" *> expr .disjunction) <*> (kw "else" *> expr .expression))
    <|> expr .lambda
  | .disjunction => operands "or" (expr .conjunction)
  | .conjunction => operands "and" (expr .inversion)
  | .inversion => (fun e => .other .unary [e]) <$> (kw "not" *> expr .inversion) <|> expr .comparison
  | .comparison =>
    (fun first rest => if rest.isEmpty then first else .other .comparison (first :: rest))
      <$> expr .bitOr <*> .many (comparisonOp *> expr .bitOr)
  | .bitOr => chain ["|"] (expr .bitXor)
  | .bitXor => chain ["^"] (expr .bitAnd)
  | .bitAnd => chain ["&"] (expr .shift)
  | .shift => chain ["<<", ">>"] (expr .sum)
  | .sum => chain ["+", "-"] (expr .term)
  | .term => chain ["*", "/", "//", "%", "@"] (expr .factor)
  | .factor => (fun e => .other .unary [e]) <$> (anyOp ["+", "-", "~"] *> expr .factor) <|> expr .power
  | .power =>
    (fun base exponent => match exponent with
      | some e => .other .binary [base, e]
      | none => base)
      <$> expr .awaited <*> .optional (op "**" *> expr .factor)
  | .awaited => (fun e => .other .await [e]) <$> (kw "await" *> expr .primary) <|> expr .primary
  | .primary => (fun e trailers => trailers.foldl (fun e f => f e) e) <$> expr .atom <*> .many trailer
  | .atom =>
    Peg.firstOf nameExpr
      [(fun _ => .other .constant []) <$> (kw "True" <|> kw "False" <|> kw "None" <|> op "..."),
       expr .strings, number, expr .tupleDisplay, expr .group, expr .generator, expr .listDisplay,
       expr .listComprehension, expr .dictDisplay, expr .setDisplay, expr .dictComprehension, expr .setComprehension]
  | .slices =>
    expr .slice <* .notAhead (op ",")
    <|> (fun first rest _ => .tuple (first :: rest))
      <$> (expr .slice <|> .starred <$> (op "*" *> expr .expression))
      <*> .many (op "," *> (expr .slice <|> .starred <$> (op "*" *> expr .expression)))
      <*> .optional (op ",")
  | .slice =>
    (fun lower upper step => .other .slice (lower.toList ++ upper.toList ++ (step.bind id).toList))
      <$> (.optional (expr .expression) <* op ":") <*> .optional (expr .expression)
      <*> .optional (op ":" *> .optional (expr .expression))
    <|> expr .namedExpression
  | .strings => .checked (Peg.many1 stringLiteral) literal
  | .group => between "(" (expr .yieldExpression <|> expr .namedExpression) ")"
  | .tupleDisplay =>
    between "("
      ((fun elements => .tuple (elements.getD []))
        <$> .optional ((fun first rest => first :: rest.getD [])
          <$> (expr .starNamedExpression <* op ",") <*> .optional (expr .starNamedExpressions)))
      ")"
  | .listDisplay =>
    between "[" ((fun elements => .list (elements.getD [])) <$> .optional (expr .starNamedExpressions)) "]"
  | .listComprehension =>
    between "["
      ((fun element clauses => .other .listOf (element :: clauses))
        <$> expr .namedExpression <*> expr .comprehensionClauses)
      "]"
  | .setDisplay => between "\x7b" (Expr.other .set <$> expr .starNamedExpressions) "\x7d"
  | .setComprehension =>
    between "\x7b"
      ((fun element clauses => .other .setOf (element :: clauses))
        <$> expr .namedExpression <*> expr .comprehensionClauses)
      "\x7d"
  | .dictDisplay =>
    between "\x7b"
      ((fun pairs => dictNode (pairs.getD []))
        <$> .optional (Peg.sepBy1 displayPair (op ",") <* .optional (op ",")))
      "\x7d"
  | .dictComprehension =>
    between "\x7b"
      ((fun key value clauses => .other .dictOf (key :: value :: clauses))
        <$> expr .expression <*> (op ":" *> expr .expression) <*> expr .comprehensionClauses)
      "\x7d"
  | .generator =>
    between "("
      ((fun element clauses => .other .generator (element :: clauses))
        <$> plainExpression <*> expr .comprehensionClauses)
      ")"
  | .comprehensionClauses => Peg.many1 comprehensionClause
  | .arguments => callArguments <* .optional (op ",") <* .ahead (op ")")
  | .yieldExpression =>
    (fun e => .other .yieldFrom [e]) <$> (kw "yield" *> kw "from" *> expr .expression)
    <|> (fun e => .other .yield e.toList) <$> (kw "yield" *> .optional (expr .starExpressions))
  | .lambda =>
    (fun parameters body => .other .lambda [parameters.getD (.other .parameters []), body])
      <$> (kw "lambda" *> .optional (expr .lambdaParameters)) <*> (op ":" *> expr .expression)
  | .lambdaParameters =>
    parametersNode <$> parameterList ((fun _ => none) <$> name) (.reject .malformed) false (op ":")
  | .parameters =>
    parametersNode <$> parameterList (name *> .optional (op ":" *> expr .expression))
      (some <$> (name *> op ":" *> expr .starExpression)) true (op ")")
  | .starTargets =>
    expr .starTarget <* .notAhead (op ",")
    <|> (fun first rest _ => .tuple (first :: rest))
      <$> expr .starTarget <*> .many (op "," *> expr .starTarget) <*> .optional (op ",")
  | .starTarget => .starred <$> (op "*" *> .notAhead (op "*") *> expr .starTarget) <|> expr .innerTarget
  | .innerTarget => expr .memberTarget <|> expr .targetAtom
  | .targetAtom =>
    Peg.firstOf nameExpr
      [between "(" (expr .innerTarget) ")",
       between "("
        ((fun elements => .tuple (elements.getD []))
          <$> .optional
            ((fun first rest _ => first :: rest) <$> expr .starTarget
                <*> Peg.many1 (op "," *> expr .starTarget) <*> .optional (op ",")
              <|> (fun e => [e]) <$> (expr .starTarget <* op ",")))
        ")",
       between "["
        ((fun elements => .list (elements.getD []))
          <$> .optional (Peg.sepBy1 (expr .starTarget) (op ",") <* .optional (op ",")))
        "]"]
  | .singleTarget => expr .memberTarget <|> nameExpr <|> between "(" (expr .singleTarget) ")"
  | .memberTarget =>
    ((fun value member => .attribute value member) <$> expr .targetPrimary <*> (op "." *> name)
      <|> .subscript <$> expr .targetPrimary <*> between "[" (expr .slices) "]")
      <* .notAhead (anyOp ["(", "[", "."])
  | .targetPrimary =>
    (fun e trailers => trailers.foldl (fun e f => f e) e)
      <$> (expr .atom <* .ahead (anyOp ["(", "[", "."]))
      <*> .many (trailer <* .ahead (anyOp ["(", "[", "."]))
  | .deletedTargets => Peg.sepBy1 (expr .deletedTarget) (op ",") <* .optional (op ",")
  | .deletedTarget => expr .memberTarget <|> expr .deletedAtom
  | .deletedAtom =>
    Peg.firstOf nameExpr
      [between "(" (expr .deletedTarget) ")",
       between "(" ((fun elements => .tuple (elements.getD [])) <$> .optional (expr .deletedTargets)) ")",
       between "[" ((fun elements => .list (elements.getD [])) <$> .optional (expr .deletedTargets)) "]"]

end GlobalSurvey.Source.Grammar
