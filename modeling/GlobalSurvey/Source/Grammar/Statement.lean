import GlobalSurvey.Source.Grammar.Pattern

/-!
# Statements

The diagnoses tell a missing block, which is a fault of the indentation, from other faults.
-/
namespace GlobalSurvey.Source.Grammar

/-! ## Diagnoses -/

def missingColon {α : Type} (header : Phrase Unit) : Phrase α :=
  .diagnosis (header *> exactly .newline *> .reject .malformed)

/-- A header, colon included, that no block follows. -/
def missingBlock {α : Type} (header : Phrase Unit) : Phrase α :=
  .diagnosis (header *> op ":" *> exactly .newline *> .notAhead (exactly .indent) *> .reject .indentation)

def asName : Phrase (Option String) := .optional (kw "as" *> name)

def asyncOrNot : Phrase Bool := .present (kw "async")

/-- Items of a `with` header as the diagnoses read them. -/
def headerItems {α : Type} (context : Phrase α) : Phrase Unit :=
  .skip (Peg.sepBy1 (context *> .optional (kw "as" *> expr .starTarget)) (op ","))

/-- The header of a `with` statement as the diagnoses read it, without brackets. -/
def withHeader : Phrase Unit := asyncOrNot *> kw "with" *> headerItems (expr .expression)

/-- The header of a `with` statement as the diagnoses read it, in brackets. -/
def withBracketHeader : Phrase Unit :=
  asyncOrNot *> kw "with" *> between "(" (headerItems (commaList (expr .expression)) <* .optional (op ",")) ")"

def classHeader : Phrase (String × List Argument) :=
  (fun n arguments => (n, (arguments.bind id).getD []))
    <$> (kw "class" *> name) <*> .optional (between "(" (.optional (expr .arguments)) ")")

/-- The header of a function: its name, its parameters and the annotation of its result. -/
def functionHeader : Phrase (String × Expr × Option Expr) :=
  (fun n parameters returns => (n, parameters.getD (.other .parameters []), returns))
    <$> (kw "def" *> name) <*> between "(" (.optional (expr .parameters)) ")"
    <*> .optional (op "->" *> expr .expression)

/-! ## Simple statements -/

def oneWord (word : String) (form : SimpleForm) : Phrase Stmt := (fun _ => .simple form []) <$> kw word

/-- The operators of augmented assignments. -/
def augmentedOps : List String :=
  ["+=", "-=", "*=", "@=", "/=", "%=", "&=", "|=", "^=", "<<=", ">>=", "**=", "//="]

/-- An imported name, `a` or `a as b`. -/
def imported {α : Type} (p : Phrase α) : Phrase Expr := (fun _ _ => .other .alias []) <$> p <*> asName

/-- Arguments as the parts of a class: the bases before the keywords. -/
def classParts (arguments : List Argument) : List Expr :=
  (arguments.filter (!·.byKeyword)).map (·.value) ++ (arguments.filter (·.byKeyword)).map (·.value)

/-- A function or a class with its decorators. -/
def decorate (decorators : List Expr) : Stmt → Stmt
  | .function isAsync n parameters body _ returns => .function isAsync n parameters body decorators returns
  | .classDef n bases body _ => .classDef n bases body decorators
  | other => other

/-! ## Compound statements -/

/-- What follows the blocks of a statement, or nothing. -/
def orNothing (p : Phrase (List Stmt)) : Phrase (List Stmt) := p <|> pure []

/-- A class without decorators. -/
def plainClass : Phrase Stmt :=
  Peg.firstOf (missingColon (.skip classHeader))
    [missingBlock (.skip classHeader),
     (fun header body => .classDef header.1 (classParts header.2) body [])
      <$> (classHeader <* op ":") <*> stmt .block]

/-- A statement of a test and a block, told from a header in which the colon or the block is missing. -/
def tested (word : String) (build : Expr → List Stmt → List Stmt → Stmt) (rest : Phrase (List Stmt)) : Phrase Stmt :=
  let header := kw word *> expr .namedExpression
  Peg.firstOf (missingColon (.skip header))
    [missingBlock (.skip header), build <$> (header <* op ":") <*> stmt .block <*> rest]

/-- What an `except` clause names, with the star of `except*` before it if it has one. -/
def caught : Phrase (Expr × Option String) := Prod.mk <$> expr .expression <*> asName

/-- The diagnoses that end both forms of `except` clauses. -/
def badExcept : Phrase Handler :=
  let star := Peg.present (op "*")
  .diagnosis (Peg.firstOf
    (kw "except" *> star *> expr .expression *> op "," *> commaList (expr .expression) *> asName *> op ":" *>
      .reject .malformed)
    [kw "except" *> star *> caught *> exactly .newline *> .reject .malformed,
     kw "except" *> exactly .newline *> .reject .malformed,
     kw "except" *> op "*" *> (exactly .newline <|> op ":") *> .reject .malformed])

/-- The diagnoses of a `try` statement: no block, no clause after the block, or clauses of both forms. -/
def badTry : Phrase Stmt :=
  Peg.firstOf (missingBlock (kw "try"))
    [.diagnosis (kw "try" *> op ":" *> stmt .block *> .notAhead (kw "except" <|> kw "finally") *>
      .reject .malformed),
     .diagnosis (kw "try" *> op ":" *> .many (stmt .block) *>
      (Peg.many1 (stmt .exceptBlock) *> .skip (stmt .exceptGroupBlock)
        <|> Peg.many1 (stmt .exceptGroupBlock) *> .skip (stmt .exceptBlock)) *>
      .many (stmt .block) *> .reject .malformed)]

def matchHeader : Phrase Expr := softKw "match" *> stmt .subject

def caseHeader : Phrase (Expr × Option Expr) :=
  Prod.mk <$> (softKw "case" *> pattern .patterns) <*> .optional (kw "if" *> expr .namedExpression)

def stmtRules : (r : StmtRule) → Phrase r.Result
  | .statements => List.flatten <$> Peg.many1 (stmt .statement)
  | .statement => (fun s => [s]) <$> stmt .compoundStatement <|> stmt .simpleStatements
  | .simpleStatements =>
    Peg.sepBy1 (stmt .simpleStatement) (op ";") <* .optional (op ";") <* exactly .newline
  | .simpleStatement =>
    Peg.firstOf (stmt .assignment)
      [(fun e => .simple .expression [e]) <$> expr .starExpressions,
       stmt .returnStmt, stmt .importStmt, stmt .raiseStmt, oneWord "pass" .pass, stmt .deleteStmt,
       (fun e => .simple .expression [e]) <$> expr .yieldExpression,
       stmt .assertStmt, oneWord "break" .brk, oneWord "continue" .cont, stmt .globalStmt, stmt .nonlocalStmt]
  | .compoundStatement =>
    Peg.firstOf (stmt .functionStmt)
      [stmt .ifStmt, stmt .classStmt, stmt .withStmt, stmt .forStmt, stmt .tryStmt, stmt .whileStmt,
       stmt .matchStmt]
  | .assignment =>
    let annotation := op ":" *> expr .expression
    let value := Peg.optional (op "=" *> stmt .rightSide)
    Peg.firstOf (Stmt.annotated <$> nameExpr <*> annotation <*> value)
      [Stmt.annotated <$> (between "(" (expr .singleTarget) ")" <|> expr .memberTarget) <*> annotation <*> value,
       Stmt.assign <$> Peg.many1 (expr .starTargets <* op "=") <*> stmt .rightSide <* .notAhead (op "="),
       Stmt.augmented <$> (expr .singleTarget <* anyOp augmentedOps) <*> stmt .rightSide]
  | .rightSide => expr .yieldExpression <|> expr .starExpressions
  | .returnStmt => (fun e => .simple .ret e.toList) <$> (kw "return" *> .optional (expr .starExpressions))
  | .raiseStmt =>
    (fun e cause => .simple .raise (e :: cause.toList))
      <$> (kw "raise" *> expr .expression) <*> .optional (kw "from" *> expr .expression)
    <|> oneWord "raise" .raise
  | .globalStmt => Stmt.globalNames <$> (kw "global" *> Peg.sepBy1 name (op ","))
  | .nonlocalStmt => Stmt.nonlocalNames <$> (kw "nonlocal" *> Peg.sepBy1 name (op ","))
  | .deleteStmt =>
    Stmt.simple .delete <$> (kw "del" *> expr .deletedTargets <* .ahead (op ";" <|> exactly .newline))
  | .assertStmt =>
    (fun test message => .simple .assert (test :: message.toList))
      <$> (kw "assert" *> expr .expression) <*> .optional (op "," *> expr .expression)
  | .importStmt =>
    Stmt.simple .importNames <$> (kw "import" *> Peg.sepBy1 (imported (stmt .dottedName)) (op ","))
    <|> Stmt.simple .importFrom
      <$> ((kw "from" *> .many (anyOp [".", "..."]) *> stmt .dottedName
          <|> kw "from" *> .skip (Peg.many1 (anyOp [".", "..."])))
        *> kw "import" *> stmt .importTargets)
  | .importTargets =>
    between "(" (Peg.sepBy1 (imported name) (op ",") <* .optional (op ",")) ")"
    <|> Peg.sepBy1 (imported name) (op ",") <* .notAhead (op ",")
    <|> (fun _ => [.other .alias []]) <$> op "*"
  | .dottedName => .skip (Peg.sepBy1 name (op "."))
  | .block =>
    Peg.firstOf (exactly .newline *> exactly .indent *> stmt .statements <* exactly .dedent)
      [stmt .simpleStatements,
       .diagnosis (exactly .newline *> .notAhead (exactly .indent) *> .reject .indentation)]
  | .decorators => Peg.many1 (op "@" *> expr .namedExpression <* exactly .newline)
  | .classStmt => decorate <$> stmt .decorators <*> plainClass <|> plainClass
  | .functionStmt => decorate <$> stmt .decorators <*> stmt .functionBody <|> stmt .functionBody
  | .functionBody =>
    Peg.firstOf (missingBlock (asyncOrNot *> .skip functionHeader))
      [(fun isAsync header body => .function isAsync header.1 header.2.1 body [] header.2.2)
        <$> asyncOrNot <*> (functionHeader <* op ":") <*> stmt .block]
  | .ifStmt => tested "if" .ifElse (stmt .elifStmt <|> orNothing (stmt .elseBlock))
  | .elifStmt => (fun s => [s]) <$> tested "elif" .ifElse (stmt .elifStmt <|> orNothing (stmt .elseBlock))
  | .elseBlock => missingBlock (kw "else") <|> kw "else" *> op ":" *> stmt .block
  | .whileStmt => tested "while" .whileLoop (orNothing (stmt .elseBlock))
  | .forStmt =>
    let header := Prod.mk <$> (kw "for" *> expr .starTargets) <*> (kw "in" *> expr .starExpressions)
    Peg.firstOf (missingColon (asyncOrNot *> .skip header))
      [missingBlock (asyncOrNot *> .skip header),
       (fun isAsync header body orelse => .forLoop isAsync header.1 header.2 body orelse)
        <$> asyncOrNot <*> (header <* op ":") <*> stmt .block <*> orNothing (stmt .elseBlock)]
  | .withStmt =>
    let items := between "(" (Peg.sepBy1 (stmt .withItem) (op ",") <* .optional (op ",")) ")" <* op ":"
      <|> Peg.sepBy1 (stmt .withItem) (op ",") <* op ":"
    Peg.firstOf (missingBlock withHeader)
      [missingBlock withBracketHeader,
       Stmt.withItems <$> (asyncOrNot <* kw "with") <*> items <*> stmt .block,
       missingColon withHeader, missingColon withBracketHeader]
  | .withItem =>
    (fun context target => ⟨context, some target⟩)
      <$> expr .expression
      <*> (kw "as" *> expr .starTarget <* .ahead (anyOp [",", ")", ":"]))
    <|> (fun context => ⟨context, none⟩) <$> expr .expression
  | .tryStmt =>
    let body := kw "try" *> op ":" *> stmt .block
    let orelse := orNothing (stmt .elseBlock)
    let final := orNothing (stmt .finallyBlock)
    Peg.firstOf badTry
      [(fun body final => .tryBlock false body [] [] final) <$> body <*> stmt .finallyBlock,
       .tryBlock false <$> body <*> Peg.many1 (stmt .exceptBlock) <*> orelse <*> final,
       .tryBlock true <$> body <*> Peg.many1 (stmt .exceptGroupBlock) <*> orelse <*> final]
  | .exceptBlock =>
    Peg.firstOf (missingBlock (kw "except" *> .skip caught))
      [missingBlock (kw "except"),
       (fun c body => .mk (some c.1) c.2 body) <$> (kw "except" *> caught <* op ":") <*> stmt .block,
       (fun body => .mk none none body) <$> (kw "except" *> op ":" *> stmt .block),
       badExcept]
  | .exceptGroupBlock =>
    Peg.firstOf (missingBlock (kw "except" *> op "*" *> .skip caught))
      [(fun c body => .mk (some c.1) c.2 body) <$> (kw "except" *> op "*" *> caught <* op ":") <*> stmt .block,
       badExcept]
  | .finallyBlock => missingBlock (kw "finally") <|> kw "finally" *> op ":" *> stmt .block
  | .matchStmt =>
    Peg.firstOf (Stmt.matchCases <$> (matchHeader <* op ":" <* exactly .newline <* exactly .indent)
        <*> Peg.many1 (stmt .caseBlock) <* exactly .dedent)
      [missingColon (.skip matchHeader), missingBlock (.skip matchHeader)]
  | .subject =>
    (fun first rest => .tuple (first :: rest.getD []))
      <$> (expr .starNamedExpression <* op ",") <*> .optional (expr .starNamedExpressions)
    <|> expr .namedExpression
  | .caseBlock =>
    Peg.firstOf (missingColon (.skip caseHeader))
      [missingBlock (.skip caseHeader),
       (fun header body => .mk header.1 header.2 body) <$> (caseHeader <* op ":") <*> stmt .block]

end GlobalSurvey.Source.Grammar
