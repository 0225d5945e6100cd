import GlobalSurvey.Source.Fault
import GlobalSurvey.Source.Peg
import GlobalSurvey.Source.Token
import GlobalSurvey.Source.Tree

/-!
# The rules of the grammar and what they yield

The expressions of the rules are in the neighbouring modules, by kind of rule.
-/
namespace GlobalSurvey.Source.Grammar

/-- An argument of a call, or a base of a class: positional, or given by keyword. -/
structure Argument where
  /-- The argument is given by keyword, or unpacked from a mapping. -/
  byKeyword : Bool
  value : Expr

/-- The rules of expressions, of targets and of what stands inside them. -/
inductive ExprRule where
  | starExpressions | starExpression | starNamedExpressions | starNamedExpression | assignmentExpression
  | namedExpression | expression | disjunction | conjunction | inversion | comparison
  | bitOr | bitXor | bitAnd | shift | sum | term | factor | power | awaited | primary | atom
  | slices | slice | strings | group | tupleDisplay | listDisplay | listComprehension | setDisplay
  | setComprehension | dictDisplay | dictComprehension | generator | comprehensionClauses
  | arguments | yieldExpression | lambda | lambdaParameters | parameters
  | starTargets | starTarget | innerTarget | targetAtom | singleTarget | memberTarget | targetPrimary
  | deletedTargets | deletedTarget | deletedAtom
deriving DecidableEq

/-- What a match of a rule yields. -/
abbrev ExprRule.Result : ExprRule → Type
  | .starNamedExpressions => List Expr
  | .comprehensionClauses => List Expr
  | .arguments => List Argument
  | .deletedTargets => List Expr
  | _ => Expr

inductive PatternRule where
  | patterns | pattern | orPattern | closedPattern | literalPattern | literalKey | captureTarget | attributeName
  | sequencePattern | openSequence | elementPatterns | elementPattern | starPattern | mappingPattern | keyedPatterns
  | classPattern
deriving DecidableEq

/-- What a match of a rule yields. -/
abbrev PatternRule.Result : PatternRule → Type
  | .openSequence => List Expr
  | .elementPatterns => List Expr
  | .keyedPatterns => List Expr
  | _ => Expr

inductive StmtRule where
  | statements | statement | simpleStatements | simpleStatement | compoundStatement | assignment | rightSide
  | returnStmt | raiseStmt | globalStmt | nonlocalStmt | deleteStmt | assertStmt
  | importStmt | importTargets | dottedName
  | block | decorators | classStmt | functionStmt | functionBody | ifStmt | elifStmt | elseBlock | whileStmt | forStmt
  | withStmt | withItem | tryStmt | exceptBlock | exceptGroupBlock | finallyBlock
  | matchStmt | subject | caseBlock
deriving DecidableEq

/-- What a match of a rule yields. -/
abbrev StmtRule.Result : StmtRule → Type
  | .statements | .simpleStatements | .block | .elifStmt | .elseBlock | .finallyBlock => List Stmt
  | .statement => List Stmt
  | .rightSide | .subject => Expr
  | .decorators | .importTargets => List Expr
  | .dottedName => Unit
  | .withItem => WithItem
  | .exceptBlock | .exceptGroupBlock => Handler
  | .caseBlock => Case
  | _ => Stmt

inductive Rule where
  | expr (r : ExprRule)
  | pattern (r : PatternRule)
  | stmt (r : StmtRule)
deriving DecidableEq

/-- What a match of a rule yields. -/
abbrev Rule.Result : Rule → Type
  | .expr r => r.Result
  | .pattern r => r.Result
  | .stmt r => r.Result

def Rule.index : Rule → Nat
  | .expr r => 3 * r.ctorIdx
  | .pattern r => 3 * r.ctorIdx + 1
  | .stmt r => 3 * r.ctorIdx + 2

/-- Numbers of rules are below this one. -/
def Rule.count : Nat := 256

/-- A parsing expression of this grammar. -/
abbrev Phrase := Peg Token Rule.Result SyntaxFault

def expr (r : ExprRule) : Phrase r.Result := Peg.rule (Rule.expr r)
def pattern (r : PatternRule) : Phrase r.Result := Peg.rule (Rule.pattern r)
def stmt (r : StmtRule) : Phrase r.Result := Peg.rule (Rule.stmt r)

/-! ## Single tokens -/

/-- The token that is exactly this one. -/
def exactly (t : Token) : Phrase Unit := .token fun u => if u = t then some () else none
def kw (text : String) : Phrase Unit :=
  .token fun
    | .keyword word => if word = text then some () else none
    | _ => none
def op (text : String) : Phrase Unit :=
  .token fun
    | .operator symbol => if symbol = text then some () else none
    | _ => none
/-- One of several operators. -/
def anyOp (texts : List String) : Phrase Unit :=
  .token fun
    | .operator symbol => if symbol ∈ texts then some () else none
    | _ => none
/-- A word that is a keyword only where a statement may open with it. -/
def softKw (text : String) : Phrase Unit :=
  .token fun
    | .name raw _ => if raw = text then some () else none
    | _ => none
def name : Phrase String :=
  .token fun
    | .name _ id => some id
    | _ => none
def nameExpr : Phrase Expr := Expr.name <$> name
def numberText : Phrase String :=
  .token fun
    | .number text => some text
    | _ => none
def stringLiteral : Phrase StringToken :=
  .token fun
    | .string literal => some literal
    | _ => none

/-! ## Common shapes -/

def between {α : Type} (left : String) (p : Phrase α) (right : String) : Phrase α := op left *> p <* op right

/-- Left-associative operators of one rank. -/
def chain (symbols : List String) (operand : Phrase Expr) : Phrase Expr :=
  (fun first rest => rest.foldl (fun left right => .other .binary [left, right]) first)
    <$> operand <*> .many (anyOp symbols *> operand)

/-- A tuple if there is a comma, else the one element. -/
def tupleIfComma (first : Expr) (rest : List Expr) (comma : Bool) : Expr :=
  if rest.isEmpty && !comma then first else .tuple (first :: rest)

/-- Elements parted by commas, with an optional comma at the end. -/
def commaList (p : Phrase Expr) : Phrase Expr :=
  tupleIfComma <$> p <*> .many (op "," *> p) <*> .present (op ",")

end GlobalSurvey.Source.Grammar
